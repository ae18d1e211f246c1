import ModernSapi.Unload.DllModule

/-!
# Unloading against entries

`DllCanUnloadNow` closes the gate, waits until no call of `DllGetClassObject` is under way
and looks at the module lock again. An entry meanwhile opens the gate for good, and the call
that closed it does not notice: `reopened_unload` is a run in which it reports that the DLL
may be unloaded while a call of `DllGetClassObject` is under way.

As long as no call enters while one that has closed the gate is under way, that call alone
decides about the gate (`Exclusive`), and what it reports is true (`unload_safe`).
-/

set_option autoImplicit false

namespace ModernSapi

open Interleaving

/-! ## The call that has closed the gate -/

/-- The call has closed the gate and has not opened it again. With `throughReturn`, one that
is about to report that the DLL may be unloaded is among them. -/
def DllCall.unloading (throughReturn : Bool) : DllCall → Bool
  | .awaitingEntries | .quiescing | .recheckingLock | .resumingRejected | .reopening => true
  | .approved => throughReturn
  | _ => false

/-- It has seen that no call of `DllGetClassObject` is under way. -/
def DllCall.drained (throughReturn : Bool) (call : DllCall) : Bool :=
  call.unloading throughReturn && call != .awaitingEntries

/-- A call that has closed the gate is the only one, the gate is closed, and no call of
`DllGetClassObject` is under way after it has seen so. -/
structure Exclusive (throughReturn : Bool) (module : DllModule) : Prop where
  closing : ∀ thread, (module.calls thread).unloading throughReturn = true →
    module.admission.state = .closing
  alone : ∀ first second, (module.calls first).unloading throughReturn = true →
    (module.calls second).unloading throughReturn = true → first = second
  drained : ∀ thread, (module.calls thread).drained throughReturn = true →
    module.admission.entryCount = 0

/-- The gate is not entered while a call that has closed it is under way. -/
def NoEntryWhileUnloading (throughReturn : Bool) (module : DllModule) : DllAction → Prop
  | .enterOrReopen _ => ∀ thread, (module.calls thread).unloading throughReturn = false
  | _ => True

section Exclusive

variable {throughReturn : Bool} {module next : DllModule} {action : DllAction}
  {events : List DllObservation} {thread : ℕ} {here call : DllCall}

theorem DllCall.unloading_of_drained (drained : call.drained throughReturn = true) :
    call.unloading throughReturn = true :=
  (Bool.and_eq_true _ _ |>.mp drained).1

namespace Exclusive

theorem of_nobody (nobody : ∀ thread, (module.calls thread).unloading throughReturn = false) :
    Exclusive throughReturn module := by
  have never (thread : ℕ) (unloading : (module.calls thread).unloading throughReturn = true) :
      False := by
    rw [nobody thread] at unloading
    cases unloading
  refine ⟨fun thread unloading => (never thread unloading).elim,
    fun thread _ unloading => (never thread unloading).elim, fun thread drained => ?_⟩
  exact (never thread (DllCall.unloading_of_drained drained)).elim

/-- A thread moves, and the gate stays as it is. -/
theorem update (exclusive : Exclusive throughReturn module)
    (calls : next.calls = Function.update module.calls thread call)
    (state : next.admission.state = module.admission.state)
    (entries : module.admission.entryCount = 0 → next.admission.entryCount = 0)
    (unloading : call.unloading throughReturn = true →
      (module.calls thread).unloading throughReturn = true)
    (drained : call.drained throughReturn = true →
      (module.calls thread).drained throughReturn = true ∨ next.admission.entryCount = 0) :
    Exclusive throughReturn next := by
  have before (other : ℕ) (there : (next.calls other).unloading throughReturn = true) :
      (module.calls other).unloading throughReturn = true := by
    rw [calls] at there
    by_cases same : other = thread
    · rw [same, Function.update_self] at there
      rw [same]
      exact unloading there
    · rwa [Function.update_of_ne same] at there
  refine ⟨fun other there => ?_, fun first second there there' => ?_, fun other there => ?_⟩
  · exact state.trans (exclusive.closing other (before other there))
  · exact exclusive.alone first second (before first there) (before second there')
  · rw [calls] at there
    by_cases same : other = thread
    · rw [same, Function.update_self] at there
      rcases drained there with there | none
      · exact entries (exclusive.drained thread there)
      · exact none
    · rw [Function.update_of_ne same] at there
      exact entries (exclusive.drained other there)

/-- The call that has closed the gate leaves it. -/
theorem leaves (exclusive : Exclusive throughReturn module)
    (calls : next.calls = Function.update module.calls thread .refused)
    (here : (module.calls thread).unloading throughReturn = true) :
    Exclusive throughReturn next := by
  refine of_nobody fun other => ?_
  rw [calls]
  by_cases same : other = thread
  · rw [same, Function.update_self]
    rfl
  · rw [Function.update_of_ne same, Bool.eq_false_iff]
    intro there
    exact same (exclusive.alone other thread there here)

/-- A call closes the gate while it is open. -/
theorem closes (exclusive : Exclusive throughReturn module)
    (isOpen : module.admission.state = .open_)
    (calls : next.calls = Function.update module.calls thread call)
    (state : next.admission.state = .closing)
    (entries : next.admission.entryCount = module.admission.entryCount)
    (waits : (module.admission.entryCount = 0 ∧ call = .quiescing) ∨ call = .awaitingEntries) :
    Exclusive throughReturn next := by
  have only (other : ℕ) (there : (next.calls other).unloading throughReturn = true) :
      other = thread := by
    by_contra differs
    rw [calls, Function.update_of_ne differs] at there
    have closing := exclusive.closing other there
    rw [isOpen] at closing
    cases closing
  refine ⟨fun _ _ => state, fun first second there there' => ?_, fun other there => ?_⟩
  · exact (only first there).trans (only second there').symm
  · have same := only other (DllCall.unloading_of_drained there)
    rw [same, calls, Function.update_self] at there
    rcases waits with ⟨none, -⟩ | waiting
    · exact entries.trans none
    · rw [waiting] at there
      cases there

end Exclusive

theorem DllModule.Moves.unloading (moves : module.Moves thread here call events)
    (after : call.unloading throughReturn = true) : here.unloading throughReturn = true := by
  cases moves <;> first | rfl | cases after

theorem DllModule.Moves.drained_before (moves : module.Moves thread here call events)
    (after : call.drained throughReturn = true) :
    here.drained throughReturn = true ∨ module.admission.entryCount = 0 := by
  cases moves with
  | drained noEntries => exact .inr noEntries
  | _ => first | exact .inl rfl | cases after

/-- **Every step but an entry keeps the gate with the call that has closed it.** -/
theorem Exclusive.step (exclusive : Exclusive throughReturn module)
    (allowed : NoEntryWhileUnloading throughReturn module action)
    (taken : DllStep module action next events) : Exclusive throughReturn next := by
  have released : module.admission.entryCount = 0 → module.admission.release.entryCount = 0 := by
    intro none
    rw [DllEntryAdmission.release, none]
  cases taken with
  | moved moves _ =>
      exact exclusive.update rfl rfl id moves.unloading moves.drained_before
  | withoutOutput => exact exclusive
  | @entered thread here isOpen | @reopened thread here closing =>
      refine of_nobody fun other => ?_
      by_cases same : other = thread
      · rw [same]
        simp [DllModule.move, DllCall.unloading]
      · simp only [DllModule.move]
        rw [Function.update_of_ne same]
        exact allowed other
  | published => exact exclusive.update rfl rfl id nofun nofun
  | given | lacked | unknownClass => exact exclusive.update rfl rfl released nofun nofun
  | closed here isOpen waits => exact exclusive.closes isOpen rfl rfl rfl waits
  | timedOut here => exact exclusive.leaves rfl (by rw [here]; rfl)
  | reopenedGate here => exact exclusive.leaves rfl (by rw [here]; rfl)
  | client taken =>
      cases taken <;> exact ⟨exclusive.closing, exclusive.alone, exclusive.drained⟩

end Exclusive

/-! ## The counters -/

/-- The gate counts the leases, and the module lock the live objects and server locks. -/
structure DllCounts (module : DllModule) : Prop where
  leases : Counted DllCall.leased module.calls module.admission.entryCount
  locks : ∃ published, Counted (· == .published) module.calls published ∧
    module.moduleLock = module.factories + module.engines + module.serverLocks + published

section Counts

variable {module next : DllModule} {action : DllAction} {events : List DllObservation}
  {thread : ℕ} {here call : DllCall}

theorem DllModule.Moves.leased (moves : module.Moves thread here call events) :
    call.leased = here.leased := by
  cases moves <;> rfl

theorem DllModule.Moves.published (moves : module.Moves thread here call events) :
    (call == .published) = (here == .published) := by
  cases moves <;> rfl

theorem DllCounts.initial : DllCounts {} where
  leases := .nobody fun _ => rfl
  locks := ⟨0, .nobody fun _ => rfl, rfl⟩

/-- **Every step keeps the counters.** -/
theorem DllCounts.step (counts : DllCounts module) (taken : DllStep module action next events) :
    DllCounts next := by
  obtain ⟨leases, publishedCount, published, locks⟩ := counts
  cases taken with
  | moved moves _ =>
      exact ⟨leases.stays moves.leased, publishedCount, published.stays moves.published, locks⟩
  | withoutOutput => exact ⟨leases, publishedCount, published, locks⟩
  | entered here | reopened here =>
      exact ⟨leases.arrives (by rw [here]; rfl) rfl, publishedCount,
        published.stays (by rw [here]; rfl), locks⟩
  | published here =>
      refine ⟨leases.stays (by rw [here]; rfl), publishedCount + 1,
        published.arrives (by rw [here]; rfl) rfl, ?_⟩
      simp only [DllModule.move]
      omega
  | @given thread here | @lacked thread here =>
      have there : (module.calls thread == .published) = true := by rw [here]; rfl
      have some := published.pos there
      refine ⟨leases.leaves (by rw [here]; rfl) rfl, publishedCount - 1,
        published.leaves there rfl, ?_⟩
      simp only [DllModule.move]
      omega
  | unknownClass here =>
      exact ⟨leases.leaves (by rw [here]; rfl) rfl, publishedCount,
        published.stays (by rw [here]; rfl), locks⟩
  | closed here _ waits =>
      rcases waits with ⟨-, rfl⟩ | rfl <;>
        exact ⟨leases.stays (by rw [here]; rfl), publishedCount,
          published.stays (by rw [here]; rfl), locks⟩
  | timedOut here | reopenedGate here =>
      exact ⟨leases.stays (by rw [here]; rfl), publishedCount,
        published.stays (by rw [here]; rfl), locks⟩
  | client taken =>
      refine ⟨?_, publishedCount, ?_, ?_⟩
      · cases taken <;> exact leases
      · cases taken <;> exact published
      · cases taken <;> simp only <;> omega

end Counts

/-! ## What the unload call reports -/

/-- A call of `DllCanUnloadNow` that reports that the DLL may be unloaded is right: no call
of `DllGetClassObject` has a lease, the gate is closed and the module lock is zero. -/
def UnloadSafe (module : DllModule) : DllAction → DllModule → Prop
  | .canUnloadNowReturns thread, _ => module.calls thread = .approved →
      (∀ other, (module.calls other).leased = false) ∧ module.admission.state = .closing ∧
        module.moduleLock = 0
  | _, _ => True

/-- What holds while no call enters the gate against one that has closed it. -/
structure UnloadInvariant (module : DllModule) : Prop where
  exclusive : Exclusive true module
  counts : DllCounts module
  unlocked : ∀ thread, module.calls thread = .approved → module.moduleLock = 0

namespace UnloadInvariant

variable {module next : DllModule} {action : DllAction} {events : List DllObservation}

theorem initial : UnloadInvariant {} where
  exclusive := .of_nobody fun _ => rfl
  counts := .initial
  unlocked := nofun

/-- No call of `DllGetClassObject` has a lease once an unload is approved. -/
theorem noLease (invariant : UnloadInvariant module) {thread : ℕ}
    (approved : module.calls thread = .approved) (other : ℕ) :
    (module.calls other).leased = false := by
  have leases := invariant.counts.leases
  rw [invariant.exclusive.drained thread (by rw [approved]; rfl)] at leases
  exact leases.elsewhere_of_zero other

/-- **Every step but an entry keeps the invariant.** -/
theorem step (invariant : UnloadInvariant module)
    (allowed : NoEntryWhileUnloading true module action)
    (taken : DllStep module action next events) : UnloadInvariant next := by
  refine ⟨invariant.exclusive.step allowed taken, invariant.counts.step taken, ?_⟩
  intro other approved
  obtain ⟨published, standing, locks⟩ := invariant.counts.locks
  cases taken with
  | @moved _ thread call _ moves _ =>
      by_cases last : call = .approved
      · rw [last] at moves
        generalize module.calls thread = here at moves
        cases moves with
        | stillUnlocked unlocked => exact unlocked
      · exact invariant.unlocked other (standing_before approved last)
  | withoutOutput => exact invariant.unlocked other approved
  | entered | reopened | unknownClass | timedOut | reopenedGate =>
      exact invariant.unlocked other (standing_before approved nofun)
  | closed _ _ waits =>
      rcases waits with ⟨-, rfl⟩ | rfl
      · exact invariant.unlocked other (standing_before approved nofun)
      · exact invariant.unlocked other (standing_before approved nofun)
  | @published thread here =>
      have none := invariant.noLease (standing_before approved nofun) thread
      rw [here] at none
      cases none
  | @given thread here | @lacked thread here =>
      have none := invariant.noLease (standing_before approved nofun) thread
      rw [here] at none
      cases none
  | client taken =>
      have unlocked : module.calls other = .approved → module.moduleLock = 0 :=
        invariant.unlocked other
      cases taken with
      | created | locked | unlocked | factoryReleased | engineReleased =>
          have none := unlocked approved
          simp only
          omega

/-- What an approved unload reports is true. -/
theorem safe (invariant : UnloadInvariant module) {thread : ℕ}
    (approved : module.calls thread = .approved) :
    (∀ other, (module.calls other).leased = false) ∧ module.admission.state = .closing ∧
      module.moduleLock = 0 :=
  ⟨invariant.noLease approved, invariant.exclusive.closing thread (by rw [approved]; rfl),
    invariant.unlocked thread approved⟩

end UnloadInvariant

/-- **An unload that is reported possible is safe**, in every run in which no call enters
the gate while one that has closed it is under way. -/
theorem unload_safe (actions : List DllAction)
    (entries : dllMachine.Along (fun module action _ => NoEntryWhileUnloading true module action)
      {} actions) : dllMachine.Along UnloadSafe {} actions := by
  refine Machine.Along.of_invariant UnloadInvariant ?_ .initial entries
  intro module next action events invariant allowed taken
  refine ⟨?_, invariant.step allowed (dllStep_spec taken)⟩
  cases action with
  | canUnloadNowReturns thread => exact invariant.safe
  | _ => trivial

/-- A call of `DllGetClassObject` comes and goes, and then the DLL may be unloaded. -/
def quietUnload : List DllAction :=
  [.getClassObject 1, .enterOrReopen 1, .makeFactory 1, .getClassObjectReturns 1 true,
    .releaseFactory, .canUnloadNow 0, .checkLock 0, .beginClosing 0, .loggerQuiesced 0 true,
    .recheckLock 0, .canUnloadNowReturns 0]

theorem unload_safe_quiet :
    .canUnloadNowReturned 0 .sOk ∈ dllMachine.emitted {} quietUnload ∧
      dllMachine.Along UnloadSafe {} quietUnload := by
  refine ⟨by decide, unload_safe quietUnload ⟨trivial, ?_, trivial, trivial, trivial, trivial,
    trivial, trivial, trivial, trivial, trivial, trivial⟩⟩
  intro thread
  change (Function.update (fun _ => DllCall.idle) 1 .entering thread).unloading true = false
  rw [Function.update_apply]
  split <;> rfl

/-- The gate is entered after it was closed and before the module lock is looked at again. -/
def enteredMeanwhile : List DllAction :=
  [.canUnloadNow 0, .checkLock 0, .beginClosing 0, .loggerQuiesced 0 true, .getClassObject 1,
    .enterOrReopen 1, .recheckLock 0, .canUnloadNowReturns 0]

/-- **The DLL can be reported unloadable while `DllGetClassObject` is under way.** -/
theorem reopened_unload : ¬∀ actions : List DllAction, dllMachine.Along UnloadSafe {} actions := by
  intro always
  have unsafe_ := (always enteredMeanwhile).2.2.2.2.2.2.2.1 rfl
  have lease := unsafe_.1 1
  cases lease

end ModernSapi
