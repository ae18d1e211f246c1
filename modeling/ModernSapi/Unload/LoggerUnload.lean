import ModernSapi.Unload.EntryExclusion
import ModernSapi.Logger.AsyncLogger

/-!
# Unloading and the logger

In a build that has a logger, `DllCanUnloadNow` stops it before it looks at the module lock
again, and lets it go on when the lock is held. A call of `DllGetClassObject` that opens the
gate lets it go on as well, which does nothing while the logger is not stopped yet.

So an entry against an unload under way can leave the logger quiet for good:
`muted_by_entry` is such a run. As long as no call enters the gate against one that has
closed it, one call at a time decides about the logger (`LoggerKept`), and after a call of
`DllGetClassObject` the logger takes messages (`logger_resumes`).
-/

set_option autoImplicit false

namespace ModernSapi

open Interleaving AsyncLogger

/-! ## The DLL with its logger -/

structure LoggedDll where
  module : DllModule := {}
  logger : AsyncLogger := {}

inductive LoggedAction where
  | dll (action : DllAction)
  | logger (action : LoggerAction)
  deriving DecidableEq, Repr

namespace DllModule

/-- The DLL after a step that is possible, and as it was otherwise. -/
def after (module : DllModule) (action : DllAction) : DllModule :=
  match module.step action with
  | some (next, _) => next
  | none => module

/-- What a function of the logger returns reaches the call that waits for it. -/
def answered (module : DllModule) : List LoggerObservation → DllModule
  | [.quiesceReturned thread quiesced] => module.after (.loggerQuiesced thread quiesced)
  | [.resumeReturned thread] => module.after (.loggerResumed thread)
  | _ => module

/-- The functions that stop the logger and let it go on are called from these places only. -/
def mayTake (module : DllModule) : LoggerAction → Bool
  | .beginUnloadQuiescence thread => module.calls thread == .quiescing
  | .resumeAfterUnloadRejected thread =>
      module.calls thread == .resuming || module.calls thread == .resumingRejected
  | .shutdown _ => false
  | _ => true

end DllModule

/-- One step of the DLL or of its logger. Any thread may call `Log` at any time. -/
def LoggedDll.step (dll : LoggedDll) : LoggedAction → Option (LoggedDll × List DllObservation)
  | .dll action =>
      if action.isReturnOfLogger || dll.logger.terminated then none
      else
        match dll.module.step action with
        | some (module, events) => some ({ dll with module }, events)
        | none => none
  | .logger action =>
      if dll.module.mayTake action then
        match dll.logger.step action with
        | some (logger, events) => some (⟨dll.module.answered events, logger⟩, [])
        | none => none
      else none

/-- The machine of the DLL with its logger. -/
def loggedDllMachine : Machine LoggedDll LoggedAction DllObservation where
  init dll := dll = {}
  step := LoggedDll.step

/-- The cases of a step of the DLL with its logger. -/
inductive LoggedStep (dll : LoggedDll) :
    LoggedAction → LoggedDll → List DllObservation → Prop where
  | dll {action : DllAction} {module : DllModule} {events : List DllObservation}
      (own : action.isReturnOfLogger = false) (taken : DllStep dll.module action module events) :
      LoggedStep dll (.dll action) { dll with module } events
  | logger {action : LoggerAction} {logger : AsyncLogger} {events : List LoggerObservation}
      (may : dll.module.mayTake action = true)
      (taken : dll.logger.LoggerStep action logger events) :
      LoggedStep dll (.logger action) ⟨dll.module.answered events, logger⟩ []

theorem loggedStep_spec {dll next : LoggedDll} {action : LoggedAction}
    {events : List DllObservation} (taken : dll.step action = some (next, events)) :
    LoggedStep dll action next events := by
  cases action with
  | dll action =>
      simp only [LoggedDll.step] at taken
      split at taken
      · cases taken
      · next own =>
          rw [Bool.not_eq_true, Bool.or_eq_false_iff] at own
          split at taken
          · next stepped =>
              cases taken
              exact .dll own.1 (dllStep_spec stepped)
          · cases taken
  | logger action =>
      simp only [LoggedDll.step] at taken
      split at taken
      · next may =>
          split at taken
          · next stepped =>
              cases taken
              exact .logger may (loggerStep_spec stepped)
          · cases taken
      · cases taken

/-! ## The gate -/

/-- The call decides about the logger: it stops it, has stopped it or lets it go on. -/
def DllCall.keepsLogger : DllCall → Bool
  | .resuming | .quiescing | .recheckingLock | .resumingRejected => true
  | _ => false

/-- What holds of the gate while no call enters it against one that has closed it. -/
structure GateInvariant (module : DllModule) : Prop where
  exclusive : Exclusive false module
  counts : DllCounts module
  quiet : module.admission.state = .closing →
    (∀ thread, (module.calls thread).unloading false = false) → module.admission.entryCount = 0
  reopener : ∀ first second, module.calls first = .resuming → module.calls second = .resuming →
    first = second

namespace GateInvariant

variable {module next : DllModule} {action : DllAction} {events : List DllObservation}
  {thread : ℕ} {here call : DllCall}

theorem initial : GateInvariant {} where
  exclusive := .of_nobody fun _ => rfl
  counts := .initial
  quiet := nofun
  reopener := nofun

/-- A gate that a lease is out for is open, or a call that has closed it is under way. -/
theorem not_quiet (invariant : GateInvariant module)
    (leased : (module.calls thread).leased = true)
    (closing : module.admission.state = .closing) :
    ¬∀ other, (module.calls other).unloading false = false := by
  intro nobody
  have leases := invariant.counts.leases
  rw [invariant.quiet closing nobody] at leases
  rw [leases.elsewhere_of_zero thread] at leased
  cases leased

theorem resuming_or_drained (keeps : call.keepsLogger = true) :
    call = .resuming ∨ call.drained false = true := by
  cases call <;> first | exact .inl rfl | exact .inr rfl | cases keeps

/-- One call at a time decides about the logger. -/
theorem alone (invariant : GateInvariant module) {first second : ℕ}
    (keeps : (module.calls first).keepsLogger = true)
    (keeps' : (module.calls second).keepsLogger = true) : first = second := by
  have apart {reopener unloader : ℕ} (resuming : module.calls reopener = .resuming)
      (drained : (module.calls unloader).drained false = true) : False := by
    have leases := invariant.counts.leases
    rw [invariant.exclusive.drained unloader drained] at leases
    have elsewhere := leases.elsewhere_of_zero reopener
    rw [resuming] at elsewhere
    cases elsewhere
  rcases resuming_or_drained keeps with resuming | drained
  · rcases resuming_or_drained keeps' with resuming' | drained'
    · exact invariant.reopener first second resuming resuming'
    · exact (apart resuming drained').elim
  · rcases resuming_or_drained keeps' with resuming' | drained'
    · exact (apart resuming' drained).elim
    · exact invariant.exclusive.alone first second (DllCall.unloading_of_drained drained)
        (DllCall.unloading_of_drained drained')

/-- Nobody has the gate closed before a step that no such call ends with. -/
theorem nobody_before (calls : next.calls = Function.update module.calls thread call)
    (nobody : ∀ other, (next.calls other).unloading false = false)
    (here : call.unloading false = false → (module.calls thread).unloading false = false)
    (other : ℕ) : (module.calls other).unloading false = false := by
  have after := nobody other
  rw [calls] at after
  by_cases same : other = thread
  · rw [same, Function.update_self] at after
    rw [same]
    exact here after
  · rwa [Function.update_of_ne same] at after

end GateInvariant

theorem DllModule.Moves.drained_of_leaves {module : DllModule} {thread : ℕ} {here call : DllCall}
    {events : List DllObservation} (moves : module.Moves thread here call events)
    (before : here.unloading false = true) (after : call.unloading false = false) :
    here.drained false = true := by
  cases moves with
  | drained => cases after
  | _ => first | rfl | cases before

theorem DllModule.Moves.not_resuming {module : DllModule} {thread : ℕ} {here call : DllCall}
    {events : List DllObservation} (moves : module.Moves thread here call events) :
    call ≠ .resuming := by
  cases moves <;> exact nofun

namespace GateInvariant

variable {module next : DllModule} {action : DllAction} {events : List DllObservation}
  {thread : ℕ} {call : DllCall}

/-- A call moves, and the gate stays as it is or is still quiet when it was. -/
theorem quiet_of_move (invariant : GateInvariant module)
    (calls : next.calls = Function.update module.calls thread call)
    (state : next.admission.state = module.admission.state)
    (entries : module.admission.entryCount = 0 → next.admission.entryCount = 0)
    (leaves : call.unloading false = false → (module.calls thread).unloading false = true →
      module.admission.entryCount = 0)
    (closing : next.admission.state = .closing)
    (nobody : ∀ other, (next.calls other).unloading false = false) :
    next.admission.entryCount = 0 := by
  have left : call.unloading false = false := by
    have after := nobody thread
    rwa [calls, Function.update_self] at after
  cases unloading : (module.calls thread).unloading false with
  | true => exact entries (leaves left unloading)
  | false =>
      exact entries (invariant.quiet (state.symm.trans closing)
        (nobody_before calls nobody fun _ => unloading))

theorem step_quiet (invariant : GateInvariant module)
    (taken : DllStep module action next events) (closing : next.admission.state = .closing)
    (nobody : ∀ other, (next.calls other).unloading false = false) :
    next.admission.entryCount = 0 := by
  cases taken with
  | moved moves _ =>
      refine invariant.quiet_of_move rfl rfl id (fun after before => ?_) closing nobody
      exact invariant.exclusive.drained _ (moves.drained_of_leaves before after)
  | withoutOutput => exact invariant.quiet closing nobody
  | entered | reopened | timedOut | reopenedGate => cases closing
  | published here =>
      refine invariant.quiet_of_move rfl rfl id (fun _ before => ?_) closing nobody
      rw [here] at before
      cases before
  | given here | lacked here | unknownClass here =>
      refine invariant.quiet_of_move rfl rfl (fun none => ?_) (fun _ before => ?_) closing nobody
      · change module.admission.entryCount - 1 = 0
        rw [none]
      · rw [here] at before
        cases before
  | @closed thread call _ _ waits =>
      have elsewhere := nobody thread
      change (Function.update module.calls thread call thread).unloading false = false at elsewhere
      rw [Function.update_self] at elsewhere
      rcases waits with ⟨-, rfl⟩ | rfl <;> cases elsewhere
  | client taken => cases taken <;> exact invariant.quiet closing nobody

theorem step_reopener (invariant : GateInvariant module)
    (allowed : NoEntryWhileUnloading false module action)
    (taken : DllStep module action next events) {first second : ℕ}
    (here : next.calls first = .resuming) (there : next.calls second = .resuming) :
    first = second := by
  cases taken with
  | @moved _ thread call _ moves _ =>
      have elsewhere := moves.not_resuming
      exact invariant.reopener first second (standing_before here elsewhere)
        (standing_before there elsewhere)
  | withoutOutput => exact invariant.reopener first second here there
  | @reopened thread stands closing =>
      have none := invariant.quiet closing allowed
      have leases := invariant.counts.leases
      rw [none] at leases
      have only {other : ℕ}
          (resumes : Function.update module.calls thread .resuming other = .resuming) :
          other = thread := by
        by_contra differs
        rw [Function.update_of_ne differs] at resumes
        have elsewhere := leases.elsewhere_of_zero other
        rw [resumes] at elsewhere
        cases elsewhere
      exact (only here).trans (only there).symm
  | closed _ _ waits =>
      rcases waits with ⟨-, rfl⟩ | rfl <;>
        exact invariant.reopener first second (standing_before here nofun)
          (standing_before there nofun)
  | entered | published | given | lacked | unknownClass | timedOut | reopenedGate =>
      exact invariant.reopener first second (standing_before here nofun)
        (standing_before there nofun)
  | client taken => cases taken <;> exact invariant.reopener first second here there

/-- **Every step but an entry against an unload keeps the invariant.** -/
theorem step (invariant : GateInvariant module)
    (allowed : NoEntryWhileUnloading false module action)
    (taken : DllStep module action next events) : GateInvariant next where
  exclusive := invariant.exclusive.step allowed taken
  counts := invariant.counts.step taken
  quiet := invariant.step_quiet taken
  reopener _ _ := invariant.step_reopener allowed taken

theorem returned (invariant : GateInvariant module) (returns : action.isReturnOfLogger = true)
    (taken : DllStep module action next events) : GateInvariant next := by
  apply invariant.step _ taken
  cases action <;> trivial

end GateInvariant

/-! ## The logger -/

/-- What a call is after in the logger. -/
inductive LoggerUse where
  | nothing
  | stops
  | resumes
  | shutsDown
  deriving DecidableEq, Repr

def LoggerCall.use : LoggerCall → LoggerUse
  | .idle | .logging _ | .joiningToLog .. => .nothing
  | .quiescing shutdown | .awaitingStop shutdown | .joiningStopped shutdown _ =>
      if shutdown then .shutsDown else .stops
  | .resuming shutdown | .joiningToResume shutdown _ => if shutdown then .shutsDown else .resumes

theorem LoggerCall.use_of_isLog {call : LoggerCall} (isLog : call.isLog = true) :
    call.use = .nothing := by
  cases call <;> first | rfl | cases isLog

def DllCall.use : DllCall → LoggerUse
  | .quiescing => .stops
  | .resuming | .resumingRejected => .resumes
  | _ => .nothing

namespace AsyncLogger

/-- The next call of `Log` is not refused, or the logger has failed. -/
def Accepts (logger : AsyncLogger) : Prop :=
  logger.state = .stopFailed ∨
    (logger.admission = .open_ ∧ (logger.state = .running ∨ logger.state = .stopped))

/-- Nobody has to let the logger go on. -/
def Usable (logger : AsyncLogger) : Prop :=
  logger.Accepts ∨ (logger.state = .drainingForUnload ∧ logger.resumeWhenStopped = true)

/-- A call waits until the logger is stopped. -/
structure Stopping (logger : AsyncLogger) : Prop where
  quiescent : logger.admission = .quiescent
  stays : logger.resumeWhenStopped = false
  state : logger.state ≠ .running

/-- The logger is stopped and takes no message until it is let go on. -/
structure Sleeping (logger : AsyncLogger) : Prop where
  quiescent : logger.admission = .quiescent
  stopped : logger.state = .stopped

/-- How the logger stands while the call that decides about it is there. -/
def Held (logger : AsyncLogger) : DllCall → LoggerCall → Prop
  | .quiescing, .awaitingStop _ => logger.Stopping
  | .quiescing, .joiningStopped .. => logger.Sleeping
  | .quiescing, _ => logger.Usable
  | _, _ => logger.Sleeping

section Background

variable {logger next : AsyncLogger} {action : LoggerAction} {events : List LoggerObservation}

theorem Usable.congr (usable : logger.Usable) (state : next.state = logger.state)
    (admission : next.admission = logger.admission)
    (resumes : next.resumeWhenStopped = logger.resumeWhenStopped) : next.Usable := by
  unfold Usable Accepts at usable ⊢
  rw [state, admission, resumes]
  exact usable

theorem Stopping.congr (stopping : logger.Stopping) (state : next.state = logger.state)
    (admission : next.admission = logger.admission)
    (resumes : next.resumeWhenStopped = logger.resumeWhenStopped) : next.Stopping where
  quiescent := admission.trans stopping.quiescent
  stays := resumes.trans stopping.stays
  state := by
    rw [state]
    exact stopping.state

theorem Sleeping.congr (sleeping : logger.Sleeping) (state : next.state = logger.state)
    (admission : next.admission = logger.admission) : next.Sleeping where
  quiescent := admission.trans sleeping.quiescent
  stopped := state.trans sleeping.stopped

theorem LogEnds.usable {thread : ℕ} (ends : logger.LogEnds thread next events)
    (isOpen : logger.admission = .open_) (usable : logger.Usable) : next.Usable := by
  cases ends with
  | notPushed | startFailed | terminated | pushed => exact usable.congr rfl rfl rfl
  | started | startedAndPushed => exact .inl (.inr ⟨isOpen, .inl rfl⟩)

theorem LogEnds.calls {thread : ℕ} (ends : logger.LogEnds thread next events) :
    next.calls = Function.update logger.calls thread .idle := by
  cases ends <;> rfl

theorem Usable.afterException (usable : logger.Usable) {worker : ℕ} {place : LoggerWorker} :
    ({ logger with state := logger.state.afterException }.moveWorker worker place).Usable := by
  rcases usable with (failed | ⟨isOpen, running | stopped⟩) | ⟨draining, -⟩
  · exact .inl (.inl (by simp [moveWorker, failed, LoggerState.afterException]))
  · exact .inl (.inl (by simp [moveWorker, running, LoggerState.afterException]))
  · exact .inl (.inr ⟨isOpen, .inr (by simp [moveWorker, stopped, LoggerState.afterException])⟩)
  · exact .inl (.inl (by simp [moveWorker, draining, LoggerState.afterException]))

namespace BackgroundStep

theorem usable (taken : logger.BackgroundStep next events) (usable : logger.Usable) :
    next.Usable := by
  cases taken with
  | logCalled | logReturned | handleTaken | dequeued | delivered | loopLeft | workerThrew
  | fileClosed | settledOther | exited => exact usable.congr rfl rfl rfl
  | logEnded _ isOpen ends => exact ends.usable isOpen usable
  | workerFailed => exact usable.afterException
  | settledStopped _ draining stays =>
      rcases usable with (failed | ⟨-, running | stopped⟩) | ⟨-, resumes⟩
      · exact nomatch failed.symm.trans draining
      · exact nomatch running.symm.trans draining
      · exact nomatch stopped.symm.trans draining
      · exact nomatch resumes.symm.trans stays
  | settledResumed => exact .inl (.inr ⟨rfl, .inr rfl⟩)

theorem stopping (taken : logger.BackgroundStep next events) (stopping : logger.Stopping) :
    next.Stopping := by
  cases taken with
  | logCalled | logReturned | handleTaken | dequeued | delivered | loopLeft | workerThrew
  | fileClosed | settledOther | exited => exact stopping.congr rfl rfl rfl
  | logEnded _ isOpen _ => exact nomatch isOpen.symm.trans stopping.quiescent
  | workerFailed =>
      refine ⟨stopping.quiescent, stopping.stays, ?_⟩
      exact logger.state.afterException_ne_running
  | settledStopped => exact ⟨stopping.quiescent, stopping.stays, nofun⟩
  | settledResumed _ _ resumes => exact nomatch resumes.symm.trans stopping.stays

theorem sleeping (taken : logger.BackgroundStep next events) (sleeping : logger.Sleeping) :
    next.Sleeping := by
  cases taken with
  | logCalled | logReturned | handleTaken | dequeued | delivered | loopLeft | workerThrew
  | fileClosed | settledOther | exited => exact sleeping.congr rfl rfl
  | logEnded _ isOpen _ => exact nomatch isOpen.symm.trans sleeping.quiescent
  | workerFailed =>
      refine ⟨sleeping.quiescent, ?_⟩
      change logger.state.afterException = .stopped
      rw [sleeping.stopped]
      rfl
  | settledStopped _ draining | settledResumed _ draining =>
      exact nomatch draining.symm.trans sleeping.stopped

/-- Only the calls of `Log` move. -/
theorem calls (taken : logger.BackgroundStep next events) (thread : ℕ) :
    next.calls thread = logger.calls thread ∨
      ((logger.calls thread).use = .nothing ∧ (next.calls thread).use = .nothing) := by
  have moved {caller : ℕ} {call : LoggerCall} (before : (logger.calls caller).use = .nothing)
      (after : call.use = .nothing) :
      Function.update logger.calls caller call thread = logger.calls thread ∨
        ((logger.calls thread).use = .nothing ∧
          (Function.update logger.calls caller call thread).use = .nothing) := by
    by_cases same : thread = caller
    · rw [same, Function.update_self]
      exact .inr ⟨before, after⟩
    · exact .inl (Function.update_of_ne same _ _)
  cases taken with
  | logCalled idle => exact moved (by rw [idle]; rfl) rfl
  | logReturned here | handleTaken here => exact moved (LoggerCall.use_of_isLog here) rfl
  | logEnded here _ ends =>
      rw [ends.calls]
      exact moved (LoggerCall.use_of_isLog here) rfl
  | dequeued | delivered | loopLeft | workerThrew | workerFailed | fileClosed | settledStopped
  | settledResumed | settledOther | exited => exact .inl rfl

end BackgroundStep

end Background

end AsyncLogger

/-! ## The DLL and its logger -/

/-- An unload has been approved, and no call has opened the gate since. -/
def DllModule.Dozing (module : DllModule) : Prop :=
  module.admission.state = .closing ∧ ∀ thread, (module.calls thread).unloading false = false

/-- What holds of the logger while the gate is as `GateInvariant` says. -/
structure LoggerKept (module : DllModule) (logger : AsyncLogger) : Prop where
  aligned : ∀ thread, (logger.calls thread).use = .nothing ∨
    (logger.calls thread).use = (module.calls thread).use
  held : ∀ thread, (module.calls thread).keepsLogger = true →
    logger.Held (module.calls thread) (logger.calls thread)
  sleeping : (∀ thread, (module.calls thread).keepsLogger = false) → module.Dozing →
    logger.Sleeping
  usable : (∀ thread, (module.calls thread).keepsLogger = false) → ¬module.Dozing →
    logger.Usable

section Kept

variable {module next : DllModule} {logger after : AsyncLogger} {thread : ℕ} {call : DllCall}

theorem DllCall.use_nothing (elsewhere : call.keepsLogger = false) : call.use = .nothing := by
  cases call <;> first | rfl | cases elsewhere

/-- The place of a call of `Log` is none that the logger depends on. -/
theorem AsyncLogger.Held.congr {before later : LoggerCall} (held : logger.Held call before)
    (nothing : before.use = .nothing) (nothing' : later.use = .nothing) :
    logger.Held call later := by
  cases call with
  | quiescing =>
      have usable : logger.Usable := by
        cases before with
        | idle | logging | joiningToLog | quiescing | resuming | joiningToResume => exact held
        | awaitingStop shutdown | joiningStopped shutdown => cases shutdown <;> cases nothing
      cases later with
      | idle | logging | joiningToLog | quiescing | resuming | joiningToResume => exact usable
      | awaitingStop shutdown | joiningStopped shutdown => cases shutdown <;> cases nothing'
  | _ => exact held

theorem AsyncLogger.Held.sleeping {logging : LoggerCall} (held : logger.Held call logging)
    (elsewhere : call ≠ .quiescing) : logger.Sleeping := by
  cases call with
  | quiescing => exact absurd rfl elsewhere
  | _ => exact held

namespace LoggerKept

theorem initial : LoggerKept {} {} where
  aligned _ := .inl rfl
  held := nofun
  sleeping _ dozing := nomatch dozing.1
  usable _ _ := .inl (.inr ⟨rfl, .inr rfl⟩)

/-- The call of a thread in the logger is one its place in the DLL waits for. -/
theorem aligned_of_move (kept : LoggerKept module logger)
    (before : (module.calls thread).use = .nothing)
    (calls : next.calls = Function.update module.calls thread call) (other : ℕ) :
    (logger.calls other).use = .nothing ∨
      (logger.calls other).use = (next.calls other).use := by
  by_cases same : other = thread
  · rcases kept.aligned other with nothing | use
    · exact .inl nothing
    · rw [same, before] at use
      rw [same]
      exact .inl use
  · rw [calls, Function.update_of_ne same]
    exact kept.aligned other

/-- A call moves that has nothing to decide about the logger. -/
theorem elsewhere (kept : LoggerKept module logger)
    (calls : next.calls = Function.update module.calls thread call)
    (before : (module.calls thread).keepsLogger = false) (later : call.keepsLogger = false)
    (dozing : next.Dozing ↔ module.Dozing) : LoggerKept next logger := by
  have same (nobody : ∀ other, (next.calls other).keepsLogger = false) (other : ℕ) :
      (module.calls other).keepsLogger = false := by
    have there := nobody other
    rw [calls] at there
    by_cases moved : other = thread
    · rw [moved]
      exact before
    · rwa [Function.update_of_ne moved] at there
  refine ⟨kept.aligned_of_move (DllCall.use_nothing before) calls, fun other keeps => ?_,
    fun nobody dozes => kept.sleeping (same nobody) (dozing.mp dozes),
    fun nobody awake => kept.usable (same nobody) fun dozes => awake (dozing.mpr dozes)⟩
  rw [calls] at keeps ⊢
  by_cases moved : other = thread
  · rw [moved, Function.update_self, later] at keeps
    cases keeps
  · rw [Function.update_of_ne moved] at keeps ⊢
    exact kept.held other keeps

/-- The call that decides about the logger, and how it stands. -/
theorem of_keeper (gate : GateInvariant next) (keeps : (next.calls thread).keepsLogger = true)
    (held : after.Held (next.calls thread) (after.calls thread))
    (aligned : ∀ other, (after.calls other).use = .nothing ∨
      (after.calls other).use = (next.calls other).use) : LoggerKept next after := by
  have decides (nobody : ∀ other, (next.calls other).keepsLogger = false) : False := by
    rw [nobody thread] at keeps
    cases keeps
  refine ⟨aligned, fun other keeps' => ?_, fun nobody => (decides nobody).elim,
    fun nobody => (decides nobody).elim⟩
  have same := gate.alone keeps' keeps
  rw [same]
  exact held

/-- The call that has decided about the logger leaves it. -/
theorem of_nobody (gate : GateInvariant module)
    (keeps : (module.calls thread).keepsLogger = true)
    (calls : next.calls = Function.update module.calls thread call)
    (left : call.keepsLogger = false) (sleeping : next.Dozing → after.Sleeping)
    (usable : ¬next.Dozing → after.Usable)
    (aligned : ∀ other, (after.calls other).use = .nothing ∨
      (after.calls other).use = (next.calls other).use) : LoggerKept next after := by
  refine ⟨aligned, fun other keeps' => ?_, fun _ => sleeping, fun _ => usable⟩
  rw [calls] at keeps'
  by_cases moved : other = thread
  · rw [moved, Function.update_self, left] at keeps'
    cases keeps'
  · rw [Function.update_of_ne moved] at keeps'
    exact absurd (gate.alone keeps' keeps) moved

theorem congr (kept : LoggerKept module logger) (calls : next.calls = module.calls)
    (state : next.admission.state = module.admission.state) : LoggerKept next logger := by
  have dozing : next.Dozing ↔ module.Dozing := by
    unfold DllModule.Dozing
    rw [calls, state]
  refine ⟨fun other => ?_, fun other => ?_, fun nobody dozes => ?_, fun nobody awake => ?_⟩
  · rw [calls]
    exact kept.aligned other
  · rw [calls]
    exact kept.held other
  · rw [calls] at nobody
    exact kept.sleeping nobody (dozing.mp dozes)
  · rw [calls] at nobody
    exact kept.usable nobody fun dozes => awake (dozing.mpr dozes)

/-- A call comes to decide about the logger. -/
theorem arrives (kept : LoggerKept module logger) (gate : GateInvariant next)
    (calls : next.calls = Function.update module.calls thread call)
    (before : (module.calls thread).keepsLogger = false) (later : call.keepsLogger = true)
    (held : (∀ other, (module.calls other).keepsLogger = false) →
      (logger.calls thread).use = .nothing → logger.Held call (logger.calls thread)) :
    LoggerKept next logger := by
  have here : next.calls thread = call := by rw [calls, Function.update_self]
  have nothing := DllCall.use_nothing before
  refine of_keeper gate (by rw [here]; exact later) ?_ (kept.aligned_of_move nothing calls)
  rw [here]
  apply held
  · intro other
    rw [Bool.eq_false_iff]
    intro keeps
    by_cases moved : other = thread
    · rw [moved, before] at keeps
      cases keeps
    · have there : (next.calls other).keepsLogger = true := by
        rw [calls, Function.update_of_ne moved]
        exact keeps
      exact moved (gate.alone there (by rw [here]; exact later))
  · rcases kept.aligned thread with use | use
    · exact use
    · exact use.trans nothing

end LoggerKept

theorem DllModule.not_dozing_of_open (isOpen : module.admission.state = .open_) :
    ¬module.Dozing :=
  fun dozing => nomatch isOpen.symm.trans dozing.1

theorem DllModule.not_dozing_of_unloading
    (unloading : (module.calls thread).unloading false = true) : ¬module.Dozing :=
  fun dozing => nomatch unloading.symm.trans (dozing.2 thread)

theorem DllModule.dozing_iff (calls : next.calls = Function.update module.calls thread call)
    (state : next.admission.state = module.admission.state)
    (unloading : call.unloading false = (module.calls thread).unloading false) :
    next.Dozing ↔ module.Dozing := by
  have same (other : ℕ) :
      (next.calls other).unloading false = (module.calls other).unloading false := by
    rw [calls]
    by_cases moved : other = thread
    · rw [moved, Function.update_self, unloading]
    · rw [Function.update_of_ne moved]
  unfold DllModule.Dozing
  rw [state]
  exact and_congr_right fun _ => forall_congr' fun other => by rw [same other]

end Kept

section DllStep

variable {module next : DllModule} {logger : AsyncLogger} {action : DllAction}
  {events : List DllObservation} {thread : ℕ} {here call : DllCall}

/-- A call that is about to stop the logger finds it usable. -/
theorem LoggerKept.arrives_quiescing (kept : LoggerKept module logger)
    (gate : GateInvariant next)
    (calls : next.calls = Function.update module.calls thread .quiescing)
    (before : (module.calls thread).keepsLogger = false) (awake : ¬module.Dozing) :
    LoggerKept next logger := by
  refine kept.arrives gate calls before rfl fun nobody nothing => ?_
  have held : logger.Held .quiescing .idle := kept.usable nobody awake
  exact held.congr rfl nothing

/-- The DLL moves a call that does not wait for the logger. -/
theorem LoggerKept.moved (kept : LoggerKept module logger) (gate : GateInvariant module)
    (gate' : GateInvariant (module.move thread call)) (stands : module.calls thread = here)
    (moves : module.Moves thread here call events) (waits : here.callsLogger = false) :
    LoggerKept (module.move thread call) logger := by
  have unloading : (module.calls thread).unloading false = here.unloading false := by rw [stands]
  have keeps : (module.calls thread).keepsLogger = here.keepsLogger := by rw [stands]
  have sleeping (keeps : here.keepsLogger = true) (elsewhere : here ≠ .quiescing) :
      logger.Sleeping := by
    rw [← stands] at keeps elsewhere
    exact (kept.held thread keeps).sleeping elsewhere
  cases moves with
  | called | asked | unlocked | locked | alreadyClosing | returnedOk | returnedFalse =>
      exact kept.elsewhere rfl keeps rfl (DllModule.dozing_iff rfl rfl unloading.symm)
  | resumed | quiesced | notQuiesced | resumedRejected => cases waits
  | drained =>
      exact kept.arrives_quiescing gate' rfl keeps (DllModule.not_dozing_of_unloading unloading)
  | stillUnlocked =>
      have dozing : (module.move thread .approved).Dozing := by
        refine ⟨gate.exclusive.closing thread unloading, fun other => ?_⟩
        change (Function.update module.calls thread .approved other).unloading false = false
        by_cases same : other = thread
        · rw [same, Function.update_self]
          rfl
        · rw [Function.update_of_ne same, Bool.eq_false_iff]
          intro there
          exact same (gate.exclusive.alone other thread there unloading)
      have nothing : (module.calls thread).use = .nothing := by
        rw [stands]
        rfl
      exact .of_nobody gate keeps rfl rfl (fun _ => sleeping rfl nofun)
        (fun awake => absurd dozing awake) (kept.aligned_of_move nothing rfl)
  | lockedMeanwhile =>
      have there : (module.move thread .resumingRejected).calls thread = .resumingRejected :=
        Function.update_self _ _ _
      have nothing : (module.calls thread).use = .nothing := by
        rw [stands]
        rfl
      refine .of_keeper gate' (by rw [there]; rfl) ?_ (kept.aligned_of_move nothing rfl)
      rw [there]
      exact sleeping rfl nofun

/-- **A step of the DLL leaves the logger as its callers need it.** -/
theorem LoggerKept.dllStep (kept : LoggerKept module logger) (gate : GateInvariant module)
    (gate' : GateInvariant next) (allowed : NoEntryWhileUnloading false module action)
    (own : action.isReturnOfLogger = false) (taken : DllStep module action next events) :
    LoggerKept next logger := by
  cases taken with
  | moved moves returns =>
      refine kept.moved gate gate' rfl moves (Bool.eq_false_iff.mpr fun waits => ?_)
      exact nomatch own.symm.trans (returns waits)
  | withoutOutput => exact kept
  | entered here isOpen =>
      have awake := DllModule.not_dozing_of_open isOpen
      refine kept.elsewhere rfl (by rw [here]; rfl) rfl ⟨fun dozing => ?_, fun dozing => ?_⟩
      · exact absurd dozing (DllModule.not_dozing_of_open rfl)
      · exact absurd dozing awake
  | reopened here closing =>
      exact kept.arrives gate' rfl (by rw [here]; rfl) rfl fun nobody _ =>
        kept.sleeping nobody ⟨closing, allowed⟩
  | published here | given here | lacked here | unknownClass here =>
      exact kept.elsewhere rfl (by rw [here]; rfl) rfl
        (DllModule.dozing_iff rfl rfl (by rw [here]; rfl))
  | @closed thread call here isOpen waits =>
      have awake := DllModule.not_dozing_of_open isOpen
      rcases waits with ⟨-, rfl⟩ | rfl
      · exact kept.arrives_quiescing gate' rfl (by rw [here]; rfl) awake
      · refine kept.elsewhere rfl (by rw [here]; rfl) rfl ⟨fun dozing => ?_, fun dozing => ?_⟩
        · have unloading : (Function.update module.calls thread DllCall.awaitingEntries
              thread).unloading false = true := by
            rw [Function.update_self]
            rfl
          exact absurd dozing (DllModule.not_dozing_of_unloading unloading)
        · exact absurd dozing awake
  | @timedOut thread here | @reopenedGate thread here =>
      refine kept.elsewhere rfl (by rw [here]; rfl) rfl ⟨fun dozing => ?_, fun dozing => ?_⟩
      · exact absurd dozing (DllModule.not_dozing_of_open rfl)
      · exact absurd dozing (DllModule.not_dozing_of_unloading (by rw [here]; rfl))
  | client taken => cases taken <;> exact kept.congr rfl rfl

end DllStep

section LoggerStep

variable {module next : DllModule} {logger after : AsyncLogger} {action : LoggerAction}
  {events : List LoggerObservation} {thread : ℕ} {call : DllCall} {logging : LoggerCall}

theorem AsyncLogger.Held.background (held : logger.Held call logging)
    (taken : logger.BackgroundStep after events) : after.Held call logging := by
  cases call with
  | quiescing =>
      cases logging with
      | awaitingStop => exact taken.stopping held
      | joiningStopped => exact taken.sleeping held
      | idle | logging | joiningToLog | quiescing | resuming | joiningToResume =>
          exact taken.usable held
  | _ => exact taken.sleeping held

theorem AsyncLogger.BackgroundStep.answered (taken : logger.BackgroundStep after events) :
    module.answered events = module := by
  cases taken with
  | logEnded _ _ ends => cases ends <;> rfl
  | delivered => split <;> rfl
  | _ => rfl

namespace LoggerKept

theorem background (kept : LoggerKept module logger)
    (taken : logger.BackgroundStep after events) : LoggerKept module after where
  aligned other := by
    rcases taken.calls other with same | ⟨-, nothing⟩
    · rw [same]
      exact kept.aligned other
    · exact .inl nothing
  held other keeps := by
    have held := (kept.held other keeps).background taken
    rcases taken.calls other with same | ⟨nothing, nothing'⟩
    · rw [same]
      exact held
    · exact held.congr nothing nothing'
  sleeping nobody dozing := taken.sleeping (kept.sleeping nobody dozing)
  usable nobody awake := taken.usable (kept.usable nobody awake)

theorem not_shutsDown (kept : LoggerKept module logger) (thread : ℕ) :
    (logger.calls thread).use ≠ .shutsDown := by
  intro shutsDown
  rcases kept.aligned thread with nothing | same
  · exact nomatch shutsDown.symm.trans nothing
  · rw [shutsDown] at same
    generalize module.calls thread = here at same
    cases here <;> cases same

/-- A thread that stops the logger does so for an unload. -/
theorem stops (kept : LoggerKept module logger) (thread : ℕ) {shutdown : Bool}
    (use : (logger.calls thread).use = if shutdown then .shutsDown else .stops) :
    shutdown = false ∧ module.calls thread = .quiescing := by
  cases shutdown with
  | true => exact absurd use (kept.not_shutsDown thread)
  | false =>
      refine ⟨rfl, ?_⟩
      rcases kept.aligned thread with nothing | same
      · exact nomatch use.symm.trans nothing
      · rw [use] at same
        generalize module.calls thread = here at same ⊢
        cases here <;> first | rfl | cases same

/-- A thread that lets the logger go on does so for a call of the DLL. -/
theorem resumes (kept : LoggerKept module logger) (thread : ℕ) {shutdown : Bool}
    (use : (logger.calls thread).use = if shutdown then .shutsDown else .resumes) :
    shutdown = false ∧
      (module.calls thread = .resuming ∨ module.calls thread = .resumingRejected) := by
  cases shutdown with
  | true => exact absurd use (kept.not_shutsDown thread)
  | false =>
      refine ⟨rfl, ?_⟩
      rcases kept.aligned thread with nothing | same
      · exact nomatch use.symm.trans nothing
      · rw [use] at same
        generalize module.calls thread = here at same ⊢
        cases here <;> first | exact .inl rfl | exact .inr rfl | cases same

/-- The call that decides about the logger goes on there. -/
theorem keeps (kept : LoggerKept module logger) (gate : GateInvariant module)
    (keeps : (module.calls thread).keepsLogger = true)
    (calls : after.calls = Function.update logger.calls thread logging)
    (use : logging.use = (module.calls thread).use)
    (held : after.Held (module.calls thread) logging) : LoggerKept module after := by
  refine of_keeper gate keeps ?_ fun other => ?_
  · rw [calls, Function.update_self]
    exact held
  · rw [calls]
    by_cases same : other = thread
    · rw [same, Function.update_self]
      exact .inr use
    · rw [Function.update_of_ne same]
      exact kept.aligned other

/-- A call comes back from the logger. -/
theorem aligned_of_return (kept : LoggerKept module logger)
    (calls : next.calls = Function.update module.calls thread call)
    (calls' : after.calls = Function.update logger.calls thread .idle) (other : ℕ) :
    (after.calls other).use = .nothing ∨
      (after.calls other).use = (next.calls other).use := by
  rw [calls, calls']
  by_cases same : other = thread
  · rw [same, Function.update_self]
    exact .inl rfl
  · rw [Function.update_of_ne same, Function.update_of_ne same]
    exact kept.aligned other

/-- The gate and the logger after a step. -/
def AfterStep (module : DllModule) (logger : AsyncLogger) : Prop :=
  GateInvariant module ∧ LoggerKept module logger

/-- A call that has left the logger on its way to open the module again: the logger is usable. -/
theorem reopening {action : DllAction} (kept : LoggerKept module logger)
    (gate : GateInvariant module) (keeps : (module.calls thread).keepsLogger = true)
    (returns : action.isReturnOfLogger = true)
    (step : DllStep module action (module.move thread .reopening) [])
    (calls : after.calls = Function.update logger.calls thread .idle) (usable : after.Usable) :
    AfterStep (module.move thread .reopening) after := by
  have unloading : (Function.update module.calls thread DllCall.reopening thread).unloading false =
      true := by
    rw [Function.update_self]
    rfl
  refine ⟨gate.returned returns step, of_nobody gate keeps rfl rfl (fun dozing => ?_)
    (fun _ => usable) (kept.aligned_of_return rfl calls)⟩
  exact absurd dozing (DllModule.not_dozing_of_unloading unloading)

theorem notQuiesced (kept : LoggerKept module logger) (gate : GateInvariant module)
    (here : module.calls thread = .quiescing)
    (calls : after.calls = Function.update logger.calls thread .idle) (usable : after.Usable) :
    AfterStep (module.answered [.quiesceReturned thread false]) after := by
  have answer : module.answered [.quiesceReturned thread false] = module.move thread .reopening := by
    simp [DllModule.answered, DllModule.after, DllModule.step, here]
  rw [answer]
  have step : DllStep module (.loggerQuiesced thread false) (module.move thread .reopening) [] :=
    .moves here .notQuiesced fun _ => rfl
  exact kept.reopening gate (by rw [here]; rfl) rfl step calls usable

theorem quiesced (kept : LoggerKept module logger) (gate : GateInvariant module)
    (here : module.calls thread = .quiescing)
    (calls : after.calls = Function.update logger.calls thread .idle) (sleeping : after.Sleeping) :
    AfterStep (module.answered [.quiesceReturned thread true]) after := by
  have answer : module.answered [.quiesceReturned thread true] =
      module.move thread .recheckingLock := by
    simp [DllModule.answered, DllModule.after, DllModule.step, here]
  rw [answer]
  have step : DllStep module (.loggerQuiesced thread true) (module.move thread .recheckingLock) [] :=
    .moves here .quiesced fun _ => rfl
  have there : (module.move thread .recheckingLock).calls thread = .recheckingLock :=
    Function.update_self _ _ _
  have gate' := gate.returned rfl step
  refine ⟨gate', of_keeper gate' (by rw [there]; rfl) ?_ (kept.aligned_of_return rfl calls)⟩
  rw [there]
  exact sleeping

theorem resumed (kept : LoggerKept module logger) (gate : GateInvariant module)
    (here : module.calls thread = .resuming ∨ module.calls thread = .resumingRejected)
    (calls : after.calls = Function.update logger.calls thread .idle) (usable : after.Usable) :
    AfterStep (module.answered [.resumeReturned thread]) after := by
  rcases here with here | here
  · have answer : module.answered [.resumeReturned thread] = module.move thread .admitted := by
      simp [DllModule.answered, DllModule.after, DllModule.step, here]
    rw [answer]
    have step : DllStep module (.loggerResumed thread) (module.move thread .admitted) [] :=
      .moves here .resumed fun _ => rfl
    have gate' := gate.returned rfl step
    have leased : (Function.update module.calls thread DllCall.admitted thread).leased = true := by
      rw [Function.update_self]
      rfl
    refine ⟨gate', of_nobody gate (by rw [here]; rfl) rfl rfl (fun dozing => ?_)
      (fun _ => usable) (kept.aligned_of_return rfl calls)⟩
    exact absurd dozing.2 (gate'.not_quiet leased dozing.1)
  · have answer : module.answered [.resumeReturned thread] = module.move thread .reopening := by
      simp [DllModule.answered, DllModule.after, DllModule.step, here]
    rw [answer]
    have step : DllStep module (.loggerResumed thread) (module.move thread .reopening) [] :=
      .moves here .resumedRejected fun _ => rfl
    exact kept.reopening gate (by rw [here]; rfl) rfl step calls usable

/-- What is known of the logger while a call stops it. -/
theorem quiescing (kept : LoggerKept module logger) (here : module.calls thread = .quiescing) :
    logger.Held .quiescing (logger.calls thread) := by
  have held := kept.held thread (by rw [here]; rfl)
  rwa [here] at held

/-- A call stops the logger. -/
theorem keeps_quiescing (kept : LoggerKept module logger) (gate : GateInvariant module)
    (here : module.calls thread = .quiescing)
    (calls : after.calls = Function.update logger.calls thread logging)
    (use : logging.use = .stops) (held : after.Held .quiescing logging) :
    AfterStep module after := by
  refine ⟨gate, kept.keeps gate (by rw [here]; rfl) calls ?_ ?_⟩
  · rw [here]
    exact use
  · rw [here]
    exact held

/-- A call lets the logger go on, which is stopped. -/
theorem resuming (kept : LoggerKept module logger)
    (here : module.calls thread = .resuming ∨ module.calls thread = .resumingRejected) :
    (module.calls thread).keepsLogger = true ∧ (module.calls thread).use = .resumes ∧
      logger.Sleeping := by
  rcases here with here | here
  · have held := kept.held thread (by rw [here]; rfl)
    rw [here] at held ⊢
    exact ⟨rfl, rfl, held⟩
  · have held := kept.held thread (by rw [here]; rfl)
    rw [here] at held ⊢
    exact ⟨rfl, rfl, held⟩

theorem keeps_resuming (kept : LoggerKept module logger) (gate : GateInvariant module)
    (here : module.calls thread = .resuming ∨ module.calls thread = .resumingRejected)
    (calls : after.calls = Function.update logger.calls thread logging)
    (use : logging.use = .resumes) (sleeping : after.Sleeping) : AfterStep module after := by
  obtain ⟨keeps, resumes, -⟩ := kept.resuming here
  refine ⟨gate, kept.keeps gate keeps calls (use.trans resumes.symm) ?_⟩
  rcases here with here | here
  · rw [here]
    exact sleeping
  · rw [here]
    exact sleeping

/-- **A step of the logger leaves it as the calls of the DLL need it.** -/
theorem loggerStep (kept : LoggerKept module logger) (gate : GateInvariant module)
    (may : module.mayTake action = true) (taken : logger.LoggerStep action after events) :
    AfterStep (module.answered events) after := by
  cases taken with
  | background _ taken =>
      rw [taken.answered]
      exact ⟨gate, kept.background taken⟩
  | called idle enters =>
      rcases enters with ⟨rfl, rfl⟩ | ⟨rfl, -⟩ | ⟨rfl, rfl⟩
      · have here := eq_of_beq may
        have held := kept.quiescing here
        rw [idle] at held
        exact kept.keeps_quiescing gate here rfl rfl (Usable.congr held rfl rfl rfl)
      · cases may
      · have here := (Bool.or_eq_true _ _).mp may
        have here := here.imp eq_of_beq eq_of_beq
        have sleeping := (kept.resuming here).2.2
        exact kept.keeps_resuming gate here rfl rfl (sleeping.congr rfl rfl)
  | @stopAsked thread _ here =>
      obtain ⟨rfl, stands⟩ := kept.stops thread (by rw [here]; rfl)
      exact kept.keeps_quiescing gate stands rfl rfl ⟨rfl, rfl, nofun⟩
  | @stopAwaited thread _ here draining =>
      obtain ⟨rfl, stands⟩ := kept.stops thread (by rw [here]; rfl)
      refine kept.keeps_quiescing gate stands rfl rfl ⟨rfl, rfl, ?_⟩
      change logger.state ≠ .running
      rw [draining]
      exact nofun
  | @alreadyStopped thread _ here stopped =>
      obtain ⟨rfl, stands⟩ := kept.stops thread (by rw [here]; rfl)
      exact kept.keeps_quiescing gate stands rfl rfl ⟨rfl, stopped⟩
  | @alreadyFailed thread _ here failed =>
      obtain ⟨rfl, stands⟩ := kept.stops thread (by rw [here]; rfl)
      exact kept.notQuiesced gate stands rfl (.inl (.inl failed))
  | @stopSeen thread _ here stopped =>
      obtain ⟨rfl, stands⟩ := kept.stops thread (by rw [here]; rfl)
      have stopping := kept.quiescing stands
      rw [here] at stopping
      exact kept.keeps_quiescing gate stands rfl rfl ⟨stopping.quiescent, stopped⟩
  | @failureSeen thread _ here failed =>
      obtain ⟨rfl, stands⟩ := kept.stops thread (by rw [here]; rfl)
      exact kept.notQuiesced gate stands rfl (.inl (.inl failed))
  | @timedOut thread _ here notStopped notFailed =>
      obtain ⟨rfl, stands⟩ := kept.stops thread (by rw [here]; rfl)
      have stopping := kept.quiescing stands
      rw [here] at stopping
      have draining : logger.state = .drainingForUnload := by
        cases state : logger.state with
        | stopped => exact absurd state notStopped
        | running => exact absurd state stopping.state
        | drainingForUnload => rfl
        | stopFailed => exact absurd state notFailed
      exact kept.notQuiesced gate stands rfl (.inr ⟨draining, rfl⟩)
  | @stoppedJoined thread _ here =>
      have use : (logger.calls thread).use = .stops := by rw [here]; rfl
      obtain ⟨-, stands⟩ : false = false ∧ module.calls thread = .quiescing := kept.stops thread use
      have sleeping := kept.quiescing stands
      rw [here] at sleeping
      exact kept.quiesced gate stands rfl (Sleeping.congr sleeping rfl rfl)
  | @shutdownJoined thread _ here =>
      exact absurd (by rw [here]; rfl) (kept.not_shutsDown thread)
  | @resumeIgnored thread _ here notStopped =>
      obtain ⟨-, stands⟩ := kept.resumes thread (by rw [here]; rfl)
      exact absurd (kept.resuming stands).2.2.stopped notStopped
  | @resumeTaken thread _ here stopped =>
      obtain ⟨rfl, stands⟩ := kept.resumes thread (by rw [here]; rfl)
      have sleeping := (kept.resuming stands).2.2
      exact kept.keeps_resuming gate stands rfl rfl (sleeping.congr rfl rfl)
  | @resumed thread _ _ here =>
      obtain ⟨rfl, stands⟩ := kept.resumes thread (by rw [here]; rfl)
      have sleeping := (kept.resuming stands).2.2
      exact kept.resumed gate stands rfl (.inl (.inr ⟨rfl, .inr sleeping.stopped⟩))

end LoggerKept

end LoggerStep

/-! ## After the last call -/

section Answered

variable {module : DllModule} {action : DllAction} {events : List LoggerObservation}

/-- A call that the logger returns to has not returned itself. -/
theorem DllModule.after_idle (returns : action.isReturnOfLogger = true)
    (idle : ∀ thread, (module.after action).calls thread = .idle) :
    module.after action = module := by
  have stays {thread : ℕ} {call : DllCall} (left : call ≠ .idle) :
      ¬∀ other, (module.move thread call).calls other = .idle := by
    intro gone
    have there : Function.update module.calls thread call thread = .idle := gone thread
    rw [Function.update_self] at there
    exact left there
  cases action with
  | loggerQuiesced thread quiesced =>
      by_cases here : module.calls thread = .quiescing
      · simp only [after, step, here, ↓reduceIte] at idle
        refine absurd idle (stays ?_)
        cases quiesced with
        | true => simp
        | false => simp
      · simp only [after, step, here, ↓reduceIte]
  | loggerResumed thread =>
      cases here : module.calls thread with
      | resuming | resumingRejected =>
          simp only [after, step, here] at idle
          exact absurd idle (stays (by simp))
      | _ => simp only [after, step, here]
  | _ => cases returns

theorem DllModule.answered_idle
    (idle : ∀ thread, (module.answered events).calls thread = .idle) :
    module.answered events = module := by
  unfold answered at idle ⊢
  split at idle
  · exact after_idle rfl idle
  · exact after_idle rfl idle
  · rfl

end Answered

/-- Nothing enters the gate against a call that has closed it, and once an unload is approved
and all calls have returned, `DllGetClassObject` is not called without output storage, which
returns before it looks at the gate. -/
def EntersQuietly (dll : LoggedDll) : LoggedAction → Prop
  | .dll (.getClassObjectWithoutOutput _) =>
      ¬(dll.module.admission.state = .closing ∧ ∀ thread, dll.module.calls thread = .idle)
  | .dll action => NoEntryWhileUnloading false dll.module action
  | .logger _ => True

/-- When no call is under way, the last to return was one of `DllGetClassObject` and no drain
is in progress, the logger has failed or takes the next message. -/
def TakesMessages (trace : List DllObservation) (dll : LoggedDll) : Prop :=
  (∀ thread, dll.module.calls thread = .idle) →
    (∃ thread, trace.getLast? = some (.getClassObjectReturned thread)) →
      dll.logger.state ≠ .drainingForUnload → dll.logger.Accepts

/-- What holds in every state while calls enter quietly. -/
structure LoggedInvariant (trace : List DllObservation) (dll : LoggedDll) : Prop where
  gate : GateInvariant dll.module
  kept : LoggerKept dll.module dll.logger
  returned : dll.module.admission.state = .closing → (∀ thread, dll.module.calls thread = .idle) →
    ∀ thread, trace.getLast? ≠ some (.getClassObjectReturned thread)

namespace LoggedInvariant

variable {trace events : List DllObservation} {dll next : LoggedDll} {module : DllModule}
  {action : LoggedAction}

theorem initial : LoggedInvariant [] {} where
  gate := .initial
  kept := .initial
  returned := nofun

theorem guarded {own : DllAction} (allowed : EntersQuietly dll (.dll own)) :
    NoEntryWhileUnloading false dll.module own := by
  cases own <;> first | exact allowed | trivial

/-- When no call is under way after a step of the DLL and the gate is closed, the step was
none of `DllGetClassObject`. -/
theorem returned_step (invariant : LoggedInvariant trace dll) {own : DllAction}
    (allowed : EntersQuietly dll (.dll own)) (taken : DllStep dll.module own module events)
    (closing : module.admission.state = .closing)
    (idle : ∀ thread, module.calls thread = .idle) (thread : ℕ) :
    (trace ++ events).getLast? ≠ some (.getClassObjectReturned thread) := by
  have last {place : DllCall} {mover : ℕ}
      (calls : module.calls = Function.update dll.module.calls mover place) : place = .idle := by
    rw [← idle mover, calls, Function.update_self]
  have gone {place : DllCall} {mover : ℕ}
      (calls : module.calls = Function.update dll.module.calls mover .idle)
      (here : dll.module.calls mover = place) (leased : place.leased = true)
      (before : place.unloading false = false)
      (closed : dll.module.admission.state = .closing) : False := by
    rw [← here] at leased before
    refine invariant.gate.not_quiet leased closed ?_
    refine GateInvariant.nobody_before calls (fun other => ?_) fun _ => before
    rw [idle other]
    rfl
  cases taken with
  | @moved _ mover place _ moves _ =>
      have arrived := last rfl
      generalize dll.module.calls mover = here at moves
      subst arrived
      cases moves <;> simp
  | withoutOutput => exact absurd ⟨closing, idle⟩ allowed
  | entered | reopened | published | timedOut | reopenedGate => cases last rfl
  | closed _ _ waits => rcases waits with ⟨-, rfl⟩ | rfl <;> cases last rfl
  | given here | lacked here | unknownClass here => exact (gone rfl here rfl rfl closing).elim
  | client taken =>
      rw [List.append_nil]
      cases taken <;> exact invariant.returned closing idle thread

/-- **Every quiet step keeps the invariant.** -/
theorem step (invariant : LoggedInvariant trace dll) (allowed : EntersQuietly dll action)
    (taken : LoggedStep dll action next events) : LoggedInvariant (trace ++ events) next := by
  cases taken with
  | dll own taken =>
      have entry := guarded allowed
      have gate := invariant.gate.step entry taken
      exact ⟨gate, invariant.kept.dllStep invariant.gate gate entry own taken,
        invariant.returned_step allowed taken⟩
  | logger may taken =>
      obtain ⟨gate, kept⟩ := invariant.kept.loggerStep invariant.gate may taken
      refine ⟨gate, kept, fun closing idle thread => ?_⟩
      rw [DllModule.answered_idle idle] at closing idle
      rw [List.append_nil]
      exact invariant.returned closing idle thread

end LoggedInvariant

/-- **After `DllGetClassObject` the logger takes messages**, in every run in which the gate
is entered quietly. -/
theorem logger_resumes {trace : List DllObservation} {dll : LoggedDll}
    (reached : loggedDllMachine.Reaches EntersQuietly trace dll) : TakesMessages trace dll := by
  have invariant : LoggedInvariant trace dll := by
    refine reached.induct ?_ ?_
    · rintro _ rfl
      exact .initial
    · intro trace events dll next action _ invariant allowed taken
      exact invariant.step allowed (loggedStep_spec taken)
  rintro idle ⟨thread, last⟩ settled
  have nobody (thread : ℕ) : (dll.module.calls thread).keepsLogger = false := by
    rw [idle thread]
    rfl
  have awake : ¬dll.module.Dozing := by
    intro dozing
    exact invariant.returned dozing.1 idle thread last
  rcases invariant.kept.usable nobody awake with accepts | ⟨draining, -⟩
  · exact accepts
  · exact absurd draining settled

/-- A message is logged, an unload is approved, and then the class object is asked for. -/
def askedAfterUnload : List LoggedAction :=
  [.logger (.log 2 "loaded"), .logger (.logEnters 2 .completes), .dll (.canUnloadNow 0),
    .dll (.checkLock 0), .dll (.beginClosing 0), .logger (.beginUnloadQuiescence 0),
    .logger (.quiesceEnters 0), .logger (.dequeue 0), .logger (.deliver 0), .logger (.stop 0),
    .logger (.cleanupFileStream 0), .logger (.settle 0), .logger (.stopSeen 0),
    .logger (.workerExits 0), .logger (.stoppedJoined 0), .dll (.recheckLock 0),
    .dll (.canUnloadNowReturns 0), .dll (.getClassObject 1), .dll (.enterOrReopen 1),
    .logger (.resumeAfterUnloadRejected 1), .logger (.resumeEnters 1), .logger (.resumeJoined 1),
    .dll (.makeFactory 1), .dll (.getClassObjectReturns 1 true)]

theorem logger_resumes_asked :
    loggedDllMachine.emitted {} askedAfterUnload =
        [.canUnloadNowReturned 0 .sOk, .getClassObjectReturned 1] ∧
      TakesMessages (loggedDllMachine.emitted {} askedAfterUnload)
        (loggedDllMachine.finalState {} askedAfterUnload) := by
  have quiet : loggedDllMachine.Along (fun dll action _ => EntersQuietly dll action) {}
      askedAfterUnload := by
    refine ⟨trivial, trivial, trivial, trivial, trivial, trivial, trivial, trivial, trivial, trivial,
      trivial, trivial, trivial, trivial, trivial, trivial, trivial, trivial, ?_, trivial, trivial,
      trivial, trivial, trivial, trivial⟩
    intro thread
    match thread with
    | 0 => rfl
    | 1 => rfl
    | _ + 2 => rfl
  have run := loggedDllMachine.run_finalState {} askedAfterUnload quiet (by decide)
  exact ⟨by decide, logger_resumes ⟨{}, rfl, run⟩⟩

/-- The gate is entered while the logger drains for an unload, which is approved before the
entry returns. -/
def enteredWhileDraining : List LoggedAction :=
  [.logger (.log 2 "loaded"), .logger (.logEnters 2 .completes), .dll (.canUnloadNow 0),
    .dll (.checkLock 0), .dll (.beginClosing 0), .logger (.beginUnloadQuiescence 0),
    .logger (.quiesceEnters 0), .dll (.getClassObject 1), .dll (.enterOrReopen 1),
    .logger (.resumeAfterUnloadRejected 1), .logger (.resumeEnters 1), .logger (.dequeue 0),
    .logger (.deliver 0), .logger (.stop 0), .logger (.cleanupFileStream 0), .logger (.settle 0),
    .logger (.stopSeen 0), .logger (.workerExits 0), .logger (.stoppedJoined 0), .dll (.recheckLock 0),
    .dll (.canUnloadNowReturns 0), .dll (.makeFactory 1), .dll (.getClassObjectReturns 1 true)]

/-- **The logger can stay quiet after `DllGetClassObject`.** -/
theorem muted_by_entry : ¬∀ (trace : List DllObservation) (dll : LoggedDll),
    loggedDllMachine.Reaches Machine.anyStep trace dll → TakesMessages trace dll := by
  intro always
  have run := loggedDllMachine.run_finalState {} enteredWhileDraining
    (Machine.along_anyStep _ _) (by decide)
  have takes := always _ _ ⟨{}, rfl, run⟩
  have idle (thread : ℕ) : (loggedDllMachine.finalState {}
      enteredWhileDraining).module.calls thread = .idle := by
    match thread with
    | 0 => rfl
    | 1 => rfl
    | _ + 2 => rfl
  have accepts := takes idle ⟨1, by decide⟩ (by decide)
  revert accepts
  unfold AsyncLogger.Accepts
  decide

end ModernSapi
