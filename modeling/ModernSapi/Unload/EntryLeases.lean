import ModernSapi.Unload.DllModule

/-!
# The leases of the gate

Every entry holds a lease of the gate, an object that is moved, assigned and destroyed. Any
number of threads may close the gate and wait for the entries, and others may enter and reopen
it meanwhile. The wait looks at the number of entries alone.

A lease is an object of one thread. Only what it does to the gate is under the mutex, so an
operation on it is one step.

* `GateStep.keeps`: the number of entries is that of the leases.
* `closing_sound_iff`: what holds of the gate when a call that has closed it returns.
-/

set_option autoImplicit false

namespace ModernSapi

open Interleaving

/-- A lease: none yet or no more, one that was moved from, or one that counts as an entry. -/
inductive EntryLease where
  | absent
  | empty
  | holding
  deriving DecidableEq, Repr

def EntryLease.holds (lease : EntryLease) : Bool := lease = .holding

/-- The gate with the leases, and the threads that wait in
`BeginClosingAndWaitForEntries`. -/
structure EntryGate where
  admission : DllEntryAdmission := {}
  leases : ℕ → EntryLease := fun _ => .absent
  waits : ℕ → Bool := fun _ => false

inductive GateObservation where
  | entered
  | notEntered
  | reopened
  | closing (thread : ℕ)
  | refused (thread : ℕ)
  | returned (thread : ℕ) (entriesDrained : Bool)
  deriving DecidableEq, Repr

inductive GateAction where
  | tryEnter (lease : ℕ)
  | enterOrReopen (lease : ℕ)
  | reopen
  | beginClosing (thread : ℕ)
  | entriesDrained (thread : ℕ)
  | entriesTimeOut (thread : ℕ)
  | moveConstruct (target source : ℕ)
  | moveAssign (target source : ℕ)
  | destroy (lease : ℕ)
  deriving DecidableEq, Repr

namespace EntryGate

/-- A lease is made that counts as an entry. -/
def admitEntry (gate : EntryGate) (lease : ℕ) (admission : DllEntryAdmission) : EntryGate :=
  { gate with admission, leases := Function.update gate.leases lease .holding }

def tryEnter (gate : EntryGate) (lease : ℕ) : EntryGate × List GateObservation :=
  if gate.admission.state ≠ .open_ then (gate, [.notEntered])
  else
    (gate.admitEntry lease { gate.admission with entryCount := gate.admission.entryCount + 1 },
      [.entered])

def enterOrReopen (gate : EntryGate) (lease : ℕ) : EntryGate × List GateObservation :=
  let entered := gate.admission.enterOrReopen
  (gate.admitEntry lease entered.1, if entered.2 then [.reopened, .entered] else [.entered])

def reopen (gate : EntryGate) : EntryGate × List GateObservation :=
  ({ gate with admission := gate.admission.reopen },
    if gate.admission.state ≠ .closing then [] else [.reopened])

/-- `BeginClosingAndWaitForEntries` up to the wait. -/
def beginClosing (gate : EntryGate) (thread : ℕ) : EntryGate × List GateObservation :=
  if gate.admission.state ≠ .open_ then (gate, [.refused thread])
  else
    let closed := { gate with admission := { gate.admission with state := .closing } }
    if gate.admission.entryCount = 0 then (closed, [.closing thread, .returned thread true])
    else ({ closed with waits := Function.update gate.waits thread true }, [.closing thread])

/-- The thread waits no more. -/
def wakes (gate : EntryGate) (thread : ℕ) : EntryGate :=
  { gate with waits := Function.update gate.waits thread false }

/-- The wait ends without the entries, which opens the gate. -/
def entriesTimeOut (gate : EntryGate) (thread : ℕ) : EntryGate × List GateObservation :=
  ({ gate.wakes thread with admission := { gate.admission with state := .open_ } },
    [.reopened, .returned thread false])

/-- A lease gives its entry back, if it has one. -/
def release (gate : EntryGate) (lease : ℕ) : DllEntryAdmission :=
  if (gate.leases lease).holds then gate.admission.release else gate.admission

/-- The target takes what the source has, and gives back what it had. -/
def moveAssign (gate : EntryGate) (target source : ℕ) : EntryGate :=
  if target = source then gate
  else
    { gate with
      admission := gate.release target
      leases := Function.update (Function.update gate.leases source .empty) target
        (gate.leases source) }

def step (gate : EntryGate) : GateAction → Option (EntryGate × List GateObservation)
  | .tryEnter lease =>
      if gate.leases lease = .absent then some (gate.tryEnter lease) else none
  | .enterOrReopen lease =>
      if gate.leases lease = .absent then some (gate.enterOrReopen lease) else none
  | .reopen => some gate.reopen
  | .beginClosing thread =>
      if gate.waits thread = false then some (gate.beginClosing thread) else none
  | .entriesDrained thread =>
      if gate.waits thread = true ∧ gate.admission.entryCount = 0 then
        some (gate.wakes thread, [.returned thread true])
      else none
  | .entriesTimeOut thread =>
      if gate.waits thread = true ∧ gate.admission.entryCount ≠ 0 then
        some (gate.entriesTimeOut thread)
      else none
  | .moveConstruct target source =>
      if gate.leases target = .absent ∧ gate.leases source ≠ .absent then
        some ({ gate with
          leases := Function.update (Function.update gate.leases source .empty) target
            (gate.leases source) }, [])
      else none
  | .moveAssign target source =>
      if gate.leases target ≠ .absent ∧ gate.leases source ≠ .absent then
        some (gate.moveAssign target source, [])
      else none
  | .destroy lease =>
      if gate.leases lease ≠ .absent then
        some ({ gate with
          admission := gate.release lease
          leases := Function.update gate.leases lease .absent }, [])
      else none

/-- The number of entries is that of the leases that count as one. -/
def Counts (gate : EntryGate) : Prop :=
  Counted EntryLease.holds gate.leases gate.admission.entryCount

/-- The step gives an entry back. -/
def releases (gate : EntryGate) : GateAction → Bool
  | .moveAssign target source => target ≠ source && (gate.leases target).holds
  | .destroy lease => (gate.leases lease).holds
  | _ => false

end EntryGate

/-- The machine of the gate. -/
def gateMachine : Machine EntryGate GateAction GateObservation where
  init gate := gate = {}
  step := EntryGate.step

/-! ## The cases of a step -/

/-- The cases of a step of the gate. -/
inductive GateStep (gate : EntryGate) : EntryGate → List GateObservation → Prop where
  | notEntered : GateStep gate gate [.notEntered]
  | entered {lease : ℕ} (absent : gate.leases lease = .absent)
      (isOpen : gate.admission.state = .open_) :
      GateStep gate
        (gate.admitEntry lease { gate.admission with entryCount := gate.admission.entryCount + 1 })
        [.entered]
  | reopenedEntered {lease : ℕ} (absent : gate.leases lease = .absent) :
      GateStep gate (gate.admitEntry lease ⟨.open_, gate.admission.entryCount + 1⟩)
        [.reopened, .entered]
  | reopened :
      GateStep gate { gate with admission := { gate.admission with state := .open_ } } [.reopened]
  | stillOpen : GateStep gate gate []
  | refused {thread : ℕ} : GateStep gate gate [.refused thread]
  | closedEmpty {thread : ℕ} (noEntries : gate.admission.entryCount = 0) :
      GateStep gate { gate with admission := { gate.admission with state := .closing } }
        [.closing thread, .returned thread true]
  | closed {thread : ℕ} :
      GateStep gate
        { gate with
          admission := { gate.admission with state := .closing }
          waits := Function.update gate.waits thread true } [.closing thread]
  | drained {thread : ℕ} (noEntries : gate.admission.entryCount = 0) :
      GateStep gate (gate.wakes thread) [.returned thread true]
  | timedOut {thread : ℕ} :
      GateStep gate
        { gate.wakes thread with admission := { gate.admission with state := .open_ } }
        [.reopened, .returned thread false]
  | rearranged {leases : ℕ → EntryLease} {admission : DllEntryAdmission}
      (sameState : admission.state = gate.admission.state)
      (counts : gate.Counts → Counted EntryLease.holds leases admission.entryCount) :
      GateStep gate { gate with admission, leases } []

section Spec

variable {gate next : EntryGate} {events : List GateObservation} {lease target source : ℕ}

namespace EntryGate

theorem release_state (gate : EntryGate) (lease : ℕ) :
    (gate.release lease).state = gate.admission.state := by
  unfold EntryGate.release
  split
  · rfl
  · rfl

/-- A lease that goes gives its entry back. -/
theorem Counts.release (counts : gate.Counts) {place : EntryLease} (gone : place.holds = false) :
    Counted EntryLease.holds (Function.update gate.leases lease place)
      (gate.release lease).entryCount := by
  unfold EntryGate.release
  split
  · next holds => exact counts.leaves holds gone
  · next holds => exact counts.stays (gone.trans (Bool.eq_false_iff.mpr holds).symm)

/-- The entry of a lease goes with it to an object that has none. -/
theorem Counts.move (counts : gate.Counts) (other : target ≠ source)
    (free : (gate.leases target).holds = false) :
    Counted EntryLease.holds (Function.update (Function.update gate.leases source .empty) target
      (gate.leases source)) gate.admission.entryCount := by
  have untouched : Function.update gate.leases source .empty target = gate.leases target :=
    Function.update_of_ne other _ _
  cases holds : (gate.leases source).holds with
  | true =>
      have emptied : Counted EntryLease.holds (Function.update gate.leases source .empty)
          (gate.admission.entryCount - 1) := counts.leaves holds rfl
      have taken := emptied.arrives (by rw [untouched]; exact free) holds
      rwa [Nat.sub_add_cancel (counts.pos holds)] at taken
  | false =>
      have emptied : Counted EntryLease.holds (Function.update gate.leases source .empty)
          gate.admission.entryCount := counts.stays holds.symm
      refine emptied.stays ?_
      rw [untouched, holds, free]

/-- An object with an entry takes that of another. -/
theorem Counts.replace (counts : gate.Counts) (other : target ≠ source)
    (holds : (gate.leases target).holds = true) :
    Counted EntryLease.holds (Function.update (Function.update gate.leases source .empty) target
      (gate.leases source)) (gate.admission.entryCount - 1) := by
  have untouched : Function.update gate.leases source .empty target = gate.leases target :=
    Function.update_of_ne other _ _
  cases sourceHolds : (gate.leases source).holds with
  | true =>
      have emptied : Counted EntryLease.holds (Function.update gate.leases source .empty)
          (gate.admission.entryCount - 1) := counts.leaves sourceHolds rfl
      refine emptied.stays ?_
      rw [untouched, holds, sourceHolds]
  | false =>
      have emptied : Counted EntryLease.holds (Function.update gate.leases source .empty)
          gate.admission.entryCount := counts.stays sourceHolds.symm
      refine emptied.leaves ?_ sourceHolds
      rw [untouched, holds]

end EntryGate

/-- **Every step is one of the listed cases.** -/
theorem gateStep_spec {action : GateAction} (taken : gate.step action = some (next, events)) :
    GateStep gate next events := by
  cases action with
  | tryEnter lease =>
      obtain ⟨absent, taken⟩ := Option.ite_none_right_eq_some.mp taken
      unfold EntryGate.tryEnter at taken
      split at taken
      · cases taken
        exact .notEntered
      · next isOpen =>
          rw [not_not] at isOpen
          cases taken
          exact .entered absent isOpen
  | enterOrReopen lease =>
      obtain ⟨absent, taken⟩ := Option.ite_none_right_eq_some.mp taken
      unfold EntryGate.enterOrReopen DllEntryAdmission.enterOrReopen at taken
      split at taken
      · cases taken
        exact .reopenedEntered absent
      · next notClosing =>
          have isOpen : gate.admission.state = .open_ := by
            cases state : gate.admission.state with
            | open_ => rfl
            | closing => exact absurd state notClosing
          cases taken
          exact .entered absent isOpen
  | reopen =>
      simp only [EntryGate.step, EntryGate.reopen, DllEntryAdmission.reopen] at taken
      split at taken
      · cases taken
        exact .stillOpen
      · cases taken
        exact .reopened
  | beginClosing thread =>
      obtain ⟨-, taken⟩ := Option.ite_none_right_eq_some.mp taken
      unfold EntryGate.beginClosing at taken
      split at taken
      · cases taken
        exact .refused
      · split at taken
        · next noEntries =>
            cases taken
            exact .closedEmpty noEntries
        · cases taken
          exact .closed
  | entriesDrained thread =>
      obtain ⟨⟨-, noEntries⟩, taken⟩ := Option.ite_none_right_eq_some.mp taken
      cases taken
      exact .drained noEntries
  | entriesTimeOut thread =>
      obtain ⟨-, taken⟩ := Option.ite_none_right_eq_some.mp taken
      cases taken
      exact .timedOut
  | moveConstruct target source =>
      obtain ⟨⟨absent, there⟩, taken⟩ := Option.ite_none_right_eq_some.mp taken
      cases taken
      refine .rearranged rfl fun counts => counts.move ?_ (by rw [absent]; rfl)
      rintro rfl
      exact there absent
  | moveAssign target source =>
      obtain ⟨-, taken⟩ := Option.ite_none_right_eq_some.mp taken
      unfold EntryGate.moveAssign at taken
      split at taken
      · cases taken
        exact .stillOpen
      · next other =>
          cases taken
          refine .rearranged ?_ fun counts => ?_
          · exact gate.release_state target
          · unfold EntryGate.release
            split
            · next holds => exact counts.replace other holds
            · next holds => exact counts.move other (Bool.eq_false_iff.mpr holds)
  | destroy lease =>
      obtain ⟨-, taken⟩ := Option.ite_none_right_eq_some.mp taken
      cases taken
      exact .rearranged (gate.release_state lease) fun counts => counts.release rfl

end Spec

/-! ## What holds of the gate -/

/-- The gate has not been opened again since it was closed last. -/
def StillClosed (trace : List GateObservation) : Prop :=
  ∃ before thread after, trace = before ++ .closing thread :: after ∧ .reopened ∉ after

section Runs

variable {gate next : EntryGate} {trace events : List GateObservation} {event : GateObservation}

theorem stillClosed_concat : StillClosed (trace ++ [event]) ↔
    (∃ thread, event = .closing thread) ∨ event ≠ .reopened ∧ StillClosed trace := by
  constructor
  · rintro ⟨before, thread, after, split, closed⟩
    rcases List.eq_nil_or_concat' after with rfl | ⟨earlier, last, rfl⟩
    · obtain ⟨-, same⟩ := List.append_inj' split rfl
      exact .inl ⟨thread, List.singleton_inj.mp same⟩
    · rw [← List.cons_append, ← List.append_assoc] at split
      obtain ⟨rfl, same⟩ := List.append_inj' split rfl
      cases List.singleton_inj.mp same
      rw [List.mem_append, not_or, List.mem_singleton] at closed
      exact .inr ⟨Ne.symm closed.2, before, thread, earlier, rfl, closed.1⟩
  · rintro (⟨thread, rfl⟩ | ⟨other, before, thread, after, rfl, closed⟩)
    · exact ⟨trace, thread, [], rfl, List.not_mem_nil⟩
    · refine ⟨before, thread, after ++ [event], ?_, ?_⟩
      · rw [List.append_assoc, List.cons_append]
      · rw [List.mem_append, not_or, List.mem_singleton]
        exact ⟨closed, Ne.symm other⟩

theorem stillClosed_pair {later : GateObservation} : StillClosed (trace ++ [event, later]) ↔
    (∃ thread, later = .closing thread) ∨ later ≠ .reopened ∧ StillClosed (trace ++ [event]) := by
  rw [← stillClosed_concat, List.append_assoc]
  rfl

namespace GateStep

/-- **Every step keeps the count.** -/
theorem counts (taken : GateStep gate next events) (counts : gate.Counts) : next.Counts := by
  cases taken with
  | entered absent | reopenedEntered absent => exact counts.arrives (by rw [absent]; rfl) rfl
  | rearranged _ kept => exact kept counts
  | _ => exact counts

/-- **The gate is closed when it is still closed.** -/
theorem closing_iff (taken : GateStep gate next events)
    (before : gate.admission.state = .closing ↔ StillClosed trace) :
    next.admission.state = .closing ↔ StillClosed (trace ++ events) := by
  cases taken with
  | rearranged sameState =>
      rw [List.append_nil, ← before]
      exact iff_of_eq (congrArg (· = AdmissionState.closing) sameState)
  | stillOpen =>
      rw [List.append_nil]
      exact before
  | notEntered | entered | refused | drained =>
      rw [stillClosed_concat, ← before]
      simp [EntryGate.admitEntry, EntryGate.wakes]
  | reopened | closed =>
      rw [stillClosed_concat]
      simp
  | reopenedEntered | closedEmpty | timedOut =>
      rw [stillClosed_pair, stillClosed_concat]
      simp [EntryGate.admitEntry]

/-- An entry that is given back is counted. -/
theorem release_pos {action : GateAction} (counts : gate.Counts)
    (releases : gate.releases action = true) : 0 < gate.admission.entryCount := by
  cases action with
  | moveAssign target source =>
      simp only [EntryGate.releases, Bool.and_eq_true] at releases
      exact counts.pos releases.2
  | destroy lease => exact counts.pos releases
  | _ => cases releases

end GateStep

/-- **What holds when the gate has been closed and the call returns**: the entries are counted
right and none is given back twice, a call that gives up leaves the gate open, and one that
does not returns without a lease. The gate is then closed if and only if no thread has
reopened it since it was closed last. -/
theorem closing_sound_iff (reached : gateMachine.Reaches Machine.anyStep trace gate) :
    gate.Counts ∧ ∀ {action : GateAction} {next : EntryGate} {events : List GateObservation},
      gate.step action = some (next, events) →
        (gate.releases action = true → 0 < gate.admission.entryCount) ∧
        (∀ thread, .returned thread false ∈ events → next.admission.state = .open_) ∧
        ∀ thread, .returned thread true ∈ events →
          (∀ lease, (next.leases lease).holds = false) ∧
            (next.admission.state = .closing ↔ StillClosed (trace ++ events)) := by
  have kept : gate.Counts ∧ (gate.admission.state = .closing ↔ StillClosed trace) := by
    refine reached.induct (motive := fun trace gate =>
      gate.Counts ∧ (gate.admission.state = .closing ↔ StillClosed trace)) ?_ ?_
    · rintro _ rfl
      refine ⟨.nobody fun _ => rfl, iff_of_false nofun ?_⟩
      rintro ⟨before, thread, after, split, -⟩
      simp at split
    · intro _ _ _ _ _ _ kept _ taken
      have spec := gateStep_spec taken
      exact ⟨spec.counts kept.1, spec.closing_iff kept.2⟩
  obtain ⟨counts, closed⟩ := kept
  refine ⟨counts, ?_⟩
  intro action next events taken
  have spec := gateStep_spec taken
  have after := spec.counts counts
  refine ⟨GateStep.release_pos counts, ?_, ?_⟩
  · intro thread returned
    cases spec with
    | timedOut => rfl
    | _ => simp at returned
  · intro thread returned
    have noEntries : next.admission.entryCount = 0 := by
      cases spec with
      | closedEmpty noEntries | drained noEntries => exact noEntries
      | _ => simp at returned
    rw [EntryGate.Counts, noEntries] at after
    exact ⟨after.elsewhere_of_zero, spec.closing_iff closed⟩

end Runs

/-- A thread waits for an entry that moves to another object before it is given back. -/
def closedAfterMove : List GateAction :=
  [.enterOrReopen 0, .beginClosing 7, .moveConstruct 1 0, .destroy 0, .destroy 1]

theorem closing_sound_drained :
    let gate := gateMachine.finalState {} closedAfterMove
    (∀ lease, ((gate.wakes 7).leases lease).holds = false) ∧
      (gate.wakes 7).admission.state = .closing := by
  have run := gateMachine.run_finalState {} closedAfterMove (Machine.along_anyStep _ _) (by decide)
  have drained : EntryGate.step (gateMachine.finalState {} closedAfterMove) (.entriesDrained 7) =
      some ((gateMachine.finalState {} closedAfterMove).wakes 7, [.returned 7 true]) := rfl
  have returned := ((closing_sound_iff ⟨{}, rfl, run⟩).2 drained).2.2 7 (List.mem_singleton_self _)
  refine ⟨returned.1, returned.2.mpr ?_⟩
  exact ⟨[.entered], 7, _, rfl, by decide⟩

/-! ## A gate that is reopened while it is closed -/

/-- A thread waits for an entry, another enters meanwhile, and both leave. -/
def reopenedMeanwhile : List GateAction :=
  [.enterOrReopen 0, .beginClosing 7, .enterOrReopen 1, .destroy 0, .destroy 1]

/-- **A call that has closed the gate may return with it open.** -/
theorem closed_gate_open :
    ¬∀ {trace events : List GateObservation} {gate next : EntryGate} {action : GateAction}
        {thread : ℕ},
      gateMachine.Reaches Machine.anyStep trace gate →
        gate.step action = some (next, events) → .returned thread true ∈ events →
          next.admission.state = .closing := by
  intro closed
  have run := gateMachine.run_finalState {} reopenedMeanwhile (Machine.along_anyStep _ _) (by decide)
  have isOpen := closed ⟨{}, rfl, run⟩
    (show EntryGate.step _ (.entriesDrained 7) = some (EntryGate.wakes _ 7, [.returned 7 true]) from rfl)
    (List.mem_singleton_self _)
  revert isOpen
  decide

end ModernSapi
