import ModernSapi.Unload.EntryLeases

/-!
# The gate in the DLL

`DllGetClassObject` holds one lease of the gate, from its entry to its return, and
`DllCanUnloadNow` is the only one to close it. The DLL therefore runs the gate as any other
threads would (`gate_reaches`), and what holds of the gate in every run holds of the DLL.
-/

set_option autoImplicit false

namespace ModernSapi

open Interleaving

/-- What the calls of the DLL have of the gate: each entry has a lease of its own, which is
destroyed when it returns. -/
def DllModule.gate (module : DllModule) : EntryGate where
  admission := module.admission
  leases thread := if (module.calls thread).leased then .holding else .absent
  waits thread := module.calls thread == .awaitingEntries

section Gate

variable {module next : DllModule} {action : DllAction} {events : List DllObservation}
  {thread : ℕ} {call : DllCall}

/-- A call moves in the gate as it does in the DLL. -/
theorem gate_move : (module.move thread call).gate =
    { admission := module.admission
      leases := Function.update module.gate.leases thread (if call.leased then .holding else .absent)
      waits := Function.update module.gate.waits thread (call == .awaitingEntries) } := by
  rw [DllModule.gate, EntryGate.mk.injEq]
  refine ⟨rfl, ?_, ?_⟩
  · funext other
    by_cases same : other = thread
    · simp [same, DllModule.move]
    · simp [same, DllModule.move, DllModule.gate]
  · funext other
    by_cases same : other = thread
    · simp [same, DllModule.move]
    · simp [same, DllModule.move, DllModule.gate]

/-- A call that moves outside of the gate leaves it as it is. -/
theorem gate_unmoved (leased : call.leased = (module.calls thread).leased)
    (waits : (call == .awaitingEntries) = (module.calls thread == .awaitingEntries)) :
    (module.move thread call).gate = module.gate := by
  rw [gate_move, leased, waits]
  have leases : Function.update module.gate.leases thread
      (if (module.calls thread).leased then .holding else .absent) = module.gate.leases :=
    Function.update_eq_self _ _
  have waiting : Function.update module.gate.waits thread
      (module.calls thread == .awaitingEntries) = module.gate.waits :=
    Function.update_eq_self _ _
  rw [leases, waiting]
  rfl

/-- A call without a lease has no object of the gate. -/
theorem leases_of_unleased (unleased : (module.calls thread).leased = false) :
    module.gate.leases thread = .absent := by
  simp [DllModule.gate, unleased]

theorem leases_unmoved (unleased : (module.calls thread).leased = false) :
    Function.update module.gate.leases thread .absent = module.gate.leases := by
  rw [← leases_of_unleased unleased, Function.update_eq_self]

theorem waits_unmoved {gate : EntryGate} (same : gate.waits thread = false) :
    Function.update gate.waits thread false = gate.waits := by
  rw [← same, Function.update_eq_self]

theorem gate_enterOrReopen (here : module.calls thread = .entering) :
    (module.enterOrReopen thread).gate = (module.gate.enterOrReopen thread).1 := by
  have awake : module.gate.waits thread = false := by simp [DllModule.gate, here]
  unfold DllModule.enterOrReopen EntryGate.enterOrReopen EntryGate.admitEntry
  change _ = EntryGate.mk (module.admission.enterOrReopen).1 _ _
  cases reopens : (module.admission.enterOrReopen).2 with
  | true =>
      simp only [reopens, ↓reduceIte]
      rw [gate_move]
      exact congrArg (EntryGate.mk _ _) (waits_unmoved awake)
  | false =>
      simp only [reopens, Bool.false_eq_true, ↓reduceIte]
      rw [gate_move]
      exact congrArg (EntryGate.mk _ _) (waits_unmoved awake)

theorem gate_beginClosing (here : module.calls thread = .beginningToClose) :
    (module.beginClosing thread).gate = (module.gate.beginClosing thread).1 := by
  have awake : module.gate.waits thread = false := by simp [DllModule.gate, here]
  have unleased := leases_unmoved (show (module.calls thread).leased = false by rw [here]; rfl)
  unfold DllModule.beginClosing EntryGate.beginClosing
  change _ = Prod.fst (if module.admission.state ≠ .open_ then _ else _)
  split
  · exact gate_unmoved (by rw [here]; rfl) (by rw [here]; rfl)
  · change _ = Prod.fst (if module.admission.entryCount = 0 then _ else _)
    rw [gate_move]
    split
    · exact congrArg₂ (EntryGate.mk _) unleased (waits_unmoved awake)
    · exact congrArg₂ (EntryGate.mk _) unleased rfl

/-- A call that returns destroys its lease. -/
theorem gate_returns (leased : (module.calls thread).leased = true)
    (admission : next.admission = module.admission.release)
    (calls : next.calls = Function.update module.calls thread .idle) :
    module.gate.step (.destroy thread) = some (next.gate, []) := by
  have holding : module.gate.leases thread = .holding := by simp [DllModule.gate, leased]
  have awake : module.gate.waits thread = false := by
    apply beq_eq_false_iff_ne.mpr
    intro here
    rw [here] at leased
    cases leased
  have left : next.gate = ({ module with admission := module.admission.release }.move thread
      .idle).gate := by
    rw [DllModule.gate, DllModule.gate, admission, calls]
    rfl
  rw [left, gate_move, EntryGate.step, if_pos (by simp [holding]), EntryGate.release,
    if_pos (by simp [holding, EntryLease.holds])]
  have same : Function.update module.gate.waits thread false = module.gate.waits :=
    waits_unmoved awake
  exact congrArg some (congrArg (Prod.mk · []) (congrArg (EntryGate.mk _ _) same.symm))

/-- **Every step of the DLL is a step of the gate, or none.** -/
theorem gate_step (taken : module.step action = some (next, events)) :
    ∃ seen, gateMachine.Run Machine.anyStep module.gate seen next.gate := by
  have stays (same : next.gate = module.gate) :
      ∃ seen, gateMachine.Run Machine.anyStep module.gate seen next.gate := by
    rw [same]
    exact ⟨[], .refl⟩
  have steps (step : GateAction) (seen : List GateObservation)
      (taken : module.gate.step step = some (next.gate, seen)) :
      ∃ seen, gateMachine.Run Machine.anyStep module.gate seen next.gate :=
    ⟨seen, .single trivial taken⟩
  cases action with
  | getClassObjectWithoutOutput thread =>
      obtain ⟨-, ended⟩ := Option.ite_none_right_eq_some.mp taken
      cases ended
      exact stays rfl
  | getClassObject thread | canUnloadNow thread | makeFactory thread =>
      obtain ⟨here, ended⟩ := Option.ite_none_right_eq_some.mp taken
      cases ended
      exact stays (gate_unmoved (by rw [here]; rfl) (by rw [here]; rfl))
  | enterOrReopen thread =>
      obtain ⟨here, ended⟩ := Option.ite_none_right_eq_some.mp taken
      cases ended
      have free := leases_of_unleased (show (module.calls thread).leased = false by rw [here]; rfl)
      refine steps (.enterOrReopen thread) (module.gate.enterOrReopen thread).2 ?_
      rw [gate_enterOrReopen here]
      exact if_pos free
  | getClassObjectReturns thread found =>
      simp only [DllModule.step, DllModule.getClassObjectReturns] at taken
      split at taken
      · next here =>
          have ends := Option.some.inj taken
          have left : next.gate = ({ module with admission := module.admission.release }.move
              thread .idle).gate := by
            cases found with
            | true =>
                cases ends
                rfl
            | false =>
                cases ends
                rfl
          refine steps (.destroy thread) [] ?_
          rw [left]
          exact gate_returns (by rw [here]; rfl) rfl rfl
      · next here =>
          cases found with
          | true => cases taken
          | false =>
              cases taken
              exact steps (.destroy thread) [] (gate_returns (by rw [here]; rfl) rfl rfl)
      · cases taken
  | checkLock thread | loggerQuiesced thread quiesced | recheckLock thread =>
      obtain ⟨here, ended⟩ := Option.ite_none_right_eq_some.mp taken
      cases ended
      refine stays (gate_unmoved ?_ ?_)
      · rw [here]
        split <;> rfl
      · rw [here]
        split <;> rfl
  | beginClosing thread =>
      obtain ⟨here, ended⟩ := Option.ite_none_right_eq_some.mp taken
      cases ended
      have awake : module.gate.waits thread = false := by simp [DllModule.gate, here]
      refine steps (.beginClosing thread) (module.gate.beginClosing thread).2 ?_
      rw [gate_beginClosing here]
      exact if_pos awake
  | entriesDrained thread =>
      obtain ⟨⟨here, noEntries⟩, ended⟩ := Option.ite_none_right_eq_some.mp taken
      cases ended
      have waits : module.gate.waits thread = true := by simp [DllModule.gate, here]
      have unleased := leases_unmoved (show (module.calls thread).leased = false by rw [here]; rfl)
      refine steps (.entriesDrained thread) [.returned thread true] ?_
      have woken : (module.move thread .quiescing).gate = module.gate.wakes thread := by
        rw [gate_move]
        exact congrArg₂ (EntryGate.mk _) unleased rfl
      rw [woken]
      exact if_pos ⟨waits, noEntries⟩
  | entriesTimeOut thread =>
      obtain ⟨⟨here, entries⟩, ended⟩ := Option.ite_none_right_eq_some.mp taken
      cases ended
      have waits : module.gate.waits thread = true := by simp [DllModule.gate, here]
      have unleased := leases_unmoved (show (module.calls thread).leased = false by rw [here]; rfl)
      refine steps (.entriesTimeOut thread) (module.gate.entriesTimeOut thread).2 ?_
      have woken : (module.entriesTimeOut thread).gate = (module.gate.entriesTimeOut thread).1 := by
        rw [DllModule.entriesTimeOut, gate_move]
        exact congrArg₂ (EntryGate.mk _) unleased rfl
      rw [woken]
      exact if_pos ⟨waits, entries⟩
  | loggerResumed thread =>
      simp only [DllModule.step] at taken
      split at taken
      · next here =>
          cases taken
          exact stays (gate_unmoved (by rw [here]; rfl) (by rw [here]; rfl))
      · next here =>
          cases taken
          exact stays (gate_unmoved (by rw [here]; rfl) (by rw [here]; rfl))
      · cases taken
  | reopen thread =>
      obtain ⟨here, ended⟩ := Option.ite_none_right_eq_some.mp taken
      cases ended
      refine steps .reopen module.gate.reopen.2 ?_
      have reopened : ({ module with admission := module.admission.reopen }.move thread
          .refused).gate = module.gate.reopen.1 := by
        refine (gate_unmoved ?_ ?_).trans rfl
        · exact (congrArg DllCall.leased here).symm
        · exact (congrArg (· == DllCall.awaitingEntries) here).symm
      rw [reopened]
      rfl
  | canUnloadNowReturns thread =>
      simp only [DllModule.step, DllModule.canUnloadNowReturns] at taken
      split at taken
      · next here =>
          cases taken
          exact stays (gate_unmoved (by rw [here]; rfl) (by rw [here]; rfl))
      · next here =>
          cases taken
          exact stays (gate_unmoved (by rw [here]; rfl) (by rw [here]; rfl))
      · cases taken
  | createInstance | releaseFactory | releaseEngine =>
      obtain ⟨-, ended⟩ := Option.ite_none_right_eq_some.mp taken
      cases ended
      exact stays rfl
  | lockServer lock =>
      simp only [DllModule.step, DllModule.lockServer] at taken
      split at taken
      · split at taken
        · cases taken
          exact stays rfl
        · split at taken
          · cases taken
            exact stays rfl
          · cases taken
      · cases taken

/-- **Every run of the DLL is one of the gate**, so what holds of the gate holds in it. -/
theorem gate_reaches {guard : DllModule → DllAction → Prop} {trace : List DllObservation}
    (reached : dllMachine.Reaches guard trace module) :
    ∃ seen, gateMachine.Reaches Machine.anyStep seen module.gate := by
  refine reached.induct (motive := fun _ module =>
    ∃ seen, gateMachine.Reaches Machine.anyStep seen module.gate) ?_ ?_
  · rintro _ rfl
    exact ⟨[], {}, rfl, .refl⟩
  · rintro _ _ _ _ _ - ⟨seen, start, initial, before⟩ - taken
    obtain ⟨later, run⟩ := gate_step taken
    exact ⟨seen ++ later, start, initial, before.trans run⟩

end Gate

end ModernSapi
