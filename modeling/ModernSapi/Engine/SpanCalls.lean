import ModernSapi.Engine.Callbacks

/-!
# The last call of `OnAudioData`

The audio thread admits a span under the request mutex, releases it, and calls out. The
request can be aborted, drained, stopped or faulted between the admission and the call. The
machine here is that of a worker with the beginning of each call as a step of its own.

`delivery_stops`: once a request has left `Speaking`, or a fault of it is pending, none of
its spans is admitted any more, whatever request is spoken later, and the one call that may
still begin is for the span that had been admitted by then.
-/

set_option autoImplicit false

namespace ModernSapi

open Interleaving SpeechWorker WorkerState

/-- A worker, and whether the call for the admitted span has begun. -/
structure SpanCaller where
  worker : WorkerState
  calling : Bool := false
  deriving DecidableEq

inductive SpanObservation where
  | worker (event : Observation)
  | onAudioData (token : RequestToken) (span : List UInt8)
  deriving DecidableEq, Repr

inductive SpanAction where
  | worker (action : WorkerAction)
  | onAudioDataBegins
  deriving DecidableEq

/-- The step ends a call of `OnAudioData`. -/
def WorkerAction.endsCall : WorkerAction → Bool
  | .onAudioDataReturns _ => true
  | _ => false

namespace SpanCaller

def initial (blockAlign : ℕ) (positive : 0 < blockAlign) : SpanCaller where
  worker := .initial blockAlign positive

def stepWorker (caller : SpanCaller) (action : WorkerAction) :
    Option (SpanCaller × List SpanObservation) :=
  if action.endsCall = true ∧ caller.calling = false then none
  else
    match caller.worker.step action with
    | some (worker, events) =>
        some ({ worker, calling := caller.calling && !action.endsCall }, events.map .worker)
    | none => none

def onAudioDataBegins (caller : SpanCaller) : Option (SpanCaller × List SpanObservation) :=
  match caller.worker.audio, caller.calling with
  | .onAudioData batch span, false =>
      some ({ caller with calling := true }, [.onAudioData batch.token span])
  | _, _ => none

def step (caller : SpanCaller) : SpanAction → Option (SpanCaller × List SpanObservation)
  | .worker action => caller.stepWorker action
  | .onAudioDataBegins => caller.onAudioDataBegins

/-- The span of the request that is admitted and whose call has not begun. -/
def admitted (caller : SpanCaller) (generation : ℕ) : List (List UInt8) :=
  match caller.worker.audio, caller.calling with
  | .onAudioData batch span, false => if batch.token.generation = generation then [span] else []
  | _, _ => []

end SpanCaller

/-- The machine of a worker and the calls of its audio thread. -/
def spanMachine : Machine SpanCaller SpanAction SpanObservation where
  init caller := ∃ blockAlign positive, caller = .initial blockAlign positive
  step := SpanCaller.step

/-- The request of the generation is spoken, and no fault is pending. -/
def WorkerState.Admits (state : WorkerState) (generation : ℕ) : Prop :=
  state.context.token.generation = generation ∧ state.context.AdmitsSpans

instance (state : WorkerState) (generation : ℕ) : Decidable (state.Admits generation) :=
  inferInstanceAs (Decidable (_ ∧ _))

/-- The spans of a request that are admitted. -/
def admissionsOf (generation : ℕ) (trace : List SpanObservation) : List (List UInt8) :=
  trace.flatMap fun
    | .worker (.spanHanded owner span) => if owner = generation then [span] else []
    | _ => []

/-- The spans of a request that `OnAudioData` is called for. -/
def callsOf (generation : ℕ) (trace : List SpanObservation) : List (List UInt8) :=
  trace.flatMap fun
    | .onAudioData token span => if token.generation = generation then [span] else []
    | _ => []

section Traces

variable {generation : ℕ} {trace events : List SpanObservation}

@[simp] theorem admissionsOf_append : admissionsOf generation (trace ++ events) =
    admissionsOf generation trace ++ admissionsOf generation events :=
  List.flatMap_append

@[simp] theorem callsOf_append : callsOf generation (trace ++ events) =
    callsOf generation trace ++ callsOf generation events :=
  List.flatMap_append

@[simp] theorem callsOf_map_worker (observed : List Observation) :
    callsOf generation (observed.map .worker) = [] := by
  refine List.flatMap_eq_nil_iff.mpr fun event member => ?_
  obtain ⟨_, -, rfl⟩ := List.mem_map.mp member
  rfl

theorem admissionsOf_map_worker {observed : List Observation}
    (none : ∀ span, .spanHanded generation span ∉ observed) :
    admissionsOf generation (observed.map .worker) = [] := by
  refine List.flatMap_eq_nil_iff.mpr fun event member => ?_
  obtain ⟨inner, inside, rfl⟩ := List.mem_map.mp member
  cases inner with
  | spanHanded owner span =>
      have other : owner ≠ generation := by
        rintro rfl
        exact none span inside
      exact if_neg other
  | _ => rfl

end Traces

/-! ## The steps of the worker -/

section Worker

variable {worker : SpeechWorker} {state next : WorkerState} {action : WorkerAction}
  {events : List Observation} {generation now delivered : ℕ} {chunk span : List UInt8}
  {token : RequestToken} {writeAccepted forward : Bool} {event : ProviderControlEvent}

theorem SpeechWorker.BoundaryOutcome.not_handed {checked : SpeechWorker × Bool × List Observation}
    (outcome : BoundaryOutcome worker checked) : .spanHanded generation span ∉ checked.2.2 := by
  cases outcome <;> simp

theorem SpeechWorker.IngestOutcome.not_handed
    {result : SpeechWorker × AudioIngestResult × List Observation}
    (outcome : IngestOutcome worker now chunk result) :
    .spanHanded generation span ∉ result.2.2 := by
  cases outcome with
  | drained _ outcome | retained _ _ outcome => simpa using outcome.not_handed
  | _ => simp

theorem SpeechWorker.DeliveryOutcome.not_handed
    {result : SpeechWorker × Bool × ℕ × List Observation}
    (outcome : DeliveryOutcome worker now token delivered writeAccepted result) :
    .spanHanded generation span ∉ result.2.2.2 := by
  cases outcome with
  | accepted _ _ outcome | drained _ _ outcome => exact outcome.not_handed
  | _ => simp

theorem SpeechWorker.EventOutcome.not_handed
    {result : SpeechWorker × ControlEventDisposition × List Observation}
    (outcome : EventOutcome worker event forward result) :
    .spanHanded generation span ∉ result.2.2 := by
  cases outcome with
  | terminalApplied _ _ _ _ _ outcome => simpa using outcome.not_handed
  | _ => simp

/-- **A span is admitted** while its request is spoken and no fault is pending, and the
admission leaves the request as it is. -/
theorem WorkerStep.handed (taken : WorkerStep state action next events)
    (member : .spanHanded generation span ∈ events) :
    state.Admits generation ∧ next.context = state.context := by
  cases taken with
  | spanHanded _ _ matching speaking noFault =>
      cases List.mem_singleton.mp member
      exact ⟨⟨congrArg RequestToken.generation matching, speaking, noFault⟩, rfl⟩
  | chunkTaken _ _ outcome => exact absurd member outcome.not_handed
  | batchSettled _ outcome => exact absurd member outcome.not_handed
  | recordHandled _ _ outcome => exact absurd member outcome.not_handed
  | _ => simp at member

/-- The span loop leaves the request as it is. -/
theorem WorkerStep.spanAdmission_context
    (taken : WorkerStep state .spanAdmission next events) : next.context = state.context := by
  cases taken <;> rfl

/-- **A request that admits no span admits none later.** -/
theorem WorkerStep.not_admits (taken : WorkerStep state action next events)
    (invariant : WorkerInvariant state) (closed : ¬state.Admits generation)
    (issued : generation ≤ state.context.token.generation) :
    ¬next.Admits generation ∧ generation ≤ next.context.token.generation := by
  by_cases starts : ∃ now speakId, action = .start now speakId
  · obtain ⟨now, speakId, rfl⟩ := starts
    cases taken with
    | started =>
        have counter := invariant.consistent.generation
        have fresh : generation < state.worker.generationCounter + 1 := by
          rw [← counter]
          exact Nat.lt_succ_of_le issued
        exact ⟨fun admits => Nat.ne_of_gt fresh admits.1, Nat.le_of_lt fresh⟩
    | startRejected => exact ⟨closed, issued⟩
  · have notStart (now speakId : ℕ) : action ≠ .start now speakId :=
      fun same => starts ⟨now, speakId, same⟩
    rw [taken.token notStart]
    refine ⟨fun admits => closed ?_, issued⟩
    obtain ⟨before, token⟩ := taken.admitsSpans invariant notStart admits.2
    exact ⟨(congrArg RequestToken.generation token).symm.trans admits.1, before⟩

end Worker

/-! ## The calls -/

section Calls

variable {caller next final : SpanCaller} {action : SpanAction} {generation : ℕ}
  {trace events later : List SpanObservation}

/-- The cases of a step. -/
inductive SpanStep (caller : SpanCaller) : SpanAction → SpanCaller → List SpanObservation → Prop where
  | worker {action : WorkerAction} {worker : WorkerState} {events : List Observation}
      (inCall : action.endsCall = true → caller.calling = true)
      (taken : WorkerStep caller.worker action worker events) :
      SpanStep caller (.worker action)
        { worker, calling := caller.calling && !action.endsCall } (events.map .worker)
  | begins {batch : Batch} {span : List UInt8} (here : caller.worker.audio = .onAudioData batch span)
      (notYet : caller.calling = false) :
      SpanStep caller .onAudioDataBegins { caller with calling := true }
        [.onAudioData batch.token span]

theorem spanStep_spec (taken : caller.step action = some (next, events)) :
    SpanStep caller action next events := by
  cases action with
  | worker action =>
      simp only [SpanCaller.step, SpanCaller.stepWorker] at taken
      obtain ⟨allowed, taken⟩ := Option.ite_none_left_eq_some.mp taken
      split at taken
      · next stepped =>
          cases taken
          refine .worker (fun ends => ?_) (step_spec stepped)
          by_contra notYet
          exact allowed ⟨ends, Bool.eq_false_iff.mpr notYet⟩
      · cases taken
  | onAudioDataBegins =>
      simp only [SpanCaller.step, SpanCaller.onAudioDataBegins] at taken
      split at taken
      · next here notYet =>
          cases taken
          exact .begins here notYet
      · cases taken

/-- **A step that admits nothing of the request** calls for no span of it but the one that is
admitted, and then none is. -/
theorem SpanStep.calls (generation : ℕ) (taken : SpanStep caller action next events)
    (noAdmission : action ≠ .worker .spanAdmission ∨ ¬caller.worker.Admits generation) :
    callsOf generation events ++ next.admitted generation <+: caller.admitted generation := by
  cases taken with
  | @worker inner worker observed inCall taken =>
      rw [callsOf_map_worker, List.nil_append]
      cases there : worker.audio with
      | onAudioData batch span =>
          by_cases admission : inner = .spanAdmission
          · subst admission
            have refused := noAdmission.resolve_left (not_not_intro rfl)
            cases taken with
            | spansEnd => cases there
            | spanHanded here _ matching speaking noFault =>
                cases there
                have other : caller.worker.context.token.generation ≠ generation :=
                  fun same => refused ⟨same, speaking, noFault⟩
                cases caller.calling <;>
                  simp [SpanCaller.admitted, WorkerAction.endsCall, here, ← matching, other]
          · obtain ⟨here, stays⟩ := taken.onAudioData_kept admission there
            have goesOn : inner.endsCall = false := by
              cases inner with
              | onAudioDataReturns accepted => exact absurd rfl (stays accepted)
              | _ => rfl
            simp [SpanCaller.admitted, here, there, goesOn]
      | _ =>
          have none : SpanCaller.admitted
              { worker, calling := caller.calling && !inner.endsCall } generation = [] := by
            simp [SpanCaller.admitted, there]
          rw [none]
          exact List.nil_prefix
  | begins here notYet => simp [SpanCaller.admitted, callsOf, here, notYet]

/-- The worker of a run runs. -/
theorem span_reaches_worker (reached : spanMachine.Reaches Machine.anyStep trace caller) :
    WorkerInvariant caller.worker := by
  refine reached.induct (motive := fun _ caller => WorkerInvariant caller.worker) ?_ ?_
  · rintro _ ⟨blockAlign, positive, rfl⟩
    exact .initial blockAlign positive
  · intro _ _ _ _ _ _ invariant _ taken
    cases spanStep_spec taken with
    | worker _ stepped => exact invariant.step stepped
    | begins => exact invariant

/-- A request that admits no span, after its start. -/
structure Closed (caller : SpanCaller) (generation : ℕ) : Prop where
  invariant : WorkerInvariant caller.worker
  refuses : ¬caller.worker.Admits generation
  issued : generation ≤ caller.worker.context.token.generation

/-- A step of a closed request admits nothing of it. -/
theorem Closed.step (closed : Closed caller generation)
    (taken : SpanStep caller action next events) :
    Closed next generation ∧ admissionsOf generation events = [] ∧
      callsOf generation events ++ next.admitted generation <+: caller.admitted generation := by
  refine ⟨?_, ?_, taken.calls generation (.inr closed.refuses)⟩
  · cases taken with
    | worker _ taken =>
        obtain ⟨refuses, issued⟩ := taken.not_admits closed.invariant closed.refuses closed.issued
        exact ⟨closed.invariant.step taken, refuses, issued⟩
    | begins => exact ⟨closed.invariant, closed.refuses, closed.issued⟩
  · cases taken with
    | worker _ taken =>
        refine admissionsOf_map_worker fun span member => ?_
        exact closed.refuses (taken.handed member).1
    | begins => rfl

/-- Neither does a run. -/
theorem Closed.run (closed : Closed caller generation)
    (run : spanMachine.Run Machine.anyStep caller later final) :
    admissionsOf generation later = [] ∧
      callsOf generation later ++ final.admitted generation <+: caller.admitted generation := by
  have kept : Closed final generation ∧ admissionsOf generation later = [] ∧
      callsOf generation later ++ final.admitted generation <+: caller.admitted generation := by
    refine run.induct (motive := fun later final => Closed final generation ∧
      admissionsOf generation later = [] ∧
      callsOf generation later ++ final.admitted generation <+: caller.admitted generation) ?_ ?_
    · exact ⟨closed, rfl, List.prefix_rfl⟩
    · intro later events state next action _ ⟨stays, noneBefore, calls⟩ _ taken
      obtain ⟨after, noMore, more⟩ := stays.step (spanStep_spec taken)
      refine ⟨after, ?_, ?_⟩
      · rw [admissionsOf_append, noneBefore, noMore]
        rfl
      · rw [callsOf_append, List.append_assoc]
        exact ((List.prefix_append_right_inj _).mpr more).trans calls
  exact kept.2

/-- At most one span is admitted and not yet called for. -/
theorem SpanCaller.length_admitted_le (caller : SpanCaller) (generation : ℕ) :
    (caller.admitted generation).length ≤ 1 := by
  unfold SpanCaller.admitted
  split
  · split <;> simp
  · simp

/-- **Delivery stops when a request leaves `Speaking`** or a fault of it is pending: from
that step on no span of it is admitted, and `OnAudioData` is called at most once for it, with
the span that had been admitted before the step. -/
theorem delivery_stops (reached : spanMachine.Reaches Machine.anyStep trace caller)
    (admits : caller.worker.Admits generation)
    (taken : spanMachine.step caller action = some (next, events))
    (closes : ¬next.worker.Admits generation)
    (run : spanMachine.Run Machine.anyStep next later final) :
    admissionsOf generation (events ++ later) = [] ∧
      callsOf generation (events ++ later) <+: caller.admitted generation ∧
      (callsOf generation (events ++ later)).length ≤ 1 := by
  have invariant := span_reaches_worker reached
  have spec := spanStep_spec taken
  have notAdmission : action ≠ .worker .spanAdmission := by
    rintro rfl
    cases spec with
    | worker _ stepped =>
        rw [WorkerState.Admits, stepped.spanAdmission_context] at closes
        exact closes admits
  have silent : admissionsOf generation events = [] := by
    cases spec with
    | worker _ stepped =>
        refine admissionsOf_map_worker fun span member => closes ?_
        rw [WorkerState.Admits, (stepped.handed member).2]
        exact admits
    | begins => rfl
  have closed : Closed next generation := by
    cases spec with
    | @worker inner _ _ _ stepped =>
        refine ⟨invariant.step stepped, closes, ?_⟩
        by_cases starts : ∃ now speakId, inner = .start now speakId
        · obtain ⟨now, speakId, same⟩ := starts
          subst same
          cases stepped with
          | started can => exact absurd (can.2.1.symm.trans admits.2.1) nofun
          | startRejected => exact Nat.le_of_eq admits.1.symm
        · have token := stepped.token fun now speakId same => starts ⟨now, speakId, same⟩
          simp only [token]
          exact Nat.le_of_eq admits.1.symm
    | begins => exact absurd admits closes
  obtain ⟨none, calls⟩ := closed.run run
  have first := spec.calls generation (.inl notAdmission)
  have all : callsOf generation (events ++ later) <+: caller.admitted generation := by
    rw [callsOf_append]
    refine (List.prefix_append _ (final.admitted generation)).trans ?_
    rw [List.append_assoc]
    exact ((List.prefix_append_right_inj _).mpr calls).trans first
  refine ⟨?_, all, all.length_le.trans (caller.length_admitted_le generation)⟩
  rw [admissionsOf_append, silent, none]
  rfl

end Calls

/-- Two frames in two spans, and an abort after the first is admitted. -/
def abortedBetween : List SpanAction :=
  [.worker (.start 0 1), .worker (.audioChunk 1 [1]), .worker (.audioChunk 2 [2, 3, 4]),
    .worker .spanAdmission]

/-- The abort, and what the audio thread does after it. -/
def afterAbort : List SpanAction :=
  [.onAudioDataBegins, .worker (.onAudioDataReturns true), .worker .spanAdmission]

/-- The caller when the abort is observed. -/
def betweenSpans : SpanCaller :=
  spanMachine.finalState (.initial 2 (by decide)) abortedBetween

theorem delivery_stops_aborted :
    let aborted := spanMachine.finalState betweenSpans [.worker (.beginCancellation 502)]
    callsOf 1 (spanMachine.emitted aborted afterAbort) <+: betweenSpans.admitted 1 := by
  have before := spanMachine.run_finalState (.initial 2 (by decide)) abortedBetween
    (Machine.along_anyStep _ _) (by decide)
  have abort : spanMachine.step betweenSpans (.worker (.beginCancellation 502)) =
      some (spanMachine.finalState betweenSpans [.worker (.beginCancellation 502)], []) := by
    decide +kernel
  have after := spanMachine.run_finalState
    (spanMachine.finalState betweenSpans [.worker (.beginCancellation 502)]) afterAbort
    (Machine.along_anyStep _ _) (by decide)
  exact (delivery_stops ⟨_, ⟨2, by decide, rfl⟩, before⟩ (by decide) abort (by decide) after).2.1

end ModernSapi
