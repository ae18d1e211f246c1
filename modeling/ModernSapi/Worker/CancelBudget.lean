import ModernSapi.Worker.Watchdog

/-!
# The budget of a cancellation

A cancellation is given a deadline, and `evaluateTimeouts` checks that deadline first. It then
goes on to the inactivity condition, which asks whether the provider's side is active.
`TransitionToCancelling` does not change that side, so a cancelled request that has had no
terminal record is still watched for inactivity, from a last progress that may be old when
the cancellation begins.

`cancellation_budget_iff` says for one state when the deadline is respected, and
`cancellation_keeps_budget` which runs respect it. The others have a request that starts to
cancel when less than the timeout of a cancellation is left of the inactivity timeout
(`rejected_late`).
-/

set_option autoImplicit false

namespace ModernSapi

open Interleaving SpeechStatePolicy SpeechWorker

/-- The tick count does not go backwards: a step that asks for it is given no less than the
tick of the last progress. -/
def TicksForward (state : WorkerState) (action : WorkerAction) : Prop :=
  ∀ now ∈ action.now?, state.worker.lastProviderProgressTick ≤ now

instance (state : WorkerState) : DecidablePred (TicksForward state) :=
  fun _ => inferInstanceAs (Decidable (∀ _ ∈ _, _))

/-- The deadline of the cancellation that a step may begin: an abort or `CancelAndDrain`, or
a batch of the request that SAPI has rejected. -/
def WorkerState.deadlineSet? (state : WorkerState) : WorkerAction → Option ℕ
  | .beginCancellation deadlineTick => some deadlineTick
  | .batchOutcome now =>
      match state.audio with
      | .batchDone token _ false =>
          if state.context.token = token then some (now + cancellationTimeoutMs) else none
      | _ => none
  | _ => none

/-- A request whose provider side is active starts to cancel with a deadline that comes no
later than the inactivity timeout after its last progress. -/
def CancelsInTime (state : WorkerState) (action : WorkerAction) : Prop :=
  ∀ deadline ∈ state.deadlineSet? action,
    state.context.downstreamState = .speaking → state.context.upstreamState = .active →
      deadline ≤ state.worker.lastProviderProgressTick + synthesisInactivityTimeoutMs

instance (state : WorkerState) : DecidablePred (CancelsInTime state) :=
  fun _ => inferInstanceAs (Decidable (∀ _ ∈ _, _))

namespace SpeechWorker

/-- The inactivity condition cannot be met before the deadline of the cancellation. -/
def KeepsBudget (worker : SpeechWorker) : Prop :=
  worker.context.upstreamState = .active →
    worker.context.cancellationDeadlineTick ≤
      worker.lastProviderProgressTick + synthesisInactivityTimeoutMs

/-- **One cancellation**: nothing times out before the deadline exactly when the worker keeps
the budget. -/
theorem cancellation_budget_iff {worker : SpeechWorker}
    (cancelling : worker.context.downstreamState = .cancelling) :
    (∀ now < worker.context.cancellationDeadlineTick,
      (evaluateTimeouts worker.context now worker.lastProviderProgressTick
        synthesisInactivityTimeoutMs).condition = .none) ↔ worker.KeepsBudget := by
  have notAwaiting : worker.context.isAwaitingTerminalAudio = false := by
    simp [RequestContext.isAwaitingTerminalAudio, cancelling]
  constructor
  · intro quiet active
    by_contra late
    have timedOut := quiet
      (worker.lastProviderProgressTick + synthesisInactivityTimeoutMs) (by omega)
    have watched : worker.context.isActivelySynthesizing = true := by
      simp [RequestContext.isActivelySynthesizing, active]
    unfold evaluateTimeouts at timedOut
    rw [if_neg (by omega), if_pos ⟨.inl watched, by omega, by omega⟩] at timedOut
    cases timedOut
  · intro budget now early
    unfold evaluateTimeouts
    rw [if_neg (by omega)]
    by_cases active : worker.context.upstreamState = .active
    · have within := budget active
      rw [if_neg (by omega)]
    · have unwatched : worker.context.isActivelySynthesizing = false := by
        simpa [RequestContext.isActivelySynthesizing] using active
      rw [if_neg (by simp [unwatched, notAwaiting])]

/-- A later progress leaves more of the budget. -/
theorem KeepsBudget.evaluateTimeouts {worker : SpeechWorker} (budget : worker.KeepsBudget)
    (cancelling : worker.context.downstreamState = .cancelling) {now tick : ℕ}
    (early : now < worker.context.cancellationDeadlineTick)
    (recorded : worker.lastProviderProgressTick ≤ tick) :
    (SpeechStatePolicy.evaluateTimeouts worker.context now tick
      synthesisInactivityTimeoutMs).condition = .none := by
  have later : KeepsBudget { worker with lastProviderProgressTick := tick } :=
    fun active => Nat.le_trans (budget active) (Nat.add_le_add_right recorded _)
  exact (cancellation_budget_iff (show RequestContext.downstreamState
    { worker with lastProviderProgressTick := tick }.context = _ from cancelling)).mpr later now early

/-! ## How a worker cancels -/

/-- The request was cancelled before, with the same deadline. Its progress may be later, and
its provider side may have ended. -/
structure StaysCancelling (before after : SpeechWorker) : Prop where
  cancelling : before.context.downstreamState = .cancelling
  deadline : after.context.cancellationDeadlineTick = before.context.cancellationDeadlineTick
  upstream : after.context.upstreamState = .active → before.context.upstreamState = .active
  tick : before.lastProviderProgressTick ≤ after.lastProviderProgressTick

theorem StaysCancelling.refl {worker : SpeechWorker}
    (cancelling : worker.context.downstreamState = .cancelling) : StaysCancelling worker worker :=
  ⟨cancelling, rfl, id, Nat.le_refl _⟩

theorem StaysCancelling.keepsBudget {before after : SpeechWorker}
    (stays : StaysCancelling before after) (budget : before.KeepsBudget) : after.KeepsBudget := by
  intro active
  rw [stays.deadline]
  exact Nat.le_trans (budget (stays.upstream active)) (Nat.add_le_add_right stays.tick _)

/-- The request has started to cancel, and nothing else has changed. -/
structure EntersCancelling (before after : SpeechWorker) (deadline : ℕ) : Prop where
  speaking : before.context.downstreamState = .speaking
  deadlineSet : after.context.cancellationDeadlineTick = deadline
  upstream : after.context.upstreamState = before.context.upstreamState
  tick : after.lastProviderProgressTick = before.lastProviderProgressTick

variable {worker : SpeechWorker} {now : ℕ} {chunk : List UInt8} {token : RequestToken}
  {delivered : ℕ} {writeAccepted forward : Bool} {event : ProviderControlEvent}

theorem BoundaryOutcome.cancelling {checked : SpeechWorker × Bool × List Observation}
    (outcome : BoundaryOutcome worker checked)
    (cancelling : (checked.1.pendFault checked.2.1).context.downstreamState = .cancelling) :
    StaysCancelling worker (checked.1.pendFault checked.2.1) := by
  cases outcome with
  | continues => exact .refl cancelling
  | overrun speaking => cases speaking.symm.trans cancelling
  | failed | completed | drained => cases cancelling

theorem IngestOutcome.cancelling
    {result : SpeechWorker × AudioIngestResult × List Observation}
    (outcome : IngestOutcome worker now chunk result)
    (forward_ : worker.lastProviderProgressTick ≤ now)
    (cancelling : result.1.context.downstreamState = .cancelling) :
    StaysCancelling worker result.1 := by
  cases outcome with
  | unexpected idle => cases idle.symm.trans cancelling
  | discarded faulted => cases faulted.symm.trans cancelling
  | drained before outcome =>
      have stays := outcome.cancelling cancelling
      exact ⟨before, stays.deadline, stays.upstream, Nat.le_trans forward_ stays.tick⟩
  | retained speaking _ outcome =>
      cases speaking.symm.trans (outcome.cancelling cancelling).cancelling
  | framed speaking => cases speaking.symm.trans cancelling

theorem DeliveryOutcome.cancelling {result : SpeechWorker × Bool × ℕ × List Observation}
    (outcome : DeliveryOutcome worker now token delivered writeAccepted result)
    (cancelling : result.1.context.downstreamState = .cancelling) :
    StaysCancelling worker result.1 ∨
      (writeAccepted = false ∧ worker.context.token = token ∧
        EntersCancelling worker result.1 (now + cancellationTimeoutMs)) := by
  cases outcome with
  | ignored => exact .inl (.refl cancelling)
  | accepted _ speaking outcome =>
      cases speaking.symm.trans (outcome.cancelling cancelling).cancelling
  | rejected matching speaking => exact .inr ⟨rfl, matching, speaking, rfl, rfl, rfl⟩
  | rejectedFaulted _ speaking => cases speaking.symm.trans cancelling
  | drained _ _ outcome => exact .inl (outcome.cancelling cancelling)

theorem EventOutcome.cancelling
    {result : SpeechWorker × ControlEventDisposition × List Observation}
    (outcome : EventOutcome worker event forward result)
    (cancelling : result.1.context.downstreamState = .cancelling) :
    StaysCancelling worker result.1 := by
  cases outcome with
  | unchanged => exact .refl cancelling
  | malformed => exact ⟨cancelling, rfl, id, Nat.le_refl _⟩
  | fatal => exact ⟨cancelling, rfl, id, Nat.le_refl _⟩
  | terminalApplied _ _ _ _ _ outcome =>
      have stays := outcome.cancelling cancelling
      refine ⟨stays.cancelling, stays.deadline, fun active => ?_, stays.tick⟩
      have target := stays.upstream active
      simp only [applyTerminal, terminalTarget] at target
      split at target <;> cases target
  | terminalFault | utteranceFailed => cases cancelling

theorem staysCancelling_handleMissingSpeakIdLocked
    (cancelling : worker.handleMissingSpeakIdLocked.context.downstreamState = .cancelling) :
    StaysCancelling worker worker.handleMissingSpeakIdLocked := by
  obtain ⟨failed, same⟩ := worker.handleMissingSpeakIdLocked_eq
  rw [same] at cancelling ⊢
  cases failed with
  | true => exact ⟨cancelling, rfl, id, Nat.le_refl _⟩
  | false => exact .refl cancelling

end SpeechWorker

section Steps

variable {state next : WorkerState} {action : WorkerAction} {trace events : List Observation}

/-- **A request that is cancelled after a step** was cancelled before, or begins to cancel
with the deadline the step sets. -/
theorem WorkerStep.cancelling_cases (taken : WorkerStep state action next events)
    (forward : TicksForward state action)
    (cancelling : next.context.downstreamState = .cancelling) :
    StaysCancelling state.worker next.worker ∨
      ∃ deadline ∈ state.deadlineSet? action,
        EntersCancelling state.worker next.worker deadline := by
  cases taken with
  | chunkTaken _ _ outcome => exact .inl (outcome.cancelling (forward _ rfl) cancelling)
  | assemblyFailed _ _ speaking => cases speaking.symm.trans cancelling
  | @batchSettled now _ _ writeAccepted _ here outcome =>
      refine (outcome.cancelling cancelling).imp id ?_
      rintro ⟨rfl, matching, begins⟩
      refine ⟨now + cancellationTimeoutMs, ?_, begins⟩
      simp only [WorkerState.deadlineSet?, here, if_pos matching]
      rfl
  | recordUnaddressed => exact .inl (staysCancelling_handleMissingSpeakIdLocked cancelling)
  | @recordHandled now event _ _ _ outcome =>
      have stays := outcome.cancelling cancelling
      refine .inl ⟨stays.cancelling, stays.deadline, stays.upstream, ?_⟩
      refine Nat.le_trans ?_ stays.tick
      rw [refreshProgress]
      split
      · exact forward _ rfl
      · exact Nat.le_refl _
  | started | faultEntered | stopped => cases cancelling
  | faultRepeated =>
      rw [WorkerState.context, WorkerState.leaveFaulted_worker] at cancelling
      cases cancelling
  | faultPublished =>
      simp only [WorkerState.context, WorkerState.leaveFaulted_worker] at cancelling ⊢
      exact .inl ⟨cancelling, rfl, id, Nat.le_refl _⟩
  | cancellationBegun speaking => exact .inr ⟨_, rfl, speaking, rfl, rfl, rfl⟩
  | _ => exact .inl (.refl cancelling)

/-- **A cancellation keeps its full budget** in every run in which no request whose provider
side is active starts to cancel with a deadline beyond the inactivity timeout: before the
deadline of a cancelled request nothing times out, with the tick of its last progress and
with any later one. -/
theorem cancellation_keeps_budget
    (reached : workerMachine.Reaches
      (fun state action => TicksForward state action ∧ CancelsInTime state action) trace state)
    (cancelling : state.context.downstreamState = .cancelling) {now tick : ℕ}
    (early : now < state.context.cancellationDeadlineTick)
    (recorded : state.worker.lastProviderProgressTick ≤ tick) :
    (evaluateTimeouts state.context now tick synthesisInactivityTimeoutMs).condition = .none := by
  have budget : state.worker.KeepsBudget := by
    refine reached.induct (motive := fun _ state =>
      state.context.downstreamState = .cancelling → state.worker.KeepsBudget) ?_ ?_ cancelling
    · rintro _ ⟨blockAlign, positive, rfl⟩ other
      cases other
    · rintro _ _ state next action - ih ⟨forward, inTime⟩ taken after
      rcases (step_spec taken).cancelling_cases forward after with
        stays | ⟨deadline, set, begins⟩
      · exact stays.keepsBudget (ih stays.cancelling)
      · intro active
        rw [begins.deadlineSet, begins.tick]
        exact inTime deadline set begins.speaking (begins.upstream.symm.trans active)
  exact budget.evaluateTimeouts cancelling early recorded

end Steps

/-- A request that is aborted 900 ms after its last audio. -/
def abortedInTime : List WorkerAction :=
  [.start 0 1, .audioChunk 100 [1, 2], .beginCancellation 1500]

theorem cancellation_keeps_budget_aborted :
    let state := workerMachine.finalState (.initial 2 (by decide)) abortedInTime
    (evaluateTimeouts state.context 1499 state.worker.lastProviderProgressTick
      synthesisInactivityTimeoutMs).condition = .none :=
  cancellation_keeps_budget ⟨_, ⟨_, _, rfl⟩,
    workerMachine.run_finalState (.initial 2 (by decide)) abortedInTime (by decide) (by decide)⟩
    (by decide) (by decide) (Nat.le_refl _)

/-- A request whose audio SAPI rejects 1400 ms after it was read. -/
def rejectedLate : List WorkerAction :=
  [.start 0 1, .audioChunk 100 [1, 2], .spanAdmission, .onAudioDataReturns false,
    .batchOutcome 1500]

/-- A cancellation that has 400 of its 500 ms left times out for inactivity. -/
theorem rejected_late :
    ¬∀ trace state, workerMachine.Reaches TicksForward trace state →
      state.context.downstreamState = .cancelling →
        ∀ now < state.context.cancellationDeadlineTick,
          (evaluateTimeouts state.context now state.worker.lastProviderProgressTick
            synthesisInactivityTimeoutMs).condition = .none := by
  intro always
  have quiet := always _ _ ⟨_, ⟨2, by decide, rfl⟩,
    workerMachine.run_finalState (.initial 2 (by decide)) rejectedLate (by decide) (by decide)⟩
    (by decide) 1600 (by decide)
  exact absurd quiet (by decide)

end ModernSapi
