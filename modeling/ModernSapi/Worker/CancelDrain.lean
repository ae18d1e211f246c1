import ModernSapi.Worker.Quarantine
import ModernSapi.Worker.RequestMove

/-!
# Draining a cancelled request

A cancelled request reads on without delivering, until the terminal record of the
provider has arrived and the bytes it declares have been read. The provider
promises exactly that many bytes, and a request that reads more is meant to
quarantine the session.

The check compares with `≥`. So a chunk that crosses the declared end, or a record
that declares less than was read already, ends the request as if it were exact
(`cancellation_drains_excess`). `drainedExactly_iff` says when this happens: a run
drains every cancelled request exactly if and only if none of its steps reads past
the declared end of a cancelled request, or declares an end that was passed.
-/

set_option autoImplicit false

namespace ModernSapi

open Interleaving SpeechWorker

/-- What a step away from a cancelled request must respect. -/
structure DrainedExactly (state : WorkerState) (action : WorkerAction) (next : WorkerState) :
    Prop where
  /-- A request that ends cleanly has read what its terminal record declared. A
  request given up by `Stop` is not ended by a terminal record. -/
  exact : state.context.downstreamState = .cancelling →
    next.context.downstreamState = .idle → next.context.completionHr = .sOk → action ≠ .stop →
    next.context.upstreamFinished = true ∧
      next.context.rawAudioBytesRead = next.context.upstreamTerminalBytes
  /-- A request that has read more than declared is quarantined. -/
  excess : state.context.downstreamState = .cancelling → next.context.upstreamFinished = true →
    next.context.upstreamTerminalBytes < next.context.rawAudioBytesRead →
    next.worker.isFaulted = true

/-- The record declares the end of the current request, and is in order. -/
structure DeclaresEnd (worker : SpeechWorker) (event : ProviderControlEvent) : Prop where
  addressed : event.speakId ≠ 0
  matching : event.speakId = worker.context.token.speakId
  terminal : event.isTerminal = true
  unfinished : worker.context.upstreamFinished = false
  valid : event.hasValidTerminalBytes = true
  aligned : worker.frameAssembler.blockAlign ∣ event.terminalAudioBytes

instance (worker : SpeechWorker) (event : ProviderControlEvent) :
    Decidable (DeclaresEnd worker event) :=
  decidable_of_iff
    (event.speakId ≠ 0 ∧ event.speakId = worker.context.token.speakId ∧ event.isTerminal = true ∧
      worker.context.upstreamFinished = false ∧ event.hasValidTerminalBytes = true ∧
      worker.frameAssembler.blockAlign ∣ event.terminalAudioBytes)
    ⟨fun ⟨addressed, matching, terminal, unfinished, valid, aligned⟩ =>
      ⟨addressed, matching, terminal, unfinished, valid, aligned⟩,
      fun ⟨addressed, matching, terminal, unfinished, valid, aligned⟩ =>
        ⟨addressed, matching, terminal, unfinished, valid, aligned⟩⟩

theorem DeclaresEnd.not_boundary {worker : SpeechWorker} {event : ProviderControlEvent}
    (declares : DeclaresEnd worker event) : event.isSpeechBoundary ≠ true := by
  intro boundary
  have terminal := declares.terminal
  rw [event.not_terminal_of_boundary boundary] at terminal
  cases terminal

theorem DeclaresEnd.not_log {worker : SpeechWorker} {event : ProviderControlEvent}
    (declares : DeclaresEnd worker event) : event.type ≠ .log := by
  intro log
  have terminal := declares.terminal
  rw [event.not_terminal_of_log log] at terminal
  cases terminal

/-- The step reads nothing past the declared end of a cancelled request, and
declares no end that was passed. -/
def StaysWithinDeclared (state : WorkerState) : WorkerAction → Prop
  | .audioChunk _ chunk =>
      state.context.downstreamState = .cancelling → state.context.upstreamFinished = true →
        state.context.rawAudioBytesRead + chunk.length ≤ state.context.upstreamTerminalBytes
  | .controlRecord _ event =>
      state.context.downstreamState = .cancelling → DeclaresEnd state.worker event →
        state.context.rawAudioBytesRead ≤ event.terminalAudioBytes
  | _ => True

instance (state : WorkerState) : DecidablePred (StaysWithinDeclared state) := by
  intro action
  unfold StaysWithinDeclared
  split <;> infer_instance

variable {state next : WorkerState} {action : WorkerAction} {events : List Observation}

/-! ## The steps that end a drain -/

/-- The check ends a cancelled request only at its declared end, when no more than
that was read. -/
theorem drainedExactly_of_boundary {worker : SpeechWorker}
    {checked : SpeechWorker × Bool × List Observation} (outcome : BoundaryOutcome worker checked)
    (settled : worker.Settled) (cancelling : worker.context.downstreamState = .cancelling)
    (within : worker.context.upstreamFinished = true →
      worker.context.rawAudioBytesRead ≤ worker.context.upstreamTerminalBytes)
    {audio : AudioThread} {control : ControlThread} {publisher : Option Thread} :
    DrainedExactly state action
      { worker := checked.1.pendFault checked.2.1, audio, control, publisher } := by
  cases outcome with
  | continues _ goesOn =>
      refine ⟨fun _ idle => ?_, fun _ finished excess => ?_⟩
      · simp [WorkerState.context, cancelling] at idle
      · exact absurd excess (Nat.not_lt_of_lt (goesOn.cancelling cancelling finished))
  | failed failed => exact absurd failed settled.notFailed
  | overrun speaking => simp [cancelling] at speaking
  | completed speaking => simp [cancelling] at speaking
  | drained _ finished enough =>
      refine ⟨fun _ _ _ _ => ⟨finished, Nat.le_antisymm (within finished) enough⟩,
        fun _ _ excess => ?_⟩
      exact absurd (within finished) (Nat.not_le_of_lt excess)

/-- A step that leaves the context of the request as it is drains nothing. -/
theorem drainedExactly_of_context (consistent : state.worker.Consistent)
    (same : next.context = state.context) : DrainedExactly state action next where
  exact cancelling idle := by
    rw [same, cancelling] at idle
    cases idle
  excess cancelling finished excess := by
    rw [same] at finished excess
    exact absurd excess (Nat.not_lt_of_lt (consistent.draining cancelling finished))

/-- A step to a faulted engine side drains nothing. -/
theorem drainedExactly_of_faulted (faulted : next.context.downstreamState = .faulted) :
    DrainedExactly state action next where
  exact _ idle := by
    rw [faulted] at idle
    cases idle
  excess _ _ _ := isFaulted_of_downstream faulted

/-- A step of another state than a cancelled one drains nothing. -/
theorem drainedExactly_of_other (other : state.context.downstreamState ≠ .cancelling) :
    DrainedExactly state action next where
  exact cancelling := absurd cancelling other
  excess cancelling := absurd cancelling other

theorem drainedExactly_of_pending
    (same : next.context = { state.context with faultPending := true }) :
    DrainedExactly state action next where
  exact cancelling idle := by
    rw [same] at idle
    simp [cancelling] at idle
  excess _ _ _ := isFaulted_of_pending (by rw [← WorkerState.context, same])

/-- **A step within the declared end drains exactly.** -/
theorem drainedExactly_of_within (invariant : WorkerInvariant state)
    (within : StaysWithinDeclared state action) (taken : WorkerStep state action next events) :
    DrainedExactly state action next := by
  obtain ⟨consistent, publishing, -⟩ := invariant
  by_cases cancelling : state.context.downstreamState = .cancelling
  swap
  · exact drainedExactly_of_other cancelling
  cases taken with
  | chunkTaken _ _ outcome =>
      cases outcome with
      | unexpected idle => simp [cancelling] at idle
      | discarded faulted => simp [cancelling] at faulted
      | drained _ outcome =>
          exact drainedExactly_of_boundary outcome (consistent.toSettled.chunkCounted _ _)
            cancelling (within cancelling)
      | retained speaking => simp [cancelling] at speaking
      | framed speaking => simp [cancelling] at speaking
  | assemblyFailed _ _ speaking => simp [cancelling] at speaking
  | audioReadFailed | spansEnd | spanHanded | spanAccepted | spanRejected | cancellationSent
  | recordSkipped | controlReadFailed | eventDecided | eventReturned | startRejected | stopIgnored
  | cancellationIgnored =>
      exact drainedExactly_of_context consistent rfl
  | batchSettled _ outcome =>
      cases outcome with
      | ignored => exact drainedExactly_of_context consistent rfl
      | accepted _ speaking => simp [cancelling] at speaking
      | rejected _ speaking => simp [cancelling] at speaking
      | rejectedFaulted _ speaking => simp [cancelling] at speaking
      | drained _ _ outcome =>
          exact drainedExactly_of_boundary outcome consistent.toSettled cancelling
            fun finished => Nat.le_of_lt (consistent.draining cancelling finished)
  | recordUnaddressed =>
      simp only [SpeechWorker.handleMissingSpeakIdLocked]
      split
      · exact drainedExactly_of_pending rfl
      · exact drainedExactly_of_context consistent rfl
  | recordHandled _ addressed outcome =>
      cases outcome with
      | unchanged => exact drainedExactly_of_context consistent rfl
      | malformed | fatal => exact drainedExactly_of_pending rfl
      | terminalFault => exact drainedExactly_of_faulted rfl
      | terminalApplied matching terminal unfinished valid aligned outcome =>
          exact drainedExactly_of_boundary outcome
            ((consistent.refreshProgress _ _).toSettled.applyTerminal _ _) cancelling
            fun _ => within cancelling
              ⟨addressed, matching, terminal, unfinished, valid, aligned⟩
      | utteranceFailed =>
          refine ⟨fun _ _ failed => ?_, fun _ _ excess => ?_⟩
          · simp [WorkerState.context, resetToIdleLocked, applyUtteranceFailure] at failed
          · exact absurd excess (Nat.lt_irrefl _)
  | faultEntered => exact drainedExactly_of_faulted rfl
  | faultRepeated =>
      refine drainedExactly_of_faulted ?_
      rw [WorkerState.context, WorkerState.leaveFaulted_worker]
      rfl
  | faultPublished publisher =>
      have held := publishing (by rw [publisher]; rfl)
      exact absurd cancelling held.not_cancelling
  | started can =>
      have idle := can.2.1
      rw [cancelling] at idle
      cases idle
  | stopped =>
      refine ⟨fun _ _ _ other => absurd rfl other, fun _ finished excess => ?_⟩
      exact absurd excess (Nat.not_lt_of_lt (consistent.draining cancelling finished))
  | cancellationBegun speaking => simp [cancelling] at speaking

/-! ## The steps that drain an excess -/

/-- The check ends a cancelled request cleanly once more than declared was read. -/
theorem boundary_excess {worker : SpeechWorker}
    {checked : SpeechWorker × Bool × List Observation} (outcome : BoundaryOutcome worker checked)
    (settled : worker.Settled) (cancelling : worker.context.downstreamState = .cancelling)
    (finished : worker.context.upstreamFinished = true)
    (excess : worker.context.upstreamTerminalBytes < worker.context.rawAudioBytesRead) :
    checked.1 = worker.resetToIdleLocked ∧ checked.2.1 = false := by
  cases outcome with
  | continues _ goesOn =>
      exact absurd excess (Nat.not_lt_of_lt (goesOn.cancelling cancelling finished))
  | failed failed => exact absurd failed settled.notFailed
  | overrun speaking => simp [cancelling] at speaking
  | completed speaking => simp [cancelling] at speaking
  | drained => exact ⟨rfl, rfl⟩

/-- A step that is not within the declared end ends the request cleanly all the
same. -/
theorem not_drainedExactly_of_excess (invariant : WorkerInvariant state)
    (beyond : ¬StaysWithinDeclared state action) (taken : WorkerStep state action next events) :
    ¬DrainedExactly state action next := by
  intro drained
  have settled := invariant.consistent.toSettled
  cases taken with
  | @chunkTaken now chunk _ _ _ outcome =>
      simp only [StaysWithinDeclared] at beyond
      push Not at beyond
      obtain ⟨cancelling, finished, excess⟩ := beyond
      cases outcome with
      | unexpected idle => simp [cancelling] at idle
      | discarded faulted => simp [cancelling] at faulted
      | retained speaking => simp [cancelling] at speaking
      | framed speaking => simp [cancelling] at speaking
      | drained _ outcome =>
          obtain ⟨reset, clean⟩ :=
            boundary_excess outcome (settled.chunkCounted _ _) cancelling finished excess
          have ended := drained.exact cancelling
          simp only [WorkerState.context, clean, reset, pendFault_false] at ended
          have equal := (ended rfl (settled.completion (.inr cancelling)) (by simp)).2
          exact absurd excess (Nat.not_lt_of_ge (Nat.le_of_eq equal))
  | @recordHandled now event _ _ addressed outcome =>
      simp only [StaysWithinDeclared] at beyond
      push Not at beyond
      obtain ⟨cancelling, declares, excess⟩ := beyond
      have declared := declares.unfinished
      cases outcome with
      | unchanged inert =>
          have other := inert.terminal declares.matching
          rw [declares.terminal] at other
          cases other
      | malformed _ boundary => exact declares.not_boundary boundary
      | terminalFault _ _ reason =>
          cases reason with
          | duplicate finished =>
              rw [← Bool.not_eq_true] at declared
              exact declared finished
          | invalid _ bytes =>
              rw [declares.valid] at bytes
              cases bytes
          | misaligned _ _ fraction => exact fraction declares.aligned
      | fatal _ log => exact declares.not_log log
      | utteranceFailed _ log => exact declares.not_log log
      | terminalApplied _ _ _ _ _ outcome =>
          obtain ⟨reset, clean⟩ :=
            boundary_excess outcome
              ((invariant.consistent.refreshProgress _ _).toSettled.applyTerminal _ _) cancelling
              rfl excess
          have ended := drained.exact cancelling
          simp only [WorkerState.context, clean, reset, pendFault_false] at ended
          have equal := (ended rfl (settled.completion (.inr cancelling)) (by simp)).2
          exact absurd excess (Nat.not_lt_of_ge (Nat.le_of_eq equal))
  | recordUnaddressed _ unaddressed =>
      simp only [StaysWithinDeclared] at beyond
      push Not at beyond
      exact absurd unaddressed beyond.2.1.addressed
  | @recordSkipped now event _ blank =>
      simp only [StaysWithinDeclared] at beyond
      push Not at beyond
      have terminal := beyond.2.1.terminal
      simp [ProviderControlEvent.isTerminal, ProviderEventType.isTerminal, blank] at terminal
  | _ => exact beyond trivial

/-- A step from a reached state drains exactly if and only if it stays within the
declared end. -/
theorem drainedExactly_step_iff (invariant : WorkerInvariant state)
    (taken : WorkerStep state action next events) :
    StaysWithinDeclared state action ↔ DrainedExactly state action next := by
  constructor
  · exact fun within => drainedExactly_of_within invariant within taken
  · intro drained
    by_contra beyond
    exact not_drainedExactly_of_excess invariant beyond taken drained

/-- **Every cancelled request of a run is drained exactly if and only if no step
reads past the declared end of a cancelled request or declares an end that was
passed.** -/
theorem drainedExactly_iff (blockAlign : ℕ) (positive : 0 < blockAlign)
    (actions : List WorkerAction) :
    workerMachine.Along DrainedExactly (.initial blockAlign positive) actions ↔
      workerMachine.Along (fun state action _ => StaysWithinDeclared state action)
        (.initial blockAlign positive) actions := by
  have reached : workerMachine.Reaches Machine.anyStep [] (.initial blockAlign positive) :=
    ⟨_, ⟨blockAlign, positive, rfl⟩, .refl⟩
  refine Machine.along_congr reached ?_
  intro _ _ _ _ _ reached taken
  exact (drainedExactly_step_iff (workerInvariant reached) (step_spec taken)).symm

/-- The terminal record of a cancelled request. -/
def cancelledRecord (speakId audioBytesWritten : ℕ) : ProviderControlEvent :=
  { type := .synthesisCancelled, speakId, rawEventName := "synthesis_cancelled"
    terminalAudioBytes := audioBytesWritten, hasValidTerminalBytes := true }

/-- A cancelled request is drained to its declared end: two bytes before its terminal
record is taken in and two behind it. -/
def drainedToEnd : List WorkerAction :=
  [.start 0 1, .beginCancellation 500, .audioChunk 1 [1, 2],
    .controlRecord 2 (cancelledRecord 1 4), .audioChunk 3 [3, 4]]

theorem drainedExactly_iff_drained :
    workerMachine.Along DrainedExactly (.initial 2 (by decide)) drainedToEnd ∧
      (workerMachine.finalState (.initial 2 (by decide)) drainedToEnd).context.downstreamState =
        .idle :=
  ⟨(drainedExactly_iff 2 (by decide) drainedToEnd).mpr (by decide), by decide⟩

/-- **A cancelled request is not always drained exactly.** The provider
acknowledges a cancel with two bytes written and writes four: the request ends
cleanly with twice the declared bytes read. -/
theorem cancellation_drains_excess :
    ¬∀ (blockAlign : ℕ) (positive : 0 < blockAlign) (actions : List WorkerAction),
      workerMachine.Along DrainedExactly (.initial blockAlign positive) actions := by
  intro claim
  have run := claim 2 (by decide) [.start 0 1, .beginCancellation 500,
    .controlRecord 1 (cancelledRecord 1 2), .audioChunk 2 [1, 2, 3, 4]]
  have ended := run.2.2.2.1.exact rfl rfl rfl (by simp)
  exact absurd ended.2 (by decide)

end ModernSapi
