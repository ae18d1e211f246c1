import ModernSapi.Worker.StepSpec

/-!
# What holds of every worker

The invariants here hold in every state of every run, whatever the provider sends
and however the threads are scheduled. `SpeechWorker.Consistent` relates the two
sides of a request, `WorkerInvariant` adds what a fault on its way to be
published means. `workerInvariant` is the run lemma.
-/

set_option autoImplicit false

namespace ModernSapi

open Interleaving PcmDeliveryPolicy ControlEventPolicy

namespace SpeechWorker

/-- How the fields of a request context hang together. -/
structure Settled (worker : SpeechWorker) : Prop where
  /-- The token is the one the latest start created. -/
  generation : worker.context.token.generation = worker.generationCounter
  /-- A faulted provider side means a faulted engine side. -/
  faultedBoth : worker.context.upstreamState = .faulted → worker.context.downstreamState = .faulted
  /-- A failed utterance is reset at once. -/
  notFailed : worker.context.upstreamState ≠ .failed
  /-- A speaking request without a declared end is still being synthesized. -/
  active : worker.context.downstreamState = .speaking → worker.context.upstreamFinished = false →
    worker.context.upstreamState = .active
  /-- A request that is spoken or drained has not failed. -/
  completion : worker.context.downstreamState = .speaking ∨
    worker.context.downstreamState = .cancelling → worker.context.completionHr = .sOk

/-- A settled worker whose drain has not reached a declared end unnoticed. -/
structure Consistent (worker : SpeechWorker) : Prop extends Settled worker where
  /-- A cancelled request with a declared end has fewer bytes than that. -/
  draining : worker.context.downstreamState = .cancelling →
    worker.context.upstreamFinished = true →
    worker.context.rawAudioBytesRead < worker.context.upstreamTerminalBytes

variable {worker : SpeechWorker}

/-! ## The updates of a worker -/

namespace Settled

theorem setFaultPending (settled : worker.Settled) : worker.setFaultPending.Settled where
  generation := settled.generation
  faultedBoth := settled.faultedBoth
  notFailed := settled.notFailed
  active := settled.active
  completion := settled.completion

theorem pendFault (settled : worker.Settled) (failed : Bool) :
    (worker.pendFault failed).Settled := by
  cases failed with
  | false => exact settled
  | true => exact settled.setFaultPending

theorem resetToIdleLocked (settled : worker.Settled) : worker.resetToIdleLocked.Consistent where
  generation := settled.generation
  faultedBoth := by simp [SpeechWorker.resetToIdleLocked]
  notFailed := by simp [SpeechWorker.resetToIdleLocked]
  active := by simp [SpeechWorker.resetToIdleLocked]
  completion := by simp [SpeechWorker.resetToIdleLocked]
  draining := by simp [SpeechWorker.resetToIdleLocked]

theorem chunkCounted (settled : worker.Settled) (now bytesRead : ℕ) :
    (worker.chunkCounted now bytesRead).Settled where
  generation := settled.generation
  faultedBoth := settled.faultedBoth
  notFailed := settled.notFailed
  active := settled.active
  completion := settled.completion

theorem chunkFramed (settled : worker.Settled) (now : ℕ) (chunk : List UInt8) :
    (worker.chunkFramed now chunk).Settled where
  generation := settled.generation
  faultedBoth := settled.faultedBoth
  notFailed := settled.notFailed
  active := settled.active
  completion := settled.completion

theorem credited (settled : worker.Settled) (bytes : ℕ) : (worker.credited bytes).Settled where
  generation := settled.generation
  faultedBoth := settled.faultedBoth
  notFailed := settled.notFailed
  active := settled.active
  completion := settled.completion

theorem applyTerminal (settled : worker.Settled) (type : ProviderEventType) (bytes : ℕ) :
    (worker.applyTerminal (terminalTarget type) bytes).Settled where
  generation := settled.generation
  faultedBoth := fun faulted => absurd faulted (terminalTarget_ne_faulted type)
  notFailed := terminalTarget_ne_failed type
  active := fun _ unfinished => by simp [SpeechWorker.applyTerminal] at unfinished
  completion := settled.completion

end Settled

namespace Consistent

theorem setFaultPending (consistent : worker.Consistent) : worker.setFaultPending.Consistent where
  toSettled := consistent.toSettled.setFaultPending
  draining := consistent.draining

theorem pendFault (consistent : worker.Consistent) (failed : Bool) :
    (worker.pendFault failed).Consistent := by
  cases failed with
  | false => exact consistent
  | true => exact consistent.setFaultPending

/-- Faulting both sides at once needs only the generation. -/
theorem transitionRequestToFaultedLocked (consistent : worker.Consistent) :
    worker.transitionRequestToFaultedLocked.Consistent where
  generation := consistent.generation
  faultedBoth := fun _ => rfl
  notFailed := by simp [SpeechWorker.transitionRequestToFaultedLocked]
  active := by simp [SpeechWorker.transitionRequestToFaultedLocked]
  completion := by simp [SpeechWorker.transitionRequestToFaultedLocked]
  draining := by simp [SpeechWorker.transitionRequestToFaultedLocked]

theorem faulted (consistent : worker.Consistent) : worker.faulted.Consistent where
  generation := consistent.generation
  faultedBoth := fun _ => rfl
  notFailed := by simp [SpeechWorker.faulted, SpeechWorker.transitionRequestToFaultedLocked]
  active := by simp [SpeechWorker.faulted, SpeechWorker.transitionRequestToFaultedLocked]
  completion := by simp [SpeechWorker.faulted, SpeechWorker.transitionRequestToFaultedLocked]
  draining := by simp [SpeechWorker.faulted, SpeechWorker.transitionRequestToFaultedLocked]

theorem publishFault (consistent : worker.Consistent) : worker.publishFault.Consistent where
  generation := consistent.generation
  faultedBoth := consistent.faultedBoth
  notFailed := consistent.notFailed
  active := consistent.active
  completion := consistent.completion
  draining := consistent.draining

theorem refreshProgress (consistent : worker.Consistent) (now : ℕ) (refresh : Bool) :
    (worker.refreshProgress now refresh).Consistent where
  generation := consistent.generation
  faultedBoth := consistent.faultedBoth
  notFailed := consistent.notFailed
  active := consistent.active
  completion := consistent.completion
  draining := consistent.draining

theorem cancelled (settled : worker.Settled)
    (speaking : worker.context.downstreamState = .speaking)
    (upstream : worker.context.upstreamState ≠ .faulted) (deadline : ℕ) :
    (worker.cancelled deadline).Consistent where
  generation := settled.generation
  faultedBoth := fun faulted => absurd faulted upstream
  notFailed := settled.notFailed
  active := by simp [SpeechWorker.cancelled, RequestContext.transitionToCancelling]
  completion := fun _ => settled.completion (.inl speaking)
  draining := by simp [SpeechWorker.cancelled, RequestContext.transitionToCancelling]

theorem started (now : ℕ) (token : RequestToken) : (worker.started now token).Consistent where
  generation := rfl
  faultedBoth := by simp [SpeechWorker.started]
  notFailed := by simp [SpeechWorker.started]
  active := fun _ _ => rfl
  completion := fun _ => rfl
  draining := by simp [SpeechWorker.started]

theorem handleMissingSpeakIdLocked (consistent : worker.Consistent) :
    worker.handleMissingSpeakIdLocked.Consistent := by
  obtain ⟨failed, same⟩ := worker.handleMissingSpeakIdLocked_eq
  rw [same]
  exact consistent.pendFault failed

theorem create (blockAlign : ℕ) (positive : 0 < blockAlign) :
    ({ frameAssembler := .create blockAlign positive } : SpeechWorker).Consistent where
  generation := rfl
  faultedBoth := by simp
  notFailed := by simp
  active := by simp
  completion := by simp
  draining := by simp

end Consistent

/-! ## The outcomes -/

section Outcomes

variable {now : ℕ} {chunk : List UInt8} {token : RequestToken} {delivered : ℕ}
  {writeAccepted forward : Bool} {event : ProviderControlEvent}

/-- The check leaves the worker as it is or resets the request. -/
theorem BoundaryOutcome.worker_cases {checked : SpeechWorker × Bool × List Observation}
    (outcome : BoundaryOutcome worker checked) :
    checked.1 = worker ∨ (checked.1 = worker.resetToIdleLocked ∧ checked.2.1 = false) := by
  cases outcome with
  | continues | overrun => exact .inl rfl
  | failed | completed | drained => exact .inr ⟨rfl, rfl⟩

theorem BoundaryOutcome.consistent {checked : SpeechWorker × Bool × List Observation}
    (outcome : BoundaryOutcome worker checked) (settled : worker.Settled) :
    checked.1.Consistent := by
  cases outcome with
  | continues _ goesOn => exact ⟨settled, goesOn.cancelling⟩
  | overrun speaking =>
      refine ⟨settled, fun cancelling => ?_⟩
      rw [speaking] at cancelling
      cases cancelling
  | failed | completed | drained => exact settled.resetToIdleLocked

theorem IngestOutcome.consistent
    {result : SpeechWorker × AudioIngestResult × List Observation}
    (outcome : IngestOutcome worker now chunk result) (consistent : worker.Consistent) :
    result.1.Consistent := by
  cases outcome with
  | unexpected => exact consistent.setFaultPending
  | discarded => exact consistent
  | drained _ outcome =>
      exact (outcome.consistent (consistent.toSettled.chunkCounted _ _)).pendFault _
  | retained _ _ outcome =>
      exact (outcome.consistent (consistent.toSettled.chunkFramed _ _)).pendFault _
  | framed speaking =>
      refine ⟨consistent.toSettled.chunkFramed now chunk, fun cancelling => ?_⟩
      simp [chunkFramed, chunkCounted, speaking] at cancelling

theorem DeliveryOutcome.consistent {result : SpeechWorker × Bool × ℕ × List Observation}
    (outcome : DeliveryOutcome worker now token delivered writeAccepted result)
    (consistent : worker.Consistent) : result.1.Consistent := by
  cases outcome with
  | ignored => exact consistent
  | accepted _ _ outcome =>
      exact (outcome.consistent (consistent.toSettled.credited _)).pendFault _
  | rejected _ speaking upstream =>
      exact .cancelled (consistent.toSettled.credited _) speaking upstream _
  | rejectedFaulted _ speaking upstream =>
      have faulted := consistent.faultedBoth upstream
      rw [speaking] at faulted
      cases faulted
  | drained _ _ outcome => exact (outcome.consistent consistent.toSettled).pendFault _

theorem EventOutcome.consistent
    {result : SpeechWorker × ControlEventDisposition × List Observation}
    (outcome : EventOutcome worker event forward result) (consistent : worker.Consistent) :
    result.1.Consistent := by
  cases outcome with
  | unchanged => exact consistent
  | malformed | fatal => exact consistent.setFaultPending
  | terminalFault => exact consistent.transitionRequestToFaultedLocked.setFaultPending
  | terminalApplied _ _ _ _ _ outcome =>
      exact (outcome.consistent (consistent.toSettled.applyTerminal _ _)).pendFault _
  | utteranceFailed =>
      refine ⟨⟨consistent.generation, ?_, ?_, ?_, ?_⟩, ?_⟩
      all_goals simp [resetToIdleLocked]

end Outcomes

/-! ## A pending fault of a closed request -/

/-- The request is reset or faulted, and a fault is pending. -/
structure ClosedPending (worker : SpeechWorker) : Prop where
  closed : worker.context.downstreamState = .idle ∨ worker.context.downstreamState = .faulted
  pending : worker.context.faultPending = true

namespace ClosedPending

variable {now : ℕ} {chunk : List UInt8} {token : RequestToken} {delivered : ℕ}
  {writeAccepted forward : Bool} {event : ProviderControlEvent}

theorem not_speaking (held : worker.ClosedPending) :
    worker.context.downstreamState ≠ .speaking := by
  rcases held.closed with idle | faulted
  · simp [idle]
  · simp [faulted]

theorem not_cancelling (held : worker.ClosedPending) :
    worker.context.downstreamState ≠ .cancelling := by
  rcases held.closed with idle | faulted
  · simp [idle]
  · simp [faulted]

theorem resetToIdleLocked (held : worker.ClosedPending) :
    worker.resetToIdleLocked.ClosedPending :=
  ⟨.inl rfl, held.pending⟩

theorem pendFault (held : worker.ClosedPending) (failed : Bool) :
    (worker.pendFault failed).ClosedPending := by
  cases failed with
  | false => exact held
  | true => exact ⟨held.closed, rfl⟩

theorem boundary {checked : SpeechWorker × Bool × List Observation}
    (outcome : BoundaryOutcome worker checked) (held : worker.ClosedPending) :
    checked.1.ClosedPending := by
  rcases outcome.worker_cases with same | ⟨reset, -⟩
  · rw [same]
    exact held
  · rw [reset]
    exact held.resetToIdleLocked

theorem ingest {result : SpeechWorker × AudioIngestResult × List Observation}
    (outcome : IngestOutcome worker now chunk result) (held : worker.ClosedPending) :
    result.1.ClosedPending := by
  cases outcome with
  | unexpected => exact held.pendFault true
  | discarded => exact held
  | drained cancelling => exact absurd cancelling held.not_cancelling
  | retained speaking => exact absurd speaking held.not_speaking
  | framed speaking => exact absurd speaking held.not_speaking

theorem delivery {result : SpeechWorker × Bool × ℕ × List Observation}
    (outcome : DeliveryOutcome worker now token delivered writeAccepted result)
    (held : worker.ClosedPending) : result.1.ClosedPending := by
  cases outcome with
  | ignored => exact held
  | accepted _ speaking => exact absurd speaking held.not_speaking
  | rejected _ speaking => exact absurd speaking held.not_speaking
  | rejectedFaulted _ speaking => exact absurd speaking held.not_speaking
  | drained _ cancelling => exact absurd cancelling held.not_cancelling

theorem record {result : SpeechWorker × ControlEventDisposition × List Observation}
    (outcome : EventOutcome worker event forward result) (held : worker.ClosedPending) :
    result.1.ClosedPending := by
  cases outcome with
  | unchanged => exact held
  | malformed | fatal => exact held.pendFault true
  | terminalFault => exact ⟨.inr rfl, rfl⟩
  | terminalApplied _ _ _ _ _ outcome =>
      have applied : (worker.applyTerminal (terminalTarget event.type)
          event.terminalAudioBytes).ClosedPending := ⟨held.closed, held.pending⟩
      exact (boundary outcome applied).pendFault _
  | utteranceFailed => exact ⟨.inl rfl, held.pending⟩

theorem handleMissingSpeakIdLocked (held : worker.ClosedPending) :
    worker.handleMissingSpeakIdLocked.ClosedPending := by
  obtain ⟨failed, same⟩ := worker.handleMissingSpeakIdLocked_eq
  rw [same]
  exact held.pendFault failed

end ClosedPending

end SpeechWorker

/-! ## The invariant of the machine -/

open SpeechWorker

/-- What holds in every state of a worker. -/
structure WorkerInvariant (state : WorkerState) : Prop where
  consistent : state.worker.Consistent
  /-- Between the two sections of `EnterFaultedState` the fault is pending, and no
  request is open. -/
  publishing : state.publisher.isSome = true → state.worker.ClosedPending
  /-- A thread of the worker stays in `EnterFaultedState` while it publishes. -/
  audioPublishes : state.publisher = some .audio →
    ∃ thenStop, state.audio = .enterFaultedState thenStop
  controlPublishes : state.publisher = some .control →
    ∃ thenStop, state.control = .enterFaultedState thenStop

namespace WorkerInvariant

variable {state next : WorkerState} {action : WorkerAction} {events : List Observation}

theorem initial (blockAlign : ℕ) (positive : 0 < blockAlign) :
    WorkerInvariant (.initial blockAlign positive) where
  consistent := .create blockAlign positive
  publishing := by simp [WorkerState.initial]
  audioPublishes := by simp [WorkerState.initial]
  controlPublishes := by simp [WorkerState.initial]

/-- The audio thread does not publish while it stands anywhere else. -/
theorem audioElsewhere (invariant : WorkerInvariant state) {audio : AudioThread}
    (here : state.audio = audio) (other : ∀ thenStop, audio ≠ .enterFaultedState thenStop) :
    state.publisher ≠ some .audio := by
  intro publisher
  obtain ⟨thenStop, entering⟩ := invariant.audioPublishes publisher
  exact other thenStop (here.symm.trans entering)

/-- Neither does the control thread. -/
theorem controlElsewhere (invariant : WorkerInvariant state) {control : ControlThread}
    (here : state.control = control) (other : ∀ thenStop, control ≠ .enterFaultedState thenStop) :
    state.publisher ≠ some .control := by
  intro publisher
  obtain ⟨thenStop, entering⟩ := invariant.controlPublishes publisher
  exact other thenStop (here.symm.trans entering)

/-- **Every step keeps the invariant.** -/
theorem step (invariant : WorkerInvariant state) (taken : WorkerStep state action next events) :
    WorkerInvariant next := by
  obtain ⟨consistent, publishing, audioPublishes, controlPublishes⟩ := id invariant
  cases taken with
  | chunkTaken reading _ outcome =>
      exact ⟨outcome.consistent consistent, fun some => (publishing some).ingest outcome,
        fun publisher => absurd publisher (invariant.audioElsewhere reading (by simp)), controlPublishes⟩
  | assemblyFailed reading _ speaking =>
      refine ⟨⟨consistent.toSettled.chunkCounted _ _, fun cancelling => ?_⟩,
        fun some => absurd speaking (publishing some).not_speaking,
        fun publisher => absurd publisher (invariant.audioElsewhere reading (by simp)), controlPublishes⟩
      simp [chunkCounted, speaking] at cancelling
  | audioReadFailed here =>
      exact ⟨consistent, publishing,
        fun publisher => absurd publisher (invariant.audioElsewhere here (by simp)), controlPublishes⟩
  | spansEnd here | spanHanded here | spanAccepted here | spanRejected here
  | cancellationSent here =>
      exact ⟨consistent, publishing,
        fun publisher => absurd publisher (invariant.audioElsewhere here (by simp)), controlPublishes⟩
  | controlReadFailed here | eventDecided here | eventReturned here =>
      exact ⟨consistent, publishing, audioPublishes,
        fun publisher => absurd publisher (invariant.controlElsewhere here (by simp))⟩
  | recordSkipped | startRejected | stopIgnored | cancellationIgnored =>
      exact ⟨consistent, publishing, audioPublishes, controlPublishes⟩
  | batchSettled here outcome =>
      exact ⟨outcome.consistent consistent, fun some => (publishing some).delivery outcome,
        fun publisher => absurd publisher (invariant.audioElsewhere here (by simp)), controlPublishes⟩
  | recordUnaddressed reading =>
      exact ⟨consistent.handleMissingSpeakIdLocked,
        fun some => (publishing some).handleMissingSpeakIdLocked, audioPublishes,
        fun publisher => absurd publisher (invariant.controlElsewhere reading (by simp))⟩
  | recordHandled reading _ outcome =>
      refine ⟨outcome.consistent (consistent.refreshProgress _ _), fun some => ?_, audioPublishes,
        fun publisher => absurd publisher (invariant.controlElsewhere reading (by simp))⟩
      exact ClosedPending.record outcome ⟨(publishing some).closed, (publishing some).pending⟩
  | @faultEntered thread may =>
      refine ⟨?_, fun _ => ⟨.inr rfl, rfl⟩, fun publisher => ?_, fun publisher => ?_⟩
      · have faulted := consistent.faulted
        exact ⟨⟨faulted.generation, faulted.faultedBoth, faulted.notFailed, faulted.active,
          faulted.completion⟩, faulted.draining⟩
      · cases publisher
        exact state.entering_of_mayEnterFaulted may
      · cases publisher
        exact state.controlEntering_of_mayEnterFaulted may
  | @faultRepeated thread may =>
      refine ⟨?_, fun some => ?_, fun publisher => ?_, fun publisher => ?_⟩
      · rw [WorkerState.leaveFaulted_worker]
        exact consistent.faulted
      · rw [WorkerState.leaveFaulted_publisher] at some
        rw [WorkerState.leaveFaulted_worker]
        exact ⟨.inr rfl, (publishing some).pending⟩
      · rw [WorkerState.leaveFaulted_publisher] at publisher
        cases thread with
        | audio => exact absurd may (WorkerState.not_mayEnterFaulted_of_publisher publisher)
        | control | caller => exact audioPublishes publisher
      · rw [WorkerState.leaveFaulted_publisher] at publisher
        cases thread with
        | control => exact absurd may (WorkerState.not_mayEnterFaulted_of_publisher publisher)
        | audio | caller => exact controlPublishes publisher
  | faultPublished =>
      refine ⟨?_, fun some => ?_, fun publisher => ?_, fun publisher => ?_⟩
      · rw [WorkerState.leaveFaulted_worker]
        exact consistent.publishFault
      · rw [WorkerState.leaveFaulted_publisher] at some
        cases some
      · rw [WorkerState.leaveFaulted_publisher] at publisher
        cases publisher
      · rw [WorkerState.leaveFaulted_publisher] at publisher
        cases publisher
  | started can =>
      refine ⟨.started _ _, fun some => ?_, audioPublishes, controlPublishes⟩
      have pending := (publishing some).pending
      rw [can.2.2] at pending
      cases pending
  | stopped =>
      exact ⟨consistent.toSettled.resetToIdleLocked,
        fun some => (publishing some).resetToIdleLocked, audioPublishes, controlPublishes⟩
  | cancellationBegun speaking upstream =>
      exact ⟨.cancelled consistent.toSettled speaking upstream _,
        fun some => absurd speaking (publishing some).not_speaking, audioPublishes,
        controlPublishes⟩

end WorkerInvariant

/-- **The invariant holds in every state of every run.** -/
theorem workerInvariant {guard : WorkerState → WorkerAction → Prop} {trace : List Observation}
    {state : WorkerState} (reached : workerMachine.Reaches guard trace state) :
    WorkerInvariant state := by
  refine reached.induct (motive := fun _ state => WorkerInvariant state) ?_ ?_
  · rintro _ ⟨blockAlign, positive, rfl⟩
    exact .initial blockAlign positive
  · intro _ _ _ _ _ _ invariant _ taken
    exact invariant.step (step_spec taken)

end ModernSapi
