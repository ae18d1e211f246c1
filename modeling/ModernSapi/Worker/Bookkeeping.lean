import ModernSapi.Worker.SpeakCall
import ModernSapi.Worker.Quarantine

/-!
# What every step of a worker keeps

No step but a start changes the token of a worker, and no step but the publication of a
fault changes the flag the other threads see (`WorkerStep.continues`).

Unless it is stopped, an idle worker is idle on both sides and has its terminal record,
so that a late record of its last request cannot bring the provider side back to life
(`SpeechWorker.Rested`). A worker at rest can start the next request or is faulted.
-/

set_option autoImplicit false

namespace ModernSapi

open Interleaving SpeechWorker

/-! ## The token and the flag -/

namespace SpeechWorker

/-- The worker has the same token and shows the same fault. -/
structure Continues (worker after : SpeechWorker) : Prop where
  token : after.context.token = worker.context.token
  visible : after.faultVisible = worker.faultVisible

variable {worker : SpeechWorker} {now : ℕ} {chunk : List UInt8} {token : RequestToken}
  {delivered : ℕ} {writeAccepted forward : Bool} {event : ProviderControlEvent}

theorem Continues.pendFault {after : SpeechWorker} (continues : worker.Continues after)
    (failed : Bool) : worker.Continues (after.pendFault failed) := by
  cases failed with
  | false => exact continues
  | true => exact ⟨continues.token, continues.visible⟩

theorem BoundaryOutcome.continued {checked : SpeechWorker × Bool × List Observation}
    (outcome : BoundaryOutcome worker checked) : worker.Continues checked.1 := by
  rcases outcome.worker_cases with same | ⟨reset, -⟩
  · rw [same]
    exact ⟨rfl, rfl⟩
  · rw [reset]
    exact ⟨rfl, rfl⟩

/-- The check of a worker that has moved on ends with the fault flag set. -/
theorem BoundaryOutcome.flagged {moved : SpeechWorker}
    {checked : SpeechWorker × Bool × List Observation} (outcome : BoundaryOutcome moved checked)
    (continues : worker.Continues moved) : worker.Continues (checked.1.pendFault checked.2.1) :=
  Continues.pendFault ⟨outcome.continued.token.trans continues.token,
    outcome.continued.visible.trans continues.visible⟩ _

theorem IngestOutcome.continued {result : SpeechWorker × AudioIngestResult × List Observation}
    (outcome : IngestOutcome worker now chunk result) : worker.Continues result.1 := by
  cases outcome with
  | unexpected | discarded | framed => exact ⟨rfl, rfl⟩
  | drained _ outcome | retained _ _ outcome => exact outcome.flagged ⟨rfl, rfl⟩

theorem DeliveryOutcome.continued {result : SpeechWorker × Bool × ℕ × List Observation}
    (outcome : DeliveryOutcome worker now token delivered writeAccepted result) :
    worker.Continues result.1 := by
  cases outcome with
  | ignored | rejected | rejectedFaulted => exact ⟨rfl, rfl⟩
  | accepted _ _ outcome | drained _ _ outcome => exact outcome.flagged ⟨rfl, rfl⟩

theorem EventOutcome.continued
    {result : SpeechWorker × ControlEventDisposition × List Observation}
    (outcome : EventOutcome worker event forward result) : worker.Continues result.1 := by
  cases outcome with
  | unchanged | malformed | terminalFault | fatal | utteranceFailed => exact ⟨rfl, rfl⟩
  | terminalApplied _ _ _ _ _ outcome => exact outcome.flagged ⟨rfl, rfl⟩

theorem continues_handleMissingSpeakIdLocked (worker : SpeechWorker) :
    worker.Continues worker.handleMissingSpeakIdLocked := by
  obtain ⟨failed, same⟩ := worker.handleMissingSpeakIdLocked_eq
  rw [same]
  exact Continues.pendFault ⟨rfl, rfl⟩ failed

end SpeechWorker

section Step

variable {state next : WorkerState} {action : WorkerAction} {events : List Observation}

/-- **Only a start changes the token, and only a publication the flag.** -/
theorem WorkerStep.continues (taken : WorkerStep state action next events)
    (notStart : ∀ now speakId, action ≠ .start now speakId)
    (notPublish : ∀ thread, action ≠ .publishFault thread) :
    state.worker.Continues next.worker := by
  cases taken with
  | chunkTaken _ _ outcome => exact outcome.continued
  | batchSettled _ outcome => exact outcome.continued
  | recordUnaddressed => exact continues_handleMissingSpeakIdLocked state.worker
  | recordHandled _ _ outcome =>
      obtain ⟨token, visible⟩ := outcome.continued
      exact ⟨token, visible⟩
  | faultRepeated =>
      rw [WorkerState.leaveFaulted_worker]
      exact ⟨rfl, rfl⟩
  | @faultPublished thread => exact absurd rfl (notPublish thread)
  | @started now speakId => exact absurd rfl (notStart now speakId)
  | _ => exact ⟨rfl, rfl⟩

/-- Only a start changes the token. -/
theorem WorkerStep.token (taken : WorkerStep state action next events)
    (notStart : ∀ now speakId, action ≠ .start now speakId) :
    next.context.token = state.context.token := by
  by_cases publishes : ∃ thread, action = .publishFault thread
  · obtain ⟨thread, rfl⟩ := publishes
    cases taken with
    | faultPublished =>
        rw [WorkerState.context, WorkerState.leaveFaulted_worker]
        rfl
  · exact (taken.continues notStart fun thread same => publishes ⟨thread, same⟩).token

/-- The fault a worker shows stays visible. -/
theorem WorkerStep.visible (taken : WorkerStep state action next events) :
    next.worker.faultVisible = state.worker.faultVisible ∨ next.worker.faultVisible = true := by
  by_cases publishes : ∃ thread, action = .publishFault thread
  · obtain ⟨thread, rfl⟩ := publishes
    cases taken with
    | faultPublished =>
        rw [WorkerState.leaveFaulted_worker]
        exact .inr rfl
  · by_cases starts : ∃ now speakId, action = .start now speakId
    · obtain ⟨now, speakId, rfl⟩ := starts
      cases taken with
      | started | startRejected => exact .inl rfl
    · exact .inl (taken.continues (fun now speakId same => starts ⟨now, speakId, same⟩)
        fun thread same => publishes ⟨thread, same⟩).visible

/-- No other step of a worker and its calls changes the token. -/
theorem SpeakStep.token {speak next : SpeakState} {action : SpeakAction}
    {events : List SpeakObservation} (taken : SpeakStep speak action next events)
    (notStart : ∀ now speakId, action ≠ .start now speakId) :
    next.context.token = speak.context.token := by
  rcases taken.worker_cases with ⟨step, inner, stepped⟩ | ⟨same, -⟩
  · refine (step_spec stepped).token fun now speakId starts => ?_
    rw [starts] at inner
    exact taken.not_start notStart inner
  · exact congrArg (fun worker => worker.context.token) same

end Step

/-! ## Workers at rest -/

namespace SpeechWorker

/-- What holds of a worker that no one stops: once its engine side is idle so is its
provider side, and its last request has ended. A faulted request has failed. -/
structure Rested (worker : SpeechWorker) : Prop where
  idle : worker.context.downstreamState = .idle → worker.context.upstreamState = .idle
  ended : worker.context.downstreamState = .idle →
    worker.context.upstreamFinished = true ∨ worker.context.token.speakId = 0
  failed : worker.context.downstreamState = .faulted → worker.context.completionHr = .eFail

namespace Rested

variable {worker : SpeechWorker} {now : ℕ} {chunk : List UInt8} {token : RequestToken}
  {delivered : ℕ} {writeAccepted forward : Bool} {event : ProviderControlEvent}

theorem pendFault (rested : worker.Rested) (failed : Bool) : (worker.pendFault failed).Rested := by
  cases failed with
  | false => exact rested
  | true => exact ⟨rested.idle, rested.ended, rested.failed⟩

/-- A request that is neither idle nor faulted has nothing to show. -/
theorem of_open (isOpen : worker.context.IsOpen) : worker.Rested := by
  have notIdle : worker.context.downstreamState ≠ .idle := fun idle =>
    RequestContext.not_isOpen_of_idle idle isOpen
  exact ⟨fun idle => absurd idle notIdle, fun idle => absurd idle notIdle,
    fun faulted => absurd isOpen (RequestContext.not_isOpen_of_faulted faulted)⟩

theorem transitionRequestToFaultedLocked (worker : SpeechWorker) :
    worker.transitionRequestToFaultedLocked.Rested :=
  ⟨nofun, nofun, fun _ => rfl⟩

theorem resetToIdleLocked (finished : worker.context.upstreamFinished = true) :
    worker.resetToIdleLocked.Rested :=
  ⟨fun _ => rfl, fun _ => .inl finished, nofun⟩

theorem boundary {checked : SpeechWorker × Bool × List Observation}
    (outcome : BoundaryOutcome worker checked)
    (notFailed : worker.context.upstreamState ≠ .failed) (rested : worker.Rested) :
    checked.1.Rested := by
  cases outcome with
  | continues | overrun => exact rested
  | failed failed => exact absurd failed notFailed
  | completed _ finished | drained _ finished => exact .resetToIdleLocked finished

theorem ingest {result : SpeechWorker × AudioIngestResult × List Observation}
    (outcome : IngestOutcome worker now chunk result) (settled : worker.Settled)
    (rested : worker.Rested) : result.1.Rested := by
  cases outcome with
  | unexpected => exact rested.pendFault true
  | discarded => exact rested
  | drained cancelling outcome =>
      have counted : (worker.chunkCounted now chunk.length).Rested := .of_open (.inr cancelling)
      exact (boundary outcome settled.notFailed counted).pendFault _
  | retained speaking _ outcome =>
      have framed : (worker.chunkFramed now chunk).Rested := .of_open (.inl speaking)
      exact (boundary outcome settled.notFailed framed).pendFault _
  | framed speaking => exact .of_open (.inl speaking)

theorem delivery {result : SpeechWorker × Bool × ℕ × List Observation}
    (outcome : DeliveryOutcome worker now token delivered writeAccepted result)
    (settled : worker.Settled) (rested : worker.Rested) : result.1.Rested := by
  cases outcome with
  | ignored => exact rested
  | accepted _ speaking outcome =>
      have credited : (worker.credited delivered).Rested := .of_open (.inl speaking)
      exact (boundary outcome settled.notFailed credited).pendFault _
  | rejected => exact .of_open (.inr rfl)
  | rejectedFaulted _ speaking => exact .of_open (.inl speaking)
  | drained _ _ outcome => exact (boundary outcome settled.notFailed rested).pendFault _

/-- A late record cannot end a request that has ended. -/
theorem record {result : SpeechWorker × ControlEventDisposition × List Observation}
    (outcome : EventOutcome worker event forward result) (addressed : event.speakId ≠ 0)
    (rested : worker.Rested) : result.1.Rested := by
  cases outcome with
  | unchanged => exact rested
  | malformed | fatal => exact rested.pendFault true
  | terminalFault =>
      exact (transitionRequestToFaultedLocked worker).pendFault true
  | terminalApplied matching _ unfinished _ _ outcome =>
      have notIdle : worker.context.downstreamState ≠ .idle := by
        intro idle
        rcases rested.ended idle with finished | unnamed
        · rw [unfinished] at finished
          cases finished
        · exact addressed (matching.trans unnamed)
      have applied : (worker.applyTerminal (terminalTarget event.type)
          event.terminalAudioBytes).Rested :=
        ⟨fun idle => absurd idle notIdle, fun idle => absurd idle notIdle, rested.failed⟩
      exact (boundary outcome (terminalTarget_ne_failed event.type) applied).pendFault _
  | utteranceFailed => exact .resetToIdleLocked rfl

theorem handleMissingSpeakIdLocked (rested : worker.Rested) :
    worker.handleMissingSpeakIdLocked.Rested := by
  obtain ⟨failed, same⟩ := worker.handleMissingSpeakIdLocked_eq
  rw [same]
  exact rested.pendFault failed

theorem create (blockAlign : ℕ) (positive : 0 < blockAlign) :
    ({ frameAssembler := .create blockAlign positive } : SpeechWorker).Rested :=
  ⟨fun _ => rfl, fun _ => .inr rfl, nofun⟩

/-- **Every step but a stop leaves a worker at rest.** -/
theorem step {state next : WorkerState} {action : WorkerAction} {events : List Observation}
    (rested : state.worker.Rested) (settled : state.worker.Settled)
    (taken : WorkerStep state action next events) (notStop : action ≠ .stop) :
    next.worker.Rested := by
  cases taken with
  | chunkTaken _ _ outcome => exact ingest outcome settled rested
  | assemblyFailed _ _ speaking => exact .of_open (.inl speaking)
  | batchSettled _ outcome => exact delivery outcome settled rested
  | recordUnaddressed => exact rested.handleMissingSpeakIdLocked
  | recordHandled _ addressed outcome =>
      exact record outcome addressed ⟨rested.idle, rested.ended, rested.failed⟩
  | faultEntered => exact ⟨nofun, nofun, fun _ => rfl⟩
  | faultRepeated =>
      rw [WorkerState.leaveFaulted_worker]
      exact transitionRequestToFaultedLocked _
  | faultPublished =>
      rw [WorkerState.leaveFaulted_worker]
      exact ⟨rested.idle, rested.ended, rested.failed⟩
  | started => exact .of_open (.inl rfl)
  | stopped => exact absurd rfl notStop
  | cancellationBegun => exact .of_open (.inr rfl)
  | _ => exact rested

/-- A worker that serves no request can start one or is faulted. -/
theorem canStart_or_isFaulted (rested : worker.Rested) (closed : ¬worker.context.IsOpen) :
    worker.CanStart ∨ worker.isFaulted = true := by
  cases pending : worker.context.faultPending with
  | true => exact .inr (isFaulted_of_pending pending)
  | false =>
      cases state : worker.context.downstreamState with
      | idle => exact .inl ⟨rested.idle state, state, pending⟩
      | faulted => exact .inr (isFaulted_of_downstream state)
      | speaking => exact absurd (.inl state) closed
      | cancelling => exact absurd (.inr state) closed

end Rested

end SpeechWorker

theorem SpeakStep.rested {state next : SpeakState} {action : SpeakAction}
    {events : List SpeakObservation} (taken : SpeakStep state action next events)
    (settled : state.worker.worker.Settled) (rested : state.worker.worker.Rested) :
    next.worker.worker.Rested := by
  rcases taken.worker_cases with ⟨step, inner, stepped⟩ | ⟨same, -⟩
  · refine rested.step settled (step_spec stepped) fun stops => ?_
    rw [stops] at inner
    exact taken.not_stop inner
  · rw [same]
    exact rested

/-- A worker that no one stops is at rest in every state it reaches. -/
theorem rested_of_reaches {guard : WorkerState → WorkerAction → Prop} {trace : List Observation}
    {state : WorkerState} (reached : workerMachine.Reaches guard trace state)
    (neverStopped : ∀ state action, guard state action → action ≠ .stop) : state.worker.Rested := by
  refine reached.induct (motive := fun _ state => state.worker.Rested) ?_ ?_
  · rintro _ ⟨blockAlign, positive, rfl⟩
    exact .create blockAlign positive
  · intro _ _ _ _ _ before rested allowed taken
    exact rested.step (workerInvariant before).consistent.toSettled (step_spec taken)
      (neverStopped _ _ allowed)

end ModernSapi
