import ModernSapi.Worker.SpeakCall

/-!
# The watchdog

`WaitUntilFinished` asks `evaluateTimeouts` every few milliseconds whether the request
has run out of time. Whether a request can run out of time at all depends on fields that
different steps set: the deadline of a cancelled request must not be zero, and a request
that is spoken must be active or have its terminal record.

`watchdog_armed` shows that every open request runs out of time, however it got where it
is. What moves the tick that the watchdog counts from is `WorkerStep.speaksOn`: for a
request that is spoken, a read of the audio pipe and a valid record of the request, and
nothing else. The tick count of the machine is taken not to wrap.
-/

set_option autoImplicit false

namespace ModernSapi

open Interleaving SpeechStatePolicy SpeechWorker

/-- The deadline of a cancellation lies its timeout after some tick. -/
def CancelsWithTimeout (_ : WorkerState) : WorkerAction → Prop
  | .beginCancellation deadlineTick => cancellationTimeoutMs ≤ deadlineTick
  | _ => True

instance (state : WorkerState) : DecidablePred (CancelsWithTimeout state)
  | .beginCancellation deadlineTick =>
      inferInstanceAs (Decidable (cancellationTimeoutMs ≤ deadlineTick))
  | .audioChunk .. | .frameAssemblyFails .. | .audioReadFails | .spanAdmission
  | .onAudioDataReturns _ | .batchOutcome _ | .cancellationSent _ | .controlRecord ..
  | .controlReadFails | .finalAdmission | .onSpeechEventReturns | .enterFaultedState _
  | .publishFault _ | .start .. | .stop => .isTrue trivial

namespace RequestContext

/-- A cancelled request has a deadline. -/
def HasDeadline (context : RequestContext) : Prop :=
  context.downstreamState = .cancelling → context.cancellationDeadlineTick ≠ 0

variable {context : RequestContext}

theorem HasDeadline.of_other (other : context.downstreamState ≠ .cancelling) :
    context.HasDeadline :=
  fun cancelling => absurd cancelling other

theorem HasDeadline.of_speaking (speaking : context.downstreamState = .speaking) :
    context.HasDeadline :=
  .of_other (by simp [speaking])

/-- **An open request that has a deadline or is due runs out of time.** -/
theorem evaluateTimeouts_of_isOpen {now lastProgressTick inactivityTimeoutMs : ℕ}
    (isOpen : context.IsOpen) (hasDeadline : context.HasDeadline)
    (due : context.downstreamState = .speaking → context.upstreamFinished = false →
      context.upstreamState = .active)
    (silent : lastProgressTick + inactivityTimeoutMs ≤ now)
    (late : context.cancellationDeadlineTick ≤ now) :
    (evaluateTimeouts context now lastProgressTick inactivityTimeoutMs).condition ≠ .none ∧
      (evaluateTimeouts context now lastProgressTick inactivityTimeoutMs).speakId =
        context.token.speakId := by
  unfold evaluateTimeouts
  split
  · exact ⟨by simp, rfl⟩
  · next notCancelled =>
      have speaking : context.downstreamState = .speaking := by
        rcases isOpen with speaking | cancelling
        · exact speaking
        · refine absurd ⟨?_, hasDeadline cancelling, late⟩ notCancelled
          simp [isDrainingCancellation, cancelling]
      have watched : context.isActivelySynthesizing = true ∨
          context.isAwaitingTerminalAudio = true := by
        cases finished : context.upstreamFinished with
        | true => exact .inr (by simp [isAwaitingTerminalAudio, finished, speaking])
        | false => exact .inl (by simp [isActivelySynthesizing, due speaking finished])
      rw [if_pos ⟨watched, by omega, by omega⟩]
      exact ⟨by simp, rfl⟩

end RequestContext

/-! ## The deadline of a worker -/

namespace SpeechWorker

variable {worker : SpeechWorker} {now : ℕ} {chunk : List UInt8} {token : RequestToken}
  {delivered : ℕ} {writeAccepted forward : Bool} {event : ProviderControlEvent}

theorem hasDeadline_pendFault (armed : worker.context.HasDeadline) (failed : Bool) :
    (worker.pendFault failed).context.HasDeadline := by
  rw [pendFault_context]
  exact armed

theorem BoundaryOutcome.hasDeadline {checked : SpeechWorker × Bool × List Observation}
    (outcome : BoundaryOutcome worker checked) (armed : worker.context.HasDeadline) :
    (checked.1.pendFault checked.2.1).context.HasDeadline := by
  refine hasDeadline_pendFault ?_ _
  rcases outcome.worker_cases with same | ⟨reset, -⟩
  · rw [same]
    exact armed
  · rw [reset]
    exact nofun

theorem IngestOutcome.hasDeadline
    {result : SpeechWorker × AudioIngestResult × List Observation}
    (outcome : IngestOutcome worker now chunk result) (armed : worker.context.HasDeadline) :
    result.1.context.HasDeadline := by
  cases outcome with
  | unexpected | discarded | framed => exact armed
  | drained _ outcome | retained _ _ outcome => exact outcome.hasDeadline armed

theorem DeliveryOutcome.hasDeadline {result : SpeechWorker × Bool × ℕ × List Observation}
    (outcome : DeliveryOutcome worker now token delivered writeAccepted result)
    (armed : worker.context.HasDeadline) : result.1.context.HasDeadline := by
  cases outcome with
  | ignored | rejectedFaulted => exact armed
  | accepted _ _ outcome | drained _ _ outcome => exact outcome.hasDeadline armed
  | rejected =>
      intro _
      exact Nat.succ_ne_zero _

theorem EventOutcome.hasDeadline
    {result : SpeechWorker × ControlEventDisposition × List Observation}
    (outcome : EventOutcome worker event forward result) (armed : worker.context.HasDeadline) :
    result.1.context.HasDeadline := by
  cases outcome with
  | unchanged | malformed | fatal => exact armed
  | terminalApplied _ _ _ _ _ outcome => exact outcome.hasDeadline armed
  | terminalFault | utteranceFailed => exact nofun

theorem hasDeadline_handleMissingSpeakIdLocked (armed : worker.context.HasDeadline) :
    worker.handleMissingSpeakIdLocked.context.HasDeadline := by
  obtain ⟨failed, same⟩ := worker.handleMissingSpeakIdLocked_eq
  rw [same]
  exact hasDeadline_pendFault armed failed

end SpeechWorker

variable {state next : WorkerState} {action : WorkerAction} {trace events : List Observation}

/-- **No step leaves a cancelled request without a deadline.** -/
theorem hasDeadline_step (armed : state.context.HasDeadline)
    (allowed : CancelsWithTimeout state action) (taken : WorkerStep state action next events) :
    next.context.HasDeadline := by
  cases taken with
  | chunkTaken _ _ outcome => exact outcome.hasDeadline armed
  | assemblyFailed _ _ speaking => exact .of_speaking speaking
  | batchSettled _ outcome => exact outcome.hasDeadline armed
  | recordUnaddressed => exact hasDeadline_handleMissingSpeakIdLocked armed
  | recordHandled _ _ outcome => exact outcome.hasDeadline armed
  | faultRepeated =>
      rw [WorkerState.context, WorkerState.leaveFaulted_worker]
      intro cancelling
      cases cancelling
  | faultPublished =>
      rw [WorkerState.context, WorkerState.leaveFaulted_worker]
      exact armed
  | faultEntered | started | stopped =>
      intro cancelling
      cases cancelling
  | @cancellationBegun deadlineTick =>
      intro _
      have timeout : cancellationTimeoutMs ≤ deadlineTick := allowed
      exact Nat.ne_of_gt (Nat.lt_of_lt_of_le (by decide) timeout)
  | _ => exact armed

/-- **The watchdog is always armed.** In every state of every run, an open request that
has made no progress for the inactivity timeout, and is past its deadline, runs out of
time under its own speak id, and so does a wait for it. -/
theorem watchdog_armed {blockAlign : ℕ} {positive : 0 < blockAlign}
    (run : workerMachine.Run CancelsWithTimeout (.initial blockAlign positive) trace state)
    (isOpen : state.context.IsOpen) {now : ℕ}
    (silent : state.worker.lastProviderProgressTick + synthesisInactivityTimeoutMs ≤ now)
    (late : state.context.cancellationDeadlineTick ≤ now) :
    let decision := evaluateTimeouts state.context now state.worker.lastProviderProgressTick
      synthesisInactivityTimeoutMs
    decision.condition ≠ .none ∧ decision.speakId = state.context.token.speakId ∧
      (SpeakState.step { worker := state, call := .waiting } (.waitTimesOut now)).isSome = true := by
  have settled := (workerInvariant ⟨_, ⟨_, _, rfl⟩, run⟩).consistent.toSettled
  have armed : state.context.HasDeadline := by
    refine run.induct (motive := fun _ state => state.context.HasDeadline) nofun ?_
    intro _ _ _ _ _ _ armed allowed taken
    exact hasDeadline_step armed allowed (step_spec taken)
  obtain ⟨condition, speakId⟩ :=
    RequestContext.evaluateTimeouts_of_isOpen isOpen armed settled.active silent late
  refine ⟨condition, speakId, ?_⟩
  have unfinished : ¬isWaitTerminal state.context false = true := by
    rcases isOpen with speaking | cancelling
    · simp [isWaitTerminal, speaking]
    · simp [isWaitTerminal, cancelling]
  simp only [SpeakState.step, SpeakState.waitTimesOut]
  rw [if_pos ⟨trivial, unfinished, condition⟩]
  rfl

/-- A request whose terminal record arrives before its abort. -/
def declaredThenAborted : List WorkerAction :=
  [.start 0 1, .audioChunk 1 [1, 2],
    .controlRecord 2
      { type := .synthesisComplete, speakId := 1, rawEventName := "synthesis_complete"
        terminalAudioBytes := 8, hasValidTerminalBytes := true },
    .finalAdmission, .beginCancellation 503]

theorem watchdog_armed_aborted :
    let state := workerMachine.finalState (.initial 2 (by decide)) declaredThenAborted
    (evaluateTimeouts state.context 1502 state.worker.lastProviderProgressTick
      synthesisInactivityTimeoutMs).condition ≠ .none :=
  (watchdog_armed (workerMachine.run_finalState (.initial 2 (by decide)) declaredThenAborted
    (by decide) (by decide)) (.inr (by decide)) (by decide) (by decide)).1

/-! ## The tick of the last progress -/

/-- The record is of the request and valid: a speech event with its offsets, or a terminal
record with its bytes. -/
def ProviderControlEvent.IsProgressOf (event : ProviderControlEvent) (speakId : ℕ) : Prop :=
  event.speakId = speakId ∧ speakId ≠ 0 ∧
    ((event.isSpeechBoundary = true ∧ event.hasValidSpeechOffsets = true) ∨
      (event.isTerminal = true ∧ event.hasValidTerminalBytes = true))

instance (event : ProviderControlEvent) (speakId : ℕ) :
    Decidable (event.IsProgressOf speakId) :=
  inferInstanceAs (Decidable (_ ∧ _ ∧ _))

/-- **What counts as progress** of a request that is spoken is its valid records. -/
theorem shouldRefreshProgress_iff {context : RequestContext} {event : ProviderControlEvent}
    (speaking : context.downstreamState = .speaking) (addressed : event.speakId ≠ 0) :
    (ControlEventPolicy.evaluateParsedEvent event context).shouldRefreshProgress = true ↔
      event.IsProgressOf context.token.speakId := by
  have isOpen : ControlEventPolicy.isOpen context = true := by
    simp [ControlEventPolicy.isOpen, speaking]
  by_cases matching : event.speakId = context.token.speakId
  · have named : context.token.speakId ≠ 0 := by
      rw [← matching]
      exact addressed
    unfold ControlEventPolicy.evaluateParsedEvent ProviderControlEvent.IsProgressOf
      ProviderControlEvent.isSpeechBoundary ProviderControlEvent.isTerminal
    cases type : event.type with
    | wordBoundary | sentenceBoundary | bookmark =>
        cases valid : event.hasValidSpeechOffsets with
        | false => simp [matching, ProviderEventType.isSpeechBoundary, ProviderEventType.isTerminal]
        | true => simp [matching, named, isOpen, ProviderEventType.isSpeechBoundary]
    | _ =>
        simp [matching, named, isOpen, ProviderEventType.isSpeechBoundary,
          ProviderEventType.isTerminal]
  · simp [ControlEventPolicy.evaluateParsedEvent, ProviderControlEvent.IsProgressOf, matching]

namespace SpeechWorker

/-- The request was spoken before, and nothing has counted as progress since. -/
structure SpeaksOn (before after : SpeechWorker) : Prop where
  speaking : before.context.downstreamState = .speaking
  token : after.context.token = before.context.token
  tick : after.lastProviderProgressTick = before.lastProviderProgressTick

variable {worker : SpeechWorker} {now : ℕ} {chunk : List UInt8} {token : RequestToken}
  {delivered : ℕ} {writeAccepted forward : Bool} {event : ProviderControlEvent}

theorem speaksOn_pendFault (speaking : worker.context.downstreamState = .speaking)
    (failed : Bool) : SpeaksOn worker (worker.pendFault failed) := by
  cases failed with
  | false => exact ⟨speaking, rfl, rfl⟩
  | true => exact ⟨speaking, rfl, rfl⟩

theorem BoundaryOutcome.speaksOn {checked : SpeechWorker × Bool × List Observation}
    (outcome : BoundaryOutcome worker checked)
    (speaking : (checked.1.pendFault checked.2.1).context.downstreamState = .speaking) :
    SpeaksOn worker (checked.1.pendFault checked.2.1) := by
  cases outcome with
  | continues => exact ⟨speaking, rfl, rfl⟩
  | overrun before => exact speaksOn_pendFault before true
  | failed | completed | drained => cases speaking

/-- A chunk that leaves the request speaking is progress. -/
theorem IngestOutcome.speaksOn
    {result : SpeechWorker × AudioIngestResult × List Observation}
    (outcome : IngestOutcome worker now chunk result)
    (speaking : result.1.context.downstreamState = .speaking) :
    SpeaksOn (worker.chunkCounted now chunk.length) result.1 := by
  cases outcome with
  | unexpected idle => exact absurd (idle.symm.trans speaking) nofun
  | discarded faulted => exact absurd (faulted.symm.trans speaking) nofun
  | drained _ outcome => exact outcome.speaksOn speaking
  | retained _ _ outcome =>
      have kept := outcome.speaksOn speaking
      exact ⟨kept.speaking, kept.token, kept.tick⟩
  | framed before => exact ⟨before, rfl, rfl⟩

theorem DeliveryOutcome.speaksOn {result : SpeechWorker × Bool × ℕ × List Observation}
    (outcome : DeliveryOutcome worker now token delivered writeAccepted result)
    (speaking : result.1.context.downstreamState = .speaking) : SpeaksOn worker result.1 := by
  cases outcome with
  | ignored => exact ⟨speaking, rfl, rfl⟩
  | accepted _ before outcome =>
      have kept := outcome.speaksOn speaking
      exact ⟨before, kept.token, kept.tick⟩
  | rejected => cases speaking
  | rejectedFaulted _ before => exact ⟨before, rfl, rfl⟩
  | drained _ _ outcome => exact outcome.speaksOn speaking

theorem EventOutcome.speaksOn
    {result : SpeechWorker × ControlEventDisposition × List Observation}
    (outcome : EventOutcome worker event forward result)
    (speaking : result.1.context.downstreamState = .speaking) : SpeaksOn worker result.1 := by
  cases outcome with
  | unchanged => exact ⟨speaking, rfl, rfl⟩
  | malformed => exact ⟨speaking, rfl, rfl⟩
  | fatal => exact ⟨speaking, rfl, rfl⟩
  | terminalApplied _ _ _ _ _ outcome =>
      have kept := outcome.speaksOn speaking
      exact ⟨kept.speaking, kept.token, kept.tick⟩
  | terminalFault | utteranceFailed => cases speaking

theorem speaksOn_handleMissingSpeakIdLocked
    (speaking : worker.handleMissingSpeakIdLocked.context.downstreamState = .speaking) :
    SpeaksOn worker worker.handleMissingSpeakIdLocked := by
  obtain ⟨failed, same⟩ := worker.handleMissingSpeakIdLocked_eq
  rw [same] at speaking ⊢
  rw [pendFault_context] at speaking
  exact speaksOn_pendFault speaking failed

/-- A record that leaves the request speaking is progress when it is valid. -/
theorem SpeaksOn.of_refreshed {after : SpeechWorker} (addressed : event.speakId ≠ 0)
    (kept : SpeaksOn (worker.refreshProgress now
      (ControlEventPolicy.evaluateParsedEvent event worker.context).shouldRefreshProgress) after) :
    worker.context.downstreamState = .speaking ∧
      after.context.token = worker.context.token ∧
      after.lastProviderProgressTick =
        if event.IsProgressOf worker.context.token.speakId then now
        else worker.lastProviderProgressTick := by
  have speaking : worker.context.downstreamState = .speaking := kept.speaking
  refine ⟨speaking, kept.token, kept.tick.trans ?_⟩
  exact if_congr (shouldRefreshProgress_iff speaking addressed) rfl rfl

end SpeechWorker

/-- The tick a step asks for. -/
def WorkerAction.now? : WorkerAction → Option ℕ
  | .audioChunk now _ | .frameAssemblyFails now _ | .batchOutcome now | .controlRecord now _
  | .start now _ => some now
  | _ => none

/-- When a step of a thread takes in progress of the request. -/
def WorkerState.takesIn (state : WorkerState) : WorkerAction → Option ℕ
  | .audioChunk now _ | .frameAssemblyFails now _ => some now
  | .controlRecord now event =>
      if event.IsProgressOf state.context.token.speakId then some now else none
  | _ => none

/-- **The tick of a request that is spoken** was its tick before, or is the time of the
progress that the step takes in. -/
theorem WorkerStep.speaksOn (taken : WorkerStep state action next events)
    (notStart : ∀ now speakId, action ≠ .start now speakId)
    (speaking : next.context.downstreamState = .speaking) :
    state.context.downstreamState = .speaking ∧ next.context.token = state.context.token ∧
      next.worker.lastProviderProgressTick =
        (state.takesIn action).getD state.worker.lastProviderProgressTick := by
  cases taken with
  | chunkTaken _ _ outcome =>
      have kept := outcome.speaksOn speaking
      exact ⟨kept.speaking, kept.token, kept.tick⟩
  | assemblyFailed _ _ before => exact ⟨before, rfl, rfl⟩
  | batchSettled _ outcome =>
      have kept := outcome.speaksOn speaking
      exact ⟨kept.speaking, kept.token, kept.tick⟩
  | @recordUnaddressed now event _ unaddressed =>
      have kept := speaksOn_handleMissingSpeakIdLocked speaking
      refine ⟨kept.speaking, kept.token, kept.tick.trans ?_⟩
      have none : ¬event.IsProgressOf state.context.token.speakId := by
        rintro ⟨same, named, -⟩
        exact named (same.symm.trans unaddressed)
      rw [WorkerState.takesIn, if_neg none]
      rfl
  | recordHandled _ addressed outcome =>
      obtain ⟨before, token, tick⟩ := (outcome.speaksOn speaking).of_refreshed addressed
      refine ⟨before, token, tick.trans ?_⟩
      rw [WorkerState.takesIn]
      split
      · rfl
      · rfl
  | @recordSkipped now event _ blank =>
      have none : ¬event.IsProgressOf state.context.token.speakId := by
        rintro ⟨-, -, ⟨boundary, -⟩ | ⟨terminal, -⟩⟩
        · simp [ProviderControlEvent.isSpeechBoundary, ProviderEventType.isSpeechBoundary,
            blank] at boundary
        · simp [ProviderControlEvent.isTerminal, ProviderEventType.isTerminal, blank] at terminal
      refine ⟨speaking, rfl, ?_⟩
      rw [WorkerState.takesIn, if_neg none]
      rfl
  | started => exact absurd rfl (notStart _ _)
  | startRejected => exact absurd rfl (notStart _ _)
  | faultEntered | stopped | cancellationBegun => cases speaking
  | faultRepeated =>
      rw [WorkerState.context, WorkerState.leaveFaulted_worker] at speaking
      cases speaking
  | faultPublished =>
      simp only [WorkerState.context, WorkerState.leaveFaulted_worker] at speaking ⊢
      exact ⟨speaking, rfl, rfl⟩
  | _ => exact ⟨speaking, rfl, rfl⟩

end ModernSapi
