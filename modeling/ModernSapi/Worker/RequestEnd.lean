import ModernSapi.Worker.Delivery
import ModernSapi.Worker.SpeakCall

/-!
# How a request ends

A step of the worker leaves the engine side of the request as it is, starts to cancel
it, completes it at its declared end, ends its drain, or makes it fail (`RequestFate`).
The two good ends are told from the others by the worker they reset.
-/

set_option autoImplicit false

namespace ModernSapi

open Interleaving SpeechWorker PcmDeliveryPolicy

/-! ## What a step of the worker emits -/

/-- The bytes a step of the worker reads. -/
def WorkerAction.chunk : WorkerAction → List UInt8
  | .audioChunk _ chunk | .frameAssemblyFails _ chunk => chunk
  | _ => []

section Emits

variable {state next : WorkerState} {action : WorkerAction} {events : List Observation}

theorem SpeechWorker.BoundaryOutcome.neutral {worker : SpeechWorker}
    {checked : SpeechWorker × Bool × List Observation} (outcome : BoundaryOutcome worker checked)
    (generation : ℕ) : Neutral generation checked.2.2 :=
  neutral_of_silent outcome.silent generation

/-- A step emits the bytes it reads. -/
theorem WorkerStep.readBytes (taken : WorkerStep state action next events) :
    readBytes events = action.chunk := by
  cases taken with
  | @chunkTaken _ chunk _ _ _ outcome =>
      cases outcome with
      | unexpected | discarded | framed => exact List.append_nil chunk
      | drained _ outcome =>
          exact (congrArg (chunk ++ ·) (outcome.neutral 0).read).trans (List.append_nil chunk)
      | retained _ _ outcome =>
          exact (congrArg (chunk ++ ·) (outcome.neutral 0).read).trans (List.append_nil chunk)
  | @assemblyFailed _ chunk => exact List.append_nil chunk
  | batchSettled _ outcome =>
      cases outcome with
      | ignored | rejected | rejectedFaulted => rfl
      | accepted _ _ outcome => exact (outcome.neutral 0).read
      | drained _ _ outcome => exact (outcome.neutral 0).read
  | recordHandled _ _ outcome =>
      cases outcome with
      | unchanged | malformed | terminalFault | fatal | utteranceFailed => rfl
      | terminalApplied _ _ _ _ _ outcome => exact (outcome.neutral 0).read
  | _ => rfl

/-- Only a start starts a request. -/
theorem WorkerStep.noStart (taken : WorkerStep state action next events)
    (other : ∀ now speakId, action ≠ .start now speakId) (token : RequestToken) :
    .requestStarted token ∉ events := by
  cases taken with
  | chunkTaken _ _ outcome =>
      cases outcome with
      | unexpected | discarded | framed => simp
      | drained _ outcome => simpa using (outcome.neutral 0).noStart token
      | retained _ _ outcome => simpa using (outcome.neutral 0).noStart token
  | batchSettled _ outcome =>
      cases outcome with
      | ignored | rejected | rejectedFaulted => simp
      | accepted _ _ outcome => exact (outcome.neutral 0).noStart token
      | drained _ _ outcome => exact (outcome.neutral 0).noStart token
  | recordHandled _ _ outcome =>
      cases outcome with
      | unchanged | malformed | terminalFault | fatal | utteranceFailed => simp
      | terminalApplied _ _ _ _ _ outcome => simpa using (outcome.neutral 0).noStart token
  | started => exact absurd rfl (other _ _)
  | _ => simp

/-- Only an admission hands over a span, and one of the speaking request. -/
theorem WorkerStep.handedOf (taken : WorkerStep state action next events) (generation : ℕ) :
    handedOf generation events = [] ∨
      (action = .spanAdmission ∧ generation = state.context.token.generation ∧
        state.context.downstreamState = .speaking ∧ next.context = state.context) := by
  cases taken with
  | chunkTaken _ _ outcome =>
      left
      cases outcome with
      | unexpected | discarded | framed => rfl
      | drained _ outcome => exact (outcome.neutral generation).handed
      | retained _ _ outcome => exact (outcome.neutral generation).handed
  | spanHanded here spans matching speaking =>
      by_cases same : generation = state.context.token.generation
      · exact .inr ⟨rfl, same, speaking, rfl⟩
      · left
        rw [matching] at same
        simp [ModernSapi.handedOf, Ne.symm same]
  | batchSettled _ outcome =>
      left
      cases outcome with
      | ignored | rejected | rejectedFaulted => rfl
      | accepted _ _ outcome => exact (outcome.neutral generation).handed
      | drained _ _ outcome => exact (outcome.neutral generation).handed
  | recordHandled _ _ outcome =>
      left
      cases outcome with
      | unchanged | malformed | terminalFault | fatal | utteranceFailed => rfl
      | terminalApplied _ _ _ _ _ outcome => exact (outcome.neutral generation).handed
  | _ => exact .inl rfl

end Emits

/-- A step of the engine that reads nothing and starts nothing emits no read and no
start, and hands over only a span of the speaking request. -/
theorem SpeakStep.emits {state next : SpeakState} {action : SpeakAction}
    {events : List SpeakObservation} (taken : SpeakStep state action next events)
    (internal : action.isInternal = true) :
    readBytes (workerEvents events) = [] ∧
      (∀ token, .requestStarted token ∉ workerEvents events) ∧
      ∀ generation, handedOf generation (workerEvents events) = [] ∨
        (generation = state.context.token.generation ∧
          state.context.downstreamState = .speaking ∧ next.context = state.context) := by
  rcases taken.worker_cases with ⟨step, here, stepped⟩ | ⟨-, silent⟩
  · have spec := step_spec stepped
    have quiet := taken.internal_worker internal here
    refine ⟨?_, spec.noStart ?_, fun generation => (spec.handedOf generation).imp id And.right⟩
    · rw [spec.readBytes]
      cases step with
      | audioChunk | frameAssemblyFails => cases quiet
      | _ => rfl
    · rintro now speakId rfl
      cases quiet
  · rw [silent]
    exact ⟨rfl, by simp, fun _ => .inl rfl⟩

/-! ## The fate of a request -/

namespace SpeechWorker

/-- `NormalCompleteReset`: the counters of a speaking request are at its declared end, and
no partial frame is left. -/
structure CompletesNormally (checked after : SpeechWorker) (events : List Observation) : Prop where
  speaking : checked.context.downstreamState = .speaking
  finished : checked.context.upstreamFinished = true
  reached : checked.ReachedEnd
  reset : after = checked.resetToIdleLocked
  reported : ∃ front, events = front ++
    [.terminalBoundaryReached checked.context.token.generation
      checked.context.upstreamTerminalBytes]

/-- `CancelDrainReset`: as many bytes of a cancelled request were read as were declared. -/
structure DrainsCancellation (checked after : SpeechWorker) (events : List Observation) : Prop where
  cancelling : checked.context.downstreamState = .cancelling
  finished : checked.context.upstreamFinished = true
  enough : checked.context.upstreamTerminalBytes ≤ checked.context.rawAudioBytesRead
  reset : after = checked.resetToIdleLocked
  reported : ∃ front, events = front ++
    [.cancellationBoundaryReached checked.context.token.generation
      checked.context.upstreamTerminalBytes checked.context.rawAudioBytesRead]

end SpeechWorker

/-- The declared end is as it was, or a terminal record of the request was applied. -/
def RequestContext.Declares (before after : RequestContext) (events : List Observation) : Prop :=
  (after.upstreamFinished = before.upstreamFinished ∧
      after.upstreamTerminalBytes = before.upstreamTerminalBytes) ∨
    ∃ raw, .terminalReceived before.token.generation after.upstreamTerminalBytes raw ∈ events

/-- What a step makes of a request: its context before, the worker after. -/
inductive RequestFate (before : RequestContext) (after : SpeechWorker)
    (events : List Observation) : Prop where
  | kept (declares : before.Declares after.context events)
      (downstream : after.context.downstreamState = before.downstreamState)
      (completion : after.context.completionHr = before.completionHr)
  | cancelled (speaking : before.downstreamState = .speaking)
      (cancelling : after.context.downstreamState = .cancelling)
      (unfinished : after.context.upstreamFinished = false)
      (completion : after.context.completionHr = before.completionHr)
  | completed (speaking : before.downstreamState = .speaking) {checked : SpeechWorker}
      (completes : checked.CompletesNormally after events)
      (declares : before.Declares checked.context events)
      (token : checked.context.token = before.token)
      (completion : after.context.completionHr = before.completionHr)
  | drained (cancelling : before.downstreamState = .cancelling) {checked : SpeechWorker}
      (drains : checked.DrainsCancellation after events)
      (declares : before.Declares checked.context events)
      (token : checked.context.token = before.token)
      (completion : after.context.completionHr = before.completionHr)
  | failed (failed : after.context.completionHr = .eFail)
      (closed : after.context.downstreamState = .idle ∨ after.context.downstreamState = .faulted)

section Fate

variable {before : RequestContext} {worker moved : SpeechWorker}

theorem RequestContext.Declares.refl (context : RequestContext) (events : List Observation) :
    context.Declares context events :=
  .inl ⟨rfl, rfl⟩

theorem RequestContext.Declares.append {after : RequestContext} {front : List Observation}
    (later : List Observation) (declares : before.Declares after front) :
    before.Declares after (front ++ later) := by
  rcases declares with same | ⟨raw, member⟩
  · exact .inl same
  · exact .inr ⟨raw, List.mem_append_left _ member⟩

/-- The check after a worker has moved on. -/
theorem SpeechWorker.BoundaryOutcome.fate {checked : SpeechWorker × Bool × List Observation}
    (outcome : BoundaryOutcome moved checked) (front : List Observation)
    (notFailed : moved.context.upstreamState ≠ .failed)
    (declares : before.Declares moved.context front)
    (token : moved.context.token = before.token)
    (downstream : moved.context.downstreamState = before.downstreamState)
    (completion : moved.context.completionHr = before.completionHr) :
    RequestFate before (checked.1.pendFault checked.2.1) (front ++ checked.2.2) := by
  cases outcome with
  | continues => exact .kept (declares.append []) downstream completion
  | failed failed => exact absurd failed notFailed
  | overrun => exact .kept (declares.append _) downstream completion
  | completed speaking finished reached =>
      exact .completed (downstream.symm.trans speaking)
        ⟨speaking, finished, reached, rfl, front, rfl⟩ (declares.append _) token completion
  | drained cancelling finished enough =>
      exact .drained (downstream.symm.trans cancelling)
        ⟨cancelling, finished, enough, rfl, front, rfl⟩ (declares.append _) token completion

theorem SpeechWorker.IngestOutcome.fate {now : ℕ} {chunk : List UInt8}
    {result : SpeechWorker × AudioIngestResult × List Observation}
    (outcome : IngestOutcome worker now chunk result) (settled : worker.Settled) :
    RequestFate worker.context result.1 result.2.2 := by
  cases outcome with
  | unexpected | discarded | framed => exact .kept (.refl _ _) rfl rfl
  | drained _ outcome =>
      exact outcome.fate [.pcmRead chunk] settled.notFailed (.refl _ _) rfl rfl rfl
  | retained _ _ outcome =>
      exact outcome.fate [.pcmRead chunk] settled.notFailed (.refl _ _) rfl rfl rfl

theorem SpeechWorker.DeliveryOutcome.fate {now delivered : ℕ} {token : RequestToken}
    {writeAccepted : Bool} {result : SpeechWorker × Bool × ℕ × List Observation}
    (outcome : DeliveryOutcome worker now token delivered writeAccepted result)
    (settled : worker.Settled) : RequestFate worker.context result.1 result.2.2.2 := by
  cases outcome with
  | ignored => exact .kept (.refl _ _) rfl rfl
  | accepted _ _ outcome =>
      exact outcome.fate [] settled.notFailed (.refl _ _) rfl rfl rfl
  | rejected _ speaking => exact .cancelled speaking rfl rfl rfl
  | rejectedFaulted => exact .kept (.refl _ _) rfl rfl
  | drained _ _ outcome =>
      exact outcome.fate [] settled.notFailed (.refl _ _) rfl rfl rfl

theorem SpeechWorker.EventOutcome.fate {event : ProviderControlEvent} {forward : Bool}
    {result : SpeechWorker × ControlEventDisposition × List Observation}
    (outcome : EventOutcome worker event forward result) :
    RequestFate worker.context result.1 result.2.2 := by
  cases outcome with
  | unchanged | malformed | fatal => exact .kept (.refl _ _) rfl rfl
  | terminalFault => exact .failed rfl (.inr rfl)
  | terminalApplied _ _ _ _ _ outcome =>
      exact outcome.fate
        [.terminalReceived worker.context.token.generation event.terminalAudioBytes
          worker.context.rawAudioBytesRead]
        (terminalTarget_ne_failed event.type) (.inr ⟨_, List.mem_singleton_self _⟩) rfl rfl rfl
  | utteranceFailed => exact .failed rfl (.inl rfl)

/-- **Every step but a start and a stop decides the fate of the request.** -/
theorem WorkerStep.fate {state next : WorkerState} {action : WorkerAction}
    {events : List Observation} (taken : WorkerStep state action next events)
    (settled : state.worker.Settled) (notStart : ∀ now speakId, action ≠ .start now speakId)
    (notStop : action ≠ .stop) : RequestFate state.context next.worker events := by
  cases taken with
  | chunkTaken _ _ outcome => exact outcome.fate settled
  | batchSettled _ outcome => exact outcome.fate settled
  | recordHandled _ _ outcome => exact outcome.fate
  | recordUnaddressed =>
      unfold handleMissingSpeakIdLocked
      split <;> exact .kept (.refl _ _) rfl rfl
  | faultEntered => exact .failed rfl (.inr rfl)
  | faultRepeated =>
      rw [WorkerState.leaveFaulted_worker]
      exact .failed rfl (.inr rfl)
  | faultPublished =>
      rw [WorkerState.leaveFaulted_worker]
      exact .kept (.refl _ _) rfl rfl
  | started => exact absurd rfl (notStart _ _)
  | stopped => exact absurd rfl notStop
  | cancellationBegun speaking => exact .cancelled speaking rfl rfl rfl
  | _ => exact .kept (.refl _ _) rfl rfl

/-- A request that is open after a step was open before it. -/
theorem RequestFate.isOpen {after : SpeechWorker} {events : List Observation}
    (fate : RequestFate before after events) (isOpen : after.context.IsOpen) : before.IsOpen := by
  cases fate with
  | kept _ downstream =>
      rw [RequestContext.IsOpen, downstream] at isOpen
      exact isOpen
  | cancelled speaking => exact .inl speaking
  | completed speaking => exact .inl speaking
  | drained cancelling => exact .inr cancelling
  | failed _ closed =>
      rcases closed with idle | faulted
      · exact absurd isOpen (RequestContext.not_isOpen_of_idle idle)
      · exact absurd isOpen (RequestContext.not_isOpen_of_faulted faulted)

/-- A request that is speaking after a step was speaking before it. -/
theorem RequestFate.speaking {after : SpeechWorker} {events : List Observation}
    (fate : RequestFate before after events) (speaking : after.context.downstreamState = .speaking) :
    before.downstreamState = .speaking := by
  cases fate with
  | kept _ downstream => exact downstream.symm.trans speaking
  | cancelled before => exact before
  | completed before => exact before
  | drained _ drains =>
      rw [drains.reset] at speaking
      cases speaking
  | failed _ closed =>
      rcases closed with closed | closed
      all_goals
        rw [closed] at speaking
        cases speaking

end Fate

/-! ## The bytes of an open request -/

section Counted

variable {worker : SpeechWorker}

theorem SpeechWorker.BoundaryOutcome.raw {checked : SpeechWorker × Bool × List Observation}
    (outcome : BoundaryOutcome worker checked) :
    (checked.1.pendFault checked.2.1).context.rawAudioBytesRead =
      worker.context.rawAudioBytesRead := by
  rw [pendFault_context]
  rcases outcome.worker_cases with same | ⟨reset, -⟩
  · rw [same]
  · rw [reset]
    rfl

/-- **Every byte that is read while a request is open is counted for it.** -/
theorem WorkerStep.counted {state next : WorkerState} {action : WorkerAction}
    {events : List Observation} (taken : WorkerStep state action next events)
    (isOpen : state.context.IsOpen) (notStart : ∀ now speakId, action ≠ .start now speakId) :
    next.context.rawAudioBytesRead =
      state.context.rawAudioBytesRead + (ModernSapi.readBytes events).length := by
  rw [taken.readBytes]
  cases taken with
  | chunkTaken _ _ outcome =>
      cases outcome with
      | unexpected idle => exact absurd isOpen (RequestContext.not_isOpen_of_idle idle)
      | discarded faulted => exact absurd isOpen (RequestContext.not_isOpen_of_faulted faulted)
      | drained _ outcome | retained _ _ outcome => exact outcome.raw
      | framed => rfl
  | assemblyFailed => rfl
  | batchSettled _ outcome =>
      cases outcome with
      | ignored | rejected | rejectedFaulted => rfl
      | accepted _ _ outcome | drained _ _ outcome => exact outcome.raw
  | recordHandled _ _ outcome =>
      cases outcome with
      | unchanged | malformed | terminalFault | fatal | utteranceFailed => rfl
      | terminalApplied _ _ _ _ _ outcome => exact outcome.raw
  | recordUnaddressed =>
      simp only [WorkerState.context, handleMissingSpeakIdLocked]
      split <;> rfl
  | faultRepeated | faultPublished =>
      rw [WorkerState.context, WorkerState.leaveFaulted_worker]
      rfl
  | started => exact absurd rfl (notStart _ _)
  | _ => rfl

end Counted

end ModernSapi
