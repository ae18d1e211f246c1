import ModernSapi.Worker.Invariant

/-!
# What a step does to the request

Seen from outside, a step of the worker leaves the request as it is, ends it at
its declared total, starts to cancel it, or faults it (`RequestMove`). A chunk is
counted before that, and a terminal record is applied before that.
-/

set_option autoImplicit false

namespace ModernSapi

open SpeechWorker PcmDeliveryPolicy

/-- The request is being spoken or drained. -/
def RequestContext.IsOpen (context : RequestContext) : Prop :=
  context.downstreamState = .speaking ∨ context.downstreamState = .cancelling

/-- The request is the same in everything but what was delivered of it, the
deadline and a fault that is pending. -/
structure RequestContext.Keeps (before after : RequestContext) : Prop where
  token : after.token = before.token
  downstream : after.downstreamState = before.downstreamState
  upstream : after.upstreamState = before.upstreamState
  raw : after.rawAudioBytesRead = before.rawAudioBytesRead
  finished : after.upstreamFinished = before.upstreamFinished
  terminal : after.upstreamTerminalBytes = before.upstreamTerminalBytes

/-- The steps of a request. -/
inductive RequestMove (before after : RequestContext) : Prop where
  | kept (keeps : before.Keeps after)
  | ended (isOpen : before.IsOpen) (finished : before.upstreamFinished = true)
      (enough : before.upstreamTerminalBytes ≤ before.rawAudioBytesRead)
      (token : after.token = before.token) (idle : after.downstreamState = .idle)
  | cancelled (speaking : before.downstreamState = .speaking)
      (cancelling : after.downstreamState = .cancelling) (token : after.token = before.token)
      (raw : after.rawAudioBytesRead = before.rawAudioBytesRead)
      (upstream : after.upstreamState = before.upstreamState)
      (unfinished : after.upstreamFinished = false)
  | faulted (faulted : after.downstreamState = .faulted) (token : after.token = before.token)

theorem RequestContext.Keeps.refl (context : RequestContext) : context.Keeps context :=
  ⟨rfl, rfl, rfl, rfl, rfl, rfl⟩

/-- No move changes the token. -/
theorem RequestMove.token {before after : RequestContext} (moved : RequestMove before after) :
    after.token = before.token := by
  cases moved with
  | kept keeps => exact keeps.token
  | ended _ _ _ token => exact token
  | cancelled _ _ token => exact token
  | faulted _ token => exact token

section Open

variable {before after : RequestContext}

theorem RequestContext.Keeps.isOpen (keeps : before.Keeps after) :
    after.IsOpen ↔ before.IsOpen := by
  rw [RequestContext.IsOpen, RequestContext.IsOpen, keeps.downstream]

theorem RequestContext.not_isOpen_of_idle (idle : after.downstreamState = .idle) :
    ¬after.IsOpen := by
  simp [RequestContext.IsOpen, idle]

theorem RequestContext.not_isOpen_of_faulted (faulted : after.downstreamState = .faulted) :
    ¬after.IsOpen := by
  simp [RequestContext.IsOpen, faulted]

/-- A request that is open after a move was open before, with as many bytes. -/
theorem RequestMove.opened (moved : RequestMove before after)
    (isOpen : after.IsOpen) :
    before.IsOpen ∧ after.rawAudioBytesRead = before.rawAudioBytesRead := by
  cases moved with
  | kept keeps => exact ⟨keeps.isOpen.mp isOpen, keeps.raw⟩
  | ended _ _ _ _ idle => exact absurd isOpen (RequestContext.not_isOpen_of_idle idle)
  | cancelled speaking _ _ raw => exact ⟨.inl speaking, raw⟩
  | faulted faulted => exact absurd isOpen (RequestContext.not_isOpen_of_faulted faulted)

/-- A request is speaking after a move only when it was before. -/
theorem RequestMove.speaking (moved : RequestMove before after)
    (speaking : after.downstreamState = .speaking) : before.downstreamState = .speaking := by
  cases moved with
  | kept keeps => exact keeps.downstream.symm.trans speaking
  | ended _ _ _ _ idle => simp [idle] at speaking
  | cancelled _ cancelling => simp [cancelling] at speaking
  | faulted faulted => simp [faulted] at speaking

end Open

/-- The request context after a chunk is counted. -/
def RequestContext.counted (context : RequestContext) (bytes : ℕ) : RequestContext :=
  { context with rawAudioBytesRead := context.rawAudioBytesRead + bytes }

/-- The request context after a terminal record is applied. -/
def RequestContext.declared (context : RequestContext) (event : ProviderControlEvent) :
    RequestContext :=
  { context with
    upstreamTerminalBytes := event.terminalAudioBytes
    upstreamFinished := true
    upstreamState := terminalTarget event.type }

section Moves

variable {worker : SpeechWorker}

theorem keeps_pendFault (worker : SpeechWorker) (failed : Bool) :
    worker.context.Keeps (worker.pendFault failed).context := by
  cases failed with
  | false => exact .refl _
  | true => exact ⟨rfl, rfl, rfl, rfl, rfl, rfl⟩

/-- The check keeps the request or ends it at its declared total. -/
theorem SpeechWorker.BoundaryOutcome.move {checked : SpeechWorker × Bool × List Observation}
    (outcome : BoundaryOutcome worker checked)
    (notFailed : worker.context.upstreamState ≠ .failed) :
    RequestMove worker.context (checked.1.pendFault checked.2.1).context := by
  cases outcome with
  | continues => exact .kept (.refl _)
  | failed failed => exact absurd failed notFailed
  | overrun => exact .kept (keeps_pendFault worker true)
  | completed speaking finished reached =>
      exact .ended (.inl speaking) finished (Nat.le_of_eq reached.raw.symm) rfl rfl
  | drained cancelling finished enough =>
      exact .ended (.inr cancelling) finished enough rfl rfl

/-- A chunk of an open request is counted, and the request then moves. -/
theorem SpeechWorker.IngestOutcome.move {now : ℕ} {chunk : List UInt8}
    {result : SpeechWorker × AudioIngestResult × List Observation}
    (outcome : IngestOutcome worker now chunk result)
    (notFailed : worker.context.upstreamState ≠ .failed) :
    (¬worker.context.IsOpen ∧ worker.context.Keeps result.1.context) ∨
      (worker.context.IsOpen ∧
        RequestMove (worker.context.counted chunk.length) result.1.context) := by
  cases outcome with
  | unexpected idle =>
      refine .inl ⟨?_, keeps_pendFault worker true⟩
      simp [RequestContext.IsOpen, idle]
  | discarded faulted =>
      refine .inl ⟨?_, .refl _⟩
      simp [RequestContext.IsOpen, faulted]
  | drained cancelling outcome => exact .inr ⟨.inr cancelling, outcome.move notFailed⟩
  | retained speaking _ outcome => exact .inr ⟨.inl speaking, outcome.move notFailed⟩
  | framed speaking => exact .inr ⟨.inl speaking, .kept (.refl _)⟩

theorem SpeechWorker.DeliveryOutcome.move {now bytes : ℕ} {token : RequestToken}
    {writeAccepted : Bool} {result : SpeechWorker × Bool × ℕ × List Observation}
    (outcome : DeliveryOutcome worker now token bytes writeAccepted result)
    (settled : worker.Settled) : RequestMove worker.context result.1.context := by
  cases outcome with
  | ignored => exact .kept (.refl _)
  | accepted _ _ outcome =>
      have moved := outcome.move settled.notFailed
      cases moved with
      | kept keeps =>
          exact .kept ⟨keeps.token, keeps.downstream, keeps.upstream, keeps.raw, keeps.finished,
            keeps.terminal⟩
      | ended isOpen finished enough token idle => exact .ended isOpen finished enough token idle
      | cancelled speaking cancelling token raw upstream unfinished =>
          exact .cancelled speaking cancelling token raw upstream unfinished
      | faulted faulted token => exact .faulted faulted token
  | rejected _ speaking => exact .cancelled speaking rfl rfl rfl rfl rfl
  | rejectedFaulted _ speaking upstream =>
      have faulted := settled.faultedBoth upstream
      rw [speaking] at faulted
      cases faulted
  | drained _ _ outcome => exact outcome.move settled.notFailed

/-- What a record does to the request of a context: a terminal record of the request
is applied before the request moves, or faults it. -/
inductive RecordMove (event : ProviderControlEvent) (before after : RequestContext) : Prop where
  | moved (moved : RequestMove before after)
      (refused : event.speakId = before.token.speakId → event.speakId ≠ 0 →
        event.isTerminal = true → after.downstreamState = .faulted)
  | applied (matching : event.speakId = before.token.speakId)
      (terminal : event.isTerminal = true) (valid : event.hasValidTerminalBytes = true)
      (unfinished : before.upstreamFinished = false)
      (moved : RequestMove (before.declared event) after)

theorem RecordMove.token {event : ProviderControlEvent} {before after : RequestContext}
    (record : RecordMove event before after) : after.token = before.token := by
  cases record with
  | moved moved => exact moved.token
  | applied _ _ _ _ moved => exact moved.token

theorem ProviderControlEvent.not_terminal_of_boundary {event : ProviderControlEvent}
    (boundary : event.isSpeechBoundary = true) : event.isTerminal = false := by
  unfold ProviderControlEvent.isSpeechBoundary ProviderEventType.isSpeechBoundary at boundary
  unfold ProviderControlEvent.isTerminal ProviderEventType.isTerminal
  cases type : event.type <;> simp [type] at boundary ⊢

theorem ProviderControlEvent.not_terminal_of_log {event : ProviderControlEvent}
    (log : event.type = .log) : event.isTerminal = false := by
  simp [ProviderControlEvent.isTerminal, ProviderEventType.isTerminal, log]

/-- A record moves the request, unless it reports an error of it. -/
theorem SpeechWorker.EventOutcome.move {event : ProviderControlEvent} {forward : Bool}
    {result : SpeechWorker × ControlEventDisposition × List Observation}
    (outcome : EventOutcome worker event forward result)
    (noError : event.type = .log → event.logSeverity ≠ "error") :
    RecordMove event worker.context result.1.context := by
  cases outcome with
  | unchanged inert =>
      refine .moved (.kept (.refl _)) fun matching _ terminal => ?_
      rw [inert.terminal matching] at terminal
      cases terminal
  | malformed _ boundary =>
      refine .moved (.kept (keeps_pendFault worker true)) fun _ _ terminal => ?_
      rw [event.not_terminal_of_boundary boundary] at terminal
      cases terminal
  | fatal _ log =>
      refine .moved (.kept (keeps_pendFault worker true)) fun _ _ terminal => ?_
      rw [event.not_terminal_of_log log] at terminal
      cases terminal
  | terminalFault => exact .moved (.faulted rfl rfl) fun _ _ _ => rfl
  | terminalApplied matching terminal unfinished valid _ outcome =>
      exact .applied matching terminal valid unfinished
        (outcome.move (terminalTarget_ne_failed event.type))
  | utteranceFailed _ log severity => exact absurd severity (noError log)

end Moves

/-- The step starts or stops no request, and takes in nothing from a pipe. -/
def WorkerAction.isInternal : WorkerAction → Bool
  | .audioChunk .. | .frameAssemblyFails .. | .controlRecord .. | .start .. | .stop => false
  | _ => true

/-- **Every other step moves the request.** -/
theorem WorkerStep.move {state next : WorkerState} {action : WorkerAction}
    {events : List Observation} (taken : WorkerStep state action next events)
    (settled : state.worker.Settled) (internal : action.isInternal = true) :
    RequestMove state.context next.context := by
  cases taken with
  | chunkTaken | assemblyFailed | recordUnaddressed | recordHandled | recordSkipped | started
  | startRejected | stopped | stopIgnored => cases internal
  | audioReadFailed | spansEnd | spanHanded | spanAccepted | spanRejected | cancellationSent
  | controlReadFailed | eventDecided | eventReturned | cancellationIgnored => exact .kept (.refl _)
  | batchSettled _ outcome => exact outcome.move settled
  | faultEntered => exact .faulted rfl rfl
  | faultRepeated =>
      rw [WorkerState.context, WorkerState.context, WorkerState.leaveFaulted_worker]
      exact .faulted rfl rfl
  | faultPublished =>
      rw [WorkerState.context, WorkerState.context, WorkerState.leaveFaulted_worker]
      exact .kept ⟨rfl, rfl, rfl, rfl, rfl, rfl⟩
  | cancellationBegun speaking => exact .cancelled speaking rfl rfl rfl rfl rfl

/-- A record that reports no error of the request moves it. -/
theorem WorkerStep.record_move {state next : WorkerState} {now : ℕ}
    {event : ProviderControlEvent} {events : List Observation}
    (taken : WorkerStep state (.controlRecord now event) next events)
    (noError : event.type = .log → event.logSeverity ≠ "error") :
    RecordMove event state.context next.context := by
  cases taken with
  | recordUnaddressed _ unaddressed =>
      refine .moved (.kept ?_) fun _ addressed => absurd unaddressed addressed
      simp only [WorkerState.context, handleMissingSpeakIdLocked]
      split
      · exact keeps_pendFault state.worker true
      · exact .refl _
  | recordHandled _ _ outcome => exact outcome.move noError
  | recordSkipped _ blank =>
      refine .moved (.kept (.refl _)) fun _ _ terminal => ?_
      simp [ProviderControlEvent.isTerminal, ProviderEventType.isTerminal, blank] at terminal

/-- **A read of the audio pipe is counted into an open request**, which then moves. -/
theorem WorkerStep.read_move {state next : WorkerState} {action : WorkerAction}
    {events : List Observation} {now : ℕ} {chunk : List UInt8}
    (taken : WorkerStep state action next events) (settled : state.worker.Settled)
    (reads : action = .audioChunk now chunk ∨ action = .frameAssemblyFails now chunk) :
    (¬state.context.IsOpen ∧ state.context.Keeps next.context) ∨
      (state.context.IsOpen ∧ RequestMove (state.context.counted chunk.length) next.context) := by
  cases taken with
  | chunkTaken _ _ outcome =>
      rcases reads with same | other
      · cases same
        exact outcome.move settled.notFailed
      · cases other
  | assemblyFailed _ _ speaking =>
      rcases reads with other | same
      · cases other
      · cases same
        exact .inr ⟨.inl speaking, .kept (.refl _)⟩
  | _ =>
      rcases reads with other | other
      · cases other
      · cases other

end ModernSapi
