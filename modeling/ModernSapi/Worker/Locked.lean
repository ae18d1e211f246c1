import ModernSapi.Worker.DeliveryPolicy
import ModernSapi.Worker.EventPolicy
import ModernSapi.Worker.FrameAssembler

/-!
# What the worker does under its request mutex

The functions here are the critical sections of `SpeechWorker`. Each takes the
worker, returns it changed, and returns what the source's function returns,
together with what an observer sees: mostly the lines of the worker's own trace
log, which name the request, the declared total and the counters.

The current tick is an argument wherever the source asks for it.
`checkTerminalBoundaryLocked_spec` is the inversion every result about the end of
a request goes through.
-/

set_option autoImplicit false

namespace ModernSapi

open SpeechStatePolicy PcmDeliveryPolicy ControlEventPolicy

/-- The protocol checks that quarantine the session. -/
inductive ProtocolFault where
  | duplicateFault
  | invalidBytesFault
  | misalignedBytesFault
  | overrunFault
  | faultUnexpectedIdleAudio
  | malformedSpeechBoundary
  deriving DecidableEq, Repr

/-- What an observer of the worker sees. Bytes and totals are of the request of
the generation. -/
inductive Observation where
  | requestStarted (token : RequestToken)
  | pcmRead (bytes : List UInt8)
  | spanHanded (generation : ℕ) (bytes : List UInt8)
  | spanAccepted (generation : ℕ) (bytes : List UInt8)
  | terminalReceived (generation declared raw : ℕ)
  | terminalBoundaryReached (generation declared : ℕ)
  | cancellationBoundaryReached (generation declared raw : ℕ)
  | protocolFault (fault : ProtocolFault)
  | frameAssemblyFailed
  deriving DecidableEq, Repr

/-- The state of a worker that its mutexes guard. -/
structure SpeechWorker where
  context : RequestContext := {}
  generationCounter : ℕ := 0
  frameAssembler : PcmFrameAssembler
  lastProviderProgressTick : ℕ := 0
  faultPublicationStarted : Bool := false
  faultVisible : Bool := false
  deriving DecidableEq

namespace SpeechWorker

/-! ## Constants -/

def synthesisInactivityTimeoutMs : ℕ := 1500

def cancellationTimeoutMs : ℕ := 500

/-! ## Starting, stopping and faulting -/

/-- The worker with a new request. -/
def started (worker : SpeechWorker) (now : ℕ) (token : RequestToken) : SpeechWorker :=
  { worker with
    generationCounter := token.generation
    frameAssembler := worker.frameAssembler.reset
    lastProviderProgressTick := now
    context :=
      { worker.context.reset with
        token
        upstreamState := .active
        downstreamState := .speaking } }

/-- A request enters the speaking state, when the session is usable. -/
def start (worker : SpeechWorker) (now speakId : ℕ) :
    SpeechWorker × Bool × List Observation :=
  let decision := evaluateStart worker.context speakId (worker.generationCounter + 1)
  if decision.action ≠ .accept then (worker, false, [])
  else
    let token : RequestToken := { speakId := decision.speakId, generation := decision.generation }
    (worker.started now token, true, [.requestStarted token])

def isFaulted (worker : SpeechWorker) : Bool :=
  worker.context.downstreamState == .faulted || worker.context.upstreamState == .faulted ||
    worker.context.faultPending

def transitionRequestToFaultedLocked (worker : SpeechWorker) : SpeechWorker :=
  { worker with
    context :=
      { worker.context with
        upstreamState := .faulted
        downstreamState := .faulted
        completionHr := .eFail } }

def resetToIdleLocked (worker : SpeechWorker) : SpeechWorker :=
  { worker with
    frameAssembler := worker.frameAssembler.reset
    context := { worker.context with upstreamState := .idle, downstreamState := .idle } }

def setFaultPending (worker : SpeechWorker) : SpeechWorker :=
  { worker with context := { worker.context with faultPending := true } }

/-- The locked part of `Stop`, with the request to cancel. -/
def stop (worker : SpeechWorker) : SpeechWorker × Option ℕ :=
  let decision := evaluateStop worker.context
  match decision.action with
  | .noAction => (worker, none)
  | .resetAndCancel => (worker.resetToIdleLocked, some decision.speakId)

/-- The first locked part of `EnterFaultedState`. One thread in the life of the
worker wins the publication and goes on to the second part. -/
def enterFaultedState (worker : SpeechWorker) : SpeechWorker × Bool :=
  let worker :=
    { worker with frameAssembler := worker.frameAssembler.reset }.transitionRequestToFaultedLocked
  if worker.faultPublicationStarted then (worker, false)
  else ({ worker with faultPublicationStarted := true }.setFaultPending, true)

/-- The second locked part of `EnterFaultedState`, under the event mutex too. -/
def publishFault (worker : SpeechWorker) : SpeechWorker :=
  { worker with
    faultVisible := true
    context := { worker.context with faultPending := false } }

/-- The request starts to cancel, and its partial frame is discarded. -/
def cancelled (worker : SpeechWorker) (deadlineTick : ℕ) : SpeechWorker :=
  { worker with
    context := worker.context.transitionToCancelling deadlineTick
    frameAssembler := worker.frameAssembler.reset }

def beginCancellationLocked (worker : SpeechWorker) (cancellationDeadline : ℕ) :
    SpeechWorker × HResult × ℕ :=
  let decision := evaluateBeginCancellation worker.context cancellationDeadline
  match decision.action with
  | .alreadyIdle => (worker, .sFalse, 0)
  | .alreadyCancelling => (worker, .eUnexpected, 0)
  | .faulted => (worker, .eFail, 0)
  | .transitionToCancelling => (worker.cancelled decision.deadlineTick, .sOk, decision.speakId)

/-! ## The end of a request -/

/-- Reset the request when its declared end is reached. The flag says that the
session must be quarantined. -/
def checkTerminalBoundaryLocked (worker : SpeechWorker) :
    SpeechWorker × Bool × List Observation :=
  let facts := evaluateTerminalBoundaryFacts worker.context worker.frameAssembler.hasCarry
  match evaluateTerminalBoundary worker.context facts with
  | .continues => (worker, false, [])
  | .utteranceFailedReset => (worker.resetToIdleLocked, false, [])
  | .overrunFault => (worker, true, [.protocolFault .overrunFault])
  | .normalCompleteReset =>
      (worker.resetToIdleLocked, false,
        [.terminalBoundaryReached worker.context.token.generation
          worker.context.upstreamTerminalBytes])
  | .cancelDrainReset =>
      (worker.resetToIdleLocked, false,
        [.cancellationBoundaryReached worker.context.token.generation
          worker.context.upstreamTerminalBytes worker.context.rawAudioBytesRead])

/-! ## Audio -/

structure AudioIngestResult where
  token : RequestToken := {}
  protocolBoundaryFailed : Bool := false
  shouldDeliverAudio : Bool := false
  spansToWrite : List (List UInt8) := []
  deriving DecidableEq

/-- The counters after a chunk is read, before it is framed. -/
def countChunk (worker : SpeechWorker) (now bytesRead : ℕ) : SpeechWorker :=
  let decision := evaluateChunkIngest worker.context bytesRead
  { worker with
    lastProviderProgressTick :=
      if decision.refreshProgress then now else worker.lastProviderProgressTick
    context :=
      { worker.context with
        rawAudioBytesRead := worker.context.rawAudioBytesRead +
          if decision.countRawBytes then bytesRead else 0 } }

/-- A failed check leaves the fault pending. -/
def pendFault (worker : SpeechWorker) (failed : Bool) : SpeechWorker :=
  if failed then worker.setFaultPending else worker

/-- Take in one read of the audio pipe. -/
def ingestAudioChunkLocked (worker : SpeechWorker) (now : ℕ) (chunk : List UInt8) :
    SpeechWorker × AudioIngestResult × List Observation :=
  let decision := evaluateChunkIngest worker.context chunk.length
  let token := worker.context.token
  let counted := worker.countChunk now chunk.length
  match decision.action with
  | .assembleSpeakingAudio =>
      let assembled := counted.frameAssembler.process (chunk.take decision.bytesToFrame)
      let framed := { counted with frameAssembler := assembled.1 }
      if assembled.2.isEmpty then
        let checked := framed.checkTerminalBoundaryLocked
        (checked.1.pendFault checked.2.1, { token, protocolBoundaryFailed := checked.2.1 },
          .pcmRead chunk :: checked.2.2)
      else
        (framed, { token, shouldDeliverAudio := true, spansToWrite := assembled.2 },
          [.pcmRead chunk])
  | .drainCancellationAudio =>
      let checked := counted.checkTerminalBoundaryLocked
      (checked.1.pendFault checked.2.1, { token, protocolBoundaryFailed := checked.2.1 },
        .pcmRead chunk :: checked.2.2)
  | .faultUnexpectedIdleAudio =>
      (counted.setFaultPending, { token, protocolBoundaryFailed := true },
        [.pcmRead chunk, .protocolFault .faultUnexpectedIdleAudio])
  | .drainFaultedSessionAudio => (counted, { token }, [.pcmRead chunk])

/-- Count bytes SAPI has taken. -/
def credited (worker : SpeechWorker) (bytes : ℕ) : SpeechWorker :=
  { worker with
    context :=
      { worker.context with
        deliveredAudioBytes := worker.context.deliveredAudioBytes + bytes } }

/-- Apply what SAPI did with a batch. The flag says that the session must be
quarantined, the number is the request to cancel (zero for none). -/
def updateAfterAudioDeliveryLocked (worker : SpeechWorker) (now : ℕ) (batchToken : RequestToken)
    (deliveredBytes : ℕ) (writeAccepted : Bool) :
    SpeechWorker × Bool × ℕ × List Observation :=
  let decision :=
    evaluateBatchOutcome worker.context batchToken deliveredBytes (!writeAccepted)
  let credited := worker.credited decision.acceptedBytesToCredit
  match decision.action with
  | .ignoreStaleOrInactive => (credited, false, 0, [])
  | .creditAndCheckBoundary | .checkCancellationBoundary =>
      let checked := credited.checkTerminalBoundaryLocked
      (checked.1.pendFault checked.2.1, checked.2.1, 0, checked.2.2)
  | .creditAndBeginCancellation =>
      let cancelDecision :=
        evaluateBeginCancellation credited.context (now + cancellationTimeoutMs)
      if cancelDecision.action = .transitionToCancelling then
        (credited.cancelled cancelDecision.deadlineTick, false, cancelDecision.speakId, [])
      else (credited, false, 0, [])

/-! ## Control records -/

/-- The kind of a terminal event, as the source picks it. -/
def terminalKind (type : ProviderEventType) : UpstreamTerminalKind :=
  if type = .synthesisComplete then .completed else .cancelled

/-- Record the declared end of the request. -/
def applyTerminal (worker : SpeechWorker) (targetState : UpstreamState)
    (terminalAudioBytes : ℕ) : SpeechWorker :=
  { worker with
    context :=
      { worker.context with
        upstreamTerminalBytes := terminalAudioBytes
        upstreamFinished := true
        upstreamState := targetState } }

def handleTerminalEventLocked (worker : SpeechWorker) (eventType : ProviderEventType)
    (terminalAudioBytes : ℕ) (hasValidTerminalBytes : Bool) :
    SpeechWorker × Bool × List Observation :=
  let isFrameAligned :=
    isTerminalByteCountFrameAligned terminalAudioBytes worker.frameAssembler.blockAlign
  let decision := evaluateUpstreamTerminal worker.context (terminalKind eventType)
    terminalAudioBytes hasValidTerminalBytes isFrameAligned
  match decision.action with
  | .duplicateFault =>
      (worker.transitionRequestToFaultedLocked, true, [.protocolFault .duplicateFault])
  | .invalidBytesFault =>
      (worker.transitionRequestToFaultedLocked, true, [.protocolFault .invalidBytesFault])
  | .misalignedBytesFault =>
      (worker.transitionRequestToFaultedLocked, true, [.protocolFault .misalignedBytesFault])
  | .apply =>
      let checked :=
        (worker.applyTerminal decision.targetState decision.terminalAudioBytes)
          |>.checkTerminalBoundaryLocked
      (checked.1, checked.2.1,
        .terminalReceived worker.context.token.generation decision.terminalAudioBytes
          worker.context.rawAudioBytesRead :: checked.2.2)

/-- Record that the utterance failed, with what was read as its end. -/
def applyUtteranceFailure (worker : SpeechWorker) : SpeechWorker :=
  { worker with
    context :=
      { worker.context with
        upstreamState := .failed
        upstreamFinished := true
        completionHr := .eFail
        upstreamTerminalBytes := evaluateUtteranceFailure worker.context } }

/-- A log line of the provider. The severity of an error or a fatal line acts on
the request or on the session. -/
def handleLogEventLocked (worker : SpeechWorker) (logSeverity : String) :
    SpeechWorker × Bool × List Observation :=
  let severity := if logSeverity.isEmpty then "info" else logSeverity
  if severity = "fatal" then (worker, true, [])
  else if severity = "error" then worker.applyUtteranceFailure.checkTerminalBoundaryLocked
  else (worker, false, [])

structure ControlEventDisposition where
  shouldForwardToSapi : Bool := false
  shouldEnterFaultedState : Bool := false
  deriving DecidableEq, Repr

/-- The locked action of a control event, before the fault flag is set. -/
def applyEventAction (worker : SpeechWorker) (event : ProviderControlEvent) :
    EventAction → SpeechWorker × Bool × List Observation
  | .noLockedAction | .speechBoundary | .legacyCompleted | .unknown => (worker, false, [])
  | .malformedSpeechBoundary => (worker, true, [.protocolFault .malformedSpeechBoundary])
  | .synthesisComplete | .synthesisCancelled =>
      worker.handleTerminalEventLocked event.type event.terminalAudioBytes
        event.hasValidTerminalBytes
  | .informationalLog | .requestErrorLog | .fatalLog =>
      worker.handleLogEventLocked event.logSeverity

/-- Note the tick of a record that counts as progress. -/
def refreshProgress (worker : SpeechWorker) (now : ℕ) (refresh : Bool) : SpeechWorker :=
  { worker with
    lastProviderProgressTick := if refresh then now else worker.lastProviderProgressTick }

def handleParsedControlEventLocked (worker : SpeechWorker) (now : ℕ)
    (event : ProviderControlEvent) :
    SpeechWorker × ControlEventDisposition × List Observation :=
  let decision := evaluateParsedEvent event worker.context
  let applied :=
    (worker.refreshProgress now decision.shouldRefreshProgress).applyEventAction event
      decision.action
  (applied.1.pendFault applied.2.1,
    { shouldForwardToSapi := decision.shouldForwardToSapi
      shouldEnterFaultedState := applied.2.1 },
    applied.2.2)

/-- A record that names no request is a fault of the session. -/
def handleMissingSpeakIdLocked (worker : SpeechWorker) : SpeechWorker :=
  if worker.context.upstreamState ≠ .faulted ∧ worker.context.downstreamState ≠ .faulted then
    worker.setFaultPending
  else worker

/-- The locked check of `ForwardEventToSapi`. -/
def admitsEvent (worker : SpeechWorker) (event : ProviderControlEvent) : Bool :=
  !worker.faultVisible && event.speakId != 0 &&
    evaluateFinalAdmission event worker.context == .allow

end SpeechWorker

end ModernSapi
