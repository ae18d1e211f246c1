import ModernSapi.Worker.Context

/-!
# The state policy

Each decision about the state of a request is a function of its context. The
worker applies the decision under its request mutex.
-/

set_option autoImplicit false

namespace ModernSapi.SpeechStatePolicy

/-! ## Starting and stopping -/

inductive StartAction where
  | reject
  | accept
  deriving DecidableEq, Repr

structure StartDecision where
  action : StartAction := .reject
  speakId : ℕ := 0
  generation : ℕ := 0
  deriving DecidableEq, Repr

def evaluateStart (context : RequestContext) (speakId nextGeneration : ℕ) : StartDecision :=
  if context.upstreamState = .idle ∧ context.downstreamState = .idle ∧ ¬context.faultPending then
    { action := .accept, speakId, generation := nextGeneration }
  else { action := .reject, speakId := 0, generation := 0 }

inductive StopAction where
  | noAction
  | resetAndCancel
  deriving DecidableEq, Repr

structure StopDecision where
  action : StopAction := .noAction
  speakId : ℕ := 0
  deriving DecidableEq, Repr

def evaluateStop (context : RequestContext) : StopDecision :=
  if context.downstreamState = .idle ∨ context.downstreamState = .faulted ∨
      context.upstreamState = .faulted then
    { action := .noAction, speakId := 0 }
  else { action := .resetAndCancel, speakId := context.token.speakId }

/-! ## What the provider says -/

inductive UpstreamTerminalKind where
  | completed
  | cancelled
  deriving DecidableEq, Repr

inductive UpstreamTerminalAction where
  | apply
  | duplicateFault
  | invalidBytesFault
  | misalignedBytesFault
  deriving DecidableEq, Repr

structure UpstreamTerminalDecision where
  action : UpstreamTerminalAction := .duplicateFault
  targetState : UpstreamState := .faulted
  terminalAudioBytes : ℕ := 0
  deriving DecidableEq, Repr

def evaluateUpstreamTerminal (context : RequestContext) (kind : UpstreamTerminalKind)
    (terminalAudioBytes : ℕ) (hasValidTerminalBytes isFrameAligned : Bool) :
    UpstreamTerminalDecision :=
  if context.upstreamFinished then
    { action := .duplicateFault, targetState := .faulted, terminalAudioBytes := 0 }
  else if !hasValidTerminalBytes then
    { action := .invalidBytesFault, targetState := .faulted, terminalAudioBytes := 0 }
  else if !isFrameAligned then
    { action := .misalignedBytesFault, targetState := .faulted, terminalAudioBytes := 0 }
  else
    { action := .apply
      targetState := if kind = .completed then .completed else .cancelled
      terminalAudioBytes }

/-- A failed utterance is taken to end with the bytes read so far. -/
def evaluateUtteranceFailure (context : RequestContext) : ℕ := context.rawAudioBytesRead

/-! ## The end of a request -/

/-- What the byte counters say about the declared end. -/
structure TerminalBoundaryFacts where
  speakingAudioOverrun : Bool := false
  speakingTerminalReached : Bool := false
  cancellationTerminalReached : Bool := false
  deriving DecidableEq, Repr

inductive TerminalBoundaryAction where
  | continues
  | normalCompleteReset
  | cancelDrainReset
  | utteranceFailedReset
  | overrunFault
  deriving DecidableEq, Repr

def evaluateTerminalBoundary (context : RequestContext) (facts : TerminalBoundaryFacts) :
    TerminalBoundaryAction :=
  if context.upstreamState = .failed then .utteranceFailedReset
  else if !context.upstreamFinished then .continues
  else if context.downstreamState = .speaking ∧ facts.speakingAudioOverrun then .overrunFault
  else if context.downstreamState = .speaking ∧ facts.speakingTerminalReached then
    .normalCompleteReset
  else if context.downstreamState = .cancelling ∧ facts.cancellationTerminalReached then
    .cancelDrainReset
  else .continues

/-! ## Cancellation and timeouts -/

inductive BeginCancellationAction where
  | alreadyIdle
  | alreadyCancelling
  | faulted
  | transitionToCancelling
  deriving DecidableEq, Repr

structure BeginCancellationDecision where
  action : BeginCancellationAction := .faulted
  speakId : ℕ := 0
  deadlineTick : ℕ := 0
  deriving DecidableEq, Repr

def evaluateBeginCancellation (context : RequestContext) (cancellationDeadlineTick : ℕ) :
    BeginCancellationDecision :=
  if context.downstreamState = .idle then
    { action := .alreadyIdle, speakId := 0, deadlineTick := 0 }
  else if context.downstreamState = .faulted ∨ context.upstreamState = .faulted then
    { action := .faulted, speakId := 0, deadlineTick := 0 }
  else if context.downstreamState = .cancelling then
    { action := .alreadyCancelling, speakId := 0, deadlineTick := 0 }
  else
    { action := .transitionToCancelling
      speakId := context.token.speakId
      deadlineTick := cancellationDeadlineTick }

inductive TimeoutCondition where
  | none
  | cancellationTimeout
  | inactivityTimeout
  deriving DecidableEq, Repr

structure TimeoutDecision where
  condition : TimeoutCondition := .none
  speakId : ℕ := 0
  deriving DecidableEq, Repr

def evaluateTimeouts (context : RequestContext)
    (nowTick lastProgressTick inactivityTimeoutMs : ℕ) : TimeoutDecision :=
  if context.isDrainingCancellation ∧ context.cancellationDeadlineTick ≠ 0 ∧
      nowTick ≥ context.cancellationDeadlineTick then
    { condition := .cancellationTimeout, speakId := context.token.speakId }
  else if (context.isActivelySynthesizing ∨ context.isAwaitingTerminalAudio) ∧
      nowTick ≥ lastProgressTick ∧ nowTick - lastProgressTick ≥ inactivityTimeoutMs then
    { condition := .inactivityTimeout, speakId := context.token.speakId }
  else { condition := .none, speakId := 0 }

def isWaitTerminal (context : RequestContext) (exitSignaled : Bool) : Bool :=
  context.downstreamState == .idle || context.downstreamState == .faulted || exitSignaled

end ModernSapi.SpeechStatePolicy
