import ModernSapi.Worker.StatePolicy

/-!
# The delivery policy

The decisions about the bytes of the audio pipe: how many of a chunk are framed,
whether a framed span may still go to SAPI, what a delivered batch means, and
what the counters say about the declared total.
-/

set_option autoImplicit false

namespace ModernSapi.PcmDeliveryPolicy

open SpeechStatePolicy (TerminalBoundaryFacts)

inductive ChunkAction where
  | assembleSpeakingAudio
  | drainCancellationAudio
  | faultUnexpectedIdleAudio
  | drainFaultedSessionAudio
  deriving DecidableEq, Repr

structure ChunkDecision where
  action : ChunkAction
  bytesToFrame : ℕ
  refreshProgress : Bool
  countRawBytes : Bool
  deriving DecidableEq, Repr

/-- The bytes of a chunk that lie before the declared total, when there is one. -/
def bytesToFrame (context : RequestContext) (bytesRead : ℕ) : ℕ :=
  if context.upstreamFinished then
    if context.rawAudioBytesRead ≥ context.upstreamTerminalBytes then 0
    else min bytesRead (context.upstreamTerminalBytes - context.rawAudioBytesRead)
  else bytesRead

def evaluateChunkIngest (context : RequestContext) (bytesRead : ℕ) : ChunkDecision :=
  match context.downstreamState with
  | .speaking =>
      { action := .assembleSpeakingAudio, bytesToFrame := bytesToFrame context bytesRead
        refreshProgress := true, countRawBytes := true }
  | .cancelling =>
      { action := .drainCancellationAudio, bytesToFrame := 0
        refreshProgress := true, countRawBytes := true }
  | .idle =>
      { action := .faultUnexpectedIdleAudio, bytesToFrame := 0
        refreshProgress := false, countRawBytes := false }
  | .faulted =>
      { action := .drainFaultedSessionAudio, bytesToFrame := 0
        refreshProgress := false, countRawBytes := false }

inductive SpanAdmission where
  | allow
  | reject
  deriving DecidableEq, Repr

def evaluateSpanAdmission (context : RequestContext) (batchToken : RequestToken) :
    SpanAdmission :=
  if context.token = batchToken ∧ context.downstreamState = .speaking ∧
      ¬context.faultPending then .allow
  else .reject

inductive BatchAction where
  | ignoreStaleOrInactive
  | creditAndCheckBoundary
  | creditAndBeginCancellation
  | checkCancellationBoundary
  deriving DecidableEq, Repr

structure BatchDecision where
  action : BatchAction
  acceptedBytesToCredit : ℕ
  deriving DecidableEq, Repr

def evaluateBatchOutcome (context : RequestContext) (batchToken : RequestToken)
    (fullyAcceptedBytes : ℕ) (sapiWriteRejected : Bool) : BatchDecision :=
  if context.token ≠ batchToken then
    { action := .ignoreStaleOrInactive, acceptedBytesToCredit := 0 }
  else
    match context.downstreamState with
    | .speaking =>
        if sapiWriteRejected then
          { action := .creditAndBeginCancellation, acceptedBytesToCredit := fullyAcceptedBytes }
        else { action := .creditAndCheckBoundary, acceptedBytesToCredit := fullyAcceptedBytes }
    | .cancelling => { action := .checkCancellationBoundary, acceptedBytesToCredit := 0 }
    | .idle | .faulted => { action := .ignoreStaleOrInactive, acceptedBytesToCredit := 0 }

def evaluateTerminalBoundaryFacts (context : RequestContext) (assemblerHasCarry : Bool) :
    TerminalBoundaryFacts where
  speakingAudioOverrun :=
    context.rawAudioBytesRead > context.upstreamTerminalBytes ||
      context.deliveredAudioBytes > context.upstreamTerminalBytes
  speakingTerminalReached :=
    context.rawAudioBytesRead == context.upstreamTerminalBytes &&
      context.deliveredAudioBytes == context.upstreamTerminalBytes && !assemblerHasCarry
  cancellationTerminalReached := context.rawAudioBytesRead ≥ context.upstreamTerminalBytes

def isTerminalByteCountFrameAligned (bytes blockAlign : ℕ) : Bool :=
  if blockAlign = 0 then false else bytes % blockAlign == 0

end ModernSapi.PcmDeliveryPolicy
