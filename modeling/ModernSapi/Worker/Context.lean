import Mathlib.Data.Nat.Notation

/-!
# The request context

A worker serves one request at a time. Its context holds the token of the latest
request, what the provider has said about it (`upstreamState`), what the engine
does with its audio (`downstreamState`) and the byte counters of both sides.

Counters and ticks are natural numbers: none of them comes near the 64 bits the
source gives it.
-/

set_option autoImplicit false

namespace ModernSapi

/-- The result codes of the program. Those of failure that only its callers tell apart are
one kind. -/
inductive HResult where
  | sOk
  | sFalse
  | eFail
  | eUnexpected
  | eAbort
  | errorTimeout
  | ePointer
  | eInvalidArg
  | otherFailure (code : ℕ)
  deriving DecidableEq, Repr

/-- The codes of failure. -/
def HResult.failed : HResult → Bool
  | .sOk | .sFalse => false
  | _ => true

inductive UpstreamState where
  | idle
  | active
  | completed
  | cancelled
  | failed
  | faulted
  deriving DecidableEq, Repr

inductive DownstreamState where
  | idle
  | speaking
  | cancelling
  | faulted
  deriving DecidableEq, Repr

structure RequestToken where
  speakId : ℕ := 0
  generation : ℕ := 0
  deriving DecidableEq, Repr

structure RequestContext where
  token : RequestToken := {}
  upstreamState : UpstreamState := .idle
  downstreamState : DownstreamState := .idle
  rawAudioBytesRead : ℕ := 0
  deliveredAudioBytes : ℕ := 0
  upstreamTerminalBytes : ℕ := 0
  upstreamFinished : Bool := false
  faultPending : Bool := false
  cancellationDeadlineTick : ℕ := 0
  completionHr : HResult := .sOk
  deriving DecidableEq, Repr

namespace RequestContext

/-- Everything but the generation goes back to its default. -/
def reset (context : RequestContext) : RequestContext :=
  { token := { context.token with speakId := 0 } }

/-- The terminal facts are cleared with the change of state. -/
def transitionToCancelling (context : RequestContext) (deadlineTick : ℕ) : RequestContext :=
  { context with
    upstreamFinished := false
    upstreamTerminalBytes := 0
    cancellationDeadlineTick := deadlineTick
    downstreamState := .cancelling }

def isAwaitingTerminalAudio (context : RequestContext) : Bool :=
  context.upstreamFinished && context.downstreamState == .speaking

def isActivelySynthesizing (context : RequestContext) : Bool :=
  context.upstreamState == .active

def isDrainingCancellation (context : RequestContext) : Bool :=
  context.downstreamState == .cancelling

end RequestContext

end ModernSapi
