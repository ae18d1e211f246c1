import ModernSapi.Worker.Context
import ModernSapi.Protocol.ControlEvent

/-!
# The control event policy

A control record meets two decisions. `evaluateParsedEvent` says what the worker
does with it, and whether it may go on to SAPI; `evaluateFinalAdmission` is asked
again, under a second lock, just before it does.
-/

set_option autoImplicit false

namespace ModernSapi.ControlEventPolicy

inductive EventAction where
  | noLockedAction
  | speechBoundary
  | malformedSpeechBoundary
  | synthesisComplete
  | synthesisCancelled
  | legacyCompleted
  | informationalLog
  | requestErrorLog
  | fatalLog
  | unknown
  deriving DecidableEq, Repr

structure EventDecision where
  action : EventAction := .noLockedAction
  shouldRefreshProgress : Bool := false
  shouldForwardToSapi : Bool := false
  deriving DecidableEq, Repr

/-- Neither side of the session is faulted, nor about to be. -/
def isHealthy (context : RequestContext) : Bool :=
  context.upstreamState != .faulted && context.downstreamState != .faulted &&
    !context.faultPending

/-- A request is being spoken or drained. -/
def isOpen (context : RequestContext) : Bool :=
  context.downstreamState == .speaking || context.downstreamState == .cancelling

def logAction (severity : String) : EventAction :=
  if severity = "error" then .requestErrorLog
  else if severity = "fatal" then .fatalLog
  else .informationalLog

def evaluateParsedEvent (event : ProviderControlEvent) (context : RequestContext) :
    EventDecision :=
  if event.speakId ≠ context.token.speakId then
    { action := .noLockedAction, shouldRefreshProgress := false
      shouldForwardToSapi := isHealthy context }
  else
    match event.type with
    | .wordBoundary | .sentenceBoundary | .bookmark =>
        if !event.hasValidSpeechOffsets then
          { action := .malformedSpeechBoundary, shouldRefreshProgress := false
            shouldForwardToSapi := false }
        else
          { action := .speechBoundary, shouldRefreshProgress := isOpen context
            shouldForwardToSapi := context.downstreamState == .speaking && isHealthy context }
    | .synthesisComplete =>
        { action := .synthesisComplete
          shouldRefreshProgress := event.hasValidTerminalBytes && isOpen context
          shouldForwardToSapi := isHealthy context }
    | .synthesisCancelled =>
        { action := .synthesisCancelled
          shouldRefreshProgress := event.hasValidTerminalBytes && isOpen context
          shouldForwardToSapi := isHealthy context }
    | .legacyCompleted =>
        { action := .legacyCompleted, shouldRefreshProgress := false
          shouldForwardToSapi := isHealthy context }
    | .log =>
        { action := logAction event.logSeverity, shouldRefreshProgress := false
          shouldForwardToSapi := isHealthy context }
    | .unknown =>
        { action := .unknown, shouldRefreshProgress := false
          shouldForwardToSapi := isHealthy context }

inductive FinalAdmission where
  | reject
  | allow
  deriving DecidableEq, Repr

def evaluateFinalAdmission (event : ProviderControlEvent) (context : RequestContext) :
    FinalAdmission :=
  if event.speakId ≠ context.token.speakId then .reject
  else if event.type = .log then .allow
  else if context.downstreamState = .speaking ∧ ¬context.faultPending then .allow
  else .reject

end ModernSapi.ControlEventPolicy
