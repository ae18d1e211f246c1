import ModernSapi.Library.Fallible
import ModernSapi.Engine.AudioFormat
import ModernSapi.Worker.Delivery

/-!
# The session with a provider

An engine has a client and a worker, or neither. `SetObjectToken` creates the two from the
provider a token names, and `Speak` replaces those that have faulted. Whatever the provider,
the pipes and the system do to the steps of a creation is an outcome here: each of them may
return, fail or throw.

The members are under one mutex from the beginning to the end of a creation, so a state is what
is left when the mutex is released.
-/

set_option autoImplicit false
set_option mvcgen.warning false

namespace ModernSapi

open Interleaving Std.Do

/-! ## The members -/

structure ProviderSessionConfig where
  executablePath : String := ""
  pipeName : String := ""
  voiceId : String := ""
  audioFormat : WaveFormat := {}
  hasOutputFormat : Bool := false
  deriving DecidableEq

namespace ProviderSessionConfig

def isConfigured (config : ProviderSessionConfig) : Bool := !config.pipeName.isEmpty

def isFormatCompatible (config : ProviderSessionConfig) (candidate : WaveFormat) : Bool :=
  if !config.hasOutputFormat then true
  else
    candidate.wFormatTag == config.audioFormat.wFormatTag &&
      candidate.nChannels == config.audioFormat.nChannels &&
      candidate.nSamplesPerSec == config.audioFormat.nSamplesPerSec &&
      candidate.nAvgBytesPerSec == config.audioFormat.nAvgBytesPerSec &&
      candidate.nBlockAlign == config.audioFormat.nBlockAlign &&
      candidate.wBitsPerSample == config.audioFormat.wBitsPerSample &&
      candidate.cbSize == config.audioFormat.cbSize

/-- A format that is compatible with the one SAPI was told is the same. -/
theorem eq_of_isFormatCompatible {config : ProviderSessionConfig} {candidate : WaveFormat}
    (compatible : config.isFormatCompatible candidate = true)
    (told : config.hasOutputFormat = true) : candidate = config.audioFormat := by
  obtain ⟨tag, channels, rate, bytes, align, bits, size⟩ := candidate
  simp only [isFormatCompatible, told, Bool.not_true, Bool.false_eq_true, ↓reduceIte,
    Bool.and_eq_true, beq_iff_eq] at compatible
  obtain ⟨⟨⟨⟨⟨⟨rfl, rfl⟩, rfl⟩, rfl⟩, rfl⟩, rfl⟩, rfl⟩ := compatible
  rfl

end ProviderSessionConfig

/-- A client with the provider it is connected to. -/
structure PipeClient where
  pipeName : String
  executablePath : String
  deriving DecidableEq, Repr

/-- A worker with the client it was given. -/
structure SessionWorker where
  client : PipeClient
  speak : SpeakState
  deriving DecidableEq

namespace SessionWorker

def isFaulted (worker : SessionWorker) : Bool := worker.speak.worker.worker.isFaulted

/-- The frame size of the worker's assembler. -/
def blockAlign (worker : SessionWorker) : ℕ :=
  worker.speak.worker.worker.frameAssembler.blockAlign

end SessionWorker

/-- The members of the engine that `m_sessionMutex` guards. -/
structure EngineSession where
  client : Option PipeClient := none
  worker : Option SessionWorker := none
  config : ProviderSessionConfig := {}
  deriving DecidableEq

/-- A token answers each key with a code, and a string when the code is none of failure. -/
structure ObjectToken where
  getStringValue : String → HResult × String

/-- What comes from outside while a session is loaded and created. An exception is named by the
code that `to_hresult` makes of it. -/
structure SessionOutcomes where
  assignExecutablePath : Except HResult Unit := .ok ()
  assignPipeName : Except HResult Unit := .ok ()
  copyVoiceId : Except HResult Unit := .ok ()
  makeClient : Except HResult Unit := .ok ()
  connect : Except HResult HResult := .ok .sOk
  sendInfo : Except HResult HResult := .ok .sOk
  readInfo : Except HResult (HResult × Json)
  makeWorker : Except HResult Unit := .ok ()

/-! ## The functions -/

/-- The code that runs under the mutex. -/
abbrev SessionCode := Fallible HResult EngineSession

def isValidInfoResponse (response : Json) : Bool :=
  response.isObject && response.stringMember? "response" == some "info" &&
    match response.member? "audio_format" with
    | some format => format.isObject
    | none => false

/-- The constructor of a worker, which throws for an empty frame and when a thread cannot be
started. -/
def makeWorker (outcomes : SessionOutcomes) (client : PipeClient) (blockAlign : ℕ) :
    SessionCode SessionWorker := do
  if positive : 0 < blockAlign then
    Fallible.outside outcomes.makeWorker
    return ⟨client, .initial blockAlign positive⟩
  else throw .eInvalidArg

/-- The candidates become the members, and SAPI is told the format once. -/
def publishSession (client : PipeClient) (worker : SessionWorker) (format : WaveFormat) :
    SessionCode Unit := do
  modify fun session => { session with client := some client }
  modify fun session => { session with worker := some worker }
  if !(← get).config.hasOutputFormat then
    modify fun session => { session with config.audioFormat := format }
    modify fun session => { session with config.hasOutputFormat := true }

/-- The `try` block of `CreateProviderSessionLocked`. -/
def createCandidate (outcomes : SessionOutcomes) : SessionCode HResult := do
  let config := (← get).config
  Fallible.outside outcomes.makeClient
  if (← Fallible.outside outcomes.connect).failed then return .eFail
  let candidateClient : PipeClient := ⟨config.pipeName, config.executablePath⟩
  if (← Fallible.outside outcomes.sendInfo).failed then return .eFail
  let (read, infoResponse) ← Fallible.outside outcomes.readInfo
  if read.failed then return .eFail
  if !isValidInfoResponse infoResponse then return .eFail
  match tryParseAudioFormatJson ((infoResponse.member? "audio_format").getD .null) with
  | none => return .eFail
  | some candidateFormat =>
      if !config.isFormatCompatible candidateFormat then return .eFail
      let candidateWorker ← makeWorker outcomes candidateClient candidateFormat.nBlockAlign
      publishSession candidateClient candidateWorker candidateFormat
      return .sOk

/-- All handlers log, and let the function end with the code of failure. -/
def createProviderSessionLocked (outcomes : SessionOutcomes) : SessionCode HResult := do
  let session ← get
  if !session.config.isConfigured || session.config.executablePath.isEmpty ||
      session.client.isSome || session.worker.isSome then return .eFail
  tryCatch (createCandidate outcomes) fun _ => pure .eFail

def retireFaultedSessionLocked : SessionCode Unit := do
  modify fun session => { session with worker := none }
  modify fun session => { session with client := none }

def EngineSession.isActive (session : EngineSession) : Bool :=
  match session.client, session.worker with
  | some _, some worker => !worker.isFaulted
  | _, _ => false

/-- The part of `LoadProviderFromToken` behind the reads of the token. -/
def loadProvider (outcomes : SessionOutcomes) (executablePath pipeName voiceId : String) :
    SessionCode HResult := do
  let session ← get
  if session.client.isSome || session.worker.isSome then return .eUnexpected
  Fallible.outside outcomes.assignExecutablePath
  modify fun session => { session with config.executablePath := executablePath }
  Fallible.outside outcomes.assignPipeName
  modify fun session => { session with config.pipeName := pipeName }
  modify fun session => { session with config.voiceId := voiceId }
  createProviderSessionLocked outcomes

def loadProviderFromToken (token : ObjectToken) (outcomes : SessionOutcomes) :
    SessionCode HResult := do
  let (hr, executablePath) := token.getStringValue "ProviderExecutablePath"
  if hr.failed then return hr
  let (hrPipe, pipeName) := token.getStringValue "ProviderPipeName"
  if hrPipe.failed then return hrPipe
  let (hrVoice, voiceId) := token.getStringValue "VoiceId"
  if hrVoice.failed then loadProvider outcomes executablePath pipeName ""
  else do
    Fallible.outside outcomes.copyVoiceId
    loadProvider outcomes executablePath pipeName voiceId

/-- The section of `Speak` under the mutex, which makes sure of an active session. -/
def recoverSession (outcomes : SessionOutcomes) : SessionCode HResult := do
  if !(← get).isActive then
    retireFaultedSessionLocked
    if (← createProviderSessionLocked outcomes).failed then return .eFail
  Fallible.outside outcomes.copyVoiceId
  return .sOk

/-! ## What they do -/

namespace EngineSession

/-- The session with the members published. -/
def published (session : EngineSession) (client : PipeClient) (worker : SessionWorker)
    (format : WaveFormat) : EngineSession where
  client := some client
  worker := some worker
  config :=
    if session.config.hasOutputFormat then session.config
    else { session.config with audioFormat := format, hasOutputFormat := true }

/-- The client that a creation connects. -/
def candidateClient (session : EngineSession) : PipeClient :=
  ⟨session.config.pipeName, session.config.executablePath⟩

/-- How a creation ends. -/
inductive Creation (session : EngineSession) : HResult → EngineSession → Prop where
  | failed {result : HResult} (fails : result.failed = true) : Creation session result session
  | created {format : WaveFormat} (positive : 0 < format.nBlockAlign)
      (compatible : session.config.isFormatCompatible format = true) :
      Creation session .sOk (session.published session.candidateClient
        ⟨session.candidateClient, .initial format.nBlockAlign positive⟩ format)

/-- How the loading of a provider ends: the paths and the voice may change in any case. -/
inductive Loading (session : EngineSession) : HResult → EngineSession → Prop where
  | refused {result : HResult} (fails : result.failed = true) : Loading session result session
  | configured {result : HResult} {configured after : EngineSession}
      (unset : session.client = none ∧ session.worker = none)
      (sameClient : configured.client = session.client)
      (sameWorker : configured.worker = session.worker)
      (sameFormat : configured.config.audioFormat = session.config.audioFormat)
      (sameTold : configured.config.hasOutputFormat = session.config.hasOutputFormat)
      (creation : Creation configured result after) : Loading session result after

/-- How the section of `Speak` ends. -/
inductive Recovery (session : EngineSession) : EngineSession → Prop where
  | active (isActive : session.isActive = true) : Recovery session session
  | recreated {result : HResult} {after : EngineSession}
      (creation : Creation { session with client := none, worker := none } result after) :
      Recovery session after

end EngineSession

open EngineSession

variable {outcomes : SessionOutcomes}

@[spec] theorem outside_spec {ε σ α : Type} (outcome : Except ε α) (before : σ) :
    ⦃fun state => ⌜state = before⌝⦄ (Fallible.outside outcome : Fallible ε σ α)
    ⦃post⟨fun _ after => ⌜after = before⌝, fun _ after => ⌜after = before⌝⟩⦄ := by
  mvcgen [Fallible.outside]

@[spec] theorem publishSession_spec (client : PipeClient) (worker : SessionWorker)
    (format : WaveFormat) (before : EngineSession) :
    ⦃fun session => ⌜session = before⌝⦄ publishSession client worker format
    ⦃post⟨fun _ after => ⌜after = before.published client worker format⌝,
      fun _ _ => ⌜False⌝⟩⦄ := by
  mvcgen [publishSession]
  all_goals simp_all +zetaDelta [published]

@[spec] theorem makeWorker_spec (client : PipeClient) (blockAlign : ℕ) (before : EngineSession) :
    ⦃fun session => ⌜session = before⌝⦄ makeWorker outcomes client blockAlign
    ⦃post⟨fun worker after => ⌜after = before ∧
        ∃ positive, worker = ⟨client, .initial blockAlign positive⟩⌝,
      fun _ after => ⌜after = before⌝⟩⦄ := by
  mvcgen [makeWorker]
  all_goals simp_all

theorem createCandidate_spec (before : EngineSession) :
    ⦃fun session => ⌜session = before⌝⦄ createCandidate outcomes
    ⦃post⟨fun result after => ⌜Creation before result after⌝,
      fun _ after => ⌜after = before⌝⟩⦄ := by
  mvcgen [createCandidate] <;> subst_vars
  case vc7 compatible made =>
    rw [Bool.not_eq_true, Bool.not_eq_false'] at compatible
    obtain ⟨rfl, positive, rfl⟩ := made
    exact .created positive compatible
  all_goals first | exact .failed rfl | exact id

/-- Nothing that happens to a creation comes out as an exception. -/
@[spec] theorem createProviderSessionLocked_spec (before : EngineSession) :
    ⦃fun session => ⌜session = before⌝⦄ createProviderSessionLocked outcomes
    ⦃post⟨fun result after => ⌜Creation before result after⌝, fun _ _ => ⌜False⌝⟩⦄ := by
  mvcgen [createProviderSessionLocked, createCandidate_spec] <;> subst_vars
  all_goals first | exact .failed rfl | exact id

theorem not_set {session : EngineSession}
    (unset : ¬(session.client.isSome || session.worker.isSome) = true) :
    session.client = none ∧ session.worker = none := by
  simpa using unset

@[spec] theorem loadProvider_spec (executablePath pipeName voiceId : String)
    (before : EngineSession) :
    ⦃fun session => ⌜session = before⌝⦄
    loadProvider outcomes executablePath pipeName voiceId
    ⦃post⟨fun result after => ⌜Loading before result after⌝,
      fun _ after => ⌜Loading before .eFail after⌝⟩⦄ := by
  mvcgen [loadProvider] <;> subst_vars
  case vc1 => exact .refused rfl
  case vc2 unset _ _ =>
    intro creation
    refine .configured (not_set unset) ?_ ?_ ?_ ?_ creation <;> rfl
  case vc3 unset =>
    rintro rfl
    refine .configured (not_set unset) ?_ ?_ ?_ ?_ (.failed rfl) <;> rfl
  case vc4 =>
    rintro rfl
    exact .refused rfl

theorem loadProviderFromToken_spec (token : ObjectToken) (before : EngineSession) :
    ⦃fun session => ⌜session = before⌝⦄ loadProviderFromToken token outcomes
    ⦃post⟨fun result after => ⌜Loading before result after⌝,
      fun _ after => ⌜Loading before .eFail after⌝⟩⦄ := by
  mvcgen [loadProviderFromToken] <;> subst_vars
  case vc1 fails _ => exact .refused fails
  case vc2 fails _ => exact .refused fails
  case vc4 => rfl
  case vc5 =>
    rintro rfl
    exact .refused rfl

theorem recoverSession_spec (before : EngineSession) :
    ⦃fun session => ⌜session = before⌝⦄ recoverSession outcomes
    ⦃post⟨fun _ after => ⌜Recovery before after⌝, fun _ after => ⌜Recovery before after⌝⟩⦄ := by
  mvcgen [recoverSession, retireFaultedSessionLocked] <;> subst_vars
  case vc1 creation => exact .recreated creation
  case vc2 creation => exact .recreated creation
  case vc3 creation _ _ =>
    rintro rfl
    exact .recreated creation
  case vc4 isActive => exact .active (by simpa using isActive)
  case vc5 isActive _ _ =>
    rintro rfl
    exact .active (by simpa using isActive)

/-! ## The machine -/

/-- What is seen of the session. -/
inductive EngineSessionObservation where
  | setObjectTokenReturned (result : HResult)
  | outputFormat (format : WaveFormat)
  deriving DecidableEq

inductive EngineSessionAction where
  | setObjectToken (token : Option ObjectToken) (outcomes : SessionOutcomes)
  | recoverSession (outcomes : SessionOutcomes)
  | getOutputFormat
  | worker (action : SpeakAction)

namespace EngineSession

/-- `SetObjectToken`, whose handlers turn an exception into a code. -/
def setObjectToken (session : EngineSession) (token : Option ObjectToken)
    (outcomes : SessionOutcomes) : EngineSession × HResult :=
  match token with
  | none => (session, .ePointer)
  | some token =>
      match (loadProviderFromToken token outcomes).run.run session with
      | (.ok result, after) => (after, result)
      | (.error code, after) => (after, code)

/-- A step of the worker and of the `Speak` call it serves. -/
def stepWorker (session : EngineSession) (action : SpeakAction) :
    Option (EngineSession × List EngineSessionObservation) :=
  match session.worker with
  | none => none
  | some worker =>
      match worker.speak.step action with
      | none => none
      | some (speak, _) => some ({ session with worker := some { worker with speak } }, [])

def step (session : EngineSession) :
    EngineSessionAction → Option (EngineSession × List EngineSessionObservation)
  | .setObjectToken token outcomes =>
      let (after, result) := session.setObjectToken token outcomes
      some (after, [.setObjectTokenReturned result])
  | .recoverSession outcomes => some (((recoverSession outcomes).run.run session).2, [])
  | .getOutputFormat =>
      if session.config.hasOutputFormat then
        some (session, [.outputFormat session.config.audioFormat])
      else some (session, [])
  | .worker action => session.stepWorker action

end EngineSession

/-- The machine of the session of one engine. -/
def engineSessionMachine : Machine EngineSession EngineSessionAction EngineSessionObservation where
  init session := session = {}
  step := EngineSession.step

/-- The cases of a step of the session. -/
inductive EngineSessionStep (session : EngineSession) :
    EngineSession → List EngineSessionObservation → Prop where
  | withoutToken : EngineSessionStep session session [.setObjectTokenReturned .ePointer]
  | loaded {result seen : HResult} {after : EngineSession}
      (loading : Loading session result after) (same : seen = result ∨ result.failed = true) :
      EngineSessionStep session after [.setObjectTokenReturned seen]
  | recovered {after : EngineSession} (recovery : Recovery session after) :
      EngineSessionStep session after []
  | asked (told : session.config.hasOutputFormat = true) :
      EngineSessionStep session session [.outputFormat session.config.audioFormat]
  | askedUntold : EngineSessionStep session session []
  | worked {worker : SessionWorker} {speak : SpeakState} {action : SpeakAction}
      {events : List SpeakObservation} (hasWorker : session.worker = some worker)
      (taken : SpeakStep worker.speak action speak events) :
      EngineSessionStep session { session with worker := some { worker with speak } } []

section Spec

variable {session next : EngineSession} {events : List EngineSessionObservation}

theorem setObjectToken_spec (token : Option ObjectToken) (outcomes : SessionOutcomes) :
    EngineSessionStep session (session.setObjectToken token outcomes).1
      [.setObjectTokenReturned (session.setObjectToken token outcomes).2] := by
  cases token with
  | none => exact .withoutToken
  | some token =>
      have ends := Fallible.ends (@loadProviderFromToken_spec outcomes token session)
      simp only [setObjectToken]
      generalize (loadProviderFromToken token outcomes).run.run session = outcome at ends
      cases ends with
      | returned loading => exact .loaded loading (.inl rfl)
      | thrown loading => exact .loaded loading (.inr rfl)

theorem recoverSession_step (outcomes : SessionOutcomes) :
    EngineSessionStep session ((recoverSession outcomes).run.run session).2 [] := by
  have ends := Fallible.ends (@recoverSession_spec outcomes session)
  generalize (recoverSession outcomes).run.run session = outcome at ends
  cases ends with
  | returned recovery => exact .recovered recovery
  | thrown recovery => exact .recovered recovery

/-- **Every step is one of the listed cases.** -/
theorem engineSessionStep_spec {action : EngineSessionAction}
    (taken : session.step action = some (next, events)) :
    EngineSessionStep session next events := by
  cases action with
  | setObjectToken token outcomes =>
      cases taken
      exact setObjectToken_spec token outcomes
  | recoverSession outcomes =>
      cases taken
      exact recoverSession_step outcomes
  | getOutputFormat =>
      simp only [EngineSession.step] at taken
      split at taken
      · next told =>
          cases taken
          exact .asked told
      · cases taken
        exact .askedUntold
  | worker action =>
      simp only [EngineSession.step, stepWorker] at taken
      split at taken
      · cases taken
      · next worker hasWorker =>
          split at taken
          · cases taken
          · next speak _ stepped =>
              cases taken
              exact .worked hasWorker (speakStep_spec stepped)

end Spec

/-! ## Consistency -/

/-- The client is that of the worker, and the worker cuts audio into frames of the format SAPI
was told. -/
structure SessionInvariant (session : EngineSession) : Prop where
  paired : session.client = session.worker.map SessionWorker.client
  framed : ∀ worker, session.worker = some worker →
    session.config.hasOutputFormat = true ∧
      worker.blockAlign = session.config.audioFormat.nBlockAlign

/-- The format SAPI was told is that of the session from then on. -/
def KeepsFormat (session next : EngineSession) : Prop :=
  session.config.hasOutputFormat = true →
    next.config.hasOutputFormat = true ∧
      next.config.audioFormat = session.config.audioFormat

section Invariant

variable {session next after : EngineSession} {events : List EngineSessionObservation}
  {result : HResult}

theorem SessionInvariant.unset (noClient : session.client = none)
    (noWorker : session.worker = none) : SessionInvariant session where
  paired := by rw [noClient, noWorker]; rfl
  framed worker hasWorker := nomatch noWorker.symm.trans hasWorker

theorem SpeakStep.blockAlign {speak later : SpeakState} {action : SpeakAction}
    {observed : List SpeakObservation} (taken : SpeakStep speak action later observed) :
    later.worker.worker.frameAssembler.blockAlign =
      speak.worker.worker.frameAssembler.blockAlign := by
  rcases taken.worker_cases with ⟨_, -, stepped⟩ | ⟨same, -⟩
  · exact blockAlign_step (step_spec stepped)
  · rw [same]

namespace EngineSession

theorem Creation.keepsFormat (creation : Creation session result after) :
    KeepsFormat session after := by
  intro told
  cases creation with
  | failed => exact ⟨told, rfl⟩
  | created => simp [published, told]

theorem Creation.invariant (creation : Creation session result after)
    (invariant : SessionInvariant session) : SessionInvariant after := by
  cases creation with
  | failed => exact invariant
  | @created format positive compatible =>
      refine ⟨rfl, fun worker hasWorker => ?_⟩
      cases hasWorker
      cases told : session.config.hasOutputFormat with
      | true =>
          have same := session.config.eq_of_isFormatCompatible compatible told
          simp only [published, told, ↓reduceIte, true_and]
          exact congrArg WaveFormat.nBlockAlign same
      | false =>
          simp only [published, told, Bool.false_eq_true, ↓reduceIte, true_and]
          rfl

theorem Creation.of_failed (creation : Creation session result after)
    (fails : result.failed = true) : after = session := by
  cases creation with
  | failed => rfl
  | created => cases fails

theorem Loading.keepsFormat (loading : Loading session result after) :
    KeepsFormat session after := by
  cases loading with
  | refused => exact fun told => ⟨told, rfl⟩
  | configured _ _ _ sameFormat sameTold creation =>
      intro told
      have kept := creation.keepsFormat (sameTold.trans told)
      exact ⟨kept.1, kept.2.trans sameFormat⟩

theorem Loading.invariant (loading : Loading session result after)
    (invariant : SessionInvariant session) : SessionInvariant after := by
  cases loading with
  | refused => exact invariant
  | configured unset sameClient sameWorker _ _ creation =>
      exact creation.invariant
        (.unset (sameClient.trans unset.1) (sameWorker.trans unset.2))

theorem Recovery.keepsFormat (recovery : Recovery session after) : KeepsFormat session after := by
  cases recovery with
  | active => exact fun told => ⟨told, rfl⟩
  | recreated creation => exact creation.keepsFormat

theorem Recovery.invariant (recovery : Recovery session after)
    (invariant : SessionInvariant session) : SessionInvariant after := by
  cases recovery with
  | active => exact invariant
  | recreated creation => exact creation.invariant (.unset rfl rfl)

end EngineSession

/-- **Every step keeps the session consistent.** -/
theorem SessionInvariant.step (invariant : SessionInvariant session)
    (taken : EngineSessionStep session next events) : SessionInvariant next := by
  cases taken with
  | withoutToken | asked | askedUntold => exact invariant
  | loaded loading => exact loading.invariant invariant
  | recovered recovery => exact recovery.invariant invariant
  | @worked worker speak _ _ hasWorker taken =>
      obtain ⟨paired, framed⟩ := invariant
      refine ⟨?_, fun later isLater => ?_⟩
      · rw [hasWorker] at paired
        exact paired
      · cases isLater
        obtain ⟨told, aligned⟩ := framed worker hasWorker
        exact ⟨told, taken.blockAlign.trans aligned⟩

theorem EngineSessionStep.keepsFormat (taken : EngineSessionStep session next events) :
    KeepsFormat session next := by
  cases taken with
  | withoutToken | asked | askedUntold | worked => exact fun told => ⟨told, rfl⟩
  | loaded loading => exact loading.keepsFormat
  | recovered recovery => exact recovery.keepsFormat

end Invariant

/-- The two members and the format are the same in both states. -/
def SameSession (session next : EngineSession) : Prop :=
  next.client = session.client ∧ next.worker = session.worker ∧
    next.config.audioFormat = session.config.audioFormat ∧
      next.config.hasOutputFormat = session.config.hasOutputFormat

/-- What holds of every session an engine can have. -/
structure ConsistentSession (session : EngineSession) : Prop where
  paired : session.client.isSome = session.worker.isSome
  framed : ∀ worker, session.worker = some worker →
    worker.blockAlign = session.config.audioFormat.nBlockAlign ∧
      0 < session.config.audioFormat.nBlockAlign
  /-- A candidate that fails changes nothing, whatever session it is made for. -/
  failed : ∀ {outcomes : SessionOutcomes} {before after : EngineSession}
    {result : Except HResult HResult},
    (createProviderSessionLocked outcomes).run.run before = (result, after) →
      result ≠ .ok .sOk → after = before
  refused : ∀ (token : Option ObjectToken) (outcomes : SessionOutcomes),
    (session.setObjectToken token outcomes).2.failed = true →
      SameSession session (session.setObjectToken token outcomes).1
  formatStays : ∀ {trace : List EngineSessionObservation} {later : EngineSession},
    engineSessionMachine.Run Machine.anyStep session trace later → KeepsFormat session later

section Consistent

variable {session next after : EngineSession} {result : HResult}

theorem createProviderSessionLocked_failed {outcomes : SessionOutcomes}
    {ended : Except HResult HResult}
    (ran : (createProviderSessionLocked outcomes).run.run session = (ended, after))
    (fails : ended ≠ .ok .sOk) : after = session := by
  have ends := Fallible.ends (@createProviderSessionLocked_spec outcomes session)
  rw [ran] at ends
  cases ends with
  | returned creation =>
      cases creation with
      | failed => rfl
      | created => exact absurd rfl fails
  | thrown impossible => exact impossible.elim

theorem EngineSession.Loading.same_of_failed (loading : Loading session result after)
    (fails : result.failed = true) : SameSession session after := by
  cases loading with
  | refused => exact ⟨rfl, rfl, rfl, rfl⟩
  | configured _ sameClient sameWorker sameFormat sameTold creation =>
      rw [creation.of_failed fails]
      exact ⟨sameClient, sameWorker, sameFormat, sameTold⟩

theorem setObjectToken_refused (token : Option ObjectToken) (outcomes : SessionOutcomes)
    (fails : (session.setObjectToken token outcomes).2.failed = true) :
    SameSession session (session.setObjectToken token outcomes).1 := by
  have taken := @setObjectToken_spec session token outcomes
  generalize session.setObjectToken token outcomes = outcome at taken fails ⊢
  obtain ⟨after, seen⟩ := outcome
  cases taken with
  | withoutToken => exact ⟨rfl, rfl, rfl, rfl⟩
  | loaded loading same =>
      rcases same with rfl | failed
      · exact loading.same_of_failed fails
      · exact loading.same_of_failed failed

theorem keepsFormat_run {trace : List EngineSessionObservation}
    (run : engineSessionMachine.Run Machine.anyStep session trace next) :
    KeepsFormat session next := by
  induction run with
  | refl => exact fun told => ⟨told, rfl⟩
  | step _ _ taken ih =>
      intro told
      obtain ⟨still, same⟩ := ih told
      obtain ⟨then_, same'⟩ := (engineSessionStep_spec taken).keepsFormat still
      exact ⟨then_, same'.trans same⟩

end Consistent

/-- **The session of an engine is consistent**, after any sequence of calls and faults. -/
theorem engine_session_consistent {trace : List EngineSessionObservation}
    {session : EngineSession}
    (reached : engineSessionMachine.Reaches Machine.anyStep trace session) :
    ConsistentSession session := by
  have invariant : SessionInvariant session := by
    refine reached.induct (motive := fun _ session => SessionInvariant session) ?_ ?_
    · rintro _ rfl
      exact .unset rfl rfl
    · intro _ _ _ _ _ _ invariant _ taken
      exact invariant.step (engineSessionStep_spec taken)
  refine ⟨?_, fun worker hasWorker => ?_, createProviderSessionLocked_failed,
    setObjectToken_refused, keepsFormat_run⟩
  · rw [invariant.paired, Option.isSome_map]
  · obtain ⟨-, aligned⟩ := invariant.framed worker hasWorker
    refine ⟨aligned, ?_⟩
    rw [← aligned]
    exact worker.speak.worker.worker.frameAssembler.blockAlign_pos

/-! ## The session of the engine's machine -/

/-- The machine of the engine has the worker of this session, and the format SAPI was told. -/
structure Shows (session : EngineSession) (engine : Engine) : Prop where
  worker : engine.session = session.worker.map SessionWorker.speak
  format : engine.outputFormat =
    if session.config.hasOutputFormat then some session.config.audioFormat else none

namespace Shows

variable {session after : EngineSession} {engine : Engine}

/-- **A creation that succeeds is one of the engine's machine.** -/
theorem created (shows_ : Shows session engine) (noWorker : session.worker = none)
    (creation : Creation session .sOk after) :
    ∃ format next, engine.createSession format = some (next, [.sessionCreated]) ∧
      Shows after next := by
  cases creation with
  | failed fails => cases fails
  | @created format positive compatible =>
      have noSession : engine.session = none := by rw [shows_.worker, noWorker]; rfl
      have told : engine.outputFormat = none ∨ engine.outputFormat = some format := by
        rw [shows_.format]
        split
        · next told =>
            exact .inr (congrArg some (session.config.eq_of_isFormatCompatible compatible told).symm)
        · exact .inl rfl
      have engineStep : ∃ next, engine.createSession format = some (next, [.sessionCreated]) ∧
          next.session = some (.initial format.nBlockAlign positive) ∧
            next.outputFormat = some format := by
        rw [Engine.createSession, dif_pos positive, if_pos ⟨noSession, told⟩]
        exact ⟨_, rfl, rfl, rfl⟩
      obtain ⟨next, taken, hasSession, hasFormat⟩ := engineStep
      refine ⟨format, next, taken, hasSession, hasFormat.trans ?_⟩
      cases isTold : session.config.hasOutputFormat with
      | true =>
          simp only [published, isTold, ↓reduceIte]
          exact congrArg some (session.config.eq_of_isFormatCompatible compatible isTold)
      | false => simp [published, isTold]

/-- A step of the worker is one of the engine's machine. -/
theorem worked (shows_ : Shows session engine) {action : SpeakAction}
    {events : List EngineSessionObservation}
    (taken : session.stepWorker action = some (after, events)) :
    ∃ next observed, engine.stepSession action = some (next, observed) ∧ Shows after next := by
  unfold stepWorker at taken
  split at taken
  · cases taken
  · next worker hasWorker =>
      split at taken
      · cases taken
      · next speak spoken stepped =>
          cases taken
          have hasSession : engine.session = some worker.speak := by
            rw [shows_.worker, hasWorker]
            rfl
          have engineStep : engine.stepSession action =
              some ({ engine with session := some speak, call := engine.call.after speak.call },
                spoken.map .speak ++ announced worker.speak speak) := by
            simp only [Engine.stepSession, hasSession, stepped]
          exact ⟨_, _, engineStep, rfl, shows_.format⟩

end Shows

/-! ## A session that is lost and replaced -/

/-- A token of a provider with a voice. -/
def providerToken : ObjectToken where
  getStringValue
    | "ProviderExecutablePath" => (.sOk, "provider.exe")
    | "ProviderPipeName" => (.sOk, "provider")
    | _ => (.sOk, "voice")

/-- What a provider answers that speaks mono PCM of 16 bits at this rate. -/
def infoResponse (sampleRate : ℕ) : Json :=
  .object [("response", .string "info"),
    ("audio_format", .object [("sample_rate", .numberUnsigned sampleRate),
      ("bits_per_sample", .numberUnsigned 16), ("channels", .numberUnsigned 1)])]

/-- The worker faults, its replacement cannot be connected, the provider comes back with
another format and then with its own. -/
def lostAndReplaced : List EngineSessionAction :=
  [.setObjectToken (some providerToken) { readInfo := .ok (.sOk, infoResponse 22050) },
    .worker (.thread .audioReadFails), .worker (.thread (.enterFaultedState .audio)),
    .recoverSession { connect := .ok .errorTimeout, readInfo := .error .eFail },
    .setObjectToken (some providerToken) { readInfo := .ok (.sOk, infoResponse 44100) },
    .recoverSession { readInfo := .ok (.sOk, infoResponse 22050) }, .getOutputFormat]

theorem engine_session_consistent_replaced :
    engineSessionMachine.emitted {} lostAndReplaced =
        [.setObjectTokenReturned .sOk, .setObjectTokenReturned .eFail, .outputFormat monoFormat] ∧
      (engineSessionMachine.finalState {} lostAndReplaced).worker.isSome = true ∧
      ConsistentSession (engineSessionMachine.finalState {} lostAndReplaced) := by
  have run := engineSessionMachine.run_finalState {} lostAndReplaced
    (Machine.along_anyStep _ _) (by decide)
  exact ⟨by decide, by decide, engine_session_consistent ⟨{}, rfl, run⟩⟩

end ModernSapi
