import ModernSapi.Engine.ProviderSession

/-!
# The token of an engine

`SetObjectToken` retains the token before it knows whether the provider of the token can be
loaded. The token, the configuration and the session then come from different calls when the
loading fails.

* `failed_call_unchanged_iff`: which calls that fail leave the engine as it was.
* `token_configured`: when no other call fails, the token an engine retains is the one its
  configuration and its session were made from.
-/

set_option autoImplicit false
set_option mvcgen.warning false

namespace ModernSapi

open Interleaving Std.Do EngineSession

/-! ## The members and the calls -/

/-- The strings that are read from a token and written to the configuration. -/
structure ProviderStrings where
  executablePath : String := ""
  pipeName : String := ""
  voiceId : String := ""
  deriving DecidableEq, Repr

def ProviderSessionConfig.strings (config : ProviderSessionConfig) : ProviderStrings :=
  ⟨config.executablePath, config.pipeName, config.voiceId⟩

namespace ObjectToken

/-- What a token answers for a voice it may not have. -/
def voiceId (token : ObjectToken) : String :=
  if (token.getStringValue "VoiceId").1.failed then "" else (token.getStringValue "VoiceId").2

def strings (token : ObjectToken) : ProviderStrings :=
  ⟨(token.getStringValue "ProviderExecutablePath").2,
    (token.getStringValue "ProviderPipeName").2, token.voiceId⟩

end ObjectToken

/-- A token with what it answers during a call. -/
structure TokenArgument where
  token : ℕ
  answers : ObjectToken

/-- The engine with the token it retains. -/
@[ext] structure TokenEngine where
  token : Option ℕ := none
  session : EngineSession := {}
  deriving DecidableEq

inductive TokenAction where
  | setObjectToken (argument : Option TokenArgument) (outcomes : SessionOutcomes)
  | getObjectToken
  | recoverSession (outcomes : SessionOutcomes)
  | worker (action : SpeakAction)

/-- What is seen of the token. -/
inductive TokenObservation where
  | setObjectTokenReturned (token : Option ℕ) (strings : ProviderStrings) (result : HResult)
  | objectToken (token : Option ℕ)
  deriving DecidableEq, Repr

namespace TokenEngine

/-- `SetObjectToken`: the token is retained, and then its provider loaded. -/
def setObjectToken (engine : TokenEngine) (argument : Option TokenArgument)
    (outcomes : SessionOutcomes) : TokenEngine × HResult :=
  match argument with
  | none => (engine, .ePointer)
  | some argument =>
      let (session, result) := engine.session.setObjectToken (some argument.answers) outcomes
      ({ token := some argument.token, session }, result)

/-- A step of the session that is no call of `SetObjectToken`. -/
def sessionStep (engine : TokenEngine) (action : EngineSessionAction) :
    Option (TokenEngine × List TokenObservation) :=
  match engine.session.step action with
  | none => none
  | some (session, _) => some ({ engine with session }, [])

def step (engine : TokenEngine) : TokenAction → Option (TokenEngine × List TokenObservation)
  | .setObjectToken argument outcomes =>
      let (next, result) := engine.setObjectToken argument outcomes
      some (next, [.setObjectTokenReturned (argument.map TokenArgument.token)
        ((argument.map fun argument => argument.answers.strings).getD {}) result])
  | .getObjectToken => some (engine, [.objectToken engine.token])
  | .recoverSession outcomes => engine.sessionStep (.recoverSession outcomes)
  | .worker action => engine.sessionStep (.worker action)

end TokenEngine

/-- The machine of the token of one engine. -/
def tokenMachine : Machine TokenEngine TokenAction TokenObservation where
  init engine := engine = {}
  step := TokenEngine.step

/-! ## What a call can meet -/

/-- The configuration with other strings. -/
def ProviderSessionConfig.configuredBy (config : ProviderSessionConfig)
    (strings : ProviderStrings) : ProviderSessionConfig :=
  { config with
    executablePath := strings.executablePath
    pipeName := strings.pipeName
    voiceId := strings.voiceId }

def EngineSession.configuredBy (session : EngineSession) (strings : ProviderStrings) :
    EngineSession :=
  { session with config := session.config.configuredBy strings }

/-- The strings of a token cannot be read, or not copied. -/
def ObjectToken.Unread (token : ObjectToken) (outcomes : SessionOutcomes) : Prop :=
  (token.getStringValue "ProviderExecutablePath").1.failed = true ∨
    (token.getStringValue "ProviderPipeName").1.failed = true ∨
    (token.getStringValue "VoiceId").1.failed = false ∧ outcomes.copyVoiceId ≠ .ok ()

/-- The configuration is not written: there is a session, or the first string cannot be
assigned. -/
def EngineSession.Unwritten (session : EngineSession) (outcomes : SessionOutcomes) : Prop :=
  (session.client.isSome || session.worker.isSome) = true ∨
    outcomes.assignExecutablePath ≠ .ok ()

/-- The strings of the configuration after it is written, as far as they can be assigned. -/
def writtenStrings (config : ProviderSessionConfig) (strings : ProviderStrings)
    (outcomes : SessionOutcomes) : ProviderStrings :=
  if outcomes.assignPipeName = .ok () then strings
  else { config.strings with executablePath := strings.executablePath }

/-- The provider of a configuration can be connected, and answers as it has to. -/
structure Connects (config : ProviderSessionConfig) (outcomes : SessionOutcomes) : Prop where
  pipeName : config.isConfigured = true
  executablePath : config.executablePath.isEmpty = false
  client : outcomes.makeClient = .ok ()
  connect : ∃ result, outcomes.connect = .ok result ∧ result.failed = false
  sendInfo : ∃ result, outcomes.sendInfo = .ok result ∧ result.failed = false
  readInfo : ∃ result response format, outcomes.readInfo = .ok (result, response) ∧
    result.failed = false ∧ isValidInfoResponse response = true ∧
      tryParseAudioFormatJson ((response.member? "audio_format").getD .null) = some format ∧
        config.isFormatCompatible format = true ∧ 0 < format.nBlockAlign
  worker : outcomes.makeWorker = .ok ()

/-- The provider of a token can be loaded. -/
structure Loadable (session : EngineSession) (token : ObjectToken) (outcomes : SessionOutcomes) :
    Prop where
  read : ¬token.Unread outcomes
  written : ¬session.Unwritten outcomes
  assigned : outcomes.assignPipeName = .ok ()
  connects : Connects (session.config.configuredBy token.strings) outcomes

/-! ## What a call does -/

section Code

variable {outcomes : SessionOutcomes} {before after : EngineSession} {token : ObjectToken}

theorem outside_returns {ε σ α : Type} (outcome : Except ε α) (before : σ) :
    ⦃fun state => ⌜state = before⌝⦄ (Fallible.outside outcome : Fallible ε σ α)
    ⦃post⟨fun value after => ⌜after = before ∧ outcome = .ok value⌝,
      fun error after => ⌜after = before ∧ outcome = .error error⌝⟩⦄ := by
  mvcgen [Fallible.outside, -outside_spec]

/-- What the loading of a provider writes: nothing, or the strings, and then it creates the
session. -/
inductive Writes (session : EngineSession) (strings : ProviderStrings)
    (outcomes : SessionOutcomes) : HResult → EngineSession → Prop where
  | nothing {result : HResult} (unwritten : session.Unwritten outcomes) :
      Writes session strings outcomes result session
  | strings {result : HResult} {after : EngineSession} (written : ¬session.Unwritten outcomes)
      (creation : Creation
        (session.configuredBy (writtenStrings session.config strings outcomes)) result after) :
      Writes session strings outcomes result after

theorem not_unwritten (absent : ¬(before.client.isSome || before.worker.isSome) = true)
    (assigned : outcomes.assignExecutablePath = .ok ()) : ¬before.Unwritten outcomes := by
  rintro (present | thrown)
  · exact absent present
  · exact thrown assigned

theorem loadProvider_writes (executablePath pipeName voiceId : String) (before : EngineSession) :
    ⦃fun session => ⌜session = before⌝⦄ loadProvider outcomes executablePath pipeName voiceId
    ⦃post⟨fun result after =>
        ⌜Writes before ⟨executablePath, pipeName, voiceId⟩ outcomes result after⌝,
      fun _ after => ⌜Writes before ⟨executablePath, pipeName, voiceId⟩ outcomes .eFail after⌝⟩⦄ := by
  mvcgen [loadProvider, outside_returns, -outside_spec, -loadProvider_spec]
  case vc1 same present =>
    subst same
    exact .nothing (.inl present)
  case vc2 same absent _ _ assigned _ _ _ named _ _ _ _ =>
    obtain ⟨rfl, assigned⟩ := assigned
    obtain ⟨rfl, named⟩ := named
    subst same
    intro creation
    refine .strings (not_unwritten absent assigned) ?_
    rw [writtenStrings, if_pos named]
    exact creation
  case vc3 same absent _ _ assigned _ _ _ =>
    obtain ⟨rfl, assigned⟩ := assigned
    subst same
    rintro rfl named
    refine .strings (not_unwritten absent assigned) ?_
    rw [writtenStrings, if_neg (by simp [named])]
    exact .failed rfl
  case vc4 same absent _ _ =>
    subst same
    rintro rfl thrown
    exact .nothing (.inr (by simp [thrown]))

theorem not_unread
    (path : ¬(token.getStringValue "ProviderExecutablePath").1.failed = true)
    (pipe : ¬(token.getStringValue "ProviderPipeName").1.failed = true)
    (voice : (token.getStringValue "VoiceId").1.failed = false → outcomes.copyVoiceId = .ok ()) :
    ¬token.Unread outcomes := by
  rintro (fails | fails | ⟨has, thrown⟩)
  · exact path fails
  · exact pipe fails
  · exact thrown (voice has)

theorem ObjectToken.strings_of_voice (token : ObjectToken)
    (voice : ¬(token.getStringValue "VoiceId").1.failed = true) :
    token.strings = ⟨(token.getStringValue "ProviderExecutablePath").2,
      (token.getStringValue "ProviderPipeName").2, (token.getStringValue "VoiceId").2⟩ := by
  rw [strings, voiceId, if_neg voice]

theorem ObjectToken.strings_of_noVoice (token : ObjectToken)
    (noVoice : (token.getStringValue "VoiceId").1.failed = true) :
    token.strings = ⟨(token.getStringValue "ProviderExecutablePath").2,
      (token.getStringValue "ProviderPipeName").2, ""⟩ := by
  rw [strings, voiceId, if_pos noVoice]

/-- What a call of `SetObjectToken` with a token writes. -/
inductive Sets (session : EngineSession) (token : ObjectToken) (outcomes : SessionOutcomes) :
    HResult → EngineSession → Prop where
  | unread {result : HResult} (unread : token.Unread outcomes) :
      Sets session token outcomes result session
  | read {result : HResult} {after : EngineSession} (read : ¬token.Unread outcomes)
      (writes : Writes session token.strings outcomes result after) :
      Sets session token outcomes result after

theorem loadProviderFromToken_sets (token : ObjectToken) (before : EngineSession) :
    ⦃fun session => ⌜session = before⌝⦄ loadProviderFromToken token outcomes
    ⦃post⟨fun result after => ⌜Sets before token outcomes result after⌝,
      fun _ after => ⌜Sets before token outcomes .eFail after⌝⟩⦄ := by
  mvcgen [loadProviderFromToken, loadProvider_writes, outside_returns, -outside_spec,
    -loadProvider_spec]
  case vc1 fails _ same =>
    subst same
    exact .unread (.inl fails)
  case vc2 _ fails _ same =>
    subst same
    exact .unread (.inr (.inl fails))
  case vc3 path pipe voice _ same _ _ =>
    subst same
    rw [← token.strings_of_noVoice voice]
    refine .read (not_unread path pipe ?_)
    intro has
    cases voice.symm.trans has
  case vc4 path pipe voice _ same _ _ =>
    subst same
    rw [← token.strings_of_noVoice voice]
    refine .read (not_unread path pipe ?_)
    intro has
    cases voice.symm.trans has
  case vc5 path pipe voice _ same _ _ copied _ _ =>
    obtain ⟨rfl, copied⟩ := copied
    subst same
    rw [← token.strings_of_voice voice]
    exact .read (not_unread path pipe fun _ => copied)
  case vc6 path pipe voice _ same _ _ copied _ _ =>
    obtain ⟨rfl, copied⟩ := copied
    subst same
    rw [← token.strings_of_voice voice]
    exact .read (not_unread path pipe fun _ => copied)
  case vc7 _ _ voice _ same _ _ =>
    subst same
    rintro rfl thrown
    exact .unread (.inr (.inr ⟨Bool.eq_false_iff.mpr voice, by simp [thrown]⟩))

theorem Connects.creates (connects : Connects before.config outcomes)
    (noClient : before.client = none) (noWorker : before.worker = none) :
    ⦃fun session => ⌜session = before⌝⦄ createProviderSessionLocked outcomes
    ⦃post⟨fun result _ => ⌜result = .sOk⌝, fun _ _ => ⌜False⌝⟩⦄ := by
  obtain ⟨configured, executable, client, ⟨connectResult, connect, connected⟩,
    ⟨sendResult, send, sent⟩, ⟨readResult, response, format, read, answered, valid, parsed,
      compatible, positive⟩, worker⟩ := connects
  simp only [createProviderSessionLocked, createCandidate, makeWorker, client, connect, send, read,
    worker, Fallible.outside, pure_bind, connected, sent, answered, valid, parsed, positive,
    Bool.not_true, Bool.false_eq_true, ↓reduceIte, ↓reduceDIte]
  mvcgen
  case vc1 same refused =>
    subst same
    simp [configured, executable, noClient, noWorker] at refused
  case vc2 same _ incompatible =>
    subst same
    simp [compatible] at incompatible

theorem loadProvider_loads {executablePath pipeName voiceId : String}
    (written : ¬before.Unwritten outcomes) (named : outcomes.assignPipeName = .ok ())
    (connects : Connects (before.config.configuredBy ⟨executablePath, pipeName, voiceId⟩)
      outcomes) :
    ⦃fun session => ⌜session = before⌝⦄ loadProvider outcomes executablePath pipeName voiceId
    ⦃post⟨fun result _ => ⌜result = .sOk⌝, fun _ _ => ⌜False⌝⟩⦄ := by
  mvcgen [loadProvider, outside_returns, Connects.creates, -outside_spec, -loadProvider_spec,
    -createProviderSessionLocked_spec]
  case vc1 same present =>
    subst same
    exact absurd (.inl present) written
  case vc2 same _ _ _ assigned _ _ _ named _ _ =>
    obtain ⟨rfl, -⟩ := assigned
    obtain ⟨rfl, -⟩ := named
    subst same
    exact connects
  case vc3 absent _ _ assigned _ _ _ named _ _ =>
    obtain ⟨rfl, -⟩ := assigned
    obtain ⟨rfl, -⟩ := named
    exact (not_set absent).1
  case vc4 absent _ _ assigned _ _ _ named _ _ =>
    obtain ⟨rfl, -⟩ := assigned
    obtain ⟨rfl, -⟩ := named
    exact (not_set absent).2
  case vc5 =>
    intro _ thrown
    cases named.symm.trans thrown
  case vc6 same _ _ _ =>
    subst same
    intro _ thrown
    exact written (.inr (by simp [thrown]))

/-- **A provider that can be loaded is.** -/
theorem Loadable.loads (loadable : Loadable before token outcomes) :
    ⦃fun session => ⌜session = before⌝⦄ loadProviderFromToken token outcomes
    ⦃post⟨fun result _ => ⌜result = .sOk⌝, fun _ _ => ⌜False⌝⟩⦄ := by
  obtain ⟨read, written, named, connects⟩ := loadable
  mvcgen [loadProviderFromToken, outside_returns, loadProvider_loads, -outside_spec,
    -loadProvider_spec]
  case vc1 fails _ _ => exact absurd (.inl fails) read
  case vc2 fails _ _ => exact absurd (.inr (.inl fails)) read
  case vc3 =>
    rintro _ rfl
    exact written
  case vc4 =>
    intro _ _
    exact named
  case vc5 noVoice =>
    rintro _ rfl
    rw [token.strings_of_noVoice noVoice] at connects
    exact connects
  case vc6 same _ =>
    rintro _ rfl _
    rw [same]
    exact written
  case vc7 =>
    intro _ _ _
    exact named
  case vc8 voice _ same _ =>
    rintro _ rfl _
    rw [token.strings_of_voice voice] at connects
    rw [same]
    exact connects
  case vc9 voice _ _ _ _ =>
    intro _ thrown
    exact read (.inr (.inr ⟨Bool.eq_false_iff.mpr voice, by simp [thrown]⟩))

end Code

/-! ## Calls that fail -/

namespace TokenEngine

variable {engine next : TokenEngine} {argument : Option TokenArgument}
  {outcomes : SessionOutcomes}

/-- A call that does not succeed leaves the engine as it is: it has no token, or the token that
is retained already, and does not write the configuration or writes what it has. -/
def LeavesUnchanged (engine : TokenEngine) (argument : Option TokenArgument)
    (outcomes : SessionOutcomes) : Prop :=
  ∀ given, argument = some given → engine.token = some given.token ∧
    (given.answers.Unread outcomes ∨ engine.session.Unwritten outcomes ∨
      writtenStrings engine.session.config given.answers.strings outcomes =
        engine.session.config.strings)

/-- The provider of the token can be loaded, or nothing is left changed when it cannot. -/
def WholeCall (engine : TokenEngine) : TokenAction → Prop
  | .setObjectToken argument outcomes =>
      (∃ given, argument = some given ∧ Loadable engine.session given.answers outcomes) ∨
        engine.LeavesUnchanged argument outcomes
  | _ => True

/-- What a call with a token writes, and the token it retains. -/
theorem setObjectToken_sets (given : TokenArgument) (outcomes : SessionOutcomes) :
    ∃ result, Sets engine.session given.answers outcomes result
        (engine.setObjectToken (some given) outcomes).1.session ∧
      ((engine.setObjectToken (some given) outcomes).2 = result ∨ result.failed = true) := by
  have ends := Fallible.ends
    (@loadProviderFromToken_sets outcomes given.answers engine.session)
  simp only [setObjectToken, EngineSession.setObjectToken]
  generalize (loadProviderFromToken given.answers outcomes).run.run engine.session = outcome
    at ends
  cases ends with
  | returned sets => exact ⟨_, sets, .inl rfl⟩
  | thrown sets => exact ⟨_, sets, .inr rfl⟩

theorem setObjectToken_token (given : TokenArgument) (outcomes : SessionOutcomes) :
    (engine.setObjectToken (some given) outcomes).1.token = some given.token := rfl

/-- A call whose provider can be loaded succeeds. -/
theorem setObjectToken_loads (given : TokenArgument)
    (loadable : Loadable engine.session given.answers outcomes) :
    (engine.setObjectToken (some given) outcomes).2 = .sOk := by
  have ends := Fallible.ends loadable.loads
  simp only [setObjectToken, EngineSession.setObjectToken]
  generalize (loadProviderFromToken given.answers outcomes).run.run engine.session = outcome
    at ends
  cases ends with
  | returned same => exact same
  | thrown impossible => exact impossible.elim

end TokenEngine

section Strings

variable {session after : EngineSession} {strings : ProviderStrings} {token : ObjectToken}
  {outcomes : SessionOutcomes} {result : HResult}

@[simp] theorem EngineSession.configuredBy_strings :
    (session.configuredBy strings).config.strings = strings := rfl

/-- Writing the strings of a configuration once more leaves it as it is. -/
theorem EngineSession.configuredBy_same : session.configuredBy session.config.strings = session :=
  rfl

/-- A creation leaves the strings as they are. -/
theorem EngineSession.Creation.strings_eq (creation : Creation session result after) :
    after.config.strings = session.config.strings := by
  cases creation with
  | failed => rfl
  | created =>
      simp only [published]
      split
      · rfl
      · rfl

/-- The strings after a call are those that it has written. -/
theorem Sets.strings_eq (sets : Sets session token outcomes result after)
    (read : ¬token.Unread outcomes) (written : ¬session.Unwritten outcomes) :
    after.config.strings = writtenStrings session.config token.strings outcomes := by
  cases sets with
  | unread unread => exact absurd unread read
  | read _ writes =>
      cases writes with
      | nothing unwritten => exact absurd unwritten written
      | strings _ creation => exact creation.strings_eq

/-- A call that fails changes nothing, if what it writes is there already. -/
theorem Sets.unchanged (sets : Sets session token outcomes result after)
    (fails : result.failed = true)
    (harmless : token.Unread outcomes ∨ session.Unwritten outcomes ∨
      writtenStrings session.config token.strings outcomes = session.config.strings) :
    after = session := by
  cases sets with
  | unread => rfl
  | read read writes =>
      cases writes with
      | nothing => rfl
      | strings written creation =>
          have same := (harmless.resolve_left read).resolve_left written
          rw [same, session.configuredBy_same] at creation
          exact creation.of_failed fails

end Strings

/-- **Which calls that fail leave the engine as it was.** -/
theorem failed_call_unchanged_iff {engine : TokenEngine} {argument : Option TokenArgument}
    {outcomes : SessionOutcomes}
    (fails : (engine.setObjectToken argument outcomes).2.failed = true) :
    (engine.setObjectToken argument outcomes).1 = engine ↔
      engine.LeavesUnchanged argument outcomes := by
  cases argument with
  | none => exact iff_of_true rfl nofun
  | some given =>
      obtain ⟨result, sets, same⟩ := engine.setObjectToken_sets given outcomes
      have failed : result.failed = true := by
        rcases same with rfl | failed
        · exact fails
        · exact failed
      constructor
      · rintro unchanged _ ⟨⟩
        have token := engine.setObjectToken_token given outcomes
        rw [unchanged] at token sets
        refine ⟨token, ?_⟩
        by_cases read : given.answers.Unread outcomes
        · exact .inl read
        · by_cases written : engine.session.Unwritten outcomes
          · exact .inr (.inl written)
          · exact .inr (.inr (sets.strings_eq read written).symm)
      · intro harmless
        obtain ⟨token, harmless⟩ := harmless given rfl
        exact TokenEngine.ext token.symm (sets.unchanged failed harmless)

/-! ## The token of the configuration -/

/-- The configuration has the strings that a call read from the token that is retained, and the
session is one with the provider they name. -/
structure ConfiguredByToken (trace : List TokenObservation) (engine : TokenEngine) : Prop where
  unset : engine.token = none → engine.session.config.strings = {}
  configured : ∀ token, engine.token = some token → ∃ result,
    .setObjectTokenReturned (some token) engine.session.config.strings result ∈ trace
  client : ∀ client, engine.session.client = some client →
    client = engine.session.candidateClient
  worker : ∀ worker, engine.session.worker = some worker →
    worker.client = engine.session.candidateClient

section Configured

variable {trace events : List TokenObservation} {engine next : TokenEngine}
  {session after : EngineSession} {result : HResult}

/-- The session is one with the provider of the configuration. -/
def EngineSession.ServesConfig (session : EngineSession) : Prop :=
  (∀ client, session.client = some client → client = session.candidateClient) ∧
    ∀ worker, session.worker = some worker → worker.client = session.candidateClient

theorem EngineSession.candidateClient_congr
    (same : after.config.strings = session.config.strings) :
    after.candidateClient = session.candidateClient := by
  rw [candidateClient, candidateClient, show after.config.pipeName = session.config.pipeName from
    congrArg ProviderStrings.pipeName same, show after.config.executablePath =
      session.config.executablePath from congrArg ProviderStrings.executablePath same]

theorem EngineSession.ServesConfig.unset (noClient : session.client = none)
    (noWorker : session.worker = none) : session.ServesConfig := by
  constructor
  · intro client has
    exact nomatch noClient.symm.trans has
  · intro worker has
    exact nomatch noWorker.symm.trans has

theorem EngineSession.Creation.serves (creation : Creation session result after)
    (serves : session.ServesConfig) : after.ServesConfig := by
  have same := candidateClient_congr creation.strings_eq
  cases creation with
  | failed => exact serves
  | created =>
      constructor
      · rintro _ ⟨⟩
        exact same.symm
      · rintro _ ⟨⟩
        exact same.symm

/-- A step that leaves the strings, and a session with their provider. -/
structure KeepsConfigured (session after : EngineSession) : Prop where
  strings : after.config.strings = session.config.strings
  serves : session.ServesConfig → after.ServesConfig

theorem EngineSession.Recovery.keepsConfigured (recovery : Recovery session after) :
    KeepsConfigured session after := by
  cases recovery with
  | active => exact ⟨rfl, id⟩
  | recreated creation =>
      exact ⟨creation.strings_eq, fun _ => creation.serves (.unset rfl rfl)⟩

theorem keepsConfigured_recoverSession (session : EngineSession) (outcomes : SessionOutcomes) :
    KeepsConfigured session ((recoverSession outcomes).run.run session).2 := by
  have ends := Fallible.ends (@recoverSession_spec outcomes session)
  generalize (recoverSession outcomes).run.run session = outcome at ends
  cases ends with
  | returned recovery => exact recovery.keepsConfigured
  | thrown recovery => exact recovery.keepsConfigured

theorem keepsConfigured_stepWorker {action : SpeakAction}
    {seen : List EngineSessionObservation}
    (taken : session.stepWorker action = some (after, seen)) : KeepsConfigured session after := by
  unfold stepWorker at taken
  split at taken
  · cases taken
  · next worker hasWorker =>
      split at taken
      · cases taken
      · cases taken
        refine ⟨rfl, fun serves => ⟨serves.1, ?_⟩⟩
        rintro _ ⟨⟩
        exact serves.2 worker hasWorker

/-- A call leaves a session with the provider of the configuration. -/
theorem Sets.serves {token : ObjectToken} {outcomes : SessionOutcomes}
    (sets : Sets session token outcomes result after) (serves : session.ServesConfig) :
    after.ServesConfig := by
  cases sets with
  | unread => exact serves
  | read _ writes =>
      cases writes with
      | nothing => exact serves
      | strings written creation =>
          have absent := not_set fun present => written (.inl present)
          exact creation.serves (.unset absent.1 absent.2)

/-- A call leaves the strings, if it writes what is there already. -/
theorem Sets.strings_of_harmless {token : ObjectToken} {outcomes : SessionOutcomes}
    (sets : Sets session token outcomes result after)
    (harmless : token.Unread outcomes ∨ session.Unwritten outcomes ∨
      writtenStrings session.config token.strings outcomes = session.config.strings) :
    after.config.strings = session.config.strings := by
  cases sets with
  | unread => rfl
  | read read writes =>
      cases writes with
      | nothing => rfl
      | strings written creation =>
          rw [creation.strings_eq]
          exact (harmless.resolve_left read).resolve_left written

namespace ConfiguredByToken

theorem initial : ConfiguredByToken [] {} := by
  have serves : EngineSession.ServesConfig {} := .unset rfl rfl
  refine ⟨fun _ => rfl, ?_, serves.1, serves.2⟩
  intro token retained
  exact nomatch retained

theorem servesConfig (configured : ConfiguredByToken trace engine) :
    engine.session.ServesConfig :=
  ⟨configured.client, configured.worker⟩

/-- A step that retains the token and leaves the strings. -/
theorem kept (configured : ConfiguredByToken trace engine) (token : next.token = engine.token)
    (strings : next.session.config.strings = engine.session.config.strings)
    (serves : next.session.ServesConfig) : ConfiguredByToken (trace ++ events) next where
  unset none := by
    rw [strings]
    exact configured.unset (token.symm.trans none)
  configured given retained := by
    obtain ⟨result, member⟩ := configured.configured given (token.symm.trans retained)
    rw [strings]
    exact ⟨result, List.mem_append_left _ member⟩
  client := serves.1
  worker := serves.2

/-- **Every step keeps this**, unless it is a call that fails and changes the engine. -/
theorem step (configured : ConfiguredByToken trace engine) {action : TokenAction}
    (whole : engine.WholeCall action) (taken : engine.step action = some (next, events)) :
    ConfiguredByToken (trace ++ events) next := by
  cases action with
  | setObjectToken argument outcomes =>
      cases argument with
      | none =>
          cases taken
          exact configured.kept rfl rfl configured.servesConfig
      | some given =>
          obtain ⟨result, sets, -⟩ := engine.setObjectToken_sets given outcomes
          have serves := sets.serves configured.servesConfig
          cases taken
          rcases whole with ⟨_, ⟨⟩, loadable⟩ | harmless
          · have strings : (engine.setObjectToken (some given) outcomes).1.session.config.strings =
                given.answers.strings := by
              rw [sets.strings_eq loadable.read loadable.written, writtenStrings,
                if_pos loadable.assigned]
            refine ⟨nofun, ?_, serves.1, serves.2⟩
            rintro _ ⟨⟩
            refine ⟨(engine.setObjectToken (some given) outcomes).2,
              List.mem_append_right _ (List.mem_singleton.mpr ?_)⟩
            exact congrArg (TokenObservation.setObjectTokenReturned (some given.token) · _) strings
          · obtain ⟨token, harmless⟩ := harmless given rfl
            exact configured.kept token.symm (sets.strings_of_harmless harmless) serves
  | getObjectToken =>
      cases taken
      exact configured.kept rfl rfl configured.servesConfig
  | recoverSession outcomes =>
      have kept := keepsConfigured_recoverSession engine.session outcomes
      cases taken
      exact configured.kept rfl kept.strings (kept.serves configured.servesConfig)
  | worker action =>
      simp only [TokenEngine.step, TokenEngine.sessionStep, EngineSession.step] at taken
      split at taken
      · cases taken
      · next session _ stepped =>
          have kept := keepsConfigured_stepWorker stepped
          cases taken
          exact configured.kept rfl kept.strings (kept.serves configured.servesConfig)

end ConfiguredByToken

/-- **The token an engine retains is the one it is configured by**, after every sequence of
calls that load the provider of their token or have nothing to change. Of the calls that fail,
these are the ones that leave the engine as it was. -/
theorem token_configured
    (reached : tokenMachine.Reaches (fun engine action => engine.WholeCall action) trace engine) :
    ConfiguredByToken trace engine ∧ ∀ {argument : Option TokenArgument}
      {outcomes : SessionOutcomes},
      (engine.setObjectToken argument outcomes).2.failed = true →
        ((engine.setObjectToken argument outcomes).1 = engine ↔
          engine.WholeCall (.setObjectToken argument outcomes)) := by
  constructor
  · refine reached.induct (motive := fun trace engine => ConfiguredByToken trace engine) ?_ ?_
    · rintro _ rfl
      exact .initial
    · intro _ _ _ _ _ _ configured whole taken
      exact configured.step whole taken
  · intro argument outcomes fails
    rw [failed_call_unchanged_iff fails]
    refine ⟨.inr, ?_⟩
    rintro (⟨given, rfl, loadable⟩ | harmless)
    · rw [engine.setObjectToken_loads given loadable] at fails
      cases fails
    · exact harmless

end Configured

/-! ## A token that replaces another -/

/-- A token of another provider. -/
def otherToken : ObjectToken where
  getStringValue
    | "ProviderExecutablePath" => (.sOk, "other.exe")
    | "ProviderPipeName" => (.sOk, "other")
    | _ => (.eFail, "")

/-- A provider of the first token is loaded. -/
def tokenSet : List TokenAction :=
  [.setObjectToken (some ⟨1, providerToken⟩) { readInfo := .ok (.sOk, infoResponse 22050) }]

theorem providerToken_loadable : Loadable {} providerToken
    { readInfo := .ok (.sOk, infoResponse 22050) } where
  read := by
    rintro (fails | fails | ⟨-, thrown⟩)
    · cases fails
    · cases fails
    · exact thrown rfl
  written := by
    rintro (present | thrown)
    · cases present
    · exact thrown rfl
  assigned := rfl
  connects :=
    { pipeName := by decide
      executablePath := by decide
      client := rfl
      connect := ⟨.sOk, rfl, rfl⟩
      sendInfo := ⟨.sOk, rfl, rfl⟩
      readInfo := ⟨.sOk, infoResponse 22050, monoFormat, rfl, rfl, by decide, by decide,
        by decide, by decide⟩
      worker := rfl }

/-- The outcomes of a call that never asks the provider. -/
def unasked : SessionOutcomes := { readInfo := .error .eFail }

/-- The token is given once more, which fails; the session breaks, and `Speak` replaces it. -/
def tokenRecovered : List TokenAction :=
  tokenSet ++ [.setObjectToken (some ⟨1, providerToken⟩) unasked,
    .worker (.thread .audioReadFails), .worker (.thread (.enterFaultedState .audio)),
    .worker (.thread (.publishFault .audio)),
    .recoverSession { readInfo := .ok (.sOk, infoResponse 22050) }, .getObjectToken]

theorem token_configured_recovered :
    let engine := tokenMachine.finalState {} tokenRecovered
    let again := engine.setObjectToken (some ⟨1, providerToken⟩) unasked
    ConfiguredByToken (tokenMachine.emitted {} tokenRecovered) engine ∧
      engine.session.isActive = true ∧ again.2 = .eUnexpected ∧ again.1 = engine := by
  intro engine again
  have present : engine.LeavesUnchanged (some ⟨1, providerToken⟩) unasked := by
    rintro _ ⟨⟩
    exact ⟨by decide, .inr (.inl (.inl (by decide)))⟩
  have whole : tokenMachine.Along (fun engine action _ => engine.WholeCall action) {}
      tokenRecovered := by
    refine ⟨.inl ⟨_, rfl, providerToken_loadable⟩, .inr ?_, trivial, trivial, trivial, trivial,
      trivial, trivial⟩
    rintro _ ⟨⟩
    exact ⟨rfl, .inr (.inl (.inl rfl))⟩
  have run := tokenMachine.run_finalState {} tokenRecovered whole (by decide)
  obtain ⟨configured, unchanged⟩ := token_configured ⟨{}, rfl, run⟩
  exact ⟨configured, by decide, by decide, (unchanged (by decide)).mpr (.inr present)⟩

/-- The engine has a session when it is given another token. -/
def tokenReplaced : List TokenAction :=
  tokenSet ++ [.setObjectToken (some ⟨2, otherToken⟩) { readInfo := .error .eFail }]

/-- **A token is retained that nothing is configured by**, and the call that gave it fails. -/
theorem failed_call_retains_token :
    ¬∀ {trace : List TokenObservation} {engine : TokenEngine},
      tokenMachine.Reaches Machine.anyStep trace engine →
        ConfiguredByToken trace engine ∧ ∀ {argument : Option TokenArgument}
          {outcomes : SessionOutcomes},
          (engine.setObjectToken argument outcomes).2.failed = true →
            (engine.setObjectToken argument outcomes).1 = engine := by
  intro whole
  have run := tokenMachine.run_finalState {} tokenReplaced (Machine.along_anyStep _ _) (by decide)
  obtain ⟨⟨-, configured, -, -⟩, -⟩ := whole ⟨{}, rfl, run⟩
  obtain ⟨result, member⟩ := configured 2 (by decide)
  have seen : tokenMachine.emitted {} tokenReplaced =
      [.setObjectTokenReturned (some 1) ⟨"provider.exe", "provider", "voice"⟩ .sOk,
        .setObjectTokenReturned (some 2) ⟨"other.exe", "other", ""⟩ .eUnexpected] := by decide
  have strings : (tokenMachine.finalState {} tokenReplaced).session.config.strings =
      ⟨"provider.exe", "provider", "voice"⟩ := by decide
  rw [seen, strings] at member
  simp at member

end ModernSapi
