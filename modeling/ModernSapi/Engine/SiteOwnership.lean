import ModernSapi.Engine.Callbacks

/-!
# Whose site the audio goes to

`OnAudioData` is not told whose audio it is given: it writes to the site that is
installed when it gets to fetch one. The audio thread has been preempted since the span
was admitted, and the call the audio belongs to may be over.

`audio_crosses_calls` is a run in which the audio of a cancelled call is written to the
site of the next one. `write_owned` shows what it takes: as long as no call installs its
site while a span of an earlier request is on its way to a site, or may still be
admitted, all audio of a request is written to the site of its own call.
-/

set_option autoImplicit false

namespace ModernSapi

open Interleaving

/-- The audio thread stands in `OnAudioData`. -/
def AudioThread.isOnAudioData : AudioThread → Bool
  | .onAudioData _ _ => true
  | _ => false

/-- A span of the session is on its way to a site that is not fetched yet, or spans of
its request may still be admitted. -/
def Engine.SpansOutstanding (engine : Engine) : Prop :=
  match engine.session with
  | some speak =>
      speak.context.AdmitsSpans ∨
        (speak.worker.audio.isOnAudioData = true ∧ engine.writeSite = none)
  | none => False

instance (engine : Engine) : Decidable engine.SpansOutstanding := by
  unfold Engine.SpansOutstanding
  split <;> infer_instance

/-- No call installs its site while spans of an earlier request are outstanding. -/
def NoSpansOutstanding (engine : Engine) : EngineAction → Prop
  | .speak => ¬engine.SpansOutstanding
  | _ => True

instance (engine : Engine) : DecidablePred (NoSpansOutstanding engine)
  | .speak => inferInstanceAs (Decidable (¬engine.SpansOutstanding))
  | .sessionActive | .retireSession | .joinThreads | .createSession _ | .createSessionFails
  | .start _ | .speakThrows | .leave | .worker _ | .readControl .. | .fetchAudioSite
  | .writeReturns _ | .fetchEventSite | .dispatchEvent => .isTrue trivial

/-! ## The invariant -/

/-- The site that is installed while spans are outstanding, and the site that is fetched
for a span, are those of the call the spans belong to. -/
structure SiteOwned (engine : Engine) : Prop where
  admitting : ∀ speak ∈ engine.session, speak.context.AdmitsSpans → ∀ site ∈ engine.site,
    site = speak.context.token.speakId
  handed : ∀ speak ∈ engine.session, ∀ batch span, speak.worker.audio = .onAudioData batch span →
    engine.writeSite = none → ∀ site ∈ engine.site, site = batch.token.speakId
  fetched : ∀ speak ∈ engine.session, ∀ batch span, speak.worker.audio = .onAudioData batch span →
    ∀ site ∈ engine.writeSite, site = batch.token.speakId

namespace SiteOwned

variable {engine next kept : Engine} {action : EngineAction} {inner : SpeakAction}
  {speak after : SpeakState} {own : List EngineObservation} {observed : List SpeakObservation}

theorem initial : SiteOwned {} := by
  refine ⟨?_, ?_, ?_⟩
  all_goals
    intro _ member
    cases member

/-- A step of the session admits spans of a request only under the site of its call. -/
theorem session_admitting (owned : SiteOwned engine) (invariant : EngineInvariant engine)
    (session : engine.session = some speak)
    (cause : SessionCause engine speak action inner kept own)
    (taken : SpeakStep speak inner after observed) (admits : after.context.AdmitsSpans) {site : ℕ}
    (installed : engine.site = some site) : site = after.context.token.speakId := by
  rcases cause.admitsSpans taken (invariant.worker speak session) admits with
    ⟨before, token⟩ | unstarted
  · rw [token]
    exact owned.admitting speak session before site installed
  · have serves := invariant.installed _ (EngineCall.speakId_of_unstarted unstarted)
    rw [installed] at serves
    exact Option.some.inj serves

/-- **Every step that installs no site over outstanding spans keeps the sites owned.** -/
theorem step (owned : SiteOwned engine) (invariant : EngineInvariant engine)
    (allowed : NoSpansOutstanding engine action) {events : List EngineObservation}
    (taken : EngineStep engine action next events) : SiteOwned next := by
  cases taken with
  | @session _ _ speak after kept _ _ session cause taken =>
      obtain ⟨site, -, -, -, -, writing, -⟩ := cause.surrounds
      have healthy := invariant.worker speak session
      refine ⟨?_, ?_, ?_⟩
      · rintro _ ⟨⟩ admits other installed
        exact owned.session_admitting invariant session cause taken admits (site.symm.trans installed)
      · rintro _ ⟨⟩ batch span here unfetched other installed
        have before : engine.site = some other := site.symm.trans installed
        rcases taken.onAudioData_from here with ⟨there, stays⟩ | ⟨token, admits⟩
        · rcases writing with none | ⟨same, -⟩
          · by_cases fetched : engine.writeSite = .none
            · exact owned.handed speak session batch span there fetched other before
            · cases cause with
              | wrote => exact absurd rfl (stays _)
              | started | worker | recordRead | eventIgnored | dispatched => exact absurd none fetched
              | audioRefused => exact absurd rfl (stays _)
          · exact owned.handed speak session batch span there (same.symm.trans unfetched) other before
        · rw [← token]
          exact owned.admitting speak session admits other before
      · rintro _ ⟨⟩ batch span here other fetched
        rcases writing with none | ⟨same, stays⟩
        · rw [none] at fetched
          cases fetched
        · have before : engine.writeSite = some other := same.symm.trans fetched
          obtain ⟨_, member, _, _, there⟩ := invariant.writing other before
          rw [session] at member
          cases member
          have now := taken.onAudioData_stays healthy stays there
          rw [now] at here
          cases here
          exact owned.fetched speak session _ _ there other before
  | spoken =>
      have noneLeft : ¬engine.SpansOutstanding := allowed
      refine ⟨?_, ?_, owned.fetched⟩
      · intro speak session admits
        refine absurd ?_ noneLeft
        rw [Engine.SpansOutstanding, session]
        exact .inl admits
      · intro speak session batch span here unfetched
        refine absurd ?_ noneLeft
        rw [Engine.SpansOutstanding, session]
        exact .inr ⟨by rw [here]; rfl, unfetched⟩
  | called | leftOther => exact ⟨owned.admitting, owned.handed, owned.fetched⟩
  | joined =>
      refine ⟨?_, ?_, ?_⟩
      all_goals
        intro _ member
        cases member
  | created =>
      refine ⟨?_, ?_, ?_⟩
      · rintro _ ⟨⟩ admits
        cases admits.1
      · rintro _ ⟨⟩ _ _ here
        cases here
      · rintro _ ⟨⟩ _ _ here
        cases here
  | @threw _ speak _ session =>
      refine ⟨?_, ?_, ?_⟩
      · rintro _ ⟨⟩
        exact owned.admitting speak session
      · rintro _ ⟨⟩
        exact owned.handed speak session
      · rintro _ ⟨⟩
        exact owned.fetched speak session
  | left =>
      refine ⟨?_, ?_, owned.fetched⟩
      · intro _ _ _ _ installed
        cases installed
      · intro _ _ _ _ _ _ _ installed
        cases installed
  | @audioSiteFetched speak batch span site session here unfetched installed =>
      refine ⟨owned.admitting, ?_, ?_⟩
      · intro _ _ _ _ _ fetched
        cases fetched
      · rintro other member batch span there _ ⟨⟩
        exact owned.handed other member batch span there unfetched site installed
  | eventSiteFetched => exact ⟨owned.admitting, owned.handed, owned.fetched⟩

/-- A write of a step is to the site of the call the audio belongs to. -/
theorem writes (owned : SiteOwned engine) {events : List EngineObservation}
    (taken : EngineStep engine action next events) {token : RequestToken} {site : ℕ}
    {bytes : List UInt8} (written : .write token site bytes ∈ events) : site = token.speakId := by
  cases taken with
  | @session _ _ speak after kept _ observed session cause taken =>
      rcases List.mem_append.mp written with own | seen
      · cases cause with
        | wrote here fetched =>
            cases List.mem_singleton.mp own
            exact owned.fetched speak session _ _ here _ fetched
        | dispatched =>
            unfold addedEvents at own
            split at own
            · cases List.mem_singleton.mp own
            · cases own
        | recordRead => cases List.mem_singleton.mp own
        | started | worker | audioRefused | eventIgnored => cases own
      · rcases List.mem_append.mp seen with spoken | announced
        · obtain ⟨_, -, other⟩ := List.mem_map.mp spoken
          cases other
        · rcases mem_announced announced with ⟨other, -⟩ | ⟨other, -⟩ | ⟨_, _, _, _, -, -, other⟩
          all_goals cases other
  | _ => simp at written

end SiteOwned

/-- **The audio of a request is written to the site of its own call**, in every run in
which no call installs its site over outstanding spans. -/
theorem write_owned {trace : List EngineObservation} {engine : Engine}
    (reached : engineMachine.Reaches NoSpansOutstanding trace engine) {token : RequestToken}
    {site : ℕ} {bytes : List UInt8} (written : .write token site bytes ∈ trace) :
    site = token.speakId := by
  refine (reached.induct (motive := fun trace engine => SiteOwned engine ∧
    ∀ token site bytes, .write token site bytes ∈ trace → site = token.speakId) ?_ ?_).2
    token site bytes written
  · rintro _ rfl
    exact ⟨.initial, fun _ _ _ written => nomatch written⟩
  · rintro _ _ _ _ _ before ⟨owned, past⟩ allowed taken
    have spec := engineStep_spec taken
    refine ⟨owned.step (engineInvariant before) allowed spec, fun token site bytes written => ?_⟩
    rcases List.mem_append.mp written with earlier | now
    · exact past token site bytes earlier
    · exact owned.writes spec now

/-- A call is served by a new session, and a span of its audio is admitted. -/
def spanAdmitted : List EngineAction :=
  [.createSession monoFormat, .speak, .sessionActive, .start 0, .worker (.dispatched .sOk),
    .worker (.thread (.audioChunk 1 [1, 2])), .worker (.thread .spanAdmission)]

/-- The span is written, and the next call begins after the first has ended. -/
def writtenBeforeNextCall : List EngineAction :=
  spanAdmitted ++
    [.fetchAudioSite, .writeReturns true, .worker (.thread .spanAdmission),
      .worker (.thread (.batchOutcome 2)), .worker (.abortObserved 3),
      .worker (.cancellationSent .sOk),
      .readControl 4 (.object [("event", .string "synthesis_cancelled"),
        ("speak_id", .numberUnsigned 1), ("audio_bytes_written", .numberUnsigned 2)]),
      .worker .drained, .leave, .speak]

/-- The audio thread is preempted in `OnAudioData`, before it fetches a site. Meanwhile
the call is cancelled and drained, and the next one installs its site. -/
def preemptedBeforeFetch : List EngineAction :=
  spanAdmitted ++
    [.worker (.abortObserved 3), .worker (.cancellationSent .sOk),
      .readControl 4 (.object [("event", .string "synthesis_cancelled"),
        ("speak_id", .numberUnsigned 1), ("audio_bytes_written", .numberUnsigned 2)]),
      .worker .drained, .leave, .speak, .fetchAudioSite, .writeReturns true]

theorem write_owned_first_call : (1 : ℕ) = (RequestToken.mk 1 1).speakId := by
  have run : engineMachine.Run NoSpansOutstanding {}
      (engineMachine.emitted {} writtenBeforeNextCall) _ :=
    engineMachine.run_finalState _ _ (by decide) (by decide)
  have written : .write ⟨1, 1⟩ 1 [1, 2] ∈ engineMachine.emitted {} writtenBeforeNextCall :=
    List.mem_of_getElem? (i := 6) rfl
  exact write_owned ⟨{}, rfl, run⟩ written

/-- **Audio of one call is written to the site of the next.** -/
theorem audio_crosses_calls :
    ¬∀ {trace : List EngineObservation} {engine : Engine},
      engineMachine.Reaches Machine.anyStep trace engine →
        ∀ {token : RequestToken} {site : ℕ} {bytes : List UInt8},
          .write token site bytes ∈ trace → site = token.speakId := by
  intro never
  have run := engineMachine.run_finalState {} preemptedBeforeFetch
    (Machine.along_anyStep _ _) (by decide)
  have written : .write ⟨1, 1⟩ 2 [1, 2] ∈ engineMachine.emitted {} preemptedBeforeFetch :=
    List.mem_of_getElem? (i := 14) rfl
  cases never ⟨{}, rfl, run⟩ written

end ModernSapi
