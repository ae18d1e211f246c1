import ModernSapi.Protocol.ControlEvent
import ModernSapi.Worker.SpeakCall

/-!
# The engine

`CSapiEngine` serves one call of `Speak` at a time. It installs the site of the call,
makes sure of a session, and lets the worker of the session do the rest. The worker
calls back from its two threads: `OnAudioData` and `OnSpeechEvent` fetch the site under
a mutex of their own and use it after they have released it.

A site is named by the call that installed it. The steps here are those of the calling
thread, the steps of the session's own machine, and the two callbacks, each split where
the thread holds no mutex. The audio and the records come from anywhere. `Stop` is not
among the steps.
-/

set_option autoImplicit false

namespace ModernSapi

open Interleaving

/-! ## Audio formats and events -/

/-- `WAVEFORMATEX`. -/
structure WaveFormat where
  wFormatTag : ℕ := 0
  nChannels : ℕ := 0
  nSamplesPerSec : ℕ := 0
  nAvgBytesPerSec : ℕ := 0
  nBlockAlign : ℕ := 0
  wBitsPerSample : ℕ := 0
  cbSize : ℕ := 0
  deriving DecidableEq, Repr

/-- Mono PCM of 16 bits at 22.05 kHz. -/
def monoFormat : WaveFormat where
  wFormatTag := 1
  nChannels := 1
  nSamplesPerSec := 22050
  nAvgBytesPerSec := 44100
  nBlockAlign := 2
  wBitsPerSample := 16

def audioOffsetMillisecondsToBytes (audioOffsetMs : ℕ) (format : WaveFormat) : ℕ :=
  if format.nSamplesPerSec = 0 ∨ format.nBlockAlign = 0 then 0
  else audioOffsetMs * format.nSamplesPerSec / 1000 * format.nBlockAlign % 2 ^ 64

/-- What `AddEvents` is given. The parameter of a bookmark is its name, when it has
one. -/
inductive SpEvent where
  | wordBoundary (audioStreamOffset textLength textOffset : ℕ)
  | sentenceBoundary (audioStreamOffset textLength textOffset : ℕ)
  | bookmark (audioStreamOffset : ℕ) (name : Option String)
  deriving DecidableEq, Repr

/-- The event `DispatchBoundaryEvent` or `DispatchBookmarkEvent` adds, if any. -/
def dispatchedEvent (format : WaveFormat) (event : ProviderControlEvent) : Option SpEvent :=
  let offset := audioOffsetMillisecondsToBytes event.speechOffsets.audioOffsetMs format
  if !event.hasValidSpeechOffsets then none
  else
    match event.type with
    | .wordBoundary =>
        some (.wordBoundary offset event.speechOffsets.textLength event.speechOffsets.textOffset)
    | .sentenceBoundary =>
        some (.sentenceBoundary offset event.speechOffsets.textLength
          event.speechOffsets.textOffset)
    | .bookmark =>
        some (.bookmark offset (if event.bookmarkName.isEmpty then none
          else some event.bookmarkName))
    | _ => none

/-! ## The state -/

/-- Where the thread of `CSapiEngine::Speak` stands. -/
inductive EngineCall where
  | idle
  | installed (speakId : ℕ)
  | recovering (speakId : ℕ)
  | ready (speakId : ℕ)
  | serving (speakId : ℕ)
  | leaving (speakId : ℕ)
  deriving DecidableEq, Repr

/-- The engine, with what its two callbacks hold between their sections. -/
structure Engine where
  session : Option SpeakState := none
  outputFormat : Option WaveFormat := none
  site : Option ℕ := none
  activeSpeakId : ℕ := 0
  speakIdCounter : ℕ := 0
  call : EngineCall := .idle
  /-- The site `OnAudioData` has fetched. -/
  writeSite : Option ℕ := none
  /-- The site `OnSpeechEvent` has fetched. -/
  eventSite : Option ℕ := none
  deriving DecidableEq

/-- What is seen of an engine. -/
inductive EngineObservation where
  | siteInstalled (speakId : ℕ)
  | siteRemoved (speakId : ℕ)
  | sessionCreated
  | recordRead (json : Json)
  | speak (event : SpeakObservation)
  | cancelling (token : RequestToken)
  | faultPublished
  | eventAdmitted (event : ProviderControlEvent) (context : RequestContext) (faultVisible : Bool)
  | eventSiteFetched (event : ProviderControlEvent) (site : ℕ)
  | addEvents (event : ProviderControlEvent) (site : ℕ) (added : SpEvent)
  | write (token : RequestToken) (site : ℕ) (bytes : List UInt8)

/-- The steps of an engine. -/
inductive EngineAction where
  | speak
  | sessionActive
  | retireSession
  | joinThreads
  | createSession (format : WaveFormat)
  | createSessionFails
  | start (now : ℕ)
  | speakThrows
  | leave
  | worker (action : SpeakAction)
  | readControl (now : ℕ) (json : Json)
  | fetchAudioSite
  | writeReturns (accepted : Bool)
  | fetchEventSite
  | dispatchEvent

/-! ## The steps -/

/-- The steps of the session that are not those of a callback, a record or a start. -/
def SpeakAction.isWorkerStep : SpeakAction → Bool
  | .start .. | .thread (.controlRecord ..) | .thread (.onAudioDataReturns _)
  | .thread .onSpeechEventReturns => false
  | _ => true

/-- The thread has left its loop, or leaves it at the next turn. -/
def WorkerState.joinable (state : WorkerState) : Bool :=
  (state.audio == .reading || state.audio == .stopped) &&
    (state.control == .reading || state.control == .stopped)

/-- What an observer sees of the request and the fault flag in a step of the session. -/
def announced (before after : SpeakState) : List EngineObservation :=
  (if before.context.downstreamState = .speaking ∧ after.context.downstreamState = .cancelling
    then [.cancelling before.context.token] else []) ++
  (if before.worker.worker.faultVisible = false ∧ after.worker.worker.faultVisible = true
    then [.faultPublished] else []) ++
  match before.worker.control, after.worker.control with
  | .forwarding event _, .onSpeechEvent _ _ =>
      [.eventAdmitted event before.context before.worker.worker.faultVisible]
  | _, _ => []

/-- `Speak` is about to return once the call on the worker has. -/
def EngineCall.after (call : EngineCall) (worker : SpeakCall) : EngineCall :=
  match call with
  | .serving speakId => if worker = .idle then .leaving speakId else .serving speakId
  | call => call

namespace Engine

/-- A step of the session. -/
def stepSession (engine : Engine) (action : SpeakAction) :
    Option (Engine × List EngineObservation) :=
  match engine.session with
  | none => none
  | some speak =>
      match speak.step action with
      | none => none
      | some (next, events) =>
          some ({ engine with session := some next, call := engine.call.after next.call },
            events.map .speak ++ announced speak next)

/-- The site of a call is installed. -/
def speak (engine : Engine) : Option (Engine × List EngineObservation) :=
  if engine.call = .idle then
    let speakId := engine.speakIdCounter + 1
    some ({ engine with
      speakIdCounter := speakId, site := some speakId, activeSpeakId := speakId
      call := .installed speakId }, [.siteInstalled speakId])
  else none

def isSessionActive (engine : Engine) : Bool :=
  match engine.session with
  | none => false
  | some speak => !speak.worker.worker.isFaulted

def sessionActive (engine : Engine) : Option (Engine × List EngineObservation) :=
  match engine.call with
  | .installed speakId =>
      if engine.isSessionActive then some ({ engine with call := .ready speakId }, []) else none
  | _ => none

def retireSession (engine : Engine) : Option (Engine × List EngineObservation) :=
  match engine.call with
  | .installed speakId =>
      if engine.isSessionActive then none else some ({ engine with call := .recovering speakId }, [])
  | _ => none

/-- The threads of the retired worker are joined, and the worker is gone. -/
def joinThreads (engine : Engine) : Option (Engine × List EngineObservation) :=
  match engine.call, engine.session with
  | .recovering _, some speak =>
      if speak.worker.joinable then some ({ engine with session := none }, []) else none
  | _, _ => none

/-- A session is created, by `Speak` in place of the retired one or by
`SetObjectToken`. -/
def createSession (engine : Engine) (format : WaveFormat) :
    Option (Engine × List EngineObservation) :=
  if positive : 0 < format.nBlockAlign then
    if engine.session = none ∧ (engine.outputFormat = none ∨ engine.outputFormat = some format) then
      some ({ engine with
        session := some (.initial format.nBlockAlign positive)
        outputFormat := some format
        call :=
          match engine.call with
          | .recovering speakId => .ready speakId
          | call => call }, [.sessionCreated])
    else none
  else none

def createSessionFails (engine : Engine) : Option (Engine × List EngineObservation) :=
  match engine.call, engine.session with
  | .recovering speakId, none => some ({ engine with call := .leaving speakId }, [])
  | _, _ => none

def start (engine : Engine) (now : ℕ) : Option (Engine × List EngineObservation) :=
  match engine.call with
  | .ready speakId =>
      { engine with call := .serving speakId }.stepSession (.start now speakId)
  | _ => none

/-- Building or sending the command throws, and a catch handler of `Speak` returns. -/
def speakThrows (engine : Engine) : Option (Engine × List EngineObservation) :=
  match engine.call, engine.session with
  | .ready speakId, _ => some ({ engine with call := .leaving speakId }, [])
  | .serving speakId, some speak =>
      match speak.call with
      | .dispatching _ =>
          some ({ engine with session := some { speak with call := .idle }
                              call := .leaving speakId }, [])
      | _ => none
  | _, _ => none

/-- `siteCleanup` runs. -/
def leave (engine : Engine) : Option (Engine × List EngineObservation) :=
  match engine.call with
  | .leaving speakId =>
      if engine.activeSpeakId = speakId then
        some ({ engine with call := .idle, site := none, activeSpeakId := 0 },
          [.siteRemoved speakId])
      else some ({ engine with call := .idle }, [])
  | _ => none

/-- The control thread reads a record. -/
def readControl (engine : Engine) (now : ℕ) (json : Json) :
    Option (Engine × List EngineObservation) :=
  match engine.stepSession (.thread (.controlRecord now (parseControlEvent json))) with
  | some (next, events) => some (next, .recordRead json :: events)
  | none => none

/-- The first part of `OnAudioData`: the site is fetched, or there is none. -/
def fetchAudioSite (engine : Engine) : Option (Engine × List EngineObservation) :=
  match engine.session with
  | some speak =>
      match speak.worker.audio, engine.writeSite with
      | .onAudioData _ _, none =>
          match engine.site with
          | some site => some ({ engine with writeSite := some site }, [])
          | none => engine.stepSession (.thread (.onAudioDataReturns false))
      | _, _ => none
  | none => none

/-- The second part: `Write`, which takes all of the span or does not. -/
def writeReturns (engine : Engine) (accepted : Bool) : Option (Engine × List EngineObservation) :=
  match engine.session, engine.writeSite with
  | some speak, some site =>
      match speak.worker.audio with
      | .onAudioData batch span =>
          match { engine with writeSite := none }.stepSession
              (.thread (.onAudioDataReturns accepted)) with
          | some (next, events) => some (next, .write batch.token site span :: events)
          | none => none
      | _ => none
  | _, _ => none

/-- The first part of `OnSpeechEvent`: the event is of the active call, and a boundary
event has a site. -/
def fetchEventSite (engine : Engine) : Option (Engine × List EngineObservation) :=
  match engine.session with
  | some speak =>
      match speak.worker.control, engine.eventSite with
      | .onSpeechEvent event _, none =>
          match engine.site with
          | some site =>
              if event.speakId ≠ 0 ∧ event.speakId = engine.activeSpeakId ∧
                  event.isSpeechBoundary then
                some ({ engine with eventSite := some site }, [.eventSiteFetched event site])
              else engine.stepSession (.thread .onSpeechEventReturns)
          | none => engine.stepSession (.thread .onSpeechEventReturns)
      | _, _ => none
  | none => none

/-- The second part: the event is dispatched to the site. -/
def dispatchEvent (engine : Engine) : Option (Engine × List EngineObservation) :=
  match engine.session, engine.eventSite with
  | some speak, some site =>
      match speak.worker.control with
      | .onSpeechEvent event _ =>
          match { engine with eventSite := none }.stepSession (.thread .onSpeechEventReturns) with
          | some (next, events) =>
              match dispatchedEvent (engine.outputFormat.getD {}) event with
              | some added => some (next, .addEvents event site added :: events)
              | none => some (next, events)
          | none => none
      | _ => none
  | _, _ => none

/-- One step of an engine. -/
def step (engine : Engine) : EngineAction → Option (Engine × List EngineObservation)
  | .speak => engine.speak
  | .sessionActive => engine.sessionActive
  | .retireSession => engine.retireSession
  | .joinThreads => engine.joinThreads
  | .createSession format => engine.createSession format
  | .createSessionFails => engine.createSessionFails
  | .start now => engine.start now
  | .speakThrows => engine.speakThrows
  | .leave => engine.leave
  | .worker action => if action.isWorkerStep then engine.stepSession action else none
  | .readControl now json => engine.readControl now json
  | .fetchAudioSite => engine.fetchAudioSite
  | .writeReturns accepted => engine.writeReturns accepted
  | .fetchEventSite => engine.fetchEventSite
  | .dispatchEvent => engine.dispatchEvent

end Engine

/-- The machine of one engine, which starts with no session. -/
def engineMachine : Machine Engine EngineAction EngineObservation where
  init engine := engine = {}
  step := Engine.step

/-! ## The cases of a step -/

/-- The call that is being served, if any. -/
def EngineCall.speakId? : EngineCall → Option ℕ
  | .idle => none
  | .installed speakId | .recovering speakId | .ready speakId | .serving speakId
  | .leaving speakId => some speakId

@[simp] theorem EngineCall.after_speakId? (call : EngineCall) (worker : SpeakCall) :
    (call.after worker).speakId? = call.speakId? := by
  cases call with
  | serving speakId =>
      unfold EngineCall.after
      simp only
      split <;> rfl
  | _ => rfl

/-- The call whose request is still to be started, if any. -/
def EngineCall.unstarted? : EngineCall → Option ℕ
  | .installed speakId | .recovering speakId | .ready speakId => some speakId
  | .idle | .serving _ | .leaving _ => none

theorem EngineCall.after_unstarted {call : EngineCall} {worker : SpeakCall} {speakId : ℕ}
    (unstarted : speakId ∈ (call.after worker).unstarted?) : speakId ∈ call.unstarted? := by
  cases call with
  | serving =>
      unfold EngineCall.after at unstarted
      simp only at unstarted
      split at unstarted <;> cases unstarted
  | _ => exact unstarted

theorem EngineCall.speakId_of_unstarted {call : EngineCall} {speakId : ℕ}
    (unstarted : speakId ∈ call.unstarted?) : speakId ∈ call.speakId? := by
  cases call <;> first | exact unstarted | cases unstarted

/-- The event of a dispatch, when there is one. -/
def addedEvents (event : ProviderControlEvent) (site : ℕ) : Option SpEvent →
    List EngineObservation
  | some added => [.addEvents event site added]
  | none => []

/-- What makes the session take a step: the action of the engine, the step, the engine
at that moment but for the session, and what is seen of the engine itself. -/
inductive SessionCause (engine : Engine) (speak : SpeakState) :
    EngineAction → SpeakAction → Engine → List EngineObservation → Prop where
  | started {now speakId : ℕ} (here : engine.call = .ready speakId) :
      SessionCause engine speak (.start now) (.start now speakId)
        { engine with call := .serving speakId } []
  | worker {inner : SpeakAction} (isWorker : inner.isWorkerStep = true) :
      SessionCause engine speak (.worker inner) inner engine []
  | recordRead {now : ℕ} {json : Json} :
      SessionCause engine speak (.readControl now json)
        (.thread (.controlRecord now (parseControlEvent json))) engine [.recordRead json]
  | audioRefused (unfetched : engine.writeSite = none) :
      SessionCause engine speak .fetchAudioSite (.thread (.onAudioDataReturns false)) engine []
  | wrote {batch : Batch} {span : List UInt8} {site : ℕ} {accepted : Bool}
      (here : speak.worker.audio = .onAudioData batch span)
      (fetched : engine.writeSite = some site) :
      SessionCause engine speak (.writeReturns accepted) (.thread (.onAudioDataReturns accepted))
        { engine with writeSite := none } [.write batch.token site span]
  | eventIgnored (unfetched : engine.eventSite = none) :
      SessionCause engine speak .fetchEventSite (.thread .onSpeechEventReturns) engine []
  | dispatched {event : ProviderControlEvent} {thenFault : Bool} {site : ℕ}
      (here : speak.worker.control = .onSpeechEvent event thenFault)
      (fetched : engine.eventSite = some site) :
      SessionCause engine speak .dispatchEvent (.thread .onSpeechEventReturns)
        { engine with eventSite := none }
        (addedEvents event site (dispatchedEvent (engine.outputFormat.getD {}) event))

/-- The cases of a step of an engine. -/
inductive EngineStep (engine : Engine) : EngineAction → Engine → List EngineObservation → Prop where
  | session {action : EngineAction} {inner : SpeakAction} {speak next : SpeakState} {kept : Engine}
      {own : List EngineObservation} {events : List SpeakObservation}
      (session : engine.session = some speak) (cause : SessionCause engine speak action inner kept own)
      (taken : SpeakStep speak inner next events) :
      EngineStep engine action
        { kept with session := some next, call := kept.call.after next.call }
        (own ++ (events.map .speak ++ announced speak next))
  | spoken (idle : engine.call = .idle) :
      EngineStep engine .speak
        { engine with
          speakIdCounter := engine.speakIdCounter + 1, site := some (engine.speakIdCounter + 1)
          activeSpeakId := engine.speakIdCounter + 1
          call := .installed (engine.speakIdCounter + 1) }
        [.siteInstalled (engine.speakIdCounter + 1)]
  | called {action : EngineAction} {call : EngineCall}
      (notServing : ∀ speakId, engine.call ≠ .serving speakId)
      (same : call.speakId? = engine.call.speakId?)
      (unstarted : ∀ speakId ∈ call.unstarted?, speakId ∈ engine.call.unstarted?)
      (waitsNot : ∀ speakId, call ≠ .serving speakId) :
      EngineStep engine action { engine with call } []
  | joined {speak : SpeakState} (session : engine.session = some speak)
      (ended : speak.worker.joinable = true)
      (notServing : ∀ speakId, engine.call ≠ .serving speakId) :
      EngineStep engine .joinThreads { engine with session := none } []
  | created {format : WaveFormat} {call : EngineCall} (positive : 0 < format.nBlockAlign)
      (noSession : engine.session = none) (same : call.speakId? = engine.call.speakId?)
      (unstarted : ∀ speakId ∈ call.unstarted?, speakId ∈ engine.call.unstarted?)
      (waits : ∀ speakId, call = .serving speakId → engine.call = .serving speakId) :
      EngineStep engine (.createSession format)
        { engine with
          session := some (.initial format.nBlockAlign positive), outputFormat := some format
          call } [.sessionCreated]
  | threw {speakId : ℕ} {speak : SpeakState} (here : engine.call = .serving speakId)
      (session : engine.session = some speak) :
      EngineStep engine .speakThrows
        { engine with session := some { speak with call := .idle }, call := .leaving speakId } []
  | left {speakId : ℕ} (here : engine.call = .leaving speakId)
      (active : engine.activeSpeakId = speakId) :
      EngineStep engine .leave { engine with call := .idle, site := none, activeSpeakId := 0 }
        [.siteRemoved speakId]
  | leftOther {speakId : ℕ} (here : engine.call = .leaving speakId)
      (other : engine.activeSpeakId ≠ speakId) :
      EngineStep engine .leave { engine with call := .idle } []
  | audioSiteFetched {speak : SpeakState} {batch : Batch} {span : List UInt8} {site : ℕ}
      (session : engine.session = some speak) (here : speak.worker.audio = .onAudioData batch span)
      (unfetched : engine.writeSite = none) (installed : engine.site = some site) :
      EngineStep engine .fetchAudioSite { engine with writeSite := some site } []
  | eventSiteFetched {speak : SpeakState} {event : ProviderControlEvent} {thenFault : Bool}
      {site : ℕ} (session : engine.session = some speak)
      (here : speak.worker.control = .onSpeechEvent event thenFault)
      (unfetched : engine.eventSite = none) (installed : engine.site = some site)
      (active : event.speakId = engine.activeSpeakId) (boundary : event.isSpeechBoundary = true) :
      EngineStep engine .fetchEventSite { engine with eventSite := some site }
        [.eventSiteFetched event site]

section Seen

variable {before after : SpeakState} {seen : EngineObservation}

/-- What an observer sees of the request and the fault flag. -/
theorem mem_announced (member : seen ∈ announced before after) :
    (seen = .cancelling before.context.token ∧ before.context.downstreamState = .speaking ∧
        after.context.downstreamState = .cancelling) ∨
      (seen = .faultPublished ∧ before.worker.worker.faultVisible = false ∧
        after.worker.worker.faultVisible = true) ∨
      ∃ event thenFault called thenFault', before.worker.control = .forwarding event thenFault ∧
        after.worker.control = .onSpeechEvent called thenFault' ∧
        seen = .eventAdmitted event before.context before.worker.worker.faultVisible := by
  rcases List.mem_append.mp member with member | member
  · rcases List.mem_append.mp member with member | member
    · split at member
      · next changed => exact .inl ⟨List.mem_singleton.mp member, changed⟩
      · cases member
    · split at member
      · next changed => exact .inr (.inl ⟨List.mem_singleton.mp member, changed⟩)
      · cases member
  · split at member
    · next event thenFault called thenFault' here there =>
        exact .inr (.inr ⟨event, thenFault, called, thenFault', here, there,
          List.mem_singleton.mp member⟩)
    · cases member

end Seen

section Spec

variable {engine next : Engine} {action : EngineAction} {events : List EngineObservation}

theorem stepSession_spec {inner : SpeakAction}
    (taken : engine.stepSession inner = some (next, events)) :
    ∃ speak after observed, engine.session = some speak ∧ SpeakStep speak inner after observed ∧
      next = { engine with session := some after, call := engine.call.after after.call } ∧
      events = observed.map .speak ++ announced speak after := by
  unfold Engine.stepSession at taken
  split at taken
  · cases taken
  · next speak session =>
      split at taken
      · cases taken
      · next after observed stepped =>
          cases taken
          exact ⟨speak, after, observed, session, speakStep_spec stepped, rfl, rfl⟩

theorem fetchAudioSite_spec (taken : engine.fetchAudioSite = some (next, events)) :
    EngineStep engine .fetchAudioSite next events := by
  unfold Engine.fetchAudioSite at taken
  split at taken
  · next speak session =>
      split at taken
      · next batch span here unfetched =>
          split at taken
          · next site installed =>
              cases taken
              exact .audioSiteFetched session here unfetched installed
          · obtain ⟨_, after, observed, found, stepped, rfl, rfl⟩ := stepSession_spec taken
            exact .session found (.audioRefused unfetched) stepped
      · cases taken
  · cases taken

theorem writeReturns_spec {accepted : Bool}
    (taken : engine.writeReturns accepted = some (next, events)) :
    EngineStep engine (.writeReturns accepted) next events := by
  unfold Engine.writeReturns at taken
  split at taken
  · next speak site session fetched =>
      split at taken
      · next batch span here =>
          split at taken
          · next after observed stepped =>
              obtain ⟨_, reached, seen, found, moved, rfl, rfl⟩ := stepSession_spec stepped
              cases taken
              have same := session.symm.trans found
              cases same
              exact .session session (.wrote here fetched) moved
          · cases taken
      · cases taken
  · cases taken

theorem fetchEventSite_spec (taken : engine.fetchEventSite = some (next, events)) :
    EngineStep engine .fetchEventSite next events := by
  have ignored (unfetched : engine.eventSite = none)
      (taken : engine.stepSession (.thread .onSpeechEventReturns) = some (next, events)) :
      EngineStep engine .fetchEventSite next events := by
    obtain ⟨_, after, observed, found, stepped, rfl, rfl⟩ := stepSession_spec taken
    exact .session found (.eventIgnored unfetched) stepped
  unfold Engine.fetchEventSite at taken
  split at taken
  · next speak session =>
      split at taken
      · next event thenFault here unfetched =>
          split at taken
          · next site installed =>
              split at taken
              · next admitted =>
                  cases taken
                  exact .eventSiteFetched session here unfetched installed admitted.2.1 admitted.2.2
              · exact ignored unfetched taken
          · exact ignored unfetched taken
      · cases taken
  · cases taken

theorem dispatchEvent_spec (taken : engine.dispatchEvent = some (next, events)) :
    EngineStep engine .dispatchEvent next events := by
  unfold Engine.dispatchEvent at taken
  split at taken
  · next speak site session fetched =>
      split at taken
      · next event thenFault here =>
          split at taken
          · next after observed stepped =>
              obtain ⟨_, reached, seen, found, moved, rfl, rfl⟩ := stepSession_spec stepped
              have same := session.symm.trans found
              cases same
              have dispatched := EngineStep.session session (.dispatched here fetched) moved
              split at taken
              · next added adds =>
                  cases taken
                  rw [adds] at dispatched
                  exact dispatched
              · next adds =>
                  cases taken
                  rw [adds] at dispatched
                  exact dispatched
          · cases taken
      · cases taken
  · cases taken

theorem speakThrows_spec (taken : engine.speakThrows = some (next, events)) :
    EngineStep engine .speakThrows next events := by
  unfold Engine.speakThrows at taken
  split at taken
  · next speakId _ here =>
      cases taken
      exact .called (by simp [here]) (by rw [here]; rfl) nofun nofun
  · next speakId speak here session =>
      split at taken
      · cases taken
        exact .threw here session
      · cases taken
  · cases taken

/-- **Every step is one of the listed cases.** -/
theorem engineStep_spec (taken : engine.step action = some (next, events)) :
    EngineStep engine action next events := by
  cases action with
  | speak =>
      simp only [Engine.step, Engine.speak] at taken
      split at taken
      · next idle =>
          cases taken
          exact .spoken idle
      · cases taken
  | sessionActive =>
      simp only [Engine.step, Engine.sessionActive] at taken
      split at taken
      · next speakId here =>
          split at taken
          · cases taken
            exact .called (by simp [here]) (by rw [here]; rfl) (by rw [here]; exact fun _ id => id)
              nofun
          · cases taken
      · cases taken
  | retireSession =>
      simp only [Engine.step, Engine.retireSession] at taken
      split at taken
      · next speakId here =>
          split at taken
          · cases taken
          · cases taken
            exact .called (by simp [here]) (by rw [here]; rfl) (by rw [here]; exact fun _ id => id)
              nofun
      · cases taken
  | joinThreads =>
      simp only [Engine.step, Engine.joinThreads] at taken
      split at taken
      · next speak here session =>
          split at taken
          · next ended =>
              cases taken
              exact .joined session ended (by simp [here])
          · cases taken
      · cases taken
  | createSession format =>
      simp only [Engine.step, Engine.createSession] at taken
      split at taken
      · next positive =>
          split at taken
          · next free =>
              cases taken
              refine .created positive free.1 ?_ ?_ ?_
              · cases engine.call <;> rfl
              · cases engine.call <;> exact fun _ unstarted => unstarted
              · cases engine.call <;> exact fun _ waits => by cases waits <;> rfl
          · cases taken
      · cases taken
  | createSessionFails =>
      simp only [Engine.step, Engine.createSessionFails] at taken
      split at taken
      · next speakId here _ =>
          cases taken
          exact .called (by simp [here]) (by rw [here]; rfl) nofun nofun
      · cases taken
  | start now =>
      simp only [Engine.step, Engine.start] at taken
      split at taken
      · next speakId here =>
          obtain ⟨speak, after, observed, session, stepped, rfl, rfl⟩ := stepSession_spec taken
          have found : engine.session = some speak := session
          exact EngineStep.session found (.started here) stepped
      · cases taken
  | speakThrows => exact speakThrows_spec taken
  | leave =>
      simp only [Engine.step, Engine.leave] at taken
      split at taken
      · next speakId here =>
          split at taken
          · next active =>
              cases taken
              exact .left here active
          · next other =>
              cases taken
              exact .leftOther here other
      · cases taken
  | worker inner =>
      simp only [Engine.step] at taken
      split at taken
      · next isWorker =>
          obtain ⟨speak, after, observed, session, stepped, rfl, rfl⟩ := stepSession_spec taken
          exact .session session (.worker isWorker) stepped
      · cases taken
  | readControl now json =>
      simp only [Engine.step, Engine.readControl] at taken
      split at taken
      · next stepped =>
          obtain ⟨speak, after, observed, session, moved, rfl, rfl⟩ := stepSession_spec stepped
          cases taken
          exact .session session .recordRead moved
      · cases taken
  | fetchAudioSite => exact fetchAudioSite_spec taken
  | writeReturns accepted => exact writeReturns_spec taken
  | fetchEventSite => exact fetchEventSite_spec taken
  | dispatchEvent => exact dispatchEvent_spec taken

end Spec

end ModernSapi
