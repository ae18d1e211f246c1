import ModernSapi.Engine.Callbacks
import ModernSapi.Library.Trace

/-!
# Whose site an event goes to

A record is admitted twice before SAPI hears of it: once when it is taken in, and once
more right before `OnSpeechEvent`, which then compares its speak id with that of the
active call before it fetches the site. Between these sections the control thread holds
no mutex, and an abort, a fault or the next call may come in.

`addEvents_isolated` follows each `AddEvents` back through the trace: to the fetch of the
site of its own call, to the admission under a request that was speaking in a session
that showed no fault, and to the record that was read.
-/

set_option autoImplicit false

namespace ModernSapi

open Interleaving SpeechWorker

/-! ## What a trace says -/

/-- The call whose site is installed after an observation. -/
def EngineObservation.activeAfter (active : Option ℕ) : EngineObservation → Option ℕ
  | .siteInstalled speakId => some speakId
  | .siteRemoved _ => none
  | _ => active

/-- The call whose site is installed after a trace. -/
def activeCall (trace : List EngineObservation) : Option ℕ :=
  trace.foldl EngineObservation.activeAfter none

/-- Whether the session shows a fault after an observation. -/
def EngineObservation.shownAfter (shown : Bool) : EngineObservation → Bool
  | .sessionCreated => false
  | .faultPublished => true
  | _ => shown

/-- Whether the latest session of a trace shows a fault. -/
def faultShown (trace : List EngineObservation) : Bool :=
  trace.foldl EngineObservation.shownAfter false

/-- No record is read. -/
def NoRecord (trace : List EngineObservation) : Prop := ∀ json, .recordRead json ∉ trace

/-- The record is the last one read. -/
def ReadLast (json : Json) (trace : List EngineObservation) : Prop :=
  ∃ earlier later, trace = earlier ++ .recordRead json :: later ∧ NoRecord later

/-- The event may go to SAPI, by a trace and the context of its admission: it is of the
current request, whose cancellation has not begun, in a session that shows no fault. A
boundary event needs the request to be speaking with no fault pending. -/
structure Admissible (event : ProviderControlEvent) (context : RequestContext)
    (trace : List EngineObservation) : Prop where
  matching : context.token.speakId = event.speakId
  speaking : event.isSpeechBoundary = true → context.downstreamState = .speaking
  noFaultPending : event.isSpeechBoundary = true → context.faultPending = false
  noFaultShown : faultShown trace = false
  notCancelled : event.isSpeechBoundary = true →
    ∀ token, .cancelling token ∈ trace → token.speakId ≠ event.speakId

/-- The record was admitted after it was read. -/
def AdmittedLast (json : Json) (trace : List EngineObservation) : Prop :=
  ∃ earlier context later,
    trace = earlier ++ .eventAdmitted (parseControlEvent json) context false :: later ∧
      NoRecord later ∧ ReadLast json earlier ∧
      Admissible (parseControlEvent json) context earlier

/-- The site of its own call, which was active, was fetched for the record after it was
admitted. -/
def FetchedLast (json : Json) (site : ℕ) (trace : List EngineObservation) : Prop :=
  ∃ earlier later,
    trace = earlier ++ .eventSiteFetched (parseControlEvent json) site :: later ∧
      NoRecord later ∧ AdmittedLast json earlier ∧
      activeCall earlier = some site ∧ site = (parseControlEvent json).speakId ∧
      (parseControlEvent json).isSpeechBoundary = true

section Later

variable {json : Json} {site : ℕ} {trace events : List EngineObservation}

theorem NoRecord.append (first : NoRecord trace) (second : NoRecord events) :
    NoRecord (trace ++ events) := by
  intro json member
  rcases List.mem_append.mp member with before | now
  · exact first json before
  · exact second json now

theorem ReadLast.later (read : ReadLast json trace) (quiet : NoRecord events) :
    ReadLast json (trace ++ events) := by
  obtain ⟨earlier, later, rfl, none⟩ := read
  exact ⟨earlier, later ++ events, by simp, none.append quiet⟩

theorem AdmittedLast.later (admitted : AdmittedLast json trace) (quiet : NoRecord events) :
    AdmittedLast json (trace ++ events) := by
  obtain ⟨earlier, context, later, rfl, none, rest⟩ := admitted
  exact ⟨earlier, context, later ++ events, by simp, none.append quiet, rest⟩

theorem FetchedLast.later (fetched : FetchedLast json site trace) (quiet : NoRecord events) :
    FetchedLast json site (trace ++ events) := by
  obtain ⟨earlier, later, rfl, none, rest⟩ := fetched
  exact ⟨earlier, later ++ events, by simp, none.append quiet, rest⟩

end Later

/-! ## What the steps of a session add -/

theorem List.foldl_of_neutral {α β : Type*} {f : β → α → β} {events : List α}
    (neutral : ∀ event ∈ events, ∀ before, f before event = before) (start : β) :
    events.foldl f start = start := by
  induction events with
  | nil => rfl
  | cons first rest ih =>
      rw [List.foldl_cons, neutral first List.mem_cons_self]
      exact ih fun event member => neutral event (List.mem_cons_of_mem _ member)

section Session

variable {engine kept : Engine} {speak after : SpeakState} {action : EngineAction}
  {inner : SpeakAction} {own : List EngineObservation} {seen : EngineObservation}

/-- What a cause is seen by itself. -/
theorem SessionCause.mem_own (cause : SessionCause engine speak action inner kept own)
    (member : seen ∈ own) :
    (∃ now json, action = .readControl now json ∧ seen = .recordRead json) ∨
      (∃ token site bytes, seen = .write token site bytes) ∨
      ∃ event site added, seen = .addEvents event site added ∧
        action = .dispatchEvent ∧ engine.eventSite = some site ∧
        (∃ thenFault, speak.worker.control = .onSpeechEvent event thenFault) ∧
        dispatchedEvent (engine.outputFormat.getD {}) event = some added := by
  cases cause with
  | @recordRead now json => exact .inl ⟨now, json, rfl, List.mem_singleton.mp member⟩
  | @wrote batch span site _ _ _ =>
      exact .inr (.inl ⟨_, _, _, List.mem_singleton.mp member⟩)
  | @dispatched event thenFault site here fetched =>
      unfold addedEvents at member
      split at member
      · next added adds =>
          exact .inr (.inr ⟨event, site, added, List.mem_singleton.mp member, rfl, fetched,
            ⟨thenFault, here⟩, adds⟩)
      · cases member
  | started | worker | audioRefused | eventIgnored => cases member

/-- A step of the session leaves the active call and creates no session. -/
theorem SessionCause.activeAfter_neutral {observed : List SpeakObservation}
    (cause : SessionCause engine speak action inner kept own)
    (member : seen ∈ own ++ (observed.map .speak ++ announced speak after)) (active : Option ℕ) :
    seen.activeAfter active = active := by
  rcases List.mem_append.mp member with member | member
  · rcases cause.mem_own member with ⟨_, _, -, rfl⟩ | ⟨_, _, _, rfl⟩ | ⟨_, _, _, rfl, -⟩
    all_goals rfl
  · rcases List.mem_append.mp member with member | member
    · obtain ⟨_, -, rfl⟩ := List.mem_map.mp member
      rfl
    · rcases mem_announced member with ⟨rfl, -⟩ | ⟨rfl, -⟩ | ⟨_, _, _, _, -, -, rfl⟩
      all_goals rfl

/-- What is announced shows a fault exactly when the worker comes to show one. -/
theorem foldl_announced (shown : Bool) :
    (announced speak after).foldl EngineObservation.shownAfter shown =
      (shown || (!speak.worker.worker.faultVisible && after.worker.worker.faultVisible)) := by
  rw [announced, List.foldl_append, List.foldl_append]
  -- Only the middle part can change the flag.
  have other {first : List EngineObservation} (start : Bool)
      (neutral : ∀ seen ∈ first, ∀ before, seen.shownAfter before = before) :
      first.foldl EngineObservation.shownAfter start = start :=
    List.foldl_of_neutral neutral start
  rw [other _ ?_, other shown ?_]
  · cases before : speak.worker.worker.faultVisible with
    | false => cases now : after.worker.worker.faultVisible <;> simp [EngineObservation.shownAfter]
    | true => simp
  · intro seen member _
    split at member
    · cases List.mem_singleton.mp member
      rfl
    · cases member
  · intro seen member _
    split at member
    · cases List.mem_singleton.mp member
      rfl
    · cases member

end Session

/-! ## The way of an event -/

section Control

variable {state next : WorkerState} {action : WorkerAction} {events : List Observation}
  {event : ProviderControlEvent} {thenFault : Bool}

theorem ControlThread.afterEvent_ne_forwarding (fault : Bool) :
    ControlThread.afterEvent fault ≠ .forwarding event thenFault := by
  cases fault <;> simp [ControlThread.afterEvent]

theorem ControlThread.afterFault_ne_forwarding (thenStop : Bool) :
    ControlThread.afterFault thenStop ≠ .forwarding event thenFault := by
  cases thenStop <;> simp [ControlThread.afterFault]

/-- The event that is forwarded is that of the record just taken in. -/
theorem WorkerStep.forwarding_from (taken : WorkerStep state action next events)
    (here : next.control = .forwarding event thenFault) :
    state.control = .forwarding event thenFault ∨ ∃ now, action = .controlRecord now event := by
  cases taken with
  | recordUnaddressed | controlReadFailed => cases here
  | recordHandled =>
      simp only [WorkerState.afterRecord] at here
      split at here
      · cases here
        exact .inr ⟨_, rfl⟩
      · exact absurd here (ControlThread.afterEvent_ne_forwarding _)
  | eventDecided =>
      simp only at here
      split at here
      · cases here
      · exact absurd here (ControlThread.afterEvent_ne_forwarding _)
  | eventReturned => exact absurd here (ControlThread.afterEvent_ne_forwarding _)
  | @faultRepeated thread | @faultPublished thread =>
      cases thread with
      | control => exact absurd here (ControlThread.afterFault_ne_forwarding _)
      | audio | caller => exact .inl here
  | _ => exact .inl here

/-- The event `OnSpeechEvent` is called for has been forwarded and admitted. -/
theorem WorkerStep.onSpeechEvent_from (taken : WorkerStep state action next events)
    (here : next.control = .onSpeechEvent event thenFault) :
    (state.control = .onSpeechEvent event thenFault ∧ action ≠ .onSpeechEventReturns) ∨
      (state.control = .forwarding event thenFault ∧ state.worker.admitsEvent event = true ∧
        action = .finalAdmission) := by
  cases taken with
  | recordUnaddressed | controlReadFailed => cases here
  | recordHandled =>
      simp only [WorkerState.afterRecord] at here
      split at here
      · cases here
      · exact absurd here (ControlThread.afterEvent_ne_onSpeechEvent _ _ _)
  | eventDecided there =>
      simp only at here
      split at here
      · next admits =>
          cases here
          exact .inr ⟨there, admits, rfl⟩
      · exact absurd here (ControlThread.afterEvent_ne_onSpeechEvent _ _ _)
  | eventReturned => exact absurd here (ControlThread.afterEvent_ne_onSpeechEvent _ _ _)
  | @faultRepeated thread | @faultPublished thread =>
      cases thread with
      | control => exact absurd here (ControlThread.afterFault_ne_onSpeechEvent _ _ _)
      | audio | caller => exact .inl ⟨here, nofun⟩
  | _ => exact .inl ⟨here, nofun⟩

theorem WorkerStep.reading_of_record {now : ℕ} {record : ProviderControlEvent}
    (taken : WorkerStep state (.controlRecord now record) next events) :
    state.control = .reading := by
  cases taken with
  | recordUnaddressed reading | recordHandled reading | recordSkipped reading => exact reading

end Control

section Speak

variable {speak next : SpeakState} {action : SpeakAction} {events : List SpeakObservation}
  {event : ProviderControlEvent} {thenFault : Bool}

theorem SpeakStep.reading_of_record {now : ℕ} {record : ProviderControlEvent}
    (taken : SpeakStep speak (.thread (.controlRecord now record)) next events) :
    speak.worker.control = .reading := by
  cases taken with
  | thread _ stepped => exact (step_spec stepped).reading_of_record

theorem SpeakStep.forwarding_from (taken : SpeakStep speak action next events)
    (here : next.worker.control = .forwarding event thenFault) :
    speak.worker.control = .forwarding event thenFault ∨
      ∃ now, action = .thread (.controlRecord now event) := by
  rcases taken.worker_cases with ⟨step, inner, stepped⟩ | ⟨same, -⟩
  · rcases (step_spec stepped).forwarding_from here with there | ⟨now, rfl⟩
    · exact .inl there
    · exact .inr ⟨now, SpeakAction.thread_of_workerAction inner rfl⟩
  · rw [same] at here
    exact .inl here

theorem SpeakStep.onSpeechEvent_from (taken : SpeakStep speak action next events)
    (here : next.worker.control = .onSpeechEvent event thenFault) :
    (speak.worker.control = .onSpeechEvent event thenFault ∧
        action ≠ .thread .onSpeechEventReturns) ∨
      (speak.worker.control = .forwarding event thenFault ∧
        speak.worker.worker.admitsEvent event = true ∧ action = .thread .finalAdmission) := by
  by_cases returns : action = .thread .onSpeechEventReturns
  · subst returns
    cases taken with
    | thread _ stepped =>
        rcases (step_spec stepped).onSpeechEvent_from here with ⟨-, other⟩ | ⟨-, -, other⟩
        · exact absurd rfl other
        · cases other
  · rcases taken.worker_cases with ⟨step, inner, stepped⟩ | ⟨same, -⟩
    · rcases (step_spec stepped).onSpeechEvent_from here with ⟨there, -⟩ | ⟨there, admits, rfl⟩
      · exact .inl ⟨there, returns⟩
      · exact .inr ⟨there, admits, SpeakAction.thread_of_workerAction inner rfl⟩
    · rw [same] at here
      exact .inl ⟨here, returns⟩

/-- The final admission is announced, and nothing else is. -/
theorem SpeakStep.announces_admission {called : ProviderControlEvent} {thenFault' : Bool}
    (taken : SpeakStep speak (.thread .finalAdmission) next events)
    (there : speak.worker.control = .forwarding event thenFault)
    (here : next.worker.control = .onSpeechEvent called thenFault') :
    events.map EngineObservation.speak ++ announced speak next =
      [.eventAdmitted event speak.context speak.worker.worker.faultVisible] := by
  cases taken with
  | thread _ stepped =>
      cases step_spec stepped with
      | eventDecided =>
          simp only at here
          have same : ¬(speak.context.downstreamState = .speaking ∧
              speak.context.downstreamState = .cancelling) := by
            rintro ⟨speaking, cancelling⟩
            rw [speaking] at cancelling
            cases cancelling
          have shown : ¬(speak.worker.worker.faultVisible = false ∧
              speak.worker.worker.faultVisible = true) := by
            rintro ⟨hidden, visible⟩
            rw [hidden] at visible
            cases visible
          simp only [announced, there, here, WorkerState.sentBy, List.map_nil, List.append_nil,
            List.nil_append]
          rw [if_neg same, if_neg shown]
          rfl

end Speak

/-- What an admitted event may say to SAPI. -/
theorem SpeechWorker.admitsEvent_iff {worker : SpeechWorker} {event : ProviderControlEvent}
    (admits : worker.admitsEvent event = true) :
    worker.faultVisible = false ∧ worker.context.token.speakId = event.speakId ∧
      (event.type ≠ .log → worker.context.AdmitsSpans) := by
  simp only [admitsEvent, ControlEventPolicy.evaluateFinalAdmission, Bool.and_eq_true,
    Bool.not_eq_true', bne_iff_ne, ne_eq, beq_iff_eq] at admits
  obtain ⟨⟨shown, -⟩, allowed⟩ := admits
  split at allowed
  · cases allowed
  · next matching =>
      refine ⟨shown, (not_not.mp matching).symm, fun notLog => ?_⟩
      rw [if_neg notLog] at allowed
      split at allowed
      · next open_ => exact ⟨open_.1, by simpa using open_.2⟩
      · cases allowed

/-! ## What the trace says of the state it leads to -/

/-- The state of an engine, as its trace tells it: the site, the fault flag, the
requests whose cancellation has begun, and the record on its way to SAPI. -/
structure EventHistory (trace : List EngineObservation) (engine : Engine) : Prop where
  site : engine.site = activeCall trace
  shown : ∀ speak ∈ engine.session, speak.worker.worker.faultVisible = faultShown trace
  cancelled : ∀ token, .cancelling token ∈ trace → token.speakId ≤ engine.speakIdCounter ∧
    (∀ speakId ∈ engine.call.unstarted?, token.speakId ≠ speakId) ∧
    ∀ speak ∈ engine.session, speak.context.AdmitsSpans →
      token.speakId ≠ speak.context.token.speakId
  forwarding : ∀ speak ∈ engine.session, ∀ event thenFault,
    speak.worker.control = .forwarding event thenFault →
      ∃ json, event = parseControlEvent json ∧ ReadLast json trace
  admitted : ∀ speak ∈ engine.session, ∀ event thenFault,
    speak.worker.control = .onSpeechEvent event thenFault → engine.eventSite = none →
      ∃ json, event = parseControlEvent json ∧ AdmittedLast json trace
  fetched : ∀ speak ∈ engine.session, ∀ event thenFault,
    speak.worker.control = .onSpeechEvent event thenFault → ∀ site ∈ engine.eventSite,
      ∃ json, event = parseControlEvent json ∧ FetchedLast json site trace

namespace EventHistory

variable {engine kept next : Engine} {speak after : SpeakState} {action : EngineAction}
  {inner : SpeakAction} {own trace : List EngineObservation} {observed : List SpeakObservation}

theorem initial : EventHistory [] {} := by
  refine ⟨rfl, ?_, ?_, ?_, ?_, ?_⟩
  all_goals
    intro _ member
    cases member

/-- Unless the control thread is about to read, no record is read. -/
theorem noRecord (cause : SessionCause engine speak action inner kept own)
    (taken : SpeakStep speak inner after observed) (busy : speak.worker.control ≠ .reading) :
    NoRecord (own ++ (observed.map .speak ++ announced speak after)) := by
  intro json member
  rcases List.mem_append.mp member with member | member
  · rcases cause.mem_own member with ⟨now, record, rfl, -⟩ | ⟨_, _, _, other⟩ | ⟨_, _, _, other, -⟩
    · cases cause with
      | recordRead => exact busy taken.reading_of_record
    all_goals cases other
  · rcases List.mem_append.mp member with member | member
    · obtain ⟨_, -, other⟩ := List.mem_map.mp member
      cases other
    · rcases mem_announced member with ⟨other, -⟩ | ⟨other, -⟩ | ⟨_, _, _, _, -, -, other⟩
      all_goals cases other

theorem session_site (history : EventHistory trace engine)
    (cause : SessionCause engine speak action inner kept own) :
    kept.site = activeCall (trace ++ (own ++ (observed.map .speak ++ announced speak after))) := by
  rw [cause.surrounds.site, history.site, activeCall, activeCall, List.foldl_append]
  exact (List.foldl_of_neutral (fun seen member active => cause.activeAfter_neutral member active)
    _).symm

theorem session_shown (history : EventHistory trace engine) (session : engine.session = some speak)
    (cause : SessionCause engine speak action inner kept own)
    (taken : SpeakStep speak inner after observed) :
    after.worker.worker.faultVisible =
      faultShown (trace ++ (own ++ (observed.map .speak ++ announced speak after))) := by
  have neutral : ∀ seen ∈ own ++ observed.map EngineObservation.speak, ∀ shown,
      seen.shownAfter shown = shown := by
    intro seen member shown
    rcases List.mem_append.mp member with member | member
    · rcases cause.mem_own member with ⟨_, _, -, rfl⟩ | ⟨_, _, _, rfl⟩ | ⟨_, _, _, rfl, -⟩
      all_goals rfl
    · obtain ⟨_, -, rfl⟩ := List.mem_map.mp member
      rfl
  have stays : speak.worker.worker.faultVisible = true →
      after.worker.worker.faultVisible = true := by
    intro visible
    rcases taken.worker_cases with ⟨step, -, stepped⟩ | ⟨same, -⟩
    · rcases (step_spec stepped).visible with same | shows
      · rw [same]
        exact visible
      · exact shows
    · rw [same]
      exact visible
  rw [← List.append_assoc own, faultShown, List.foldl_append, List.foldl_append,
    List.foldl_of_neutral neutral, foldl_announced, ← faultShown, ← history.shown speak session]
  cases before : speak.worker.worker.faultVisible with
  | false => simp
  | true => simp [stays before]

/-- The request that is speaking is none whose cancellation has begun. -/
theorem session_cancelled (history : EventHistory trace engine) (invariant : EngineInvariant engine)
    (session : engine.session = some speak)
    (cause : SessionCause engine speak action inner kept own)
    (taken : SpeakStep speak inner after observed) {token : RequestToken}
    (begun : .cancelling token ∈
      trace ++ (own ++ (observed.map .speak ++ announced speak after))) :
    token.speakId ≤ engine.speakIdCounter ∧
      (∀ speakId ∈ engine.call.unstarted?, token.speakId ≠ speakId) ∧
      (after.context.AdmitsSpans → token.speakId ≠ after.context.token.speakId) := by
  rcases List.mem_append.mp begun with past | now
  · obtain ⟨known, unstarted, differs⟩ := history.cancelled token past
    refine ⟨known, unstarted, fun admits => ?_⟩
    rcases cause.admitsSpans taken (invariant.worker speak session) admits with
      ⟨before, same⟩ | starts
    · rw [same]
      exact differs speak session before
    · exact unstarted _ starts
  · have now : EngineObservation.cancelling token ∈ announced speak after := by
      rcases List.mem_append.mp now with member | member
      · rcases cause.mem_own member with ⟨_, _, -, other⟩ | ⟨_, _, _, other⟩ | ⟨_, _, _, other, -⟩
        all_goals cases other
      · rcases List.mem_append.mp member with member | member
        · obtain ⟨_, -, other⟩ := List.mem_map.mp member
          cases other
        · exact member
    rcases mem_announced now with ⟨same, -, cancelling⟩ | ⟨other, -⟩ | ⟨_, _, _, _, -, -, other⟩
    · cases same
      refine ⟨invariant.known speak session, fun speakId waits => ?_, fun admits => ?_⟩
      · exact Nat.ne_of_lt ((invariant.fresh speakId waits).2.2 speak session)
      · have speaking := admits.1
        rw [cancelling] at speaking
        cases speaking
    · cases other
    · cases other

theorem session_forwarding (history : EventHistory trace engine)
    (session : engine.session = some speak)
    (cause : SessionCause engine speak action inner kept own)
    (taken : SpeakStep speak inner after observed) {event : ProviderControlEvent}
    {thenFault : Bool} (here : after.worker.control = .forwarding event thenFault) :
    ∃ json, event = parseControlEvent json ∧
      ReadLast json (trace ++ (own ++ (observed.map .speak ++ announced speak after))) := by
  rcases taken.forwarding_from here with there | ⟨now, rfl⟩
  · obtain ⟨json, same, read⟩ := history.forwarding speak session event thenFault there
    exact ⟨json, same, read.later (noRecord cause taken (by simp [there]))⟩
  · cases cause with
    | recordRead =>
        -- Nothing else is read in the step that reads the record.
        refine ⟨_, rfl, trace, observed.map .speak ++ announced speak after, rfl,
          fun json member => ?_⟩
        rcases List.mem_append.mp member with member | member
        · obtain ⟨_, -, other⟩ := List.mem_map.mp member
          cases other
        · rcases mem_announced member with ⟨other, -⟩ | ⟨other, -⟩ | ⟨_, _, _, _, -, -, other⟩
          all_goals cases other
    | worker isWorker => cases isWorker

/-- What the final admission has seen of the request. -/
theorem admissible (history : EventHistory trace engine) (session : engine.session = some speak)
    {event : ProviderControlEvent} (admits : speak.worker.worker.admitsEvent event = true) :
    Admissible event speak.context trace := by
  obtain ⟨hidden, matching, spans⟩ := SpeechWorker.admitsEvent_iff admits
  have spans (boundary : event.isSpeechBoundary = true) : speak.context.AdmitsSpans := by
    refine spans fun log => ?_
    rw [ProviderControlEvent.isSpeechBoundary, log] at boundary
    cases boundary
  refine ⟨matching, fun boundary => (spans boundary).1, fun boundary => (spans boundary).2, ?_,
    fun boundary token begun => ?_⟩
  · rw [← history.shown speak session]
    exact hidden
  · rw [← matching]
    exact (history.cancelled token begun).2.2 speak session (spans boundary)

theorem session_admitted (history : EventHistory trace engine)
    (session : engine.session = some speak)
    (cause : SessionCause engine speak action inner kept own)
    (taken : SpeakStep speak inner after observed) {event : ProviderControlEvent}
    {thenFault : Bool} (here : after.worker.control = .onSpeechEvent event thenFault)
    (unfetched : kept.eventSite = none) :
    ∃ json, event = parseControlEvent json ∧
      AdmittedLast json (trace ++ (own ++ (observed.map .speak ++ announced speak after))) := by
  rcases taken.onSpeechEvent_from here with ⟨there, stays⟩ | ⟨there, admits, rfl⟩
  · have before : engine.eventSite = none := by
      rcases cause.surrounds.dispatching with - | ⟨same, -⟩
      · cases cause with
        | eventIgnored | dispatched => exact absurd rfl stays
        | started | worker | recordRead | audioRefused | wrote => exact unfetched
      · exact same.symm.trans unfetched
    obtain ⟨json, same, admitted⟩ := history.admitted speak session event thenFault there before
    exact ⟨json, same, admitted.later (noRecord cause taken (by simp [there]))⟩
  · obtain ⟨json, rfl, read⟩ := history.forwarding speak session event thenFault there
    refine ⟨json, rfl, trace, speak.context, [], ?_, nofun, read, history.admissible session admits⟩
    cases cause with
    | worker =>
        rw [List.nil_append, taken.announces_admission there here,
          (SpeechWorker.admitsEvent_iff admits).1]

theorem session_fetched (history : EventHistory trace engine) (invariant : EngineInvariant engine)
    (session : engine.session = some speak)
    (cause : SessionCause engine speak action inner kept own)
    (taken : SpeakStep speak inner after observed) {event : ProviderControlEvent}
    {thenFault : Bool} (here : after.worker.control = .onSpeechEvent event thenFault) {site : ℕ}
    (fetched : kept.eventSite = some site) :
    ∃ json, event = parseControlEvent json ∧
      FetchedLast json site (trace ++ (own ++ (observed.map .speak ++ announced speak after))) := by
  rcases cause.surrounds.dispatching with none | ⟨same, stays⟩
  · rw [none] at fetched
    cases fetched
  · have before : engine.eventSite = some site := same.symm.trans fetched
    obtain ⟨_, member, called, fault, there⟩ := invariant.dispatching site before
    rw [session] at member
    cases member
    have now := taken.onSpeechEvent_stays (invariant.worker speak session) stays there
    rw [here] at now
    cases now
    obtain ⟨json, same, last⟩ := history.fetched speak session event thenFault there site before
    exact ⟨json, same, last.later (noRecord cause taken (by simp [there]))⟩

/-- A step between those of the session changes nothing that a record depends on but the
calls and the sites. -/
theorem later {events : List EngineObservation} (history : EventHistory trace engine)
    (quiet : NoRecord events) (noneBegun : ∀ token, .cancelling token ∉ events)
    (site : next.site = activeCall (trace ++ events))
    (shown : ∀ speak ∈ next.session, speak.worker.worker.faultVisible = faultShown (trace ++ events))
    (counter : engine.speakIdCounter ≤ next.speakIdCounter)
    (unstarted : ∀ speakId ∈ next.call.unstarted?,
      speakId ∈ engine.call.unstarted? ∨ engine.speakIdCounter < speakId)
    (same : ∀ speak ∈ next.session, speak.context.AdmitsSpans ∨ speak.worker.control ≠ .reading →
      ∃ before ∈ engine.session, before.worker = speak.worker)
    (eventSite : next.eventSite = engine.eventSite) : EventHistory (trace ++ events) next := by
  refine ⟨site, shown, fun token begun => ?_, fun speak session event thenFault here => ?_,
    fun speak session event thenFault here unfetched => ?_,
    fun speak session event thenFault here site fetched => ?_⟩
  · rcases List.mem_append.mp begun with past | now
    · obtain ⟨known, waits, differs⟩ := history.cancelled token past
      refine ⟨known.trans counter, fun speakId starts => ?_, fun speak session admits => ?_⟩
      · rcases unstarted speakId starts with before | fresh
        · exact waits speakId before
        · exact Nat.ne_of_lt (known.trans_lt fresh)
      · obtain ⟨before, there, worker⟩ := same speak session (.inl admits)
        rw [SpeakState.context, ← worker] at admits ⊢
        exact differs before there admits
    · exact absurd now (noneBegun token)
  · obtain ⟨before, there, worker⟩ := same speak session (.inr (by simp [here]))
    rw [← worker] at here
    obtain ⟨json, parsed, read⟩ := history.forwarding before there event thenFault here
    exact ⟨json, parsed, read.later quiet⟩
  · obtain ⟨before, there, worker⟩ := same speak session (.inr (by simp [here]))
    rw [← worker] at here
    rw [eventSite] at unfetched
    obtain ⟨json, parsed, admitted⟩ := history.admitted before there event thenFault here unfetched
    exact ⟨json, parsed, admitted.later quiet⟩
  · obtain ⟨before, there, worker⟩ := same speak session (.inr (by simp [here]))
    rw [← worker] at here
    rw [eventSite] at fetched
    obtain ⟨json, parsed, last⟩ := history.fetched before there event thenFault here site fetched
    exact ⟨json, parsed, last.later quiet⟩

/-- **Every step of an engine keeps the history.** -/
theorem step (history : EventHistory trace engine) (invariant : EngineInvariant engine)
    {events : List EngineObservation} (taken : EngineStep engine action next events) :
    EventHistory (trace ++ events) next := by
  have unchanged (speak : SpeakState) (session : speak ∈ engine.session)
      (_ : speak.context.AdmitsSpans ∨ speak.worker.control ≠ .reading) :
      ∃ before ∈ engine.session, before.worker = speak.worker :=
    ⟨speak, session, rfl⟩
  cases taken with
  | @session _ _ speak after kept own observed session cause taken =>
      refine ⟨?_, ?_, fun token begun => ?_, ?_, ?_, ?_⟩
      · change kept.site = _
        exact history.session_site cause
      · rintro _ ⟨⟩
        exact history.session_shown session cause taken
      · obtain ⟨known, unstarted, differs⟩ :=
          history.session_cancelled invariant session cause taken begun
        refine ⟨known.trans (Nat.le_of_eq cause.surrounds.counter.symm), fun speakId waits => ?_, ?_⟩
        · exact unstarted speakId
            (cause.surrounds.unstarted speakId (EngineCall.after_unstarted waits)).1
        · rintro _ ⟨⟩
          exact differs
      · rintro _ ⟨⟩ event thenFault here
        exact history.session_forwarding session cause taken here
      · rintro _ ⟨⟩ event thenFault here unfetched
        exact history.session_admitted session cause taken here unfetched
      · rintro _ ⟨⟩ event thenFault here site fetched
        exact history.session_fetched invariant session cause taken here fetched
  | spoken =>
      refine history.later (by simp [NoRecord]) (by simp) ?_ ?_ (Nat.le_succ _) ?_ unchanged rfl
      · simp [activeCall, EngineObservation.activeAfter]
      · intro speak session
        rw [history.shown speak session]
        simp [faultShown, EngineObservation.shownAfter]
      · rintro _ ⟨⟩
        exact .inr (Nat.lt_succ_self _)
  | called _ _ unstarted =>
      rw [List.append_nil]
      exact ⟨history.site, history.shown, fun token begun => ⟨(history.cancelled token begun).1,
        fun speakId waits => (history.cancelled token begun).2.1 speakId (unstarted speakId waits),
        (history.cancelled token begun).2.2⟩, history.forwarding, history.admitted, history.fetched⟩
  | joined =>
      refine history.later nofun nofun ?_ (fun _ member => nomatch member) (Nat.le_refl _)
        (fun _ => .inl) (fun _ member => nomatch member) rfl
      rw [List.append_nil]
      exact history.site
  | created positive noSession same unstarted =>
      refine history.later (by simp [NoRecord]) (by simp) ?_ ?_ (Nat.le_refl _)
        (fun speakId waits => .inl (unstarted speakId waits)) ?_ rfl
      · rw [activeCall, List.foldl_append]
        exact history.site
      · rintro _ ⟨⟩
        rw [faultShown, List.foldl_append]
        rfl
      · rintro _ ⟨⟩ (admits | busy)
        · cases admits.1
        · exact absurd rfl busy
  | @threw _ speak here session =>
      refine history.later nofun nofun ?_ ?_ (Nat.le_refl _) (fun _ waits => nomatch waits) ?_ rfl
      · rw [List.append_nil]
        exact history.site
      · rintro _ ⟨⟩
        rw [List.append_nil]
        exact history.shown speak session
      · rintro _ ⟨⟩ _
        exact ⟨speak, session, rfl⟩
  | left =>
      refine history.later (by simp [NoRecord]) (by simp) ?_ ?_ (Nat.le_refl _)
        (fun _ waits => nomatch waits) unchanged rfl
      · simp [activeCall, EngineObservation.activeAfter]
      · intro speak session
        rw [history.shown speak session]
        simp [faultShown, EngineObservation.shownAfter]
  | leftOther =>
      refine history.later nofun nofun ?_ ?_ (Nat.le_refl _) (fun _ waits => nomatch waits)
        unchanged rfl
      · rw [List.append_nil]
        exact history.site
      · rw [List.append_nil]
        exact history.shown
  | audioSiteFetched =>
      rw [List.append_nil]
      exact ⟨history.site, history.shown, history.cancelled, history.forwarding, history.admitted,
        history.fetched⟩
  | @eventSiteFetched speak event thenFault site session here unfetched installed active boundary =>
      have quiet : NoRecord [.eventSiteFetched event site] := by simp [NoRecord]
      refine ⟨?_, fun other member => ?_, fun token begun => ?_,
        fun other member record fault there => ?_, fun _ _ _ _ _ none => (nomatch none), ?_⟩
      · rw [activeCall, List.foldl_append]
        exact history.site
      · rw [faultShown, List.foldl_append]
        exact history.shown other member
      · rcases List.mem_append.mp begun with past | now
        · exact history.cancelled token past
        · cases List.mem_singleton.mp now
      · obtain ⟨json, same, read⟩ := history.forwarding other member record fault there
        exact ⟨json, same, read.later quiet⟩
      · rintro other member record fault there _ ⟨⟩
        rw [session] at member
        cases member
        rw [here] at there
        cases there
        obtain ⟨json, rfl, admitted⟩ := history.admitted speak session event thenFault here unfetched
        refine ⟨json, rfl, trace, [], rfl, nofun, admitted, ?_, ?_, boundary⟩
        · rw [← history.site]
          exact installed
        · rw [active, invariant.active site installed]

end EventHistory

/-! ## Isolation -/

/-- What has come before an event that SAPI is given: the record was read, admitted, and
the site of its own call was fetched for it. The record has the offsets. -/
def EventIsolated (before : List EngineObservation) : EngineObservation → Prop
  | .addEvents event site _ =>
      ∃ json, event = parseControlEvent json ∧ FetchedLast json site before ∧
        ∀ key ∈ requiredOffsetFields event.type, HasUnsignedField json .uint32 key
  | _ => True

theorem hasValidSpeechOffsets_of_dispatched {format : WaveFormat} {event : ProviderControlEvent}
    {added : SpEvent} (dispatched : dispatchedEvent format event = some added) :
    event.hasValidSpeechOffsets = true := by
  simp only [dispatchedEvent] at dispatched
  split at dispatched
  · cases dispatched
  · next valid => simpa using valid

/-- What a step gives to SAPI comes from a record that went the whole way. -/
theorem EventHistory.isolated {engine next : Engine} {action : EngineAction}
    {trace events : List EngineObservation} (history : EventHistory trace engine)
    (taken : EngineStep engine action next events) :
    Always (fun before event => EventIsolated (trace ++ before) event) events := by
  cases taken with
  | @session _ _ speak after kept own observed session cause taken =>
      refine .append ?_ (.of_forall fun before event member => ?_)
      · cases cause with
        | @dispatched event thenFault site here fetched =>
            unfold addedEvents
            split
            · next added dispatched =>
                refine .cons ?_ .nil
                rw [List.append_nil]
                obtain ⟨json, rfl, last⟩ :=
                  history.fetched speak session event thenFault here site fetched
                obtain ⟨_, _, -, -, -, -, -, boundary⟩ := id last
                exact ⟨json, rfl, last, parseControlEvent_offsets boundary
                  (hasValidSpeechOffsets_of_dispatched dispatched)⟩
            · exact .nil
        | started | worker | audioRefused | eventIgnored => exact .nil
        | recordRead | wrote => exact .cons trivial .nil
      · rcases List.mem_append.mp member with spoken | announced
        · obtain ⟨_, -, rfl⟩ := List.mem_map.mp spoken
          trivial
        · rcases mem_announced announced with ⟨rfl, -⟩ | ⟨rfl, -⟩ | ⟨_, _, _, _, -, -, rfl⟩
          all_goals trivial
  | called | joined | threw | leftOther | audioSiteFetched => exact .nil
  | spoken | created | left | eventSiteFetched => exact .cons trivial .nil

/-- **SAPI is given an event only for the record of a boundary of its own call**, admitted
while that call's request was speaking with no fault pending or shown, in every run of an
engine. -/
theorem addEvents_isolated {trace : List EngineObservation} {engine : Engine}
    (reached : engineMachine.Reaches Machine.anyStep trace engine) : Always EventIsolated trace := by
  refine (reached.induct (motive := fun trace engine => EventHistory trace engine ∧
    Always EventIsolated trace) ?_ ?_).2
  · rintro _ rfl
    exact ⟨.initial, .nil⟩
  · rintro _ _ _ _ _ before ⟨history, past⟩ - taken
    have spec := engineStep_spec taken
    exact ⟨history.step (engineInvariant before) spec, past.append (history.isolated spec)⟩

/-- The record of a word. -/
def wordRecord : Json :=
  .object [("event", .string "word_boundary"), ("speak_id", .numberUnsigned 1),
    ("audio_offset_ms", .numberUnsigned 20), ("text_offset", .numberUnsigned 3),
    ("text_length", .numberUnsigned 5)]

/-- A word of the first call goes all the way to SAPI. -/
def wordSpoken : List EngineAction :=
  [.createSession monoFormat, .speak, .sessionActive, .start 0, .worker (.dispatched .sOk),
    .readControl 1 wordRecord, .worker (.thread .finalAdmission), .fetchEventSite, .dispatchEvent]

theorem addEvents_isolated_word :
    .addEvents (parseControlEvent wordRecord) 1 (.wordBoundary 882 5 3) ∈
        engineMachine.emitted {} wordSpoken ∧
      Always EventIsolated (engineMachine.emitted {} wordSpoken) := by
  have run := engineMachine.run_finalState {} wordSpoken (Machine.along_anyStep _ _) (by decide)
  exact ⟨List.mem_of_getElem? (i := 7) rfl, addEvents_isolated ⟨{}, rfl, run⟩⟩

end ModernSapi
