import ModernSapi.Engine.Callbacks
import ModernSapi.Library.Interspersed

/-!
# Stale records

A record that names an earlier request than the current one says nothing to the worker
and nothing to SAPI. `stale_records_inert` compares two runs that take the same steps,
except that the second also takes in stale records, any number of them and anywhere: the
two runs show the same observations, apart from the records read, and lead to the same
engine, apart from where the control thread stands.

While the control thread is busy with a stale record, the steps of the other threads do
what they do without it (`step_withControl`), and the request of the record stays in the
past, for the speak ids of an engine only grow.
-/

set_option autoImplicit false

namespace ModernSapi

open Interleaving SpeechWorker ControlEventPolicy

/-! ## The position of the control thread -/

/-- The step is one of the control thread. -/
def WorkerAction.onControl : WorkerAction → Bool
  | .controlRecord .. | .controlReadFails | .finalAdmission | .onSpeechEventReturns
  | .enterFaultedState .control | .publishFault .control => true
  | _ => false

def SpeakAction.onControl : SpeakAction → Bool
  | .thread action => action.onControl
  | _ => false

/-- The worker with its control thread elsewhere. -/
def WorkerState.withControl (state : WorkerState) (control : ControlThread) : WorkerState :=
  { state with control }

def SpeakState.withControl (state : SpeakState) (control : ControlThread) : SpeakState :=
  { state with worker := state.worker.withControl control }

def Engine.withControl (engine : Engine) (control : ControlThread) : Engine :=
  { engine with session := engine.session.map (·.withControl control) }

section Worker

variable (state : WorkerState) (control : ControlThread) {action : WorkerAction}

theorem enterFaultedState_withControl {thread : Thread} (other : thread ≠ .control) :
    (state.withControl control).enterFaultedState thread =
      (state.enterFaultedState thread).map fun result => (result.1.withControl control, result.2) := by
  have may : (state.withControl control).mayEnterFaulted thread = state.mayEnterFaulted thread := by
    cases thread with
    | control => exact absurd rfl other
    | audio | caller => rfl
  unfold WorkerState.enterFaultedState
  rw [may]
  by_cases enters : state.mayEnterFaulted thread = true
  · rw [if_pos enters, if_pos enters]
    by_cases first : state.worker.enterFaultedState.2 = true
    · simp [WorkerState.withControl, first]
    · cases thread with
      | control => exact absurd rfl other
      | audio | caller => simp [WorkerState.withControl, first, WorkerState.leaveFaulted]
  · rw [if_neg enters, if_neg enters]
    rfl

theorem publishFault_withControl {thread : Thread} (other : thread ≠ .control) :
    (state.withControl control).publishFault thread =
      (state.publishFault thread).map fun result => (result.1.withControl control, result.2) := by
  unfold WorkerState.publishFault
  rw [apply_ite (Option.map _)]
  cases thread with
  | control => exact absurd rfl other
  | audio | caller => rfl

/-- **The steps of the other threads do not depend on where the control thread stands.** -/
theorem WorkerState.step_withControl (other : action.onControl = false) :
    (state.withControl control).step action =
      (state.step action).map fun result => (result.1.withControl control, result.2) := by
  cases action with
  | audioChunk now chunk =>
      rw [WorkerState.step, WorkerState.step, WorkerState.audioChunk, WorkerState.audioChunk,
        apply_ite (Option.map _)]
      rfl
  | frameAssemblyFails now chunk =>
      rw [WorkerState.step, WorkerState.step, WorkerState.frameAssemblyFails,
        WorkerState.frameAssemblyFails, apply_ite (Option.map _)]
      rfl
  | audioReadFails =>
      rw [WorkerState.step, WorkerState.step, apply_ite (Option.map _)]
      rfl
  | spanAdmission =>
      obtain ⟨worker, audio, place, publisher⟩ := state
      cases audio with
      | admitting batch =>
          obtain ⟨token, spans, delivered⟩ := batch
          cases spans with
          | nil => rfl
          | cons span spans =>
              change (if _ then _ else _) = Option.map _ (if _ then _ else _)
              rw [apply_ite (Option.map _)]
              rfl
      | _ => rfl
  | onAudioDataReturns accepted =>
      simp only [WorkerState.step, WorkerState.onAudioDataReturns, WorkerState.withControl]
      cases state.audio with
      | onAudioData batch span => cases accepted <;> rfl
      | _ => rfl
  | batchOutcome now =>
      simp only [WorkerState.step, WorkerState.batchOutcome, WorkerState.withControl]
      cases state.audio <;> rfl
  | cancellationSent sent =>
      simp only [WorkerState.step, WorkerState.cancellationSent, WorkerState.withControl]
      cases state.audio <;> rfl
  | enterFaultedState thread =>
      cases thread with
      | control => cases other
      | audio | caller => exact enterFaultedState_withControl state control (by simp)
  | publishFault thread =>
      cases thread with
      | control => cases other
      | audio | caller => exact publishFault_withControl state control (by simp)
  | start | stop | beginCancellation => rfl
  | controlRecord | controlReadFails | finalAdmission | onSpeechEventReturns => cases other

variable {state} {next : WorkerState} {events : List Observation}

/-- The other threads leave the control thread where it stands. -/
theorem WorkerState.control_of_other (other : action.onControl = false)
    (taken : state.step action = some (next, events)) : next.control = state.control := by
  have same := state.step_withControl state.control other
  have unmoved : state.withControl state.control = state := rfl
  rw [unmoved, taken, Option.map_some, Option.some.injEq, Prod.mk.injEq] at same
  rw [same.1]
  rfl

end Worker

section Speak

variable (state : SpeakState) (control : ControlThread) {action : SpeakAction}

theorem SpeakState.thread_withControl {step : WorkerAction} (other : step.onControl = false) :
    (state.withControl control).thread step =
      (state.thread step).map fun result => (result.1.withControl control, result.2) := by
  have sent : (state.withControl control).worker.sentBy step = state.worker.sentBy step := by
    cases step <;> rfl
  have stepped : (state.withControl control).worker.step step = _ :=
    state.worker.step_withControl control other
  unfold SpeakState.thread
  rw [sent, stepped, apply_ite (Option.map _)]
  cases state.worker.step step <;> rfl

theorem SpeakState.enterFaultedState_withControl :
    (state.withControl control).enterFaultedState =
      state.enterFaultedState.map fun result => (result.1.withControl control, result.2) := by
  obtain ⟨worker, call⟩ := state
  cases call with
  | enterFaultedState result =>
      have entered : (worker.withControl control).step (.enterFaultedState .caller) = _ :=
        worker.step_withControl control rfl
      simp only [SpeakState.enterFaultedState, SpeakState.withControl, entered]
      cases worker.step (.enterFaultedState .caller) with
      | none => rfl
      | some entered =>
          simp only [Option.map_some]
          rw [apply_ite (Option.map _)]
          rfl
  | _ => rfl

theorem SpeakState.publishFault_withControl :
    (state.withControl control).publishFault =
      state.publishFault.map fun result => (result.1.withControl control, result.2) := by
  obtain ⟨worker, call⟩ := state
  cases call with
  | publishing result =>
      have published : (worker.withControl control).step (.publishFault .caller) = _ :=
        worker.step_withControl control rfl
      simp only [SpeakState.publishFault, SpeakState.withControl, published]
      cases worker.step (.publishFault .caller) <;> rfl
  | _ => rfl

theorem SpeakState.step_withControl (other : action.onControl = false) :
    (state.withControl control).step action =
      (state.step action).map fun result => (result.1.withControl control, result.2) := by
  cases action with
  | thread step => exact state.thread_withControl control other
  | start now speakId =>
      rw [SpeakState.step, SpeakState.step, SpeakState.start, SpeakState.start,
        apply_ite (Option.map _)]
      congr 1
      rw [apply_ite (Option.map _)]
      rfl
  | dispatched sent =>
      obtain ⟨worker, call⟩ := state
      cases call with
      | dispatching speakId =>
          change (if _ then _ else _) = Option.map _ (if _ then _ else _)
          rw [apply_ite (Option.map _)]
          rfl
      | _ => rfl
  | waitEnds | waitTimesOut =>
      change (if _ then _ else _) = Option.map _ (if _ then _ else _)
      rw [apply_ite (Option.map _)]
      rfl
  | abortObserved now =>
      rw [SpeakState.step, SpeakState.step, SpeakState.abortObserved, SpeakState.abortObserved,
        apply_ite (Option.map _)]
      congr 1
      rw [apply_ite (Option.map _)]
      rfl
  | cancellationSent sent =>
      obtain ⟨worker, call⟩ := state
      cases call with
      | sendCancellation speakId deadline =>
          change (if _ then _ else _) = Option.map _ (if _ then _ else _)
          rw [apply_ite (Option.map _)]
          rfl
      | _ => rfl
  | drained =>
      obtain ⟨worker, call⟩ := state
      cases call with
      | draining deadline =>
          change (if _ then _ else _) = Option.map _ (if _ then _ else _)
          rw [apply_ite (Option.map _)]
          rfl
      | _ => rfl
  | drainTimesOut now =>
      obtain ⟨worker, call⟩ := state
      cases call with
      | draining deadline =>
          change (if _ then _ else _) = Option.map _ (if _ then _ else _)
          rw [apply_ite (Option.map _)]
          rfl
      | _ => rfl
  | enterFaultedState => exact state.enterFaultedState_withControl control
  | publishFault => exact state.publishFault_withControl control

variable {state} {next : SpeakState} {events : List SpeakObservation}

theorem SpeakAction.worker_onControl {step : WorkerAction} (other : action.onControl = false)
    (inner : action.workerAction? = some step) : step.onControl = false := by
  cases action with
  | thread =>
      cases inner
      exact other
  | start | abortObserved | enterFaultedState | publishFault =>
      cases inner
      rfl
  | _ => cases inner

theorem SpeakStep.control_of_other (taken : SpeakStep state action next events)
    (other : action.onControl = false) : next.worker.control = state.worker.control := by
  rcases taken.worker_cases with ⟨step, inner, stepped⟩ | ⟨same, -⟩
  · exact WorkerState.control_of_other (action.worker_onControl other inner) stepped
  · rw [same]

end Speak

/-! ## A control thread that is busy with a record -/

/-- The step is one of the control thread, or joins it. -/
def EngineAction.onControl : EngineAction → Bool
  | .joinThreads | .readControl .. | .fetchEventSite | .dispatchEvent => true
  | .worker action => action.onControl
  | _ => false

section Engine

variable {engine next : Engine} {speak after : SpeakState} {action : EngineAction}
  {inner : SpeakAction} {events : List EngineObservation}

/-- Nothing is announced of a thread that stays before the final admission. -/
theorem announced_withControl (reading : speak.worker.control = .reading)
    (event : ProviderControlEvent) (thenFault : Bool) :
    announced (speak.withControl (.forwarding event thenFault))
        (after.withControl (.forwarding event thenFault)) = announced speak after := by
  unfold announced
  rw [reading]
  rfl

theorem Engine.withControl_session (session : engine.session = some speak)
    (control : ControlThread) :
    (engine.withControl control).session = some (speak.withControl control) := by
  rw [Engine.withControl, session]
  rfl

theorem Engine.stepSession_withControl (session : engine.session = some speak)
    (reading : speak.worker.control = .reading) (event : ProviderControlEvent) (thenFault : Bool)
    (other : inner.onControl = false) :
    (engine.withControl (.forwarding event thenFault)).stepSession inner =
      (engine.stepSession inner).map
        fun result => (result.1.withControl (.forwarding event thenFault), result.2) := by
  have there := Engine.withControl_session session (.forwarding event thenFault)
  unfold Engine.stepSession
  rw [there, session]
  simp only [speak.step_withControl _ other]
  cases speak.step inner with
  | none => rfl
  | some result =>
      simp only [Option.map_some, announced_withControl reading]
      rfl

/-- A step of the other threads does what it does while the control thread reads. -/
theorem Engine.step_withControl (session : engine.session = some speak)
    (reading : speak.worker.control = .reading) (event : ProviderControlEvent) (thenFault : Bool)
    (other : action.onControl = false) :
    (engine.withControl (.forwarding event thenFault)).step action =
      (engine.step action).map
        fun result => (result.1.withControl (.forwarding event thenFault), result.2) := by
  have there := Engine.withControl_session session (.forwarding event thenFault)
  have active : (engine.withControl (.forwarding event thenFault)).isSessionActive =
      engine.isSessionActive := by
    unfold Engine.isSessionActive
    rw [there, session]
    rfl
  have steps (kept : Engine) (same : kept.session = engine.session) {inner : SpeakAction}
      (other : inner.onControl = false) := kept.stepSession_withControl (same.trans session) reading
    event thenFault other
  obtain ⟨found, format, site, activeSpeakId, counter, call, writeSite, eventSite⟩ := engine
  cases session
  cases action with
  | speak =>
      rw [Engine.step, Engine.step, Engine.speak, Engine.speak, apply_ite (Option.map _)]
      rfl
  | sessionActive =>
      rw [Engine.step, Engine.step, Engine.sessionActive, Engine.sessionActive, active]
      cases call with
      | installed speakId =>
          change (if _ then _ else _) = Option.map _ (if _ then _ else _)
          rw [apply_ite (Option.map _)]
          rfl
      | _ => rfl
  | retireSession =>
      rw [Engine.step, Engine.step, Engine.retireSession, Engine.retireSession, active]
      cases call with
      | installed speakId =>
          change (if _ then _ else _) = Option.map _ (if _ then _ else _)
          rw [apply_ite (Option.map _)]
          rfl
      | _ => rfl
  | createSession created =>
      rw [Engine.step, Engine.step, Engine.createSession, Engine.createSession]
      split
      · rw [if_neg (by simp [Engine.withControl]), if_neg (by simp)]
        rfl
      · rfl
  | createSessionFails => cases call <;> rfl
  | start now =>
      cases call with
      | ready speakId =>
          have started : (SpeakAction.start now speakId).onControl = false := rfl
          exact steps ⟨some speak, format, site, activeSpeakId, counter, .serving speakId, writeSite,
            eventSite⟩ rfl started
      | _ => rfl
  | speakThrows =>
      obtain ⟨worker, speakCall⟩ := speak
      cases call with
      | serving speakId => cases speakCall <;> rfl
      | _ => rfl
  | leave =>
      cases call with
      | leaving speakId =>
          change (if _ then _ else _) = Option.map _ (if _ then _ else _)
          rw [apply_ite (Option.map _)]
          rfl
      | _ => rfl
  | worker inner =>
      rw [Engine.step, Engine.step, apply_ite (Option.map _), steps _ rfl other]
      rfl
  | fetchAudioSite =>
      have refused : (SpeakAction.thread (.onAudioDataReturns false)).onControl = false := rfl
      obtain ⟨⟨worker, audio, place, publisher⟩, speakCall⟩ := speak
      cases audio with
      | onAudioData batch span =>
          cases writeSite with
          | none =>
              cases site with
              | none => exact steps _ rfl refused
              | some site => rfl
          | some fetched => rfl
      | _ => rfl
  | writeReturns accepted =>
      have returned : (SpeakAction.thread (.onAudioDataReturns accepted)).onControl = false := rfl
      have stepped := steps ⟨some speak, format, site, activeSpeakId, counter, call, none,
        eventSite⟩ rfl returned
      obtain ⟨⟨worker, audio, place, publisher⟩, speakCall⟩ := speak
      cases writeSite with
      | none => rfl
      | some fetched =>
          cases audio with
          | onAudioData batch span =>
              simp only [Engine.step, Engine.writeReturns, Engine.withControl, Option.map_some,
                SpeakState.withControl, WorkerState.withControl] at stepped ⊢
              rw [stepped]
              cases Engine.stepSession _ _ <;> rfl
          | _ => rfl
  | joinThreads | readControl | fetchEventSite | dispatchEvent => cases other

end Engine

/-! ## What the control thread does next -/

/-- A control thread that is about to ask for the final admission only asks for it. -/
theorem WorkerStep.finalAdmission_of_forwarding {state next : WorkerState} {action : WorkerAction}
    {events : List Observation} (taken : WorkerStep state action next events)
    (invariant : WorkerInvariant state) (control : action.onControl = true)
    {event : ProviderControlEvent} {thenFault : Bool}
    (here : state.control = .forwarding event thenFault) : action = .finalAdmission := by
  have elsewhere {control : ControlThread} (there : state.control = control)
      (differ : control ≠ .forwarding event thenFault) : False :=
    differ (there.symm.trans here)
  cases taken with
  | recordUnaddressed there | recordHandled there | recordSkipped there | controlReadFailed there
  | eventReturned there => exact (elsewhere there (by simp)).elim
  | eventDecided => rfl
  | @faultEntered thread may | @faultRepeated thread may =>
      cases thread with
      | control =>
          obtain ⟨thenStop, there⟩ := state.controlEntering_of_mayEnterFaulted may
          exact (elsewhere there (by simp)).elim
      | audio | caller => cases control
  | @faultPublished thread publisher =>
      cases thread with
      | control => exact absurd publisher (invariant.controlElsewhere here (by simp))
      | audio | caller => cases control
  | _ => cases control

section Engine

variable {engine next : Engine} {speak : SpeakState} {action : EngineAction}
  {event : ProviderControlEvent} {thenFault : Bool} {events : List EngineObservation}

theorem Engine.stepSession_of_forwarding {inner : WorkerAction} (invariant : EngineInvariant engine)
    (session : engine.session = some speak)
    (here : speak.worker.control = .forwarding event thenFault) (control : inner.onControl = true)
    (taken : engine.stepSession (.thread inner) = some (next, events)) :
    inner = .finalAdmission := by
  obtain ⟨_, after, observed, found, stepped, -, -⟩ := stepSession_spec taken
  have same := session.symm.trans found
  cases same
  cases stepped with
  | thread _ moved =>
      exact (step_spec moved).finalAdmission_of_forwarding (invariant.worker speak session) control
        here

/-- **The final admission is all the control thread of the engine does then.** -/
theorem Engine.finalAdmission_of_forwarding (invariant : EngineInvariant engine)
    (session : engine.session = some speak)
    (here : speak.worker.control = .forwarding event thenFault) (control : action.onControl = true)
    (taken : engine.step action = some (next, events)) :
    action = .worker (.thread .finalAdmission) := by
  cases action with
  | joinThreads =>
      simp only [Engine.step, Engine.joinThreads, session] at taken
      split at taken
      · next _ recovering found =>
          cases found
          simp [WorkerState.joinable, here] at taken
      · cases taken
  | readControl now json =>
      simp only [Engine.step, Engine.readControl] at taken
      split at taken
      · next stepped =>
          have decided := Engine.stepSession_of_forwarding invariant session here rfl stepped
          cases decided
      · cases taken
  | fetchEventSite => simp [Engine.step, Engine.fetchEventSite, session, here] at taken
  | dispatchEvent =>
      simp only [Engine.step, Engine.dispatchEvent, session] at taken
      split at taken
      · next _ site found fetched =>
          cases found
          simp [here] at taken
      · cases taken
  | worker inner =>
      simp only [Engine.step] at taken
      split at taken
      · cases inner with
        | thread step =>
            rw [Engine.stepSession_of_forwarding invariant session here control taken]
        | _ => cases control
      · cases taken
  | _ => cases control

end Engine

/-! ## A call that waits for a request -/

/-- `Speak` waits on the worker only for a request of the session. -/
def Engine.Waiting (engine : Engine) : Prop :=
  ∀ speakId, engine.call = .serving speakId → ∃ speak ∈ engine.session, speak.call ≠ .idle

theorem EngineCall.after_serving {call : EngineCall} {worker : SpeakCall} {speakId : ℕ}
    (serving : call.after worker = .serving speakId) : worker ≠ .idle := by
  rintro rfl
  cases call <;> cases serving

namespace Engine

variable {engine next : Engine} {speak : SpeakState} {action : EngineAction}
  {events : List EngineObservation}

theorem Waiting.step (waiting : engine.Waiting) (taken : EngineStep engine action next events) :
    next.Waiting := by
  intro speakId serving
  cases taken with
  | session => exact ⟨_, rfl, EngineCall.after_serving serving⟩
  | spoken | threw | left | leftOther => cases serving
  | called _ _ _ waitsNot => exact absurd serving (waitsNot speakId)
  | joined _ _ notServing => exact absurd serving (notServing speakId)
  | created _ noSession _ _ waits =>
      obtain ⟨speak, session, -⟩ := waiting speakId (waits speakId serving)
      rw [noSession] at session
      cases session
  | audioSiteFetched | eventSiteFetched => exact waiting speakId serving

/-- A step of the session that leaves the call on the worker leaves the call. -/
theorem Waiting.after (waiting : engine.Waiting) (session : engine.session = some speak) :
    engine.call.after speak.call = engine.call := by
  cases here : engine.call with
  | serving speakId =>
      obtain ⟨_, found, busy⟩ := waiting speakId here
      rw [session] at found
      cases found
      simp [EngineCall.after, busy]
  | _ => rfl

end Engine

/-! ## A stale record -/

/-- The record names an earlier request than the current one of the worker. -/
def RequestContext.IsStale (context : RequestContext) (event : ProviderControlEvent) : Prop :=
  event.speakId ≠ 0 ∧ event.speakId < context.token.speakId

instance (context : RequestContext) (event : ProviderControlEvent) :
    Decidable (context.IsStale event) :=
  inferInstanceAs (Decidable (_ ∧ _))

/-- **A stale record leaves the worker as it is**, and is given to SAPI at most. -/
theorem WorkerState.controlRecord_stale {state : WorkerState} {event : ProviderControlEvent}
    (stale : state.context.IsStale event) (reading : state.control = .reading) (now : ℕ) :
    state.step (.controlRecord now event) = some (state, []) ∨
      state.step (.controlRecord now event) =
        some (state.withControl (.forwarding event false), []) := by
  have decided : evaluateParsedEvent event state.worker.context =
      { action := .noLockedAction, shouldRefreshProgress := false
        shouldForwardToSapi := isHealthy state.worker.context } := by
    unfold evaluateParsedEvent
    rw [if_pos (Nat.ne_of_lt stale.2)]
  have kept : state = { state with control := .reading } := by
    rw [← reading]
  simp only [WorkerState.step, WorkerState.controlRecord, if_pos reading]
  split
  · exact .inl rfl
  · rw [if_neg stale.1]
    simp only [handleParsedControlEventLocked, decided]
    cases isHealthy state.worker.context with
    | true => exact .inr rfl
    | false => exact .inl (by rw [kept]; rfl)

/-- The final admission refuses it. -/
theorem WorkerState.finalAdmission_stale {state : WorkerState} {event : ProviderControlEvent}
    (stale : state.context.IsStale event) (reading : state.control = .reading) :
    (state.withControl (.forwarding event false)).step .finalAdmission = some (state, []) := by
  have refused : evaluateFinalAdmission event state.worker.context = .reject := by
    unfold evaluateFinalAdmission
    rw [if_pos (Nat.ne_of_lt stale.2)]
  have rejected : state.worker.admitsEvent event = false := by
    rw [admitsEvent, refused]
    simp
  have kept : state = { state with control := .reading } := by
    rw [← reading]
  simp only [WorkerState.step, WorkerState.finalAdmission, WorkerState.withControl, rejected,
    Bool.false_eq_true, if_false]
  rw [kept]
  rfl

/-- Nothing is announced when only the control thread moves, and not to SAPI. -/
theorem announced_of_same {before after : SpeakState}
    (same : after.worker.worker = before.worker.worker)
    (other : ∀ event thenFault, after.worker.control ≠ .onSpeechEvent event thenFault) :
    announced before after = [] := by
  apply List.eq_nil_iff_forall_not_mem.mpr
  intro seen member
  rcases mem_announced member with ⟨-, speaking, cancelling⟩ | ⟨-, unset, set⟩ |
    ⟨event, thenFault, called, thenFault', -, there, -⟩
  · have kept : after.context = before.context := congrArg SpeechWorker.context same
    rw [kept, speaking] at cancelling
    cases cancelling
  · rw [same, unset] at set
    cases set
  · exact other _ _ there

theorem SpeakState.thread_silent {speak : SpeakState} {step : WorkerAction} {worker : WorkerState}
    (isThread : step.isThreadStep = true) (sent : speak.worker.sentBy step = [])
    (stepped : speak.worker.step step = some (worker, [])) :
    speak.step (.thread step) = some ({ speak with worker }, []) := by
  simp only [SpeakState.step, SpeakState.thread, if_pos isThread, stepped, sent]
  rfl

section Engine

variable {engine : Engine} {speak after : SpeakState} {event : ProviderControlEvent}

/-- A silent step of the session leaves the engine around it. -/
theorem Engine.stepSession_silent {inner : SpeakAction} (waiting : engine.Waiting)
    (session : engine.session = some speak) (stepped : speak.step inner = some (after, []))
    (quiet : announced speak after = []) (call : after.call = speak.call) :
    engine.stepSession inner = some ({ engine with session := some after }, []) := by
  simp only [Engine.stepSession, session, stepped, quiet, call, waiting.after session]
  rfl

theorem Engine.session_self (session : engine.session = some speak) :
    { engine with session := some speak } = engine := by
  rw [← session]

theorem Engine.session_withControl (session : engine.session = some speak)
    (control : ControlThread) :
    { engine with session := some (speak.withControl control) } = engine.withControl control := by
  rw [Engine.withControl, session]
  rfl

/-- **The engine takes a stale record in as the worker does.** -/
theorem Engine.readControl_stale (waiting : engine.Waiting) (session : engine.session = some speak)
    (reading : speak.worker.control = .reading) (now : ℕ) (json : Json)
    (stale : speak.context.IsStale (parseControlEvent json)) :
    engine.step (.readControl now json) = some (engine, [.recordRead json]) ∨
      engine.step (.readControl now json) =
        some (engine.withControl (.forwarding (parseControlEvent json) false),
          [.recordRead json]) := by
  rcases WorkerState.controlRecord_stale stale reading now with stepped | stepped
  · left
    have quiet : announced speak speak = [] := announced_of_same rfl (by simp [reading])
    have moved := Engine.stepSession_silent waiting session
      (SpeakState.thread_silent rfl rfl stepped) quiet rfl
    rw [Engine.step, Engine.readControl, moved, Engine.session_self session]
  · right
    have quiet : announced speak
        (speak.withControl (.forwarding (parseControlEvent json) false)) = [] := by
      refine announced_of_same rfl ?_
      intro event thenFault there
      cases there
    have moved := Engine.stepSession_silent waiting session
      (SpeakState.thread_silent rfl rfl stepped) quiet rfl
    rw [Engine.step, Engine.readControl, moved]
    exact congrArg (fun next => some (next, _)) (Engine.session_withControl session _)

/-- A control thread that reads has no event to ask for. -/
theorem Engine.finalAdmission_of_reading (session : engine.session = some speak)
    (reading : speak.worker.control = .reading) :
    engine.step (.worker (.thread .finalAdmission)) = none := by
  simp [Engine.step, SpeakAction.isWorkerStep, Engine.stepSession, session, SpeakState.step,
    SpeakState.thread, WorkerAction.isThreadStep, WorkerState.step, WorkerState.finalAdmission,
    reading]

/-- **The final admission of a stale record brings the control thread back.** -/
theorem Engine.finalAdmission_stale (waiting : engine.Waiting)
    (session : engine.session = some speak) (reading : speak.worker.control = .reading)
    (stale : speak.context.IsStale event) :
    (engine.withControl (.forwarding event false)).step (.worker (.thread .finalAdmission)) =
      some (engine, []) := by
  have there := Engine.session_withControl session (.forwarding event false)
  have stepped := WorkerState.finalAdmission_stale stale reading
  have moved : (speak.withControl (.forwarding event false)).step (.thread .finalAdmission) =
      some (speak, []) := SpeakState.thread_silent rfl rfl stepped
  have quiet : announced (speak.withControl (.forwarding event false)) speak = [] :=
    announced_of_same rfl (by simp [reading])
  have served : engine.call.after speak.call = engine.call := waiting.after session
  have isWorker : (SpeakAction.thread .finalAdmission).isWorkerStep = true := rfl
  rw [← there, Engine.step, if_pos isWorker]
  simp only [Engine.stepSession, moved, quiet, served]
  rw [Engine.session_self session]
  rfl

/-! ## Where the two runs stand -/

variable {next other : Engine} {action : EngineAction} {events : List EngineObservation}

/-- The second engine is the first, or its control thread is about to ask for the final
admission of a stale record, while that of the first reads. -/
inductive Engine.Aligned (engine : Engine) : Engine → Prop where
  | same : Engine.Aligned engine engine
  | busy {speak : SpeakState} {event : ProviderControlEvent}
      (session : engine.session = some speak) (reading : speak.worker.control = .reading)
      (stale : speak.context.IsStale event) :
      Engine.Aligned engine (engine.withControl (.forwarding event false))

/-- While the other threads move, the control thread reads on, and a stale record stays
stale. -/
theorem EngineStep.stale_stays (taken : EngineStep engine action next events)
    (invariant : EngineInvariant engine) (other : action.onControl = false)
    (session : engine.session = some speak) (reading : speak.worker.control = .reading)
    (stale : speak.context.IsStale event) :
    ∃ after ∈ next.session, after.worker.control = .reading ∧ after.context.IsStale event := by
  cases taken with
  | @session _ inner _ after _ _ _ found cause stepped =>
      rw [session] at found
      cases found
      have innerOther : inner.onControl = false := by
        cases cause with
        | started | audioRefused | wrote => rfl
        | worker => exact other
        | recordRead | eventIgnored | dispatched => cases other
      refine ⟨after, rfl, (stepped.control_of_other innerOther).trans reading, stale.1, ?_⟩
      rcases cause.token stepped with same | unstarted
      · rw [same]
        exact stale.2
      · exact stale.2.trans ((invariant.fresh _ unstarted).2.2 speak session)
  | spoken | called | left | leftOther | audioSiteFetched | eventSiteFetched =>
      exact ⟨speak, session, reading, stale⟩
  | joined => cases other
  | created _ noSession =>
      rw [session] at noSession
      cases noSession
  | threw _ found =>
      rw [session] at found
      cases found
      exact ⟨_, rfl, reading, stale⟩

/-- A step that both engines can take keeps them aligned, and shows the same. -/
theorem Engine.Aligned.step (aligned : engine.Aligned other) (invariant : EngineInvariant engine)
    (invariant' : EngineInvariant other) {next' : Engine} {events' : List EngineObservation}
    (taken : engine.step action = some (next, events))
    (taken' : other.step action = some (next', events')) :
    next.Aligned next' ∧ events = events' := by
  cases aligned with
  | same =>
      rw [taken, Option.some.injEq, Prod.mk.injEq] at taken'
      rw [taken'.1, taken'.2]
      exact ⟨.same, rfl⟩
  | @busy speak event session reading stale =>
      cases control : action.onControl with
      | true =>
          have there := Engine.withControl_session session (.forwarding event false)
          have decided := Engine.finalAdmission_of_forwarding invariant' there rfl control taken'
          rw [decided, Engine.finalAdmission_of_reading session reading] at taken
          cases taken
      | false =>
          rw [Engine.step_withControl session reading _ false control, taken, Option.map_some,
            Option.some.injEq, Prod.mk.injEq] at taken'
          rw [← taken'.1, ← taken'.2]
          obtain ⟨after, found, stays, behind⟩ :=
            (engineStep_spec taken).stale_stays invariant control session reading stale
          exact ⟨.busy found stays behind, rfl⟩

/-- The control thread reads a record only where it is at the next one. -/
theorem Engine.reading_of_readControl {now : ℕ} {json : Json}
    (session : engine.session = some speak)
    (taken : engine.step (.readControl now json) = some (next, events)) :
    speak.worker.control = .reading := by
  by_contra busy
  simp [Engine.step, Engine.readControl, Engine.stepSession, session, SpeakState.step,
    SpeakState.thread, WorkerAction.isThreadStep, WorkerState.step, WorkerState.controlRecord,
    busy] at taken

/-- The control thread of the engine is at its next record. -/
def Engine.readsControl (engine : Engine) : Bool :=
  match engine.session with
  | some speak => speak.worker.control == .reading
  | none => false

/-- What the second run may do of its own: it reads a record that is stale, and its
control thread goes on with it while that of the first run is at its next record. -/
def Engine.TakesStale (engine other : Engine) : EngineAction → Prop
  | .readControl _ json => ∃ speak ∈ other.session, speak.context.IsStale (parseControlEvent json)
  | .joinThreads => False
  | action =>
      action.onControl = true ∧ engine.readsControl = true ∧ other.readsControl = false

/-- What is seen of an engine but for the records that are read. -/
def withoutReads (trace : List EngineObservation) : List EngineObservation :=
  trace.filter fun
    | .recordRead _ => false
    | _ => true

/-- **A step of the second run's own leaves the two engines aligned, and shows nothing.** -/
theorem Engine.Aligned.put (aligned : engine.Aligned other) (waiting : engine.Waiting)
    (invariant' : EngineInvariant other) (allowed : engine.TakesStale other action)
    (taken : other.step action = some (next, events)) :
    engine.Aligned next ∧ withoutReads events = [] := by
  cases aligned with
  | same =>
      have busy (different : engine.readsControl = true ∧ engine.readsControl = false) : False := by
        rw [different.1] at different
        cases different.2
      cases action with
      | readControl now json =>
          obtain ⟨speak, session, stale⟩ := allowed
          have reading := Engine.reading_of_readControl session taken
          rcases Engine.readControl_stale waiting session reading now json stale with same | put
          · rw [same] at taken
            cases taken
            exact ⟨.same, rfl⟩
          · rw [put] at taken
            cases taken
            exact ⟨.busy session reading stale, rfl⟩
      | joinThreads => cases allowed
      | _ => exact (busy allowed.2).elim
  | @busy speak event session reading stale =>
      have there := Engine.withControl_session session (.forwarding event false)
      have control : action.onControl = true := by
        cases action with
        | readControl => rfl
        | joinThreads => cases allowed
        | _ => exact allowed.1
      have decided := Engine.finalAdmission_of_forwarding invariant' there rfl control taken
      rw [decided, Engine.finalAdmission_stale waiting session reading stale] at taken
      cases taken
      exact ⟨.same, rfl⟩

theorem Engine.Aligned.withControl (aligned : engine.Aligned other) :
    ∃ control, other = engine.withControl control := by
  cases aligned with
  | same =>
      cases session : engine.session with
      | none =>
          refine ⟨.reading, ?_⟩
          rw [Engine.withControl, session, Option.map_none, ← session]
      | some speak =>
          exact ⟨speak.worker.control, (Engine.session_self session).symm.trans
            (Engine.session_withControl session _)⟩
  | busy => exact ⟨_, rfl⟩

end Engine

/-! ## The result -/

theorem engine_waiting {trace : List EngineObservation} {engine : Engine}
    (reached : engineMachine.Reaches Machine.anyStep trace engine) : engine.Waiting := by
  refine reached.induct (motive := fun _ engine => engine.Waiting) ?_ ?_
  · rintro _ rfl speakId serving
    cases serving
  · intro _ _ _ _ _ _ waiting _ taken
    exact waiting.step (engineStep_spec taken)

/-- **Stale records do not interfere.** Two runs of an engine that take the same steps,
except that the second also takes in records of earlier requests than the current one,
show the same apart from the records read, and lead to the same engine apart from where
its control thread stands. -/
theorem stale_records_inert {first second : List EngineObservation} {engine other : Engine}
    (runs : engineMachine.Interspersed Engine.TakesStale {} first engine second other) :
    (∃ control, other = engine.withControl control) ∧
      withoutReads first = withoutReads second := by
  have compared : engine.Aligned other ∧ withoutReads first = withoutReads second := by
    refine runs.simulates List.filter_append .same ?_ ?_
    · intro _ _ _ _ _ _ _ _ _ run run' aligned taken taken'
      obtain ⟨kept, same⟩ := aligned.step (engineInvariant ⟨{}, rfl, run⟩)
        (engineInvariant ⟨{}, rfl, run'⟩) taken taken'
      exact ⟨kept, congrArg withoutReads same⟩
    · intro _ _ _ _ _ _ _ run run' aligned allowed taken
      exact aligned.put (engine_waiting ⟨{}, rfl, run⟩) (engineInvariant ⟨{}, rfl, run'⟩) allowed
        taken
  exact ⟨compared.1.withControl, compared.2⟩

/-- The first call has completed, and the request of the second has been started. -/
def secondCall : List EngineAction :=
  [.createSession monoFormat, .speak, .sessionActive, .start 0, .worker (.dispatched .sOk),
    .readControl 1 (.object [("event", .string "synthesis_complete"),
      ("speak_id", .numberUnsigned 1), ("total_audio_bytes", .numberUnsigned 0)]),
    .worker (.thread .finalAdmission), .worker .waitEnds, .leave, .speak, .sessionActive,
    .start 10]

/-- A fatal error that names the first call. -/
def lateRecord : Json :=
  .object [("event", .string "log"), ("speak_id", .numberUnsigned 1),
    ("severity", .string "fatal"), ("message", .string "late")]

/-- The late record is read while the second request is dispatched, and refused after
that. -/
theorem stale_records_inert_log :
    ∃ first second engine other,
      engineMachine.Interspersed Engine.TakesStale {} first engine second other ∧
        .recordRead lateRecord ∈ second ∧ (∃ control, other = engine.withControl control) ∧
        withoutReads first = withoutReads second := by
  have run := engineMachine.run_finalState {} secondCall (Machine.along_anyStep _ _) (by decide)
  have read := Machine.Interspersed.extra (.of_run run)
    (show Engine.TakesStale _ _ (.readControl 11 lateRecord) from ⟨_, rfl, by decide⟩) rfl
  have dispatched := read.both
    (show engineMachine.step _ (.worker (.dispatched .sOk)) = some (_, _) from rfl) rfl
  have decided := dispatched.extra
    (show Engine.TakesStale _ _ (.worker (.thread .finalAdmission)) from ⟨rfl, rfl, rfl⟩) rfl
  refine ⟨_, _, _, _, decided, ?_, stale_records_inert decided⟩
  simp

end ModernSapi
