import ModernSapi.Engine.Engine
import ModernSapi.Worker.Bookkeeping

/-!
# The callbacks of a worker

A thread of the worker stays in its callback until the callback returns, whatever the
other threads do meanwhile. `EngineInvariant` keeps what an engine holds for its two
callbacks in step with where the threads stand, and the site in step with the call that
is being served. The speak ids of an engine only grow.
-/

set_option autoImplicit false

namespace ModernSapi

open Interleaving SpeechWorker WorkerState

/-- A span of the request may be admitted. -/
def RequestContext.AdmitsSpans (context : RequestContext) : Prop :=
  context.downstreamState = .speaking ∧ context.faultPending = false

instance (context : RequestContext) : Decidable context.AdmitsSpans :=
  inferInstanceAs (Decidable (_ ∧ _))

section Worker

variable {state next : WorkerState} {action : WorkerAction} {events : List Observation}

/-! ## Where the threads stand -/

theorem AudioThread.afterChunk_ne_onAudioData (fault : Bool) (batch : Batch) (span : List UInt8) :
    AudioThread.afterChunk fault ≠ .onAudioData batch span := by
  cases fault <;> simp [AudioThread.afterChunk]

theorem AudioThread.afterFault_ne_onAudioData (thenStop : Bool) (batch : Batch)
    (span : List UInt8) : AudioThread.afterFault thenStop ≠ .onAudioData batch span := by
  cases thenStop <;> simp [AudioThread.afterFault]

theorem ControlThread.afterEvent_ne_onSpeechEvent (fault : Bool) (event : ProviderControlEvent)
    (thenFault : Bool) : ControlThread.afterEvent fault ≠ .onSpeechEvent event thenFault := by
  cases fault <;> simp [ControlThread.afterEvent]

theorem ControlThread.afterFault_ne_onSpeechEvent (thenStop : Bool)
    (event : ProviderControlEvent) (thenFault : Bool) :
    ControlThread.afterFault thenStop ≠ .onSpeechEvent event thenFault := by
  cases thenStop <;> simp [ControlThread.afterFault]

/-- The audio thread stays in `OnAudioData` until that returns. -/
theorem WorkerStep.onAudioData_stays (taken : WorkerStep state action next events)
    (invariant : WorkerInvariant state) (other : ∀ accepted, action ≠ .onAudioDataReturns accepted)
    {batch : Batch} {span : List UInt8} (here : state.audio = .onAudioData batch span) :
    next.audio = .onAudioData batch span := by
  have elsewhere {audio : AudioThread} (there : state.audio = audio)
      (differ : audio ≠ .onAudioData batch span) : False :=
    differ (there.symm.trans here)
  cases taken with
  | chunkTaken there | assemblyFailed there | audioReadFailed there | spansEnd there
  | spanHanded there | batchSettled there | cancellationSent there =>
      exact (elsewhere there (by simp)).elim
  | spanAccepted | spanRejected => exact absurd rfl (other _)
  | @faultRepeated thread may =>
      cases thread with
      | audio =>
          obtain ⟨thenStop, there⟩ := state.entering_of_mayEnterFaulted may
          exact (elsewhere there (by simp)).elim
      | control | caller => exact here
  | @faultPublished thread publisher =>
      cases thread with
      | audio => exact absurd publisher (invariant.audioElsewhere here (by simp))
      | control | caller => exact here
  | _ => exact here

/-- Only an admission brings the audio thread into `OnAudioData`. -/
theorem WorkerStep.onAudioData_kept (taken : WorkerStep state action next events)
    (other : action ≠ .spanAdmission) {batch : Batch} {span : List UInt8}
    (here : next.audio = .onAudioData batch span) :
    state.audio = .onAudioData batch span ∧ ∀ accepted, action ≠ .onAudioDataReturns accepted := by
  cases taken with
  | chunkTaken =>
      simp only [afterIngest] at here
      split at here
      · cases here
      · exact absurd here (AudioThread.afterChunk_ne_onAudioData _ _ _)
  | batchSettled =>
      simp only [afterBatch] at here
      split at here
      · cases here
      · exact absurd here (AudioThread.afterChunk_ne_onAudioData _ _ _)
  | cancellationSent => exact absurd here (AudioThread.afterChunk_ne_onAudioData _ _ _)
  | assemblyFailed | audioReadFailed | spanAccepted | spanRejected => cases here
  | spansEnd | spanHanded => exact absurd rfl other
  | @faultRepeated thread =>
      cases thread with
      | audio => exact absurd here (AudioThread.afterFault_ne_onAudioData _ _ _)
      | control | caller => exact ⟨here, nofun⟩
  | @faultPublished thread =>
      cases thread with
      | audio => exact absurd here (AudioThread.afterFault_ne_onAudioData _ _ _)
      | control | caller => exact ⟨here, nofun⟩
  | _ => exact ⟨here, nofun⟩

/-- The audio thread enters `OnAudioData` for a request whose spans are admitted, and not
by a return from it. -/
theorem WorkerStep.onAudioData_from (taken : WorkerStep state action next events) {batch : Batch}
    {span : List UInt8} (here : next.audio = .onAudioData batch span) :
    (state.audio = .onAudioData batch span ∧ ∀ accepted, action ≠ .onAudioDataReturns accepted) ∨
      (state.context.token = batch.token ∧ state.context.AdmitsSpans) := by
  by_cases admission : action = .spanAdmission
  · subst admission
    cases taken with
    | spansEnd => cases here
    | spanHanded _ _ matching speaking noFault =>
        cases here
        exact .inr ⟨matching, speaking, noFault⟩
  · exact .inl (taken.onAudioData_kept admission here)

/-- The control thread stays in `OnSpeechEvent` until that returns. -/
theorem WorkerStep.onSpeechEvent_stays (taken : WorkerStep state action next events)
    (invariant : WorkerInvariant state) (other : action ≠ .onSpeechEventReturns)
    {event : ProviderControlEvent} {thenFault : Bool}
    (here : state.control = .onSpeechEvent event thenFault) :
    next.control = .onSpeechEvent event thenFault := by
  have elsewhere {control : ControlThread} (there : state.control = control)
      (differ : control ≠ .onSpeechEvent event thenFault) : False :=
    differ (there.symm.trans here)
  cases taken with
  | recordUnaddressed there | recordHandled there | controlReadFailed there
  | eventDecided there => exact (elsewhere there (by simp)).elim
  | eventReturned => exact absurd rfl other
  | @faultRepeated thread may =>
      cases thread with
      | control =>
          obtain ⟨thenStop, there⟩ := state.controlEntering_of_mayEnterFaulted may
          exact (elsewhere there (by simp)).elim
      | audio | caller => exact here
  | @faultPublished thread publisher =>
      cases thread with
      | control => exact absurd publisher (invariant.controlElsewhere here (by simp))
      | audio | caller => exact here
  | _ => exact here

/-! ## The request that is speaking -/

/-- A record leaves no request speaking that was not. -/
theorem SpeechWorker.EventOutcome.speaking {worker : SpeechWorker} {event : ProviderControlEvent}
    {forward : Bool} {result : SpeechWorker × ControlEventDisposition × List Observation}
    (outcome : EventOutcome worker event forward result)
    (speaking : result.1.context.downstreamState = .speaking) :
    worker.context.downstreamState = .speaking := by
  by_cases error : event.type = .log ∧ event.logSeverity = "error"
  · cases outcome with
    | unchanged | malformed | fatal => exact speaking
    | terminalFault | utteranceFailed => cases speaking
    | terminalApplied _ terminal =>
        rw [event.not_terminal_of_log error.1] at terminal
        cases terminal
  · cases outcome.move fun log severity => error ⟨log, severity⟩ with
    | moved moved => exact moved.speaking speaking
    | applied _ _ _ _ moved => exact moved.speaking speaking

/-- **Only a start makes a request speak.** -/
theorem WorkerStep.speaking (taken : WorkerStep state action next events)
    (settled : state.worker.Settled) (notStart : ∀ now speakId, action ≠ .start now speakId)
    (speaking : next.context.downstreamState = .speaking) :
    state.context.downstreamState = .speaking := by
  have reads {now : ℕ} {chunk : List UInt8}
      (read : action = .audioChunk now chunk ∨ action = .frameAssemblyFails now chunk) :
      state.context.downstreamState = .speaking := by
    rcases taken.read_move settled read with ⟨-, keeps⟩ | ⟨-, moved⟩
    · exact keeps.downstream.symm.trans speaking
    · exact moved.speaking speaking
  cases action with
  | audioChunk => exact reads (.inl rfl)
  | frameAssemblyFails => exact reads (.inr rfl)
  | controlRecord =>
      cases taken with
      | recordUnaddressed =>
          rw [WorkerState.context, handleMissingSpeakIdLocked_downstream] at speaking
          exact speaking
      | recordHandled _ _ outcome => exact outcome.speaking speaking
      | recordSkipped => exact speaking
  | start now speakId => exact absurd rfl (notStart now speakId)
  | stop =>
      cases taken with
      | stopped => cases speaking
      | stopIgnored => exact speaking
  | audioReadFails | spanAdmission | onAudioDataReturns | batchOutcome | cancellationSent
  | controlReadFails | finalAdmission | onSpeechEventReturns | enterFaultedState | publishFault
  | beginCancellation => exact (taken.move settled rfl).speaking speaking

/-- **Only a start makes spans admissible.** -/
theorem WorkerStep.admitsSpans (taken : WorkerStep state action next events)
    (invariant : WorkerInvariant state) (notStart : ∀ now speakId, action ≠ .start now speakId)
    (admits : next.context.AdmitsSpans) :
    state.context.AdmitsSpans ∧ next.context.token = state.context.token := by
  obtain ⟨speaking, noFault⟩ := admits
  have before := taken.speaking invariant.consistent.toSettled notStart speaking
  refine ⟨⟨before, Bool.eq_false_iff.mpr fun pending => ?_⟩, taken.token notStart⟩
  have publishing : PublishingFaulted state := fun publisher =>
    absurd before (invariant.publishing publisher).not_speaking
  have allowed : NoErrorWhileFaulted state action := by
    cases action with
    | controlRecord =>
        intro faulted
        rw [before] at faulted
        cases faulted
    | _ => trivial
  have faulted := isFaulted_step invariant publishing (isFaulted_of_pending pending) allowed taken
  have settled := (invariant.step taken).consistent.toSettled
  rcases settled.faulted_cases faulted with downstream | still
  · rw [speaking] at downstream
    cases downstream
  · rw [noFault] at still
    cases still

end Worker

section Speak

variable {speak next : SpeakState} {action : SpeakAction} {events : List SpeakObservation}

theorem SpeakAction.thread_of_workerAction {step : WorkerAction}
    (here : action.workerAction? = some step) (isThread : step.isThreadStep = true) :
    action = .thread step := by
  cases action with
  | thread inner =>
      cases here
      rfl
  | start | abortObserved | enterFaultedState | publishFault =>
      cases here
      cases isThread
  | _ => cases here

theorem SpeakStep.onAudioData_stays (taken : SpeakStep speak action next events)
    (invariant : WorkerInvariant speak.worker)
    (other : ∀ accepted, action ≠ .thread (.onAudioDataReturns accepted)) {batch : Batch}
    {span : List UInt8} (here : speak.worker.audio = .onAudioData batch span) :
    next.worker.audio = .onAudioData batch span := by
  rcases taken.worker_cases with ⟨step, inner, stepped⟩ | ⟨same, -⟩
  · refine (step_spec stepped).onAudioData_stays invariant (fun accepted returns => ?_) here
    rw [returns] at inner
    exact other accepted (SpeakAction.thread_of_workerAction inner rfl)
  · rw [same]
    exact here

theorem SpeakStep.onAudioData_from (taken : SpeakStep speak action next events) {batch : Batch}
    {span : List UInt8} (here : next.worker.audio = .onAudioData batch span) :
    (speak.worker.audio = .onAudioData batch span ∧
        ∀ accepted, action ≠ .thread (.onAudioDataReturns accepted)) ∨
      (speak.context.token = batch.token ∧ speak.context.AdmitsSpans) := by
  by_cases returns : ∃ accepted, action = .thread (.onAudioDataReturns accepted)
  · obtain ⟨accepted, rfl⟩ := returns
    cases taken with
    | thread _ stepped =>
        rcases (step_spec stepped).onAudioData_from here with ⟨-, other⟩ | admitted
        · exact absurd rfl (other accepted)
        · exact .inr admitted
  · have other (accepted : Bool) (same : action = .thread (.onAudioDataReturns accepted)) : False :=
      returns ⟨accepted, same⟩
    rcases taken.worker_cases with ⟨step, -, stepped⟩ | ⟨same, -⟩
    · exact (step_spec stepped).onAudioData_from here |>.imp_left fun there => ⟨there.1, other⟩
    · rw [same] at here
      exact .inl ⟨here, other⟩

theorem SpeakStep.onSpeechEvent_stays (taken : SpeakStep speak action next events)
    (invariant : WorkerInvariant speak.worker) (other : action ≠ .thread .onSpeechEventReturns)
    {event : ProviderControlEvent} {thenFault : Bool}
    (here : speak.worker.control = .onSpeechEvent event thenFault) :
    next.worker.control = .onSpeechEvent event thenFault := by
  rcases taken.worker_cases with ⟨step, inner, stepped⟩ | ⟨same, -⟩
  · refine (step_spec stepped).onSpeechEvent_stays invariant (fun returns => ?_) here
    rw [returns] at inner
    exact other (SpeakAction.thread_of_workerAction inner rfl)
  · rw [same]
    exact here

theorem SpeakStep.admitsSpans (taken : SpeakStep speak action next events)
    (invariant : WorkerInvariant speak.worker) (notStart : ∀ now speakId, action ≠ .start now speakId)
    (admits : next.context.AdmitsSpans) :
    speak.context.AdmitsSpans ∧ next.context.token = speak.context.token := by
  rcases taken.worker_cases with ⟨step, inner, stepped⟩ | ⟨same, -⟩
  · refine (step_spec stepped).admitsSpans invariant (fun now speakId starts => ?_) admits
    rw [starts] at inner
    exact taken.not_start notStart inner
  · rw [SpeakState.context, same] at admits
    exact ⟨admits, congrArg (fun worker => worker.context.token) same⟩

end Speak

/-! ## The invariant -/

/-- What holds in every state of an engine. -/
structure EngineInvariant (engine : Engine) : Prop where
  worker : ∀ speak ∈ engine.session, WorkerInvariant speak.worker
  known : ∀ speak ∈ engine.session, speak.context.token.speakId ≤ engine.speakIdCounter
  fresh : ∀ speakId ∈ engine.call.unstarted?, speakId = engine.speakIdCounter ∧ 0 < speakId ∧
    ∀ speak ∈ engine.session, speak.context.token.speakId < speakId
  installed : ∀ speakId ∈ engine.call.speakId?, engine.site = some speakId
  active : ∀ site ∈ engine.site, engine.activeSpeakId = site
  writing : ∀ site ∈ engine.writeSite, ∃ speak ∈ engine.session,
    ∃ batch span, speak.worker.audio = .onAudioData batch span
  dispatching : ∀ site ∈ engine.eventSite, ∃ speak ∈ engine.session,
    ∃ event thenFault, speak.worker.control = .onSpeechEvent event thenFault

/-- What the step of a session leaves of the engine around it: it ends at most the
callback whose site is given back. -/
structure Surrounds (engine kept : Engine) (inner : SpeakAction) : Prop where
  site : kept.site = engine.site
  active : kept.activeSpeakId = engine.activeSpeakId
  call : kept.call.speakId? = engine.call.speakId?
  counter : kept.speakIdCounter = engine.speakIdCounter
  unstarted : ∀ speakId ∈ kept.call.unstarted?, speakId ∈ engine.call.unstarted? ∧
    ∀ now speakId, inner ≠ .start now speakId
  writing : kept.writeSite = none ∨
    (kept.writeSite = engine.writeSite ∧ ∀ accepted, inner ≠ .thread (.onAudioDataReturns accepted))
  dispatching : kept.eventSite = none ∨
    (kept.eventSite = engine.eventSite ∧ inner ≠ .thread .onSpeechEventReturns)

theorem SessionCause.surrounds {engine kept : Engine} {speak : SpeakState} {action : EngineAction}
    {inner : SpeakAction} {own : List EngineObservation}
    (cause : SessionCause engine speak action inner kept own) : Surrounds engine kept inner := by
  cases cause with
  | started here =>
      exact ⟨rfl, rfl, by rw [here]; rfl, rfl, nofun, .inr ⟨rfl, nofun⟩, .inr ⟨rfl, nofun⟩⟩
  | worker isWorker =>
      refine ⟨rfl, rfl, rfl, rfl, fun _ unstarted => ⟨unstarted, ?_⟩, .inr ⟨rfl, ?_⟩,
        .inr ⟨rfl, ?_⟩⟩
      · rintro now speakId rfl
        cases isWorker
      · rintro accepted rfl
        cases isWorker
      · rintro rfl
        cases isWorker
  | recordRead =>
      exact ⟨rfl, rfl, rfl, rfl, fun _ unstarted => ⟨unstarted, nofun⟩, .inr ⟨rfl, nofun⟩,
        .inr ⟨rfl, nofun⟩⟩
  | audioRefused unfetched =>
      exact ⟨rfl, rfl, rfl, rfl, fun _ unstarted => ⟨unstarted, nofun⟩, .inl unfetched,
        .inr ⟨rfl, nofun⟩⟩
  | wrote =>
      exact ⟨rfl, rfl, rfl, rfl, fun _ unstarted => ⟨unstarted, nofun⟩, .inl rfl,
        .inr ⟨rfl, nofun⟩⟩
  | eventIgnored unfetched =>
      exact ⟨rfl, rfl, rfl, rfl, fun _ unstarted => ⟨unstarted, nofun⟩, .inr ⟨rfl, nofun⟩,
        .inl unfetched⟩
  | dispatched =>
      exact ⟨rfl, rfl, rfl, rfl, fun _ unstarted => ⟨unstarted, nofun⟩, .inr ⟨rfl, nofun⟩,
        .inl rfl⟩

section Starts

variable {engine kept : Engine} {speak after : SpeakState} {action : EngineAction}
  {inner : SpeakAction} {own : List EngineObservation} {observed : List SpeakObservation}

/-- A start is that of the session's call, which gives the request its speak id, or it is
rejected. -/
theorem SessionCause.starts_cases (cause : SessionCause engine speak action inner kept own)
    (taken : SpeakStep speak inner after observed) :
    (∀ now speakId, inner ≠ .start now speakId) ∨ after.context = speak.context ∨
      after.context.token.speakId ∈ engine.call.unstarted? := by
  by_cases starts : ∃ now speakId, inner = .start now speakId
  · obtain ⟨now, speakId, rfl⟩ := starts
    cases cause with
    | started here =>
        cases taken with
        | started =>
            rw [here]
            exact .inr (.inr rfl)
        | startRejected => exact .inr (.inl rfl)
    | worker isWorker => cases isWorker
  · exact .inl fun now speakId same => starts ⟨now, speakId, same⟩

theorem SessionCause.token (cause : SessionCause engine speak action inner kept own)
    (taken : SpeakStep speak inner after observed) :
    after.context.token = speak.context.token ∨
      after.context.token.speakId ∈ engine.call.unstarted? := by
  rcases cause.starts_cases taken with notStart | same | started
  · exact .inl (taken.token notStart)
  · exact .inl (congrArg RequestContext.token same)
  · exact .inr started

/-- Spans are admissible only for the request whose spans were, or for the one that is
started for the call. -/
theorem SessionCause.admitsSpans (cause : SessionCause engine speak action inner kept own)
    (taken : SpeakStep speak inner after observed) (invariant : WorkerInvariant speak.worker)
    (admits : after.context.AdmitsSpans) :
    (speak.context.AdmitsSpans ∧ after.context.token = speak.context.token) ∨
      after.context.token.speakId ∈ engine.call.unstarted? := by
  rcases cause.starts_cases taken with notStart | same | started
  · exact .inl (taken.admitsSpans invariant notStart admits)
  · rw [same] at admits ⊢
    exact .inl ⟨admits, rfl⟩
  · exact .inr started

end Starts

namespace EngineInvariant

variable {engine next : Engine} {action : EngineAction} {trace events : List EngineObservation}

theorem initial : EngineInvariant {} := by
  refine ⟨?_, ?_, ?_, ?_, ?_, ?_, ?_⟩
  all_goals
    intro _ member
    cases member

/-- No callback is under way in a worker whose threads can be joined. -/
theorem quiet_of_joinable (invariant : EngineInvariant engine) {speak : SpeakState}
    (session : engine.session = some speak) (ended : speak.worker.joinable = true) :
    engine.writeSite = none ∧ engine.eventSite = none := by
  simp only [WorkerState.joinable, Bool.and_eq_true, Bool.or_eq_true, beq_iff_eq] at ended
  obtain ⟨audio, control⟩ := ended
  constructor
  · by_contra fetched
    obtain ⟨site, fetched⟩ := Option.ne_none_iff_exists'.mp fetched
    obtain ⟨_, member, batch, span, here⟩ := invariant.writing site fetched
    rw [session] at member
    cases member
    rcases audio with audio | audio
    · rw [here] at audio
      cases audio
    · rw [here] at audio
      cases audio
  · by_contra fetched
    obtain ⟨site, fetched⟩ := Option.ne_none_iff_exists'.mp fetched
    obtain ⟨_, member, event, thenFault, here⟩ := invariant.dispatching site fetched
    rw [session] at member
    cases member
    rcases control with control | control
    · rw [here] at control
      cases control
    · rw [here] at control
      cases control

/-- No callback is under way without a session. -/
theorem quiet_of_none (invariant : EngineInvariant engine) (noSession : engine.session = none) :
    engine.writeSite = none ∧ engine.eventSite = none := by
  constructor
  · by_contra fetched
    obtain ⟨site, fetched⟩ := Option.ne_none_iff_exists'.mp fetched
    obtain ⟨_, member, -⟩ := invariant.writing site fetched
    rw [noSession] at member
    cases member
  · by_contra fetched
    obtain ⟨site, fetched⟩ := Option.ne_none_iff_exists'.mp fetched
    obtain ⟨_, member, -⟩ := invariant.dispatching site fetched
    rw [noSession] at member
    cases member

/-- A step of the session keeps the speak ids growing. -/
theorem session_token (invariant : EngineInvariant engine) {kept : Engine}
    {speak after : SpeakState} {inner : SpeakAction} {own : List EngineObservation}
    {observed : List SpeakObservation} (session : engine.session = some speak)
    (cause : SessionCause engine speak action inner kept own)
    (taken : SpeakStep speak inner after observed) :
    after.context.token.speakId ≤ engine.speakIdCounter := by
  rcases cause.token taken with same | unstarted
  · rw [same]
    exact invariant.known speak session
  · exact Nat.le_of_eq (invariant.fresh _ unstarted).1

/-- **Every step keeps the invariant.** -/
theorem step (invariant : EngineInvariant engine) (taken : EngineStep engine action next events) :
    EngineInvariant next := by
  cases taken with
  | @session _ _ speak _ _ _ _ session cause taken =>
      obtain ⟨site, active, call, counter, unstarted, writing, dispatching⟩ := cause.surrounds
      have healthy := invariant.worker speak session
      refine ⟨?_, ?_, ?_, ?_, ?_, ?_, ?_⟩
      · rintro _ ⟨⟩
        exact taken.workerInvariant healthy
      · rintro _ ⟨⟩
        exact (invariant.session_token session cause taken).trans (Nat.le_of_eq counter.symm)
      · intro speakId waits
        obtain ⟨before, notStart⟩ := unstarted speakId (EngineCall.after_unstarted waits)
        obtain ⟨latest, positive, below⟩ := invariant.fresh speakId before
        refine ⟨latest.trans counter.symm, positive, ?_⟩
        rintro _ ⟨⟩
        rw [taken.token notStart]
        exact below speak session
      · intro speakId serves
        rw [EngineCall.after_speakId?, call] at serves
        exact site.trans (invariant.installed speakId serves)
      · intro other installed
        exact active.trans (invariant.active other (site.symm.trans installed))
      · intro other fetched
        rcases writing with none | ⟨same, inner⟩
        · rw [none] at fetched
          cases fetched
        · obtain ⟨_, member, batch, span, here⟩ := invariant.writing other (same.symm.trans fetched)
          rw [session] at member
          cases member
          exact ⟨_, rfl, batch, span, taken.onAudioData_stays healthy inner here⟩
      · intro other fetched
        rcases dispatching with none | ⟨same, inner⟩
        · rw [none] at fetched
          cases fetched
        · obtain ⟨_, member, event, thenFault, here⟩ :=
            invariant.dispatching other (same.symm.trans fetched)
          rw [session] at member
          cases member
          exact ⟨_, rfl, event, thenFault, taken.onSpeechEvent_stays healthy inner here⟩
  | spoken =>
      refine ⟨invariant.worker, ?_, ?_, ?_, ?_, invariant.writing, invariant.dispatching⟩
      · intro speak session
        exact (invariant.known speak session).trans (Nat.le_succ _)
      · rintro _ ⟨⟩
        refine ⟨rfl, Nat.succ_pos _, fun speak session => ?_⟩
        exact Nat.lt_succ_of_le (invariant.known speak session)
      · rintro _ ⟨⟩
        rfl
      · rintro _ ⟨⟩
        rfl
  | called _ same unstarted =>
      refine ⟨invariant.worker, invariant.known, fun speakId waits => ?_, fun speakId serves => ?_,
        invariant.active, invariant.writing, invariant.dispatching⟩
      · exact invariant.fresh speakId (unstarted speakId waits)
      · rw [same] at serves
        exact invariant.installed speakId serves
  | joined session ended =>
      obtain ⟨noWrite, noEvent⟩ := invariant.quiet_of_joinable session ended
      refine ⟨(fun _ member => nomatch member), (fun _ member => nomatch member),
        fun speakId waits => ?_, invariant.installed, invariant.active,
        fun site fetched => ?_, fun site fetched => ?_⟩
      · obtain ⟨latest, positive, -⟩ := invariant.fresh speakId waits
        exact ⟨latest, positive, fun _ member => nomatch member⟩
      · rw [noWrite] at fetched
        cases fetched
      · rw [noEvent] at fetched
        cases fetched
  | created positive noSession same unstarted =>
      obtain ⟨noWrite, noEvent⟩ := invariant.quiet_of_none noSession
      refine ⟨?_, ?_, fun speakId waits => ?_, fun speakId serves => ?_, invariant.active,
        fun site fetched => ?_, fun site fetched => ?_⟩
      · rintro _ ⟨⟩
        exact .initial _ positive
      · rintro _ ⟨⟩
        exact Nat.zero_le _
      · obtain ⟨latest, positive, -⟩ := invariant.fresh speakId (unstarted speakId waits)
        refine ⟨latest, positive, ?_⟩
        rintro _ ⟨⟩
        exact positive
      · rw [same] at serves
        exact invariant.installed speakId serves
      · rw [noWrite] at fetched
        cases fetched
      · rw [noEvent] at fetched
        cases fetched
  | @threw _ speak here session =>
      refine ⟨?_, ?_, nofun, fun speakId serves => ?_, invariant.active,
        fun site fetched => ?_, fun site fetched => ?_⟩
      · rintro _ ⟨⟩
        exact invariant.worker speak session
      · rintro _ ⟨⟩
        exact invariant.known speak session
      · refine invariant.installed speakId ?_
        rw [here]
        exact serves
      · obtain ⟨_, member, batch, span, there⟩ := invariant.writing site fetched
        rw [session] at member
        cases member
        exact ⟨_, rfl, batch, span, there⟩
      · obtain ⟨_, member, event, thenFault, there⟩ := invariant.dispatching site fetched
        rw [session] at member
        cases member
        exact ⟨_, rfl, event, thenFault, there⟩
  | left =>
      exact ⟨invariant.worker, invariant.known, (fun _ waits => nomatch waits),
        (fun _ serves => nomatch serves), (fun _ installed => nomatch installed),
        invariant.writing, invariant.dispatching⟩
  | leftOther =>
      exact ⟨invariant.worker, invariant.known, (fun _ waits => nomatch waits),
        (fun _ serves => nomatch serves), invariant.active, invariant.writing,
        invariant.dispatching⟩
  | audioSiteFetched session here =>
      refine ⟨invariant.worker, invariant.known, invariant.fresh, invariant.installed,
        invariant.active, ?_, invariant.dispatching⟩
      intro _ _
      exact ⟨_, session, _, _, here⟩
  | eventSiteFetched session here =>
      refine ⟨invariant.worker, invariant.known, invariant.fresh, invariant.installed,
        invariant.active, invariant.writing, ?_⟩
      intro _ _
      exact ⟨_, session, _, _, here⟩

end EngineInvariant

/-- **The invariant holds in every state of every run of an engine.** -/
theorem engineInvariant {guard : Engine → EngineAction → Prop} {trace : List EngineObservation}
    {engine : Engine} (reached : engineMachine.Reaches guard trace engine) :
    EngineInvariant engine := by
  refine reached.induct (motive := fun _ engine => EngineInvariant engine) ?_ ?_
  · rintro _ rfl
    exact .initial
  · intro _ _ _ _ _ _ invariant _ taken
    exact invariant.step (engineStep_spec taken)

end ModernSapi
