import ModernSapi.Engine.Callbacks
import ModernSapi.Worker.SpeakResult

/-!
# How a call leaves the engine

A call of `Speak` reuses the session unless its worker is faulted, and a worker accepts a
request only when it is idle. A worker that is neither lets no later call through, and
nothing watches it between the calls.

`dispatch_throws` is a run that leaves a worker so: sending the command throws after the
request was started, and the catch handler of `Speak` returns without a word to the
worker. `speak_recovers_iff` shows that nothing else does.
-/

set_option autoImplicit false

namespace ModernSapi

open Interleaving SpeechWorker

/-- The request of the session is over, or its worker is faulted. -/
def SpeakState.Over (speak : SpeakState) : Prop :=
  ¬speak.context.IsOpen ∨ speak.worker.worker.isFaulted = true

/-- The next call can start its request, or finds the worker faulted and retires it. -/
def SpeechWorker.Recovers (worker : SpeechWorker) : Prop :=
  worker.CanStart ∨ worker.isFaulted = true

/-- A call is waiting for its request. -/
def EngineCall.isServing : EngineCall → Bool
  | .serving _ => true
  | _ => false

/-- The step leaves the engine ready for later calls. A call that ends after its request
was started leaves a worker that recovers, a session that is reused accepts a request, and
only a faulted worker rejects one. -/
def SpeakRecovers (engine : Engine) (action : EngineAction) (next : Engine) : Prop :=
  match action with
  | .sessionActive => ∀ speak ∈ engine.session, speak.worker.worker.CanStart
  | .start _ => next.call.isServing = false →
      ∀ speak ∈ engine.session, speak.worker.worker.isFaulted = true
  | _ => engine.call.isServing = true → next.call.isServing = false →
      ∀ speak ∈ next.session, speak.worker.worker.Recovers

/-- No exception leaves `Speak` while its request goes on in a session without a fault. -/
def ThrowsWhenOver (engine : Engine) : EngineAction → Prop
  | .speakThrows => engine.call.isServing = true → ∀ speak ∈ engine.session, speak.Over
  | _ => True

/-! ## The invariant -/

section Speak

variable {speak next : SpeakState} {action : SpeakAction} {events : List SpeakObservation}

theorem SpeakState.over_of_recovers (recovers : speak.worker.worker.Recovers) : speak.Over := by
  rcases recovers with can | faulted
  · exact .inl (RequestContext.not_isOpen_of_idle can.2.1)
  · exact .inr faulted

theorem SpeakState.Over.recovers (ended : speak.Over) (rested : speak.worker.worker.Rested) :
    speak.worker.worker.Recovers := by
  rcases ended with closed | faulted
  · exact rested.canStart_or_isFaulted closed
  · exact .inr faulted

/-- A request that is over stays so until a start. -/
theorem SpeakState.Over.step (ended : speak.Over) (invariant : WorkerInvariant speak.worker)
    (taken : SpeakStep speak action next events)
    (notStart : ∀ now speakId, action ≠ .start now speakId) : next.Over := by
  have settled := invariant.consistent.toSettled
  by_cases isOpen : speak.context.IsOpen
  · have faulted : speak.worker.worker.isFaulted = true := ended.resolve_left (not_not.mpr isOpen)
    rcases taken.worker_cases with ⟨step, -, stepped⟩ | ⟨same, -⟩
    · have publishing : PublishingFaulted speak.worker := by
        intro publisher
        rcases (invariant.publishing publisher).closed with idle | downstream
        · exact absurd isOpen (RequestContext.not_isOpen_of_idle idle)
        · exact downstream
      have allowed : NoErrorWhileFaulted speak.worker step := by
        cases step with
        | controlRecord =>
            intro downstream
            exact absurd isOpen (RequestContext.not_isOpen_of_faulted downstream)
        | _ => trivial
      exact .inr (isFaulted_step invariant publishing faulted allowed (step_spec stepped))
    · rw [SpeakState.Over, same]
      exact .inr faulted
  · exact .inl fun after => isOpen ((taken.fate settled notStart).isOpen after)

end Speak

/-- What holds while no exception leaves a request behind: between the calls, the request
of the session is over. -/
structure RecoveryInvariant (engine : Engine) : Prop where
  worker : ∀ speak ∈ engine.session, WorkerInvariant speak.worker
  rested : ∀ speak ∈ engine.session, speak.worker.worker.Rested
  sound : ∀ speak ∈ engine.session, speak.CallSound
  ended : ∀ speak ∈ engine.session, speak.call = .idle → speak.Over
  idle : engine.call.isServing = false → ∀ speak ∈ engine.session, speak.call = .idle

namespace RecoveryInvariant

variable {engine next kept : Engine} {action : EngineAction} {inner : SpeakAction}
  {speak after : SpeakState} {own events : List EngineObservation}
  {observed : List SpeakObservation}

theorem initial : RecoveryInvariant {} := by
  refine ⟨?_, ?_, ?_, ?_, ?_⟩
  all_goals
    intros
    contradiction

/-- A call that is not waiting for a request has none in the worker. -/
theorem recovers (invariant : RecoveryInvariant engine) (idle : engine.call.isServing = false)
    (session : engine.session = some speak) : speak.worker.worker.Recovers :=
  (invariant.ended speak session (invariant.idle idle speak session)).recovers
    (invariant.rested speak session)

/-- A step of the session leaves the request of an idle call over. -/
theorem ended_step (invariant : RecoveryInvariant engine) (session : engine.session = some speak)
    (taken : SpeakStep speak inner after observed) (idle : after.call = .idle) : after.Over := by
  have healthy := invariant.worker speak session
  have settled := healthy.consistent.toSettled
  have rested := invariant.rested speak session
  by_cases starts : ∃ now speakId, inner = .start now speakId
  · obtain ⟨now, speakId, rfl⟩ := starts
    cases taken with
    | started => cases idle
    | startRejected => exact invariant.ended speak session idle
  · have notStart (now speakId : ℕ) (same : inner = .start now speakId) : False :=
      starts ⟨now, speakId, same⟩
    by_cases serving : speak.call = .idle
    · exact (invariant.ended speak session serving).step healthy taken notStart
    · obtain ⟨result, returned⟩ := taken.returned serving idle
      exact SpeakState.over_of_recovers (taken.returnsSoundly (invariant.sound speak session) rested
        (taken.rested settled rested) settled returned serving).rests

theorem after_isServing {call : EngineCall} {worker : SpeakCall}
    (idle : (call.after worker).isServing = false) : call.isServing = false ∨ worker = .idle := by
  cases call with
  | serving speakId =>
      right
      by_contra busy
      simp [EngineCall.after, busy, EngineCall.isServing] at idle
  | _ => exact .inl rfl

/-- A call that is not waiting for a request after a step of the session has none. -/
theorem idle_step (invariant : RecoveryInvariant engine) (session : engine.session = some speak)
    (cause : SessionCause engine speak action inner kept own)
    (taken : SpeakStep speak inner after observed)
    (idle : (kept.call.after after.call).isServing = false) : after.call = .idle := by
  rcases after_isServing idle with notServing | ended
  · have notStart (now speakId : ℕ) (same : inner = .start now speakId) : False := by
      subst same
      cases cause with
      | started => cases notServing
      | worker isWorker => cases isWorker
    refine taken.call_idle notStart (invariant.idle ?_ speak session)
    cases cause with
    | started => cases notServing
    | worker | recordRead | audioRefused | wrote | eventIgnored | dispatched => exact notServing
  · exact ended

/-- **Every step that leaves no request behind keeps the invariant.** -/
theorem step (invariant : RecoveryInvariant engine) (allowed : ThrowsWhenOver engine action)
    (taken : EngineStep engine action next events) : RecoveryInvariant next := by
  cases taken with
  | @session _ _ speak after _ _ _ session cause taken =>
      have healthy := invariant.worker speak session
      have settled := healthy.consistent.toSettled
      refine ⟨?_, ?_, ?_, ?_, fun idle => ?_⟩
      · rintro _ ⟨⟩
        exact taken.workerInvariant healthy
      · rintro _ ⟨⟩
        exact taken.rested settled (invariant.rested speak session)
      · rintro _ ⟨⟩
        exact (invariant.sound speak session).step settled taken
      · rintro _ ⟨⟩
        exact invariant.ended_step session taken
      · rintro _ ⟨⟩
        exact invariant.idle_step session cause taken idle
  | spoken idle =>
      refine ⟨invariant.worker, invariant.rested, invariant.sound, invariant.ended, fun _ => ?_⟩
      exact invariant.idle (by rw [idle]; rfl)
  | called notServing =>
      refine ⟨invariant.worker, invariant.rested, invariant.sound, invariant.ended, fun _ => ?_⟩
      refine invariant.idle ?_
      cases here : engine.call with
      | serving speakId => exact absurd here (notServing speakId)
      | _ => rfl
  | joined =>
      refine ⟨?_, ?_, ?_, ?_, ?_⟩
      all_goals
        intros
        contradiction
  | created positive =>
      refine ⟨?_, ?_, ?_, ?_, fun _ => ?_⟩
      · rintro _ ⟨⟩
        exact .initial _ positive
      · rintro _ ⟨⟩
        exact .create _ positive
      · rintro _ ⟨⟩
        exact True.intro
      · rintro _ ⟨⟩ -
        exact .inl (RequestContext.not_isOpen_of_idle rfl)
      · rintro _ ⟨⟩
        rfl
  | @threw _ speak here session =>
      refine ⟨?_, ?_, ?_, ?_, fun _ => ?_⟩
      · rintro _ ⟨⟩
        exact invariant.worker speak session
      · rintro _ ⟨⟩
        exact invariant.rested speak session
      · rintro _ ⟨⟩
        exact True.intro
      · rintro _ ⟨⟩ -
        exact allowed (by rw [here]; rfl) speak session
      · rintro _ ⟨⟩
        rfl
  | left here | leftOther here =>
      refine ⟨invariant.worker, invariant.rested, invariant.sound, invariant.ended, fun _ => ?_⟩
      exact invariant.idle (by rw [here]; rfl)
  | audioSiteFetched | eventSiteFetched =>
      exact ⟨invariant.worker, invariant.rested, invariant.sound, invariant.ended, invariant.idle⟩

/-- A session that is reused accepts a request. -/
theorem canStart_of_active (invariant : RecoveryInvariant engine)
    (taken : engine.sessionActive = some (next, events)) (session : engine.session = some speak) :
    speak.worker.worker.CanStart := by
  unfold Engine.sessionActive at taken
  split at taken
  · next speakId here =>
      split at taken
      · next active =>
          simp only [Engine.isSessionActive, session, Bool.not_eq_true'] at active
          refine (invariant.recovers (by rw [here]; rfl) session).resolve_right ?_
          simp [active]
      · cases taken
  · cases taken

/-- Only a faulted worker rejects a request. -/
theorem faulted_of_rejected (invariant : RecoveryInvariant engine) {now : ℕ}
    (taken : engine.start now = some (next, events)) (rejected : next.call.isServing = false)
    (session : engine.session = some speak) : speak.worker.worker.isFaulted = true := by
  unfold Engine.start at taken
  split at taken
  · next speakId here =>
      obtain ⟨_, after, observed, found, stepped, rfl, -⟩ := stepSession_spec taken
      have same := session.symm.trans found
      cases same
      cases stepped with
      | started => cases rejected
      | startRejected _ cannot =>
          exact (invariant.recovers (by rw [here]; rfl) session).resolve_left cannot
  · cases taken

/-- **A step that leaves no request behind leaves the engine ready.** -/
theorem speakRecovers (invariant : RecoveryInvariant engine)
    (allowed : ThrowsWhenOver engine action) (taken : engine.step action = some (next, events)) :
    SpeakRecovers engine action next := by
  have after := invariant.step allowed (engineStep_spec taken)
  cases action with
  | sessionActive => exact fun speak session => invariant.canStart_of_active taken session
  | start => exact fun rejected speak session => invariant.faulted_of_rejected taken rejected session
  | _ => exact fun _ idle speak session => after.recovers idle session

end RecoveryInvariant

/-! ## The result -/

/-- **A call leaves the engine ready for later calls, exactly as long as no exception
leaves `Speak` while its request goes on in a session without a fault.** In a run in which
none does, every call that ends after its request was started leaves a worker that can
start or is faulted, a session that is reused accepts a request, and only a faulted worker
rejects one. -/
theorem speak_recovers_iff (actions : List EngineAction) :
    engineMachine.Along SpeakRecovers {} actions ↔
      engineMachine.Along (fun engine action _ => ThrowsWhenOver engine action) {} actions := by
  constructor
  · refine Machine.Along.of_invariant (fun _ => True) ?_ trivial
    rintro engine next action events - recovers taken
    refine ⟨?_, trivial⟩
    cases action with
    | speakThrows =>
        intro serving speak session
        have spec : EngineStep engine .speakThrows next events := engineStep_spec taken
        cases spec with
        | called notServing =>
            cases here : engine.call with
            | serving speakId => exact absurd here (notServing speakId)
            | _ =>
                rw [here] at serving
                cases serving
        | threw _ found =>
            rw [found] at session
            cases session
            have recovered := recovers serving rfl _ (Option.mem_some_self _)
            exact SpeakState.over_of_recovers recovered
        | session _ cause => cases cause
    | _ => trivial
  · refine Machine.Along.of_invariant RecoveryInvariant ?_ .initial
    intro engine next action events invariant allowed taken
    exact ⟨invariant.speakRecovers allowed taken, invariant.step allowed (engineStep_spec taken)⟩

/-- Sending the command of the first call throws after its request was started. The next
call reuses the session, and its request is rejected. -/
def dispatchThrows : List EngineAction :=
  [.createSession monoFormat, .speak, .sessionActive, .start 0, .speakThrows, .leave, .speak,
    .sessionActive, .start 10]

/-- **A call can leave a worker that no later call can use.** -/
theorem dispatch_throws :
    ¬∀ actions : List EngineAction, engineMachine.Along SpeakRecovers {} actions := by
  intro always
  have rejected := (always dispatchThrows).2.2.2.2.1 rfl rfl _ rfl
  rcases rejected with ⟨upstream, -, -⟩ | faulted
  · cases upstream
  · cases faulted

end ModernSapi
