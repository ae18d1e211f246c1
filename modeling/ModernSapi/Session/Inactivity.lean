import ModernSapi.Session.Session
import ModernSapi.Worker.Watchdog

/-!
# The provider and the inactivity watchdog

A session with a clock. Time passes in steps of their own, between any two steps of the
session, and a step of the session that asks for the tick is given the clock. Nothing
bounds how long SAPI keeps a thread in a callback or how long a thread is not run.

Two marks are kept: when data of the request last became available on a pipe, and when
the worker last took some in. The watchdog measures the second (`inactive_iff`), which
is the first only as long as the worker reads. The audio thread does not while SAPI holds
it in `Write`: `held_provider_blamed` is a provider with bytes on the pipe all the time,
and a session that is quarantined for its silence. `provider_not_blamed` is the condition
under which no provider that keeps the pipes supplied is blamed.
-/

set_option autoImplicit false

namespace ModernSapi

open Interleaving SpeechStatePolicy SpeechWorker

/-! ## The ticks of the steps -/

/-- The tick a step asks for. -/
def SpeakAction.now? : SpeakAction → Option ℕ
  | .thread action => action.now?
  | .start now _ | .waitTimesOut now | .abortObserved now | .drainTimesOut now => some now
  | _ => none

def SessionAction.now? : SessionAction → Option ℕ
  | .speak now | .readAudio now _ | .failAssembly now _ | .readControl now => some now
  | .engine action => action.now?
  | _ => none

/-! ## The data of a request -/

instance (worker : SpeechWorker) : Decidable worker.CanStart :=
  inferInstanceAs (Decidable (_ ∧ _ ∧ _))

namespace Session

/-- A byte of the request is on the audio pipe. -/
def AudioUnread (session : Session) : Prop :=
  ∃ byte ∈ session.audioPipe, byte.1 = session.context.token.speakId

/-- A byte or a valid record of the request waits on its pipe. -/
def Unread (session : Session) : Prop :=
  session.AudioUnread ∨
    ∃ event ∈ session.controlPipe, event.IsProgressOf session.context.token.speakId

/-- The step makes data of the request available. -/
def Supplies (session : Session) : SessionAction → Prop
  | .commit speakId bytes => speakId = session.context.token.speakId ∧ bytes ≠ []
  | .send event => event.IsProgressOf session.context.token.speakId
  | _ => False

/-- When the step takes in bytes or a valid record of the request. -/
def takesIn (session : Session) : SessionAction → Option ℕ
  | .readAudio now _ | .failAssembly now _ => some now
  | .readControl now =>
      match session.controlPipe with
      | [] => none
      | event :: _ =>
          if event.IsProgressOf session.context.token.speakId then some now else none
  | _ => none

/-- The step starts a request. -/
def Opens (session : Session) : SessionAction → Prop
  | .speak _ => session.worker.CanStart
  | _ => False

instance (session : Session) : Decidable session.AudioUnread :=
  inferInstanceAs (Decidable (∃ byte ∈ session.audioPipe, _))

instance (session : Session) : Decidable session.Unread :=
  inferInstanceAs (Decidable (_ ∨ ∃ event ∈ session.controlPipe, _))

instance (session : Session) : DecidablePred session.Supplies
  | .commit _ _ => inferInstanceAs (Decidable (_ ∧ _))
  | .send event =>
      inferInstanceAs (Decidable (event.IsProgressOf session.context.token.speakId))
  | .speak _ | .engine _ | .readAudio .. | .failAssembly .. | .readControl _ | .receive =>
      .isFalse id

instance (session : Session) : DecidablePred session.Opens
  | .speak _ => inferInstanceAs (Decidable session.worker.CanStart)
  | .engine _ | .readAudio .. | .failAssembly .. | .readControl _ | .receive | .commit ..
  | .send _ => .isFalse id

end Session

/-! ## A session with a clock -/

/-- A session, the clock, and the marks of the request. The start of a request counts
for both. -/
structure TimedSession where
  session : Session
  clock : ℕ := 0
  lastArrival : ℕ := 0
  lastTaken : ℕ := 0

inductive TimedAction where
  | elapse (ms : ℕ)
  | session (action : SessionAction)
  deriving DecidableEq

namespace TimedSession

def initial (blockAlign : ℕ) (positive : 0 < blockAlign) : TimedSession where
  session := .initial blockAlign positive

/-- A step of the session at the time of the clock. -/
def act (timed : TimedSession) (action : SessionAction) :
    Option (TimedSession × List SessionObservation) :=
  if action.now?.getD timed.clock = timed.clock then
    match timed.session.step action with
    | some (session, events) =>
        let opens := timed.session.Opens action
        some ({ timed with
          session
          lastArrival :=
            if opens ∨ timed.session.Supplies action then timed.clock else timed.lastArrival
          lastTaken :=
            if opens ∨ (timed.session.takesIn action).isSome = true then timed.clock
            else timed.lastTaken }, events)
    | none => none
  else none

def step (timed : TimedSession) : TimedAction → Option (TimedSession × List SessionObservation)
  | .elapse ms => some ({ timed with clock := timed.clock + ms }, [])
  | .session action => timed.act action

/-- The request is spoken. -/
abbrev Speaking (timed : TimedSession) : Prop :=
  timed.session.context.downstreamState = .speaking

/-- What the watchdog decides at a tick. -/
abbrev timeouts (timed : TimedSession) (now : ℕ) : TimeoutDecision :=
  evaluateTimeouts timed.session.context now timed.session.worker.lastProviderProgressTick
    synthesisInactivityTimeoutMs

/-- **The provider is not silent**: while time passes, a byte of the request is on the
audio pipe, or less than the inactivity timeout has passed since a byte or a valid record
of it became available. -/
def Supplied (timed : TimedSession) : TimedAction → Prop
  | .elapse ms => timed.Speaking →
      timed.session.AudioUnread ∨
        timed.clock + ms < timed.lastArrival + synthesisInactivityTimeoutMs
  | .session _ => True

/-- **The worker keeps reading**: while time passes and data of the request waits unread,
less than the inactivity timeout has passed since the worker took some in. -/
def KeepsReading (timed : TimedSession) : TimedAction → Prop
  | .elapse ms => timed.Speaking → timed.session.Unread →
      timed.clock + ms < timed.lastTaken + synthesisInactivityTimeoutMs
  | .session _ => True

/-- Only SAPI keeps a thread from its pipe while time passes. -/
def HeldBySapi (timed : TimedSession) : TimedAction → Prop
  | .elapse _ =>
      (timed.session.audioPipe ≠ [] →
        match timed.session.speak.worker.audio with
        | .onAudioData .. => True
        | _ => False) ∧
      (timed.session.controlPipe ≠ [] →
        match timed.session.speak.worker.control with
        | .onSpeechEvent .. => True
        | _ => False)
  | .session _ => True

instance (timed : TimedSession) : DecidablePred timed.Supplied
  | .elapse _ => inferInstanceAs (Decidable (_ → _ ∨ _))
  | .session _ => .isTrue trivial

instance (timed : TimedSession) : DecidablePred timed.KeepsReading
  | .elapse _ => inferInstanceAs (Decidable (_ → _ → _))
  | .session _ => .isTrue trivial

instance (timed : TimedSession) : DecidablePred timed.HeldBySapi
  | .elapse _ => by
      unfold HeldBySapi
      cases timed.session.speak.worker.audio <;> cases timed.session.speak.worker.control <;>
        infer_instance
  | .session _ => .isTrue trivial

end TimedSession

/-- The machine of a session with a clock. -/
def timedMachine : Machine TimedSession TimedAction SessionObservation where
  init timed := ∃ blockAlign positive, timed = .initial blockAlign positive
  step := TimedSession.step

/-! ## The steps of a request that is spoken -/

section Steps

variable {session next : Session} {action : SessionAction} {events : List SessionObservation}

theorem Session.takesIn_now {now : ℕ} (takes : session.takesIn action = some now) :
    action.now? = some now := by
  cases action with
  | readAudio | failAssembly => exact takes
  | readControl tick =>
      simp only [Session.takesIn] at takes
      split at takes
      · cases takes
      · split at takes
        · exact takes
        · cases takes
  | _ => cases takes

/-- A start takes the tick it is given for that of the last progress. -/
theorem SessionStep.opened (taken : SessionStep session action next events)
    (opens : session.Opens action) :
    action.now? = some next.worker.lastProviderProgressTick := by
  cases taken with
  | spoken taken =>
      cases taken with
      | started => rfl
      | startRejected _ cannot => exact absurd opens cannot
  | audioRead reads =>
      obtain ⟨now, ⟨rfl, -⟩ | ⟨rfl, -⟩⟩ := reads
      · exact opens.elim
      · exact opens.elim
  | _ => exact opens.elim

/-- **Between two starts**, a request that is spoken was spoken before, and its last
progress is what the step took in, if anything. -/
theorem SessionStep.speaksOn (taken : SessionStep session action next events)
    (notOpens : ¬session.Opens action) (speaking : next.context.downstreamState = .speaking) :
    session.context.downstreamState = .speaking ∧ next.context.token = session.context.token ∧
      next.worker.lastProviderProgressTick =
        (session.takesIn action).getD session.worker.lastProviderProgressTick := by
  cases taken with
  | spoken taken =>
      cases taken with
      | started _ can => exact absurd can notOpens
      | startRejected => exact ⟨speaking, rfl, rfl⟩
  | @moved action _ _ internal taken =>
      have notStart (now speakId : ℕ) : action ≠ .start now speakId := by
        rintro rfl
        cases internal
      rcases taken.worker_cases with ⟨step, here, stepped⟩ | ⟨same, -⟩
      · obtain ⟨before, token, tick⟩ := (step_spec stepped).speaksOn
          (fun now speakId same => taken.not_start notStart (same ▸ here)) speaking
        refine ⟨before, token, tick.trans ?_⟩
        have silent := taken.internal_worker internal here
        cases step with
        | audioChunk | frameAssemblyFails | controlRecord => cases silent
        | _ => rfl
      · simp only [Session.context, Session.worker, SpeakState.context] at speaking ⊢
        rw [same] at speaking ⊢
        exact ⟨speaking, rfl, rfl⟩
  | audioRead reads _ _ stepped =>
      obtain ⟨now, ⟨rfl, rfl⟩ | ⟨rfl, rfl⟩⟩ := reads
      · exact (step_spec stepped).speaksOn nofun speaking
      · exact (step_spec stepped).speaksOn nofun speaking
  | recordRead pipe stepped =>
      obtain ⟨before, token, tick⟩ := (step_spec stepped).speaksOn nofun speaking
      refine ⟨before, token, tick.trans ?_⟩
      rw [Session.takesIn, pipe]
      rfl
  | received | committed | sent => exact ⟨speaking, rfl, rfl⟩

/-- What is supplied waits on its pipe. -/
theorem SessionStep.supplied (taken : SessionStep session action next events)
    (supplies : session.Supplies action) : next.Unread := by
  cases taken with
  | @committed speakId bytes =>
      obtain ⟨matching, nonempty⟩ := supplies
      obtain ⟨byte, rest, rfl⟩ := List.exists_cons_of_ne_nil nonempty
      refine .inl ⟨(speakId, byte), List.mem_append_right _ ?_, matching⟩
      exact List.mem_map_of_mem List.mem_cons_self
  | @sent event =>
      exact .inr ⟨event, List.mem_append_right _ (List.mem_singleton_self _), supplies⟩
  | audioRead reads =>
      obtain ⟨now, ⟨rfl, -⟩ | ⟨rfl, -⟩⟩ := reads
      · exact supplies.elim
      · exact supplies.elim
  | _ => exact supplies.elim

/-- What waits is there until the worker takes something in. -/
theorem SessionStep.unread (taken : SessionStep session action next events)
    (token : next.context.token = session.context.token) (none : session.takesIn action = none)
    (unread : session.Unread) : next.Unread := by
  unfold Session.Unread Session.AudioUnread at unread ⊢
  rw [token]
  cases taken with
  | spoken | moved | received => exact unread
  | audioRead reads =>
      obtain ⟨now, ⟨rfl, -⟩ | ⟨rfl, -⟩⟩ := reads
      · cases none
      · cases none
  | @recordRead now event rest _ _ pipe =>
      refine unread.imp id ?_
      rintro ⟨waiting, member, progress⟩
      refine ⟨waiting, ?_, progress⟩
      rw [pipe] at member
      refine (List.mem_cons.mp member).resolve_left ?_
      rintro rfl
      simp [Session.takesIn, pipe, progress] at none
  | committed =>
      refine unread.imp_left ?_
      rintro ⟨byte, member, matching⟩
      exact ⟨byte, List.mem_append_left _ member, matching⟩
  | sent =>
      refine unread.imp_right ?_
      rintro ⟨waiting, member, progress⟩
      exact ⟨waiting, List.mem_append_left _ member, progress⟩

end Steps

/-! ## The marks -/

section Marks

variable {timed next : TimedSession} {action : TimedAction}
  {guard : TimedSession → TimedAction → Prop} {trace events : List SessionObservation}

/-- The marks are in the past, the watchdog counts from what was last taken in, and nothing
that arrived later is missing from the pipes. -/
structure TimedSession.Metered (timed : TimedSession) : Prop where
  arrived : timed.lastArrival ≤ timed.clock
  taken : timed.lastTaken ≤ timed.clock
  measured : timed.Speaking →
    timed.session.worker.lastProviderProgressTick = timed.lastTaken
  heard : timed.Speaking → ¬timed.session.Unread → timed.lastArrival ≤ timed.lastTaken

/-- The cases of a step of the session at the time of the clock. -/
theorem TimedSession.act_cases {action : SessionAction}
    (stepped : timed.act action = some (next, events)) :
    SessionStep timed.session action next.session events ∧ next.clock = timed.clock ∧
      (∀ now, action.now? = some now → now = timed.clock) ∧
      ((timed.session.Opens action ∧ next.lastArrival = timed.clock ∧
          next.lastTaken = timed.clock) ∨
        (¬timed.session.Opens action ∧
          next.lastArrival =
            (if timed.session.Supplies action then timed.clock else timed.lastArrival) ∧
          next.lastTaken =
            if (timed.session.takesIn action).isSome = true then timed.clock
            else timed.lastTaken)) := by
  unfold TimedSession.act at stepped
  split at stepped
  · next onTime =>
      split at stepped
      · next taken =>
          cases stepped
          refine ⟨sessionStep_spec taken, rfl, ?_, ?_⟩
          · intro now asked
            rw [asked] at onTime
            exact onTime
          · by_cases opens : timed.session.Opens action
            · exact .inl ⟨opens, if_pos (.inl opens), if_pos (.inl opens)⟩
            · exact .inr ⟨opens, if_congr (or_iff_right opens) rfl rfl,
                if_congr (or_iff_right opens) rfl rfl⟩
      · cases stepped
  · cases stepped

theorem TimedSession.Metered.act {action : SessionAction} (metered : timed.Metered)
    (stepped : timed.act action = some (next, events)) : next.Metered := by
  obtain ⟨taken, clock, onTime, ⟨opens, arrival, mark⟩ | ⟨notOpens, arrival, mark⟩⟩ :=
    TimedSession.act_cases stepped
  · refine ⟨by omega, by omega, fun _ => ?_, fun _ _ => by omega⟩
    rw [mark]
    exact onTime _ (taken.opened opens)
  · have arrived : next.lastArrival ≤ timed.clock := by
      rw [arrival]
      split
      · exact Nat.le_refl _
      · exact metered.arrived
    cases takes : timed.session.takesIn action with
    | some now =>
        rw [takes, Option.isSome_some, if_pos rfl] at mark
        refine ⟨by omega, by omega, fun speaking => ?_, fun _ _ => by omega⟩
        obtain ⟨-, -, tick⟩ := taken.speaksOn notOpens speaking
        rw [tick, takes, mark]
        exact onTime now (Session.takesIn_now takes)
    | none =>
        rw [takes, Option.isSome_none, if_neg Bool.false_ne_true] at mark
        refine ⟨by omega, ?_, fun speaking => ?_, fun speaking allRead => ?_⟩
        · rw [mark, clock]
          exact metered.taken
        · obtain ⟨before, -, tick⟩ := taken.speaksOn notOpens speaking
          rw [tick, takes, mark]
          exact metered.measured before
        · obtain ⟨before, token, -⟩ := taken.speaksOn notOpens speaking
          have notSupplied : ¬timed.session.Supplies action :=
            fun supplies => allRead (taken.supplied supplies)
          rw [arrival, if_neg notSupplied, mark]
          exact metered.heard before fun unread => allRead (taken.unread token takes unread)

theorem TimedSession.Metered.step (metered : timed.Metered)
    (stepped : timed.step action = some (next, events)) : next.Metered := by
  cases action with
  | elapse ms =>
      cases stepped
      exact ⟨Nat.le_add_right_of_le metered.arrived, Nat.le_add_right_of_le metered.taken,
        metered.measured, metered.heard⟩
  | session action => exact metered.act stepped

theorem timed_metered (reached : timedMachine.Reaches guard trace timed) : timed.Metered := by
  refine reached.induct (motive := fun _ timed => timed.Metered) ?_ ?_
  · rintro _ ⟨blockAlign, positive, rfl⟩
    exact ⟨Nat.le_refl _, Nat.le_refl _, nofun, nofun⟩
  · intro _ _ _ _ _ _ metered _ taken
    exact metered.step taken

/-- **The session of a run with a clock runs.** -/
theorem timed_reaches_session (reached : timedMachine.Reaches guard trace timed) :
    sessionMachine.Reaches Machine.anyStep trace timed.session := by
  obtain ⟨start, ⟨blockAlign, positive, rfl⟩, run⟩ := reached
  refine ⟨_, ⟨blockAlign, positive, rfl⟩, ?_⟩
  refine run.project TimedSession.session id rfl (fun _ _ => rfl) ?_
  intro _ _ _ _ action _ _ taken
  cases action with
  | elapse ms =>
      cases taken
      exact .refl
  | session action =>
      simp only [timedMachine, TimedSession.step, TimedSession.act] at taken
      split at taken
      · split at taken
        · next stepped =>
            cases taken
            exact .single trivial stepped
        · cases taken
      · cases taken

end Marks

/-! ## Who is blamed -/

section Blame

variable {timed : TimedSession} {guard : TimedSession → TimedAction → Prop}
  {trace : List SessionObservation}

/-- Nothing times out while a request is spoken and its last progress is recent. -/
theorem RequestContext.evaluateTimeouts_recent {context : RequestContext}
    (speaking : context.downstreamState = .speaking) {now lastProgress timeout : ℕ}
    (recent : now < lastProgress + timeout) :
    (evaluateTimeouts context now lastProgress timeout).condition = .none := by
  unfold evaluateTimeouts
  rw [if_neg (by simp [isDrainingCancellation, speaking]), if_neg (by omega)]

/-- **The watchdog measures what the worker takes in**: in every run, a request that is
spoken is found inactive exactly when the worker has taken in nothing of it for the
inactivity timeout. -/
theorem inactive_iff (reached : timedMachine.Reaches guard trace timed)
    (speaking : timed.Speaking) :
    (timed.timeouts timed.clock).condition = .inactivityTimeout ↔
      timed.lastTaken + synthesisInactivityTimeoutMs ≤ timed.clock := by
  have metered := timed_metered reached
  have measured := metered.measured speaking
  have taken := metered.taken
  constructor
  · intro inactive
    by_contra recent
    rw [TimedSession.timeouts,
      RequestContext.evaluateTimeouts_recent speaking (by omega)] at inactive
    cases inactive
  · intro late
    have ran : workerMachine.Reaches Machine.anyStep (sessionEvents _) timed.session.speak.worker :=
      reaches_worker (timed_reaches_session reached) fun _ _ => trivial
    have settled := (workerInvariant ran).consistent.toSettled
    have watched : timed.session.context.isActivelySynthesizing = true ∨
        timed.session.context.isAwaitingTerminalAudio = true := by
      cases finished : timed.session.context.upstreamFinished with
      | true => exact .inr (by simp [RequestContext.isAwaitingTerminalAudio, finished, speaking])
      | false =>
          exact .inl (by
            simp [RequestContext.isActivelySynthesizing, settled.active speaking finished])
    unfold TimedSession.timeouts evaluateTimeouts
    rw [if_neg (by simp [RequestContext.isDrainingCancellation, speaking]),
      if_pos ⟨watched, by omega, by omega⟩]

/-- A provider that supplies the request, and a worker that keeps reading. -/
theorem lastTaken_recent
    (reached : timedMachine.Reaches
      (fun timed action => timed.Supplied action ∧ timed.KeepsReading action) trace timed)
    (speaking : timed.Speaking) :
    timed.clock < timed.lastTaken + synthesisInactivityTimeoutMs := by
  refine reached.induct (motive := fun _ timed => timed.Speaking →
    timed.clock < timed.lastTaken + synthesisInactivityTimeoutMs) ?_ ?_ speaking
  · rintro _ ⟨blockAlign, positive, rfl⟩ spoken
    cases spoken
  · rintro _ _ timed next action before recent ⟨supplied, keepsReading⟩ taken spoken
    cases action with
    | elapse ms =>
        cases taken
        by_cases unread : timed.session.Unread
        · exact keepsReading spoken unread
        · have heard := (timed_metered before).heard spoken unread
          rcases supplied spoken with waiting | arrived
          · exact absurd (.inl waiting) unread
          · exact Nat.lt_of_lt_of_le arrived (Nat.add_le_add_right heard _)
    | session action =>
        have positive : 0 < synthesisInactivityTimeoutMs := by decide
        obtain ⟨stepped, clock, -, ⟨-, -, mark⟩ | ⟨notOpens, -, mark⟩⟩ :=
          TimedSession.act_cases taken
        · omega
        · rw [mark, clock]
          split
          · omega
          · exact recent (stepped.speaksOn notOpens spoken).1

/-- **No provider that keeps the pipes supplied is blamed** for silence, as long as the
worker takes in some of the data that waits within every inactivity timeout: at no tick
does `evaluateTimeouts` find the spoken request inactive, and the wait does not end. -/
theorem provider_not_blamed
    (reached : timedMachine.Reaches
      (fun timed action => timed.Supplied action ∧ timed.KeepsReading action) trace timed)
    (speaking : timed.Speaking) {now : ℕ} (past : now ≤ timed.clock) :
    (timed.timeouts now).condition ≠ .inactivityTimeout ∧
      timed.session.speak.step (.waitTimesOut now) = none := by
  have recent := lastTaken_recent reached speaking
  have measured := (timed_metered reached).measured speaking
  have none := RequestContext.evaluateTimeouts_recent speaking
    (show now < timed.session.worker.lastProviderProgressTick + synthesisInactivityTimeoutMs by
      omega)
  constructor
  · rw [TimedSession.timeouts, none]
    exact nofun
  · have stays : ¬(timed.timeouts now).condition ≠ .none := not_not_intro none
    rw [SpeakState.step, SpeakState.waitTimesOut, if_neg fun ready => stays ready.2.2]

end Blame

/-- Three chunks, the first two in `Write` for 1400 ms each. -/
def slowConsumer : List TimedAction :=
  [.session (.speak 0), .session (.engine (.dispatched .sOk)), .session .receive,
    .session (.commit 1 [1, 2, 3, 4, 5, 6]), .session (.readAudio 0 2),
    .session (.engine (.thread .spanAdmission)), .elapse 1400,
    .session (.engine (.thread (.onAudioDataReturns true))),
    .session (.engine (.thread .spanAdmission)),
    .session (.engine (.thread (.batchOutcome 1400))), .session (.readAudio 1400 2),
    .session (.engine (.thread .spanAdmission)), .elapse 1400]

theorem provider_not_blamed_slow :
    let timed := timedMachine.finalState (.initial 2 (by decide)) slowConsumer
    timed.clock = 2800 ∧ (timed.timeouts timed.clock).condition ≠ .inactivityTimeout :=
  ⟨by decide, (provider_not_blamed ⟨_, ⟨_, _, rfl⟩,
    timedMachine.run_finalState (.initial 2 (by decide)) slowConsumer (by decide) (by decide)⟩
    (by decide) (Nat.le_refl _)).1⟩

/-- Two chunks, the second on the pipe while SAPI keeps the audio thread in `Write`. -/
def pausedConsumer : List TimedAction :=
  [.session (.speak 0), .session (.engine (.dispatched .sOk)), .session .receive,
    .session (.commit 1 [1, 2, 3, 4]), .session (.readAudio 0 2),
    .session (.engine (.thread .spanAdmission)), .elapse 1500]

/-- A provider with bytes on the pipe all the time is blamed, in a run in which only SAPI
keeps a thread from its pipe. -/
theorem held_provider_blamed :
    ¬∀ trace timed,
      timedMachine.Reaches
        (fun timed action => timed.Supplied action ∧ timed.HeldBySapi action) trace timed →
      timed.Speaking → (timed.timeouts timed.clock).condition ≠ .inactivityTimeout := by
  intro never
  refine never _ _ ⟨_, ⟨2, by decide, rfl⟩,
    timedMachine.run_finalState (.initial 2 (by decide)) pausedConsumer ?_ ?_⟩ ?_ ?_
  · decide
  · decide
  · decide
  · decide

end ModernSapi
