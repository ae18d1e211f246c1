import ModernSapi.Session.Lifecycle

/-!
# Cancellations that get stuck

A provider ignores a cancel that reaches it after the final declared byte, since the
completion it has sent already ends the request. That holds as long as the engine
still knows of the completion. `TransitionToCancelling` clears `upstreamFinished`, so
an engine that has processed the completion and then starts to cancel waits for a
second terminal record, which such a provider does not send.

The result is that this is the only way to get stuck.
-/

set_option autoImplicit false

namespace ModernSapi

open Interleaving SpeechWorker

/-- The engine cancels a request whose declared completion it has forgotten. -/
def RequestContext.CompletionForgotten (context : RequestContext) : Prop :=
  context.downstreamState = .cancelling ∧ context.upstreamFinished = false ∧
    context.upstreamState = .completed

instance (context : RequestContext) : Decidable context.CompletionForgotten :=
  inferInstanceAs (Decidable (_ ∧ _ ∧ _))

namespace Session

/-- The engine cancels the request and has forgotten its completion. -/
def Forgets (session : Session) (speakId : ℕ) : Prop :=
  speakId = session.context.token.speakId ∧ session.context.CompletionForgotten

instance (session : Session) (speakId : ℕ) : Decidable (session.Forgets speakId) :=
  inferInstanceAs (Decidable (_ ∧ _))

/-- The request whose cancel the provider takes in a step. -/
def cancelTaken (session : Session) : SessionAction → Option ℕ
  | .receive =>
      match session.commandPipe with
      | .cancel speakId :: _ => some speakId
      | _ => none
  | _ => none

/-- The provider has nothing left to send for the request, it has taken the cancel, both
pipes are empty, and the worker is still in `Cancelling`. -/
def StuckCancelling (session : Session) : Prop :=
  session.context.downstreamState = .cancelling ∧ session.request.IsOver ∧
    session.request.cancelConsumed = true ∧ session.controlPipe = [] ∧ session.audioPipe = []

instance (session : Session) : Decidable session.StuckCancelling :=
  inferInstanceAs (Decidable (_ ∧ _ ∧ _ ∧ _ ∧ _))

end Session

/-- The provider follows the lifecycle, and no cancel reaches it after the final declared
byte of a request whose completion the engine has forgotten. -/
def FollowsLifecycleRemembered (session : Session) (action : SessionAction) : Prop :=
  FollowsLifecycle session action ∧
    ∀ speakId ∈ session.cancelTaken action,
      (session.provider speakId).Drained → ¬session.Forgets speakId

instance (session : Session) : DecidablePred (FollowsLifecycleRemembered session) :=
  fun _ => inferInstanceAs (Decidable (_ ∧ _))

/-- A cancel that the provider has ignored meets an engine that knows of the
completion. -/
def CompletionRemembered (session : Session) : Prop :=
  session.request.cancelConsumed = true →
    ∀ total, session.request.phase = .completionDeclared total →
      ¬session.context.CompletionForgotten

theorem RequestMove.completionForgotten {before after : RequestContext}
    (moved : RequestMove before after) (forgotten : after.CompletionForgotten) :
    before.CompletionForgotten ∨ before.downstreamState = .speaking := by
  obtain ⟨cancelling, unfinished, completed⟩ := forgotten
  cases moved with
  | kept keeps =>
      left
      exact ⟨keeps.downstream.symm.trans cancelling, keeps.finished.symm.trans unfinished,
        keeps.upstream.symm.trans completed⟩
  | ended _ _ _ _ idle =>
      rw [idle] at cancelling
      cases cancelling
  | cancelled speaking => exact .inr speaking
  | faulted faulted =>
      rw [faulted] at cancelling
      cases cancelling

section Phases

variable {request : RequestSession} {event : ProviderControlEvent}

theorem RequestSession.declare_phase_of_not_active {total : ℕ}
    (other : request.phase ≠ .completionDeclared total ∧ request.phase ≠ .active) :
    (request.declare event).phase ≠ .completionDeclared total ∧
      (request.declare event).phase ≠ .active := by
  unfold RequestSession.declare
  cases phase : request.phase with
  | active => exact absurd phase other.2
  | cancelling =>
      simp only
      split <;> simp
  | completionDeclared => simpa [phase] using other
  | unknown | cancelled => simp

theorem RequestSession.Lived.none_of_active (lived : request.Lived)
    (active : request.phase = .active) : request.terminals = [] := by
  cases lived with
  | active _ none => exact none
  | unknown phase | declared phase | cancelling phase | cancelled phase =>
      rw [active] at phase
      cases phase

/-- A request that is over has sent a terminal record. -/
theorem RequestSession.IsOver.sent (isOver : request.IsOver) (lived : request.Lived) :
    request.terminals ≠ [] := by
  intro none
  cases lived with
  | unknown phase | active phase | cancelling phase =>
      rcases isOver.phase_cases with cancelled | ⟨_, declared, -⟩
      · rw [phase] at cancelled
        cases cancelled
      · rw [phase] at declared
        cases declared
  | declared _ _ one =>
      rw [one] at none
      cases none
  | cancelled _ _ _ _ sent =>
      rcases sent with one | ⟨_, -, two⟩
      · rw [one] at none
        cases none
      · rw [two] at none
        cases none

/-- A request that is over after its completion alone has drained. -/
theorem RequestSession.IsOver.completion_sent (isOver : request.IsOver) (lived : request.Lived)
    (complete : event.type = .synthesisComplete) (sent : request.terminals = [event]) :
    request.phase = .completionDeclared event.terminalAudioBytes ∧
      event.terminalAudioBytes ≤ request.committed := by
  cases lived with
  | unknown phase none | active phase none =>
      rw [none] at sent
      cases sent
  | declared phase _ one =>
      rw [one, List.cons.injEq] at sent
      obtain ⟨rfl, -⟩ := sent
      rcases isOver.phase_cases with cancelled | ⟨total, declared, drained⟩
      · rw [phase] at cancelled
        cases cancelled
      · rw [phase] at declared
        cases declared
        exact ⟨phase, drained⟩
  | cancelling phase =>
      rcases isOver.phase_cases with cancelled | ⟨_, declared, -⟩
      · rw [phase] at cancelled
        cases cancelled
      · rw [phase] at declared
        cases declared
  | cancelled _ _ acknowledges _ sentSoFar =>
      rcases sentSoFar with one | ⟨_, -, two⟩
      · rw [one, List.cons.injEq] at sent
        obtain ⟨rfl, -⟩ := sent
        rw [complete] at acknowledges
        cases acknowledges
      · rw [two] at sent
        cases sent

/-- The provider has sent the completion that the engine has forgotten. -/
theorem LifecycleInvariant.sent_of_forgotten {session : Session}
    (invariant : LifecycleInvariant session) (forgotten : session.context.CompletionForgotten) :
    session.request.terminals ≠ [] := by
  obtain ⟨cancelling, unfinished, completed⟩ := forgotten
  cases invariant.heard (.inr cancelling) with
  | nothing _ upstream =>
      rw [completed] at upstream
      cases upstream
  | completion finished | acknowledged finished =>
      rw [unfinished] at finished
      cases finished
  | forgotten _ _ _ sent => simp [sent]

end Phases

namespace CompletionRemembered

variable {session next : Session} {action : SessionAction} {speak : SpeakState}
  {events : List SessionObservation}

theorem of_not_cancelling (other : session.context.downstreamState ≠ .cancelling) :
    CompletionRemembered session :=
  fun _ _ _ forgotten => other forgotten.1

/-- The request moves. A speaking request is not being cancelled. -/
theorem move (remembered : CompletionRemembered session)
    (invariant : LifecycleInvariant session) {context : RequestContext}
    (moved : RequestMove context next.context) (provider : next.provider = session.provider)
    (token : context.token = session.context.token)
    (downstream : context.downstreamState = session.context.downstreamState)
    (read : context.CompletionForgotten → session.context.CompletionForgotten) :
    CompletionRemembered next := by
  have same : next.context.token = session.context.token := moved.token.trans token
  intro consumed total phase forgotten
  rw [Session.request, provider, same] at consumed phase
  rcases moved.completionForgotten forgotten with before | speaking
  · exact remembered consumed total phase (read before)
  · exact invariant.uncancelled (downstream.symm.trans speaking) (.inr (.inr (.inr consumed)))

/-- The provider takes a command. -/
theorem received {command : Command} {rest : List Command} {speakId : ℕ}
    {update : RequestSession → RequestSession} (remembered : CompletionRemembered session)
    (allowed : FollowsLifecycleRemembered session .receive)
    (pipe : session.commandPipe = command :: rest)
    (receives : (command = .sapiSpeak speakId ∧ update = .receiveSpeak) ∨
      (command = .cancel speakId ∧ update = .receiveCancel)) :
    CompletionRemembered
      { session with
        commandPipe := rest, provider := updateRequest session.provider speakId update } := by
  intro consumed total phase forgotten
  change (updateRequest session.provider speakId update
    session.context.token.speakId).cancelConsumed = true at consumed
  change (updateRequest session.provider speakId update
    session.context.token.speakId).phase = .completionDeclared total at phase
  by_cases same : session.context.token.speakId = speakId
  · rw [same, updateRequest_same] at consumed phase
    rcases receives with ⟨-, rfl⟩ | ⟨rfl, rfl⟩
    · have before : (session.provider speakId).phase = .completionDeclared total := by
        unfold RequestSession.receiveSpeak at phase
        by_cases unknown : (session.provider speakId).phase = .unknown
        · simp [unknown] at phase
        · simpa [unknown] using phase
      rw [← same] at consumed before
      exact remembered consumed total before forgotten
    · have taken : session.cancelTaken .receive = some speakId := by
        simp [Session.cancelTaken, pipe]
      refine allowed.2 speakId (by simp [taken]) ?_ ⟨same.symm, forgotten⟩
      unfold RequestSession.receiveCancel at phase
      cases before : (session.provider speakId).phase with
      | completionDeclared declared =>
          simp only [before] at phase
          split at phase
          · cases phase
          · next drained =>
              exact (RequestSession.drained_of_phase before).mpr (Nat.le_of_not_lt drained)
      | unknown | active | cancelling | cancelled =>
          simp only [before] at phase
          cases phase
  · rw [updateRequest_other same] at consumed phase
    exact remembered consumed total phase forgotten

/-- The provider commits bytes. -/
theorem committed {speakId : ℕ} {bytes : List UInt8} (remembered : CompletionRemembered session) :
    CompletionRemembered (session.commit speakId bytes) := by
  have kept : (session.commit speakId bytes).request.cancelConsumed =
        session.request.cancelConsumed ∧
      (session.commit speakId bytes).request.phase = session.request.phase :=
    updateRequest_imp (motive := fun request =>
      request.cancelConsumed = session.request.cancelConsumed ∧
        request.phase = session.request.phase) _ (fun _ same => same) ⟨rfl, rfl⟩
  obtain ⟨consumedSame, phaseSame⟩ := kept
  intro consumed total phase forgotten
  exact remembered (consumedSame.symm.trans consumed) total (phaseSame.symm.trans phase) forgotten

/-- The provider sends a record. A completion is the first record of the request, so the
engine has not heard of one. -/
theorem sent {event : ProviderControlEvent} (remembered : CompletionRemembered session)
    (invariant : LifecycleInvariant session) : CompletionRemembered (session.send event) := by
  intro consumed total phase forgotten
  have kept : session.request.cancelConsumed = true := by
    by_contra not
    exact Session.send_imp (motive := fun request => ¬request.cancelConsumed = true) event
      session.context.token.speakId (fun _ not => not) not consumed
  by_cases declared : session.request.phase = .completionDeclared total
  · exact remembered kept total declared forgotten
  · have active : session.request.phase = .active := by
      by_contra other
      refine (Session.send_imp (motive := fun request =>
        request.phase ≠ .completionDeclared total ∧ request.phase ≠ .active) event
        session.context.token.speakId ?_ ⟨declared, other⟩).1 phase
      exact fun request => RequestSession.declare_phase_of_not_active
    exact invariant.sent_of_forgotten forgotten ((invariant.lived _).none_of_active active)

/-- **Every step of a provider that follows the lifecycle keeps a completion
remembered**, unless the provider ignores a cancel of an engine that has forgotten it. -/
theorem step (remembered : CompletionRemembered session) (invariant : LifecycleInvariant session)
    (settled : session.worker.Settled) (noErrors : ∀ event ∈ session.controlPipe,
      event.type = .log → event.logSeverity ≠ "error")
    (allowed : FollowsLifecycleRemembered session action)
    (taken : SessionStep session action next events) : CompletionRemembered next := by
  cases taken with
  | spoken taken =>
      cases taken with
      | started => exact .of_not_cancelling (by simp [started])
      | startRejected => exact remembered
  | moved internal taken =>
      exact remembered.move invariant (taken.move settled internal) rfl rfl rfl id
  | audioRead reads _ _ taken =>
      obtain ⟨now, reads⟩ := reads
      rcases (step_spec taken).read_move settled (reads.imp And.right And.right) with
        ⟨-, keeps⟩ | ⟨-, moved⟩
      · exact remembered.move invariant (.kept keeps) rfl rfl rfl id
      · exact remembered.move invariant moved rfl rfl rfl id
  | recordRead pipe taken =>
      cases (step_spec taken).record_move (noErrors _ (by simp [pipe])) with
      | moved moved => exact remembered.move invariant moved rfl rfl rfl id
      | applied _ _ _ _ moved =>
          refine remembered.move invariant moved rfl rfl rfl fun forgotten => ?_
          exact absurd forgotten.2.1 (by simp [RequestContext.declared])
  | received pipe receives => exact remembered.received allowed pipe receives
  | committed => exact remembered.committed
  | sent => exact remembered.sent invariant

end CompletionRemembered

/-- **A cancellation does not get stuck.** In no state of a run in which the provider
follows the lifecycle, and ignores no cancel of an engine that has forgotten the
completion, is the worker left in `Cancelling` with nothing more to come. -/
theorem cancellation_not_stuck {blockAlign : ℕ} {positive : 0 < blockAlign}
    {trace : List SessionObservation} {session : Session}
    (run : sessionMachine.Run FollowsLifecycleRemembered (.initial blockAlign positive) trace
      session) : ¬session.StuckCancelling := by
  have reached : sessionMachine.Reaches FollowsLifecycleRemembered trace session :=
    ⟨_, ⟨blockAlign, positive, rfl⟩, run⟩
  have lifecycle (session : Session) (action : SessionAction)
      (allowed : FollowsLifecycleRemembered session action) : FollowsLifecycle session action :=
    allowed.1
  obtain ⟨attribution, invariant⟩ := lifecycleInvariant lifecycle reached
  have remembered : CompletionRemembered session := by
    refine reached.induct (motive := fun _ session => CompletionRemembered session) ?_ ?_
    · rintro _ ⟨blockAlign, positive, rfl⟩
      refine .of_not_cancelling ?_
      intro cancelling
      cases cancelling
    · intro _ _ _ _ _ before remembered allowed taken
      obtain ⟨attribution, invariant⟩ := lifecycleInvariant lifecycle before
      exact remembered.step invariant (session_workerInvariant before).consistent.toSettled
        attribution.noErrors allowed (sessionStep_spec taken)
  have consistent := (session_workerInvariant reached).consistent
  rintro ⟨cancelling, isOver, consumed, noRecords, noBytes⟩
  have isOpen : session.context.IsOpen := .inr cancelling
  have counted := attribution.attributed.counted isOpen
  rw [noBytes, List.length_nil, Nat.add_zero] at counted
  change session.context.rawAudioBytesRead = session.request.committed at counted
  have nothingPending : session.pending session.context.token.speakId = [] := by
    rw [Session.pending, noRecords, List.filter_nil]
  have draining (finished : session.context.upstreamFinished = true) :
      session.context.rawAudioBytesRead < session.context.upstreamTerminalBytes :=
    consistent.draining cancelling finished
  have lived := invariant.lived session.context.token.speakId
  cases invariant.heard isOpen with
  | nothing _ _ sent =>
      rw [nothingPending] at sent
      exact isOver.sent lived sent
  | completion finished _ total complete sent =>
      rw [nothingPending] at sent
      obtain ⟨-, drained⟩ := isOver.completion_sent lived complete sent
      have short := draining finished
      rw [counted, total] at short
      exact absurd drained (Nat.not_le_of_lt short)
  | forgotten unfinished upstream complete sent =>
      rw [nothingPending] at sent
      obtain ⟨phase, -⟩ := isOver.completion_sent lived complete sent
      exact remembered consumed _ phase ⟨cancelling, unfinished, upstream⟩
  | acknowledged finished _ _ total =>
      have short := draining finished
      rw [counted, total] at short
      exact absurd short (Nat.lt_irrefl _)

/-- The completion is in the control pipe, and the abort comes before it is processed. -/
def abortedBeforeCompletion : List SessionAction :=
  [.speak 0, .engine (.dispatched .sOk), .receive, .commit 1 [1, 2],
    .send
      { type := .synthesisComplete, speakId := 1, rawEventName := "synthesis_complete"
        terminalAudioBytes := 2, hasValidTerminalBytes := true },
    .engine (.abortObserved 5), .engine (.cancellationSent .sOk), .receive, .readAudio 6 2]

theorem cancellation_not_stuck_aborted :
    ¬(sessionMachine.finalState (.initial 2 (by decide)) abortedBeforeCompletion).StuckCancelling :=
  cancellation_not_stuck
    (sessionMachine.run_finalState _ abortedBeforeCompletion (by decide) (by decide))

/-- The engine processes the completion of a request whose audio it has not read, and then
observes the abort. -/
def abortedAfterCompletion : List SessionAction :=
  [.speak 0, .engine (.dispatched .sOk), .receive, .commit 1 [1, 2],
    .send
      { type := .synthesisComplete, speakId := 1, rawEventName := "synthesis_complete"
        terminalAudioBytes := 2, hasValidTerminalBytes := true },
    .readControl 4, .engine (.thread .finalAdmission), .engine (.abortObserved 5),
    .engine (.cancellationSent .sOk), .receive, .readAudio 6 2]

/-- **A cancellation can get stuck** with a provider that follows the lifecycle. -/
theorem cancellation_sticks :
    ¬∀ {blockAlign : ℕ} {positive : 0 < blockAlign} {trace : List SessionObservation}
        {session : Session},
      sessionMachine.Run FollowsLifecycle (.initial blockAlign positive) trace session →
        ¬session.StuckCancelling := by
  intro never
  have follows : sessionMachine.Along (fun session action _ => FollowsLifecycle session action)
      (.initial 2 (by decide)) abortedAfterCompletion := by
    decide
  have run := sessionMachine.run_finalState _ abortedAfterCompletion follows (by decide)
  exact never run (by decide)

end ModernSapi
