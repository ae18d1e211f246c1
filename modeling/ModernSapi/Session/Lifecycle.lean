import ModernSapi.Session.Attribution

/-!
# The lifecycle of a request

The documented provider takes a request from `active` to `completionDeclared` and on
until it has drained, or on a cancel from either to `cancelling` and `cancelled`. It
sends one terminal record on each of the two declarations, at most two for a request,
and the engine reads them in order.

`Heard` relates what the engine has made of the records it has read to those still in
the pipe. Its four cases are the four things the engine can know of an open request:
nothing, its declared completion, a completion that a cancellation made it forget, and
its acknowledged cancellation.
-/

set_option autoImplicit false

namespace ModernSapi

open Interleaving SpeechWorker

/-- The provider follows the documented lifecycle: it commits no byte past a declared
total, declares completion once and only while active, acknowledges a cancel once with
the bytes committed, and reports no error. -/
def FollowsLifecycle (session : Session) : SessionAction → Prop
  | .commit speakId bytes =>
      (session.provider speakId).phase ≠ .unknown ∧
        (session.provider speakId).phase ≠ .cancelled ∧
        ∀ event ∈ (session.provider speakId).terminals,
          (session.provider speakId).committed + bytes.length ≤ event.terminalAudioBytes
  | .send event =>
      (event.type = .log → event.logSeverity ≠ "error") ∧
        (event.type = .synthesisComplete →
          (session.provider event.speakId).phase = .active ∧
            (session.provider event.speakId).committed ≤ event.terminalAudioBytes) ∧
        (event.type = .synthesisCancelled →
          (session.provider event.speakId).phase = .cancelling ∧
            event.terminalAudioBytes = (session.provider event.speakId).committed)
  | _ => True

instance (session : Session) : DecidablePred (FollowsLifecycle session)
  | .commit .. => inferInstanceAs (Decidable (_ ∧ _ ∧ _))
  | .send _ => inferInstanceAs (Decidable (_ ∧ _ ∧ _))
  | .speak _ | .engine _ | .readAudio .. | .failAssembly .. | .readControl _ | .receive =>
      .isTrue trivial

theorem ProviderControlEvent.terminal_cases {event : ProviderControlEvent}
    (terminal : event.isTerminal = true) :
    event.type = .synthesisComplete ∨ event.type = .synthesisCancelled := by
  simpa [ProviderControlEvent.isTerminal, ProviderEventType.isTerminal] using terminal

/-- The lifecycle keeps the byte contract. -/
theorem FollowsLifecycle.keepsByteContract {session : Session} {action : SessionAction}
    (follows : FollowsLifecycle session action) : KeepsByteContract session action := by
  cases action with
  | commit speakId bytes =>
      obtain ⟨asked, -, within⟩ := follows
      exact ⟨asked, fun event member _ => within event member⟩
  | send event =>
      obtain ⟨noError, completion, cancellation⟩ := follows
      refine ⟨noError, fun terminal _ => ?_⟩
      rcases event.terminal_cases terminal with complete | cancelled
      · exact (completion complete).2
      · exact Nat.le_of_eq (cancellation cancelled).2.symm
  | _ => trivial

/-- A provider that follows the lifecycle sends no terminal record of a request whose
cancel it has acknowledged. -/
theorem FollowsLifecycle.not_cancelled {session : Session} {event : ProviderControlEvent}
    (follows : FollowsLifecycle session (.send event)) (terminal : event.isTerminal = true) :
    (session.provider event.speakId).phase ≠ .cancelled := by
  obtain ⟨-, completion, cancellation⟩ := follows
  rcases event.terminal_cases terminal with complete | cancelled
  · simp [(completion complete).1]
  · simp [(cancellation cancelled).1]

/-! ## What the provider has sent -/

/-- The terminal records a provider that follows the lifecycle has sent in each
phase. -/
inductive RequestSession.Lived (request : RequestSession) : Prop where
  | unknown (phase : request.phase = .unknown) (none : request.terminals = [])
  | active (phase : request.phase = .active) (none : request.terminals = [])
  | declared {completion : ProviderControlEvent}
      (phase : request.phase = .completionDeclared completion.terminalAudioBytes)
      (complete : completion.type = .synthesisComplete)
      (one : request.terminals = [completion])
  | cancelling (phase : request.phase = .cancelling) (consumed : request.cancelConsumed = true)
      (none : request.terminals = [] ∨
        ∃ completion : ProviderControlEvent, completion.type = .synthesisComplete ∧
          request.terminals = [completion])
  | cancelled {acknowledgement : ProviderControlEvent} (phase : request.phase = .cancelled)
      (consumed : request.cancelConsumed = true)
      (acknowledges : acknowledgement.type = .synthesisCancelled)
      (total : acknowledgement.terminalAudioBytes = request.committed)
      (sent : request.terminals = [acknowledgement] ∨
        ∃ completion : ProviderControlEvent, completion.type = .synthesisComplete ∧
          request.terminals = [completion, acknowledgement])

namespace RequestSession.Lived

variable {request : RequestSession}

theorem receiveSpeak (lived : request.Lived) : request.receiveSpeak.Lived := by
  unfold RequestSession.receiveSpeak
  cases lived with
  | unknown phase none => exact .active (by simp [phase]) none
  | active phase none => exact .active (by simp [phase]) none
  | declared phase complete one => exact .declared (by simp [phase]) complete one
  | cancelling phase consumed none => exact .cancelling (by simp [phase]) consumed none
  | cancelled phase consumed acknowledges total sent =>
      exact .cancelled (by simp [phase]) consumed acknowledges total sent

theorem receiveCancel (lived : request.Lived) : request.receiveCancel.Lived := by
  unfold RequestSession.receiveCancel
  cases lived with
  | unknown phase none => exact .unknown (by simp [phase]) none
  | active phase none => exact .cancelling (by simp [phase]) rfl (.inl none)
  | @declared completion phase complete one =>
      by_cases left : request.committed < completion.terminalAudioBytes
      · exact .cancelling (by simp [phase, left]) rfl (.inr ⟨completion, complete, one⟩)
      · exact .declared (by simp [phase, left]) complete one
  | cancelling phase consumed none => exact .cancelling (by simp [phase]) rfl none
  | cancelled phase consumed acknowledges total sent =>
      exact .cancelled (by simp [phase]) rfl acknowledges total sent

theorem commit (lived : request.Lived) (bytes : ℕ) (notCancelled : request.phase ≠ .cancelled) :
    (request.commit bytes).Lived := by
  cases lived with
  | unknown phase none => exact .unknown phase none
  | active phase none => exact .active phase none
  | declared phase complete one => exact .declared phase complete one
  | cancelling phase consumed none => exact .cancelling phase consumed none
  | cancelled phase => exact absurd phase notCancelled

theorem declare_complete {event : ProviderControlEvent} (lived : request.Lived)
    (complete : event.type = .synthesisComplete) (active : request.phase = .active) :
    (request.declare event).Lived := by
  have none : request.terminals = [] := by
    cases lived with
    | active _ none => exact none
    | unknown phase | declared phase | cancelling phase | cancelled phase =>
        rw [active] at phase
        cases phase
  have phase : (request.declare event).phase = .completionDeclared event.terminalAudioBytes := by
    simp [RequestSession.declare, active, complete]
  exact .declared phase complete (by simp [none])

theorem declare_cancelled {event : ProviderControlEvent} (lived : request.Lived)
    (acknowledges : event.type = .synthesisCancelled) (cancelling : request.phase = .cancelling)
    (total : event.terminalAudioBytes = request.committed) : (request.declare event).Lived := by
  cases lived with
  | cancelling _ consumed sent =>
      refine .cancelled ?_ consumed acknowledges total ?_
      · simp [RequestSession.declare, cancelling, acknowledges]
      · rcases sent with none | ⟨completion, complete, one⟩
        · exact .inl (by simp [none])
        · exact .inr ⟨completion, complete, by simp [one]⟩
  | unknown phase | active phase | declared phase | cancelled phase =>
      rw [cancelling] at phase
      cases phase

theorem none_of_unknown (lived : request.Lived) (unknown : request.phase = .unknown) :
    request.terminals = [] := by
  cases lived with
  | unknown _ none => exact none
  | active phase | declared phase | cancelling phase | cancelled phase =>
      rw [unknown] at phase
      cases phase

theorem consumed_of_cancelled (lived : request.Lived) (cancelled : request.phase = .cancelled) :
    request.cancelConsumed = true := by
  cases lived with
  | cancelled _ consumed => exact consumed
  | unknown phase | active phase | declared phase | cancelling phase =>
      rw [cancelled] at phase
      cases phase

end RequestSession.Lived

/-! ## What the engine has heard -/

/-- The terminal records of a request that are still in the control pipe. -/
def Session.pending (session : Session) (speakId : ℕ) : List ProviderControlEvent :=
  session.controlPipe.filter fun event => event.isTerminal && event.speakId == speakId

theorem Session.pending_cons (session : Session) {event : ProviderControlEvent}
    {rest : List ProviderControlEvent} (pipe : session.controlPipe = event :: rest)
    (speakId : ℕ) :
    session.pending speakId =
      (if event.isTerminal && event.speakId == speakId then [event] else []) ++
        rest.filter fun other => other.isTerminal && other.speakId == speakId := by
  rw [Session.pending, pipe, List.filter_cons]
  split
  · rfl
  · rfl

theorem Session.pending_send (session : Session) (event : ProviderControlEvent) (speakId : ℕ) :
    (session.send event).pending speakId = session.pending speakId ++
      if event.isTerminal && event.speakId == speakId then [event] else [] := by
  rw [Session.pending, Session.send, List.filter_append, List.filter_singleton]
  cases event.isTerminal && event.speakId == speakId <;> rfl

/-- What the engine has made of the terminal records it has read of an open request. -/
inductive Heard (context : RequestContext) (request : RequestSession)
    (pending : List ProviderControlEvent) : Prop where
  | nothing (unfinished : context.upstreamFinished = false)
      (upstream : context.upstreamState = .active) (sent : request.terminals = pending)
  | completion {completion : ProviderControlEvent} (finished : context.upstreamFinished = true)
      (upstream : context.upstreamState = .completed)
      (total : context.upstreamTerminalBytes = completion.terminalAudioBytes)
      (complete : completion.type = .synthesisComplete)
      (sent : request.terminals = completion :: pending)
  | forgotten {completion : ProviderControlEvent} (unfinished : context.upstreamFinished = false)
      (upstream : context.upstreamState = .completed)
      (complete : completion.type = .synthesisComplete)
      (sent : request.terminals = completion :: pending)
  | acknowledged (finished : context.upstreamFinished = true)
      (upstream : context.upstreamState = .cancelled) (phase : request.phase = .cancelled)
      (total : context.upstreamTerminalBytes = request.committed) (none : pending = [])

namespace Heard

variable {context before after : RequestContext} {request : RequestSession}
  {pending : List ProviderControlEvent} {event : ProviderControlEvent}

/-- **What was heard survives a move of the request.** A cancellation makes the engine
forget a declared completion. -/
theorem move (heard : Heard before request pending) (moved : RequestMove before after)
    (isOpen : after.IsOpen)
    (uncancelled : before.downstreamState = .speaking → request.phase ≠ .cancelled) :
    Heard after request pending := by
  cases moved with
  | kept keeps =>
      cases heard with
      | nothing unfinished upstream sent =>
          exact .nothing (keeps.finished.trans unfinished) (keeps.upstream.trans upstream) sent
      | completion finished upstream total complete sent =>
          exact .completion (keeps.finished.trans finished) (keeps.upstream.trans upstream)
            (keeps.terminal.trans total) complete sent
      | forgotten unfinished upstream complete sent =>
          exact .forgotten (keeps.finished.trans unfinished) (keeps.upstream.trans upstream)
            complete sent
      | acknowledged finished upstream phase total none =>
          exact .acknowledged (keeps.finished.trans finished) (keeps.upstream.trans upstream) phase
            (keeps.terminal.trans total) none
  | ended _ _ _ _ idle => exact absurd isOpen (RequestContext.not_isOpen_of_idle idle)
  | cancelled speaking _ _ _ same unfinished =>
      cases heard with
      | nothing _ upstream sent => exact .nothing unfinished (same.trans upstream) sent
      | completion _ upstream _ complete sent =>
          exact .forgotten unfinished (same.trans upstream) complete sent
      | forgotten _ upstream complete sent =>
          exact .forgotten unfinished (same.trans upstream) complete sent
      | acknowledged _ _ phase => exact absurd phase (uncancelled speaking)
  | faulted faulted => exact absurd isOpen (RequestContext.not_isOpen_of_faulted faulted)

theorem counted (heard : Heard context request pending) {bytes : ℕ} :
    Heard (context.counted bytes) request pending := by
  cases heard with
  | nothing unfinished upstream sent => exact .nothing unfinished upstream sent
  | completion finished upstream total complete sent =>
      exact .completion finished upstream total complete sent
  | forgotten unfinished upstream complete sent =>
      exact .forgotten unfinished upstream complete sent
  | acknowledged finished upstream phase total none =>
      exact .acknowledged finished upstream phase total none

/-- **The next terminal record is heard.** -/
theorem applied (heard : Heard context request (event :: pending)) (lived : request.Lived)
    (unfinished : context.upstreamFinished = false) :
    Heard (context.declared event) request pending := by
  have completed (complete : event.type = .synthesisComplete) :
      (context.declared event).upstreamState = .completed := by
    simp [RequestContext.declared, terminalTarget, complete]
  have cancelled (acknowledges : event.type = .synthesisCancelled) :
      (context.declared event).upstreamState = .cancelled := by
    simp [RequestContext.declared, terminalTarget, acknowledges]
  cases heard with
  | nothing _ _ sent =>
      cases lived with
      | unknown _ none | active _ none =>
          rw [none] at sent
          cases sent
      | declared _ complete one =>
          have here := sent
          rw [one, List.cons.injEq] at here
          obtain ⟨rfl, -⟩ := here
          exact .completion rfl (completed complete) rfl complete sent
      | cancelling _ _ sentSoFar =>
          rcases sentSoFar with none | ⟨completion, complete, one⟩
          · rw [none] at sent
            cases sent
          · have here := sent
            rw [one, List.cons.injEq] at here
            obtain ⟨rfl, -⟩ := here
            exact .completion rfl (completed complete) rfl complete sent
      | cancelled phase _ acknowledges total sentSoFar =>
          rcases sentSoFar with one | ⟨completion, complete, two⟩
          · rw [one, List.cons.injEq] at sent
            obtain ⟨rfl, none⟩ := sent
            exact .acknowledged rfl (cancelled acknowledges) phase total none.symm
          · have here := sent
            rw [two, List.cons.injEq] at here
            obtain ⟨rfl, -⟩ := here
            exact .completion rfl (completed complete) rfl complete sent
  | completion finished | acknowledged finished =>
      rw [unfinished] at finished
      cases finished
  | forgotten _ _ _ sent =>
      cases lived with
      | unknown _ none | active _ none =>
          rw [none] at sent
          cases sent
      | declared _ _ one =>
          rw [one] at sent
          cases sent
      | cancelling _ _ sentSoFar =>
          rcases sentSoFar with none | ⟨completion, -, one⟩
          · rw [none] at sent
            cases sent
          · rw [one] at sent
            cases sent
      | cancelled phase _ acknowledges total sentSoFar =>
          rcases sentSoFar with one | ⟨completion, -, two⟩
          · rw [one] at sent
            cases sent
          · rw [two, List.cons.injEq, List.cons.injEq] at sent
            obtain ⟨-, rfl, none⟩ := sent
            exact .acknowledged rfl (cancelled acknowledges) phase total none.symm

theorem commit (heard : Heard context request pending) (bytes : ℕ)
    (notCancelled : request.phase ≠ .cancelled) : Heard context (request.commit bytes) pending := by
  cases heard with
  | nothing unfinished upstream sent => exact .nothing unfinished upstream sent
  | completion finished upstream total complete sent =>
      exact .completion finished upstream total complete sent
  | forgotten unfinished upstream complete sent =>
      exact .forgotten unfinished upstream complete sent
  | acknowledged _ _ phase => exact absurd phase notCancelled

theorem declare (heard : Heard context request pending) (event : ProviderControlEvent)
    (notCancelled : request.phase ≠ .cancelled) :
    Heard context (request.declare event) (pending ++ [event]) := by
  cases heard with
  | nothing unfinished upstream sent =>
      exact .nothing unfinished upstream (congrArg (· ++ [event]) sent)
  | completion finished upstream total complete sent =>
      exact .completion finished upstream total complete (congrArg (· ++ [event]) sent)
  | forgotten unfinished upstream complete sent =>
      exact .forgotten unfinished upstream complete (congrArg (· ++ [event]) sent)
  | acknowledged _ _ phase => exact absurd phase notCancelled

/-- The provider takes a command: what it has sent stays, and so does a cancelled
phase. -/
theorem receive {update : RequestSession → RequestSession}
    (receives : update = .receiveSpeak ∨ update = .receiveCancel)
    (heard : Heard context request pending) : Heard context (update request) pending := by
  have kept : (update request).terminals = request.terminals ∧
      (update request).committed = request.committed ∧
      (request.phase = .cancelled → (update request).phase = .cancelled) := by
    rcases receives with rfl | rfl
    · exact ⟨rfl, rfl, fun phase => by simp [RequestSession.receiveSpeak, phase]⟩
    · exact ⟨rfl, rfl, fun phase => by simp [RequestSession.receiveCancel, phase]⟩
  obtain ⟨terminals, committed, cancelled⟩ := kept
  cases heard with
  | nothing unfinished upstream sent => exact .nothing unfinished upstream (terminals.trans sent)
  | completion finished upstream total complete sent =>
      exact .completion finished upstream total complete (terminals.trans sent)
  | forgotten unfinished upstream complete sent =>
      exact .forgotten unfinished upstream complete (terminals.trans sent)
  | acknowledged finished upstream phase total none =>
      exact .acknowledged finished upstream (cancelled phase) (total.trans committed.symm) none

end Heard

/-! ## Who cancels -/

/-- The cancellation of the request is on its way, or has been taken by the provider. -/
def Session.Cancels (session : Session) (speakId : ℕ) : Prop :=
  .cancel speakId ∈ session.commandPipe ∨
    session.speak.worker.audio = .sendCancellation speakId ∨
    (∃ deadline, session.speak.call = .sendCancellation speakId deadline) ∨
    (session.provider speakId).cancelConsumed = true

section Sending

variable {state next : WorkerState} {action : WorkerAction} {events : List Observation}

theorem AudioThread.afterChunk_ne_sendCancellation (fault : Bool) (speakId : ℕ) :
    AudioThread.afterChunk fault ≠ .sendCancellation speakId := by
  cases fault <;> simp [AudioThread.afterChunk]

/-- The audio thread sends a cancellation only for the request it has just started to
cancel. -/
theorem WorkerStep.sendCancellation (taken : WorkerStep state action next events) {speakId : ℕ}
    (sends : next.audio = .sendCancellation speakId) :
    state.audio = .sendCancellation speakId ∨
      (speakId = state.context.token.speakId ∧
        next.context.downstreamState = .cancelling) := by
  cases taken with
  | @chunkTaken _ _ result _ _ outcome =>
      simp only [WorkerState.afterIngest] at sends
      split at sends
      · cases sends
      · exact absurd sends (AudioThread.afterChunk_ne_sendCancellation _ _)
  | assemblyFailed | audioReadFailed | spansEnd | spanHanded | spanAccepted | spanRejected =>
      cases sends
  | cancellationSent => exact absurd sends (AudioThread.afterChunk_ne_sendCancellation _ _)
  | batchSettled _ outcome =>
      right
      simp only [WorkerState.afterBatch] at sends
      cases outcome with
      | rejected =>
          split at sends
          · cases sends
            exact ⟨rfl, rfl⟩
          · exact absurd sends (AudioThread.afterChunk_ne_sendCancellation _ _)
      | ignored | accepted | rejectedFaulted | drained =>
          rw [if_neg (by simp)] at sends
          exact absurd sends (AudioThread.afterChunk_ne_sendCancellation _ _)
  | @faultRepeated thread | @faultPublished thread =>
      cases thread with
      | audio =>
          simp only [WorkerState.leaveFaulted, AudioThread.afterFault] at sends
          split at sends
          · cases sends
          · cases sends
      | control | caller => exact .inl sends
  | _ => exact .inl sends

/-- The same of both threads of the engine that cancel. -/
theorem SpeakStep.sendCancellation {state next : SpeakState} {action : SpeakAction}
    {events : List SpeakObservation} (taken : SpeakStep state action next events) {speakId : ℕ}
    (sends : next.worker.audio = .sendCancellation speakId ∨
      ∃ deadline, next.call = .sendCancellation speakId deadline) :
    (state.worker.audio = .sendCancellation speakId ∨
      ∃ deadline, state.call = .sendCancellation speakId deadline) ∨
      (speakId = state.context.token.speakId ∧
        next.context.downstreamState = .cancelling) := by
  have fromWorker {step : WorkerAction} {worker : WorkerState} {observed : List Observation}
      (stepped : state.worker.step step = some (worker, observed))
      (sends : worker.audio = .sendCancellation speakId) :
      (state.worker.audio = .sendCancellation speakId ∨
        ∃ deadline, state.call = .sendCancellation speakId deadline) ∨
        (speakId = state.context.token.speakId ∧
          worker.context.downstreamState = .cancelling) :=
    ((step_spec stepped).sendCancellation sends).imp .inl id
  cases taken with
  | thread _ stepped =>
      rcases sends with audio | call
      · exact fromWorker stepped audio
      · exact .inl (.inr call)
  | started =>
      rcases sends with audio | ⟨_, call⟩
      · exact .inl (.inl audio)
      · cases call
  | startRejected => exact .inl sends
  | aborted =>
      rcases sends with audio | ⟨_, call⟩
      · exact .inl (.inl audio)
      · cases call
        exact .inr ⟨rfl, rfl⟩
  | faultEntered _ stepped | faultRepeated _ stepped | faultPublished _ stepped =>
      rcases sends with audio | ⟨_, call⟩
      · exact fromWorker stepped audio
      · cases call
  | _ =>
      rcases sends with audio | ⟨_, call⟩
      · exact .inl (.inl audio)
      · cases call

end Sending

/-! ## The invariant -/

/-- What holds in every state of a session whose provider follows the lifecycle. -/
structure LifecycleInvariant (session : Session) : Prop where
  lived : ∀ speakId, (session.provider speakId).Lived
  heard : session.context.IsOpen → Heard session.context session.request
    (session.pending session.context.token.speakId)
  cancelKnown : ∀ speakId, session.Cancels speakId → speakId ≤ session.speakIdCounter
  uncancelled : session.context.downstreamState = .speaking →
    ¬session.Cancels session.context.token.speakId
  named : session.context.IsOpen → session.context.token.speakId ≠ 0

namespace LifecycleInvariant

variable {session next : Session} {action : SessionAction} {speak : SpeakState}
  {trace events : List SessionObservation}

theorem initial (blockAlign : ℕ) (positive : 0 < blockAlign) :
    LifecycleInvariant (.initial blockAlign positive) := by
  have idle : (Session.initial blockAlign positive).context.downstreamState = .idle := rfl
  have closed := RequestContext.not_isOpen_of_idle idle
  refine ⟨fun _ => .unknown rfl rfl, fun isOpen => absurd isOpen closed, ?_, ?_,
    fun isOpen => absurd isOpen closed⟩
  · rintro speakId (sent | audio | ⟨_, call⟩ | consumed)
    · cases sent
    · cases audio
    · cases call
    · cases consumed
  · intro speaking
    cases speaking

/-- A speaking request has no acknowledged cancellation. -/
theorem not_cancelled (invariant : LifecycleInvariant session)
    (speaking : session.context.downstreamState = .speaking) :
    session.request.phase ≠ .cancelled := by
  intro phase
  have consumed := (invariant.lived _).consumed_of_cancelled phase
  exact invariant.uncancelled speaking (.inr (.inr (.inr consumed)))

/-- The request moves, from what a read or a record has made of it. -/
theorem move (invariant : LifecycleInvariant session) {context : RequestContext}
    (moved : RequestMove context next.context) (provider : next.provider = session.provider)
    (counter : next.speakIdCounter = session.speakIdCounter)
    (known : session.context.token.speakId ≤ session.speakIdCounter)
    (token : context.token = session.context.token)
    (downstream : context.downstreamState = session.context.downstreamState)
    (heard : next.context.IsOpen → Heard context session.request
      (next.pending session.context.token.speakId))
    (cancels : ∀ speakId, next.Cancels speakId → session.Cancels speakId ∨
      (speakId = session.context.token.speakId ∧ next.context.downstreamState = .cancelling)) :
    LifecycleInvariant next := by
  have same : next.context.token = session.context.token := moved.token.trans token
  refine ⟨fun speakId => ?_, fun isOpen => ?_, fun speakId cancel => ?_, fun speaking cancel => ?_,
    fun isOpen => ?_⟩
  · rw [provider]
    exact invariant.lived speakId
  · rw [Session.request, provider, same]
    exact (heard isOpen).move moved isOpen fun speaking =>
      invariant.not_cancelled (downstream.symm.trans speaking)
  · rw [counter]
    rcases cancels speakId cancel with before | ⟨rfl, -⟩
    · exact invariant.cancelKnown speakId before
    · exact known
  · have before := downstream.symm.trans (moved.speaking speaking)
    rcases cancels _ cancel with sent | ⟨-, cancelling⟩
    · rw [same] at sent
      exact invariant.uncancelled before sent
    · rw [speaking] at cancelling
      cases cancelling
  · rw [same]
    refine invariant.named ?_
    have wasOpen := (moved.opened isOpen).1
    rwa [RequestContext.IsOpen, downstream] at wasOpen

/-- A step of the engine that reads nothing and starts nothing. -/
theorem moved {action : SpeakAction} {events : List SpeakObservation}
    (invariant : LifecycleInvariant session) (attribution : AttributionInvariant session)
    (settled : session.worker.Settled) (internal : action.isInternal = true)
    (taken : SpeakStep session.speak action speak events) :
    LifecycleInvariant
      { session with speak, commandPipe := session.commandPipe ++ sentCommands events } := by
  refine invariant.move (taken.move settled internal) rfl rfl attribution.tokenKnown rfl rfl
    (fun isOpen => ?_) ?_
  · exact invariant.heard ((taken.move settled internal).opened isOpen).1
  · rintro speakId (sent | audio | call | consumed)
    · left
      rcases List.mem_append.mp sent with before | now
      · exact .inl before
      · rcases taken.sent now with ⟨_, other, -⟩ | ⟨_, same, here⟩
        · cases other
        · cases same
          exact .inr (here.imp id .inl)
    · refine (taken.sendCancellation (.inl audio)).imp (fun before => ?_) id
      exact .inr (before.imp id .inl)
    · refine (taken.sendCancellation (.inr call)).imp (fun before => ?_) id
      exact .inr (before.imp id .inl)
    · exact .inl (.inr (.inr (.inr consumed)))

/-- The worker takes in a read or a record, and nothing changes in who cancels but for
the worker's own request. -/
theorem cancels_of_worker {worker : WorkerState} {step : WorkerAction}
    {observed : List Observation} {controlPipe : List ProviderControlEvent}
    {audioPipe : List (ℕ × UInt8)}
    (taken : WorkerStep session.speak.worker step worker observed) (speakId : ℕ)
    (cancel : Session.Cancels
      { session with speak := { session.speak with worker }, controlPipe, audioPipe } speakId) :
    session.Cancels speakId ∨ (speakId = session.context.token.speakId ∧
      worker.context.downstreamState = .cancelling) := by
  rcases cancel with sent | audio | call | consumed
  · exact .inl (.inl sent)
  · exact (taken.sendCancellation audio).imp (fun before => .inr (.inl before)) id
  · exact .inl (.inr (.inr (.inl call)))
  · exact .inl (.inr (.inr (.inr consumed)))

theorem audioRead {read : WorkerAction} {now : ℕ} {bytes rest : List (ℕ × UInt8)}
    {worker : WorkerState} {observed : List Observation} (invariant : LifecycleInvariant session)
    (attribution : AttributionInvariant session) (settled : session.worker.Settled)
    (reads : read = .audioChunk now (payload bytes) ∨
      read = .frameAssemblyFails now (payload bytes))
    (taken : WorkerStep session.speak.worker read worker observed) :
    LifecycleInvariant
      { session with speak := { session.speak with worker }, audioPipe := rest } := by
  rcases taken.read_move settled reads with ⟨closed, keeps⟩ | ⟨isOpen, moved⟩
  · refine invariant.move (.kept keeps) rfl rfl attribution.tokenKnown rfl rfl (fun isOpen => ?_)
      (cancels_of_worker taken)
    exact absurd (keeps.isOpen.mp isOpen) closed
  · exact invariant.move moved rfl rfl attribution.tokenKnown rfl rfl
      (fun _ => (invariant.heard isOpen).counted) (cancels_of_worker taken)

/-- **The worker takes in a record.** A terminal record of the open request is the next
one the provider has sent for it. -/
theorem recordRead {now : ℕ} {event : ProviderControlEvent} {rest : List ProviderControlEvent}
    {worker : WorkerState} {observed : List Observation} (invariant : LifecycleInvariant session)
    (attribution : AttributionInvariant session) (pipe : session.controlPipe = event :: rest)
    (taken : WorkerStep session.speak.worker (.controlRecord now event) worker observed) :
    LifecycleInvariant
      { session with speak := { session.speak with worker }, controlPipe := rest } := by
  have pending := session.pending_cons pipe session.context.token.speakId
  cases taken.record_move (attribution.noErrors event (by simp [pipe])) with
  | moved moved refused =>
      refine invariant.move moved rfl rfl attribution.tokenKnown rfl rfl (fun isOpen => ?_)
        (cancels_of_worker taken)
      have wasOpen := (moved.opened isOpen).1
      have heard := invariant.heard wasOpen
      rw [pending, if_neg] at heard
      · exact heard
      · intro addressed
        rw [Bool.and_eq_true, beq_iff_eq] at addressed
        obtain ⟨terminal, matching⟩ := addressed
        have faulted := refused matching (by rw [matching]; exact invariant.named wasOpen) terminal
        exact RequestContext.not_isOpen_of_faulted faulted isOpen
  | applied matching terminal valid unfinished moved =>
      refine invariant.move moved rfl rfl attribution.tokenKnown rfl rfl (fun isOpen => ?_)
        (cancels_of_worker taken)
      have heard := invariant.heard (moved.opened isOpen).1
      rw [pending, if_pos (by simp [terminal, matching])] at heard
      exact heard.applied (invariant.lived _) unfinished

/-- No terminal record of a request is in the pipe before the provider knows of it. -/
theorem pending_of_fresh (invariant : LifecycleInvariant session)
    (attribution : AttributionInvariant session) {speakId : ℕ}
    (fresh : session.speakIdCounter < speakId) :
    (session.provider speakId).terminals = [] ∧ session.pending speakId = [] := by
  have unknown : (session.provider speakId).phase = .unknown := by
    by_contra asked
    exact absurd (attribution.known speakId (.inl asked)) (Nat.not_le_of_lt fresh)
  have none := (invariant.lived speakId).none_of_unknown unknown
  refine ⟨none, List.filter_eq_nil_iff.mpr fun event member addressed => ?_⟩
  rw [Bool.and_eq_true, beq_iff_eq] at addressed
  obtain ⟨terminal, rfl⟩ := addressed
  have sent := attribution.records event member terminal
  rw [none] at sent
  cases sent

/-- A call of `Speak` starts a request, or fails to. -/
theorem spoken {now : ℕ} {events : List SpeakObservation} (invariant : LifecycleInvariant session)
    (attribution : AttributionInvariant session)
    (taken : SpeakStep session.speak (.start now (session.speakIdCounter + 1)) speak events) :
    LifecycleInvariant
      { session with speak, speakIdCounter := session.speakIdCounter + 1 } := by
  cases taken with
  | started =>
      obtain ⟨none, empty⟩ := invariant.pending_of_fresh attribution
        (Nat.lt_succ_self session.speakIdCounter)
      have cancels (speakId : ℕ) (cancel : Session.Cancels
          { session with
            speak :=
              { worker :=
                  { session.speak.worker with
                    worker := session.worker.started now
                      (session.worker.nextToken (session.speakIdCounter + 1)) }
                call := .dispatching (session.speakIdCounter + 1) }
            speakIdCounter := session.speakIdCounter + 1 } speakId) :
          speakId ≤ session.speakIdCounter := by
        refine invariant.cancelKnown speakId ?_
        rcases cancel with sent | audio | ⟨_, call⟩ | consumed
        · exact .inl sent
        · exact .inr (.inl audio)
        · cases call
        · exact .inr (.inr (.inr consumed))
      refine ⟨invariant.lived, fun _ => ?_, fun speakId cancel => ?_, fun _ cancel => ?_,
        fun _ => Nat.succ_ne_zero _⟩
      · exact .nothing rfl rfl (none.trans empty.symm)
      · exact (cancels speakId cancel).trans (Nat.le_succ _)
      · exact absurd (cancels _ cancel) (Nat.not_succ_le_self _)
  | startRejected =>
      exact ⟨invariant.lived, invariant.heard,
        fun speakId cancel => (invariant.cancelKnown speakId cancel).trans (Nat.le_succ _),
        invariant.uncancelled, invariant.named⟩

/-- **A step of the provider keeps the invariant** when the requests live on, what was
heard of the current one stands, and none is cancelled by it. -/
theorem provided (invariant : LifecycleInvariant session) (speak : next.speak = session.speak)
    (counter : next.speakIdCounter = session.speakIdCounter)
    (lived : ∀ speakId, (next.provider speakId).Lived)
    (heard : session.context.IsOpen → Heard session.context
      (next.provider session.context.token.speakId) (next.pending session.context.token.speakId))
    (cancels : ∀ speakId, next.Cancels speakId → session.Cancels speakId) :
    LifecycleInvariant next := by
  have context : next.context = session.context := congrArg SpeakState.context speak
  refine ⟨lived, ?_, fun speakId cancel => ?_, ?_, ?_⟩
  · rw [Session.request, context]
    exact heard
  · rw [counter]
    exact invariant.cancelKnown speakId (cancels speakId cancel)
  · rw [context]
    exact fun speaking cancel => invariant.uncancelled speaking (cancels _ cancel)
  · rw [context]
    exact invariant.named

/-- The provider takes a command. -/
theorem received {command : Command} {rest : List Command} {speakId : ℕ}
    {update : RequestSession → RequestSession} (invariant : LifecycleInvariant session)
    (pipe : session.commandPipe = command :: rest)
    (receives : (command = .sapiSpeak speakId ∧ update = .receiveSpeak) ∨
      (command = .cancel speakId ∧ update = .receiveCancel)) :
    LifecycleInvariant
      { session with
        commandPipe := rest, provider := updateRequest session.provider speakId update } := by
  have tail {other : Command} (member : other ∈ rest) : other ∈ session.commandPipe := by
    rw [pipe]
    exact List.mem_cons_of_mem _ member
  have cancels (other : ℕ) (cancel : Session.Cancels
      { session with
        commandPipe := rest, provider := updateRequest session.provider speakId update } other) :
      session.Cancels other := by
    rcases cancel with sent | audio | call | consumed
    · exact .inl (tail sent)
    · exact .inr (.inl audio)
    · exact .inr (.inr (.inl call))
    · by_cases same : other = speakId
      · subst same
        rcases receives with ⟨-, rfl⟩ | ⟨rfl, -⟩
        · simp only [updateRequest_same] at consumed
          exact .inr (.inr (.inr consumed))
        · exact .inl (by rw [pipe]; exact List.mem_cons_self)
      · simp only [updateRequest_other same] at consumed
        exact .inr (.inr (.inr consumed))
  refine invariant.provided rfl rfl (fun other => ?_) (fun isOpen => ?_) cancels
  · refine updateRequest_imp other (fun request lived => ?_) (invariant.lived other)
    rcases receives with ⟨-, rfl⟩ | ⟨-, rfl⟩
    · exact lived.receiveSpeak
    · exact lived.receiveCancel
  · exact updateRequest_imp (motive := fun request => Heard session.context request
        (session.pending session.context.token.speakId)) _
      (fun _ heard => heard.receive (receives.imp And.right And.right)) (invariant.heard isOpen)

/-- A step of the provider that takes no command keeps who cancels. -/
theorem cancels_of_provider {speakId other : ℕ} {update : RequestSession → RequestSession}
    (cancel : next.Cancels other)
    (provider : next.provider = updateRequest session.provider speakId update)
    (keeps : ∀ request, (update request).cancelConsumed = request.cancelConsumed)
    (speak : next.speak = session.speak) (commands : next.commandPipe = session.commandPipe) :
    session.Cancels other := by
  rw [Session.Cancels, speak, commands, provider] at cancel
  refine cancel.imp id (Or.imp id (Or.imp id fun consumed => ?_))
  by_cases same : other = speakId
  · subst same
    rwa [updateRequest_same, keeps] at consumed
  · rwa [updateRequest_other same] at consumed

/-- The provider commits bytes. -/
theorem committed {speakId : ℕ} {bytes : List UInt8} (invariant : LifecycleInvariant session)
    (allowed : FollowsLifecycle session (.commit speakId bytes)) :
    LifecycleInvariant (session.commit speakId bytes) := by
  obtain ⟨-, notCancelled, -⟩ := allowed
  have provider : (session.commit speakId bytes).provider =
      updateRequest session.provider speakId (·.commit bytes.length) := rfl
  have cancels (other : ℕ) (cancel : (session.commit speakId bytes).Cancels other) :
      session.Cancels other :=
    cancels_of_provider cancel provider (fun _ => rfl) rfl rfl
  refine invariant.provided rfl rfl (fun other => ?_) (fun isOpen => ?_) cancels
  · rw [provider]
    refine updateRequest_forall (motive := fun _ request => request.Lived) invariant.lived ?_ other
    exact (invariant.lived speakId).commit _ notCancelled
  · have heard := invariant.heard isOpen
    change Heard session.context
      (updateRequest session.provider speakId (·.commit bytes.length) session.context.token.speakId)
      (session.pending session.context.token.speakId)
    by_cases same : session.context.token.speakId = speakId
    · rw [same, updateRequest_same]
      rw [Session.request, same] at heard
      exact heard.commit _ notCancelled
    · rw [updateRequest_other same]
      exact heard

/-- The provider sends a record. -/
theorem sent {event : ProviderControlEvent} (invariant : LifecycleInvariant session)
    (allowed : FollowsLifecycle session (.send event)) :
    LifecycleInvariant (session.send event) := by
  obtain ⟨-, completion, cancellation⟩ := id allowed
  by_cases terminal : event.isTerminal = true
  · have notCancelled := allowed.not_cancelled terminal
    have provider : (session.send event).provider =
        updateRequest session.provider event.speakId (·.declare event) := by
      simp [Session.send, terminal]
    have cancels (other : ℕ) (cancel : (session.send event).Cancels other) :
        session.Cancels other :=
      cancels_of_provider cancel provider (fun _ => rfl) rfl rfl
    refine invariant.provided rfl rfl (fun other => ?_) (fun isOpen => ?_) cancels
    · rw [provider]
      refine updateRequest_forall (motive := fun _ request => request.Lived) invariant.lived ?_ other
      rcases event.terminal_cases terminal with complete | cancelled
      · exact (invariant.lived _).declare_complete complete (completion complete).1
      · exact (invariant.lived _).declare_cancelled cancelled (cancellation cancelled).1
          (cancellation cancelled).2
    · have heard := invariant.heard isOpen
      rw [Session.pending_send, provider]
      change Heard session.context (updateRequest session.provider event.speakId
        (·.declare event) session.context.token.speakId)
        (session.pending session.context.token.speakId ++
          if event.isTerminal && event.speakId == session.context.token.speakId then [event]
          else [])
      by_cases same : event.speakId = session.context.token.speakId
      · rw [if_pos (by simp [terminal, same]), same, updateRequest_same]
        rw [same] at notCancelled
        exact heard.declare event notCancelled
      · rw [if_neg (by simp [same]), List.append_nil, updateRequest_other (Ne.symm same)]
        exact heard
  · have provider : (session.send event).provider = session.provider := by
      simp [Session.send, terminal]
    have cancels (other : ℕ) (cancel : (session.send event).Cancels other) :
        session.Cancels other := by
      rw [Session.Cancels, provider] at cancel
      exact cancel
    refine invariant.provided rfl rfl (fun other => ?_) (fun isOpen => ?_) cancels
    · rw [provider]
      exact invariant.lived other
    · rw [Session.pending_send, provider, if_neg (by simp [terminal]), List.append_nil]
      exact invariant.heard isOpen

/-- **Every step of a provider that follows the lifecycle keeps the invariant.** -/
theorem step (invariant : LifecycleInvariant session) (attribution : AttributionInvariant session)
    (settled : session.worker.Settled) (allowed : FollowsLifecycle session action)
    (taken : SessionStep session action next events) : LifecycleInvariant next := by
  cases taken with
  | spoken taken => exact invariant.spoken attribution taken
  | moved internal taken => exact invariant.moved attribution settled internal taken
  | audioRead reads _ _ taken =>
      obtain ⟨now, reads⟩ := reads
      exact invariant.audioRead attribution settled (reads.imp And.right And.right)
        (step_spec taken)
  | recordRead pipe taken => exact invariant.recordRead attribution pipe (step_spec taken)
  | received pipe receives => exact invariant.received pipe receives
  | committed => exact invariant.committed allowed
  | sent => exact invariant.sent allowed

end LifecycleInvariant

/-- **The invariant holds in every state of every run whose provider follows the
lifecycle.** -/
theorem lifecycleInvariant {guard : Session → SessionAction → Prop} {session : Session}
    {trace : List SessionObservation}
    (lifecycle : ∀ session action, guard session action → FollowsLifecycle session action)
    (reached : sessionMachine.Reaches guard trace session) :
    AttributionInvariant session ∧ LifecycleInvariant session := by
  have contract (session : Session) (action : SessionAction) (allowed : guard session action) :=
    (lifecycle session action allowed).keepsByteContract
  refine ⟨attributionInvariant contract reached, ?_⟩
  refine reached.induct (motive := fun _ session => LifecycleInvariant session) ?_ ?_
  · rintro _ ⟨blockAlign, positive, rfl⟩
    exact .initial blockAlign positive
  · intro _ _ _ _ _ before invariant allowed taken
    exact invariant.step (attributionInvariant contract before)
      (session_workerInvariant before).consistent.toSettled (lifecycle _ _ allowed)
      (sessionStep_spec taken)

end ModernSapi
