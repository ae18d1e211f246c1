import ModernSapi.Session.CountedBytes
import ModernSapi.Session.Lifecycle
import ModernSapi.Worker.Calm

/-!
# A provider that keeps to the protocol

A provider that follows the lifecycle, declares whole frames and sends only well-formed
records gives no check of the worker a reason to quarantine the session, with one
exception. A request may have two terminal records: a completion, and the
acknowledgement of a cancel that came while declared audio was still to be written. The
acknowledgement supersedes the completion only when the worker forgot the completion on
its way into `Cancelling`. When it processed the completion after that, the
acknowledgement is taken for a duplicate.
-/

set_option autoImplicit false

namespace ModernSapi

open Interleaving SpeechWorker

/-! ## The conditions -/

/-- The record names its request, has valid offsets, declares whole frames, and is
neither an error nor a fatal log. -/
def WellFormedRecord (blockAlign : ℕ) (event : ProviderControlEvent) : Prop :=
  event.speakId ≠ 0 ∧
    (event.isSpeechBoundary = true → event.hasValidSpeechOffsets = true) ∧
    (event.type = .log → event.logSeverity ≠ "error" ∧ event.logSeverity ≠ "fatal") ∧
    (event.isTerminal = true →
      event.hasValidTerminalBytes = true ∧ blockAlign ∣ event.terminalAudioBytes)

instance (blockAlign : ℕ) : DecidablePred (WellFormedRecord blockAlign) :=
  fun _ => inferInstanceAs (Decidable (_ ∧ _ ∧ _ ∧ _))

/-- Every record the provider sends is well formed. -/
def SendsWellFormed (blockAlign : ℕ) : SessionAction → Prop
  | .send event => WellFormedRecord blockAlign event
  | _ => True

instance (blockAlign : ℕ) : DecidablePred (SendsWellFormed blockAlign)
  | .send _ => inferInstanceAs (Decidable (WellFormedRecord _ _))
  | .speak _ | .engine _ | .readAudio .. | .failAssembly .. | .readControl _ | .receive
  | .commit .. => .isTrue trivial

/-- No deadline expires, no call on a pipe fails, and no frame is lost for want of
memory. -/
def CallsSucceed : SessionAction → Prop
  | .failAssembly .. | .engine (.thread .audioReadFails) | .engine (.thread .controlReadFails)
  | .engine (.thread (.frameAssemblyFails ..)) | .engine (.waitTimesOut _)
  | .engine (.drainTimesOut _) => False
  | .engine (.thread (.cancellationSent sent)) | .engine (.dispatched sent)
  | .engine (.cancellationSent sent) => sent.failed = false
  | _ => True

instance : DecidablePred CallsSucceed := by
  intro action
  unfold CallsSucceed
  split <;> infer_instance

/-- The record the control thread reads in a step. -/
def Session.recordTaken (session : Session) : SessionAction → Option ProviderControlEvent
  | .readControl _ => session.controlPipe.head?
  | _ => none

/-- No acknowledgement of a cancel is processed while the completion of the same request
still stands as its terminal. -/
def AcknowledgesUnfinished (session : Session) (action : SessionAction) : Prop :=
  ∀ event ∈ session.recordTaken action, event.type = .synthesisCancelled →
    event.speakId = session.context.token.speakId → session.context.upstreamFinished = false

instance (session : Session) : DecidablePred (AcknowledgesUnfinished session) :=
  fun action => inferInstanceAs (Decidable (∀ event ∈ session.recordTaken action, _ → _ → _))

/-- The provider keeps to the protocol, and nothing fails around it. -/
def Compliant (blockAlign : ℕ) (session : Session) (action : SessionAction) : Prop :=
  FollowsLifecycle session action ∧ SendsWellFormed blockAlign action ∧ CallsSucceed action

instance (blockAlign : ℕ) (session : Session) : DecidablePred (Compliant blockAlign session) :=
  fun _ => inferInstanceAs (Decidable (_ ∧ _ ∧ _))

/-! ## The records of a request that has ended -/

/-- What is still in the control pipe of a request that has ended. -/
inductive Concluded (request : RequestSession) (pending : List ProviderControlEvent) : Prop where
  | completion {completion : ProviderControlEvent} (complete : completion.type = .synthesisComplete)
      (sent : request.terminals = completion :: pending)
  | acknowledged (phase : request.phase = .cancelled) (none : pending = [])

section Concluded

variable {context : RequestContext} {request : RequestSession}
  {pending : List ProviderControlEvent} {event : ProviderControlEvent}

theorem Heard.concluded (heard : Heard context request pending)
    (finished : context.upstreamFinished = true) : Concluded request pending := by
  cases heard with
  | nothing unfinished | forgotten unfinished =>
      rw [finished] at unfinished
      cases unfinished
  | completion _ _ _ complete sent => exact .completion complete sent
  | acknowledged _ _ phase _ none => exact .acknowledged phase none

/-- The only terminal record that can follow a completion is the acknowledgement of a
cancel, and it is the last. -/
theorem Concluded.last (concluded : Concluded request (event :: pending)) (lived : request.Lived) :
    event.type = .synthesisCancelled ∧ Concluded request pending := by
  cases concluded with
  | completion complete sent =>
      cases lived with
      | unknown _ none | active _ none =>
          rw [none] at sent
          cases sent
      | declared _ _ one =>
          rw [one] at sent
          cases sent
      | cancelling _ _ sentSoFar =>
          rcases sentSoFar with none | ⟨_, -, one⟩
          · rw [none] at sent
            cases sent
          · rw [one] at sent
            cases sent
      | cancelled phase _ acknowledges _ sentSoFar =>
          rcases sentSoFar with one | ⟨_, -, two⟩
          · rw [one] at sent
            cases sent
          · rw [two, List.cons.injEq, List.cons.injEq] at sent
            obtain ⟨-, rfl, none⟩ := sent
            exact ⟨acknowledges, .acknowledged phase none.symm⟩
  | acknowledged _ none => cases none

theorem Concluded.receive {update : RequestSession → RequestSession}
    (receives : update = .receiveSpeak ∨ update = .receiveCancel)
    (concluded : Concluded request pending) : Concluded (update request) pending := by
  cases concluded with
  | completion complete sent =>
      rcases receives with rfl | rfl
      · exact .completion complete sent
      · exact .completion complete sent
  | acknowledged phase none =>
      rcases receives with rfl | rfl
      · exact .acknowledged (by simp [RequestSession.receiveSpeak, phase]) none
      · exact .acknowledged (by simp [RequestSession.receiveCancel, phase]) none

theorem Concluded.commit (concluded : Concluded request pending) (bytes : ℕ) :
    Concluded (request.commit bytes) pending := by
  cases concluded with
  | completion complete sent => exact .completion complete sent
  | acknowledged phase none => exact .acknowledged phase none

theorem Concluded.declare (concluded : Concluded request pending)
    (notCancelled : request.phase ≠ .cancelled) :
    Concluded (request.declare event) (pending ++ [event]) := by
  cases concluded with
  | completion complete sent => exact .completion complete (congrArg (· ++ [event]) sent)
  | acknowledged phase => exact absurd phase notCancelled

end Concluded

/-! ## The calls of `Speak` -/

/-- The thread of `Speak` is not on its way through `EnterFaultedState`. -/
def SpeakCall.Calm : SpeakCall → Prop
  | .enterFaultedState _ | .publishing _ => False
  | _ => True

/-- Nothing disturbs the worker and its `Speak` calls. -/
structure SpeakState.Calm (state : SpeakState) : Prop where
  worker : state.worker.Calm
  call : state.call.Calm

/-- **A step of the engine in which nothing fails keeps it calm.** -/
theorem SpeakStep.calm {state next : SpeakState} {action : SpeakAction}
    {events : List SpeakObservation} (taken : SpeakStep state action next events)
    (calm : state.Calm) (credit : state.worker.CreditWithinRead)
    (harmless : ∀ step, action = .thread step → Harmless state.worker step)
    (succeeds : CallsSucceed (.engine action)) :
    next.Calm ∧ ∀ check, .protocolFault check ∉ workerEvents events := by
  obtain ⟨downstream, upstream, pending⟩ :=
    state.worker.worker.isFaulted_eq_false.mp calm.worker.healthy
  cases taken with
  | thread isThread taken =>
      obtain ⟨stays, silent⟩ := calm_step calm.worker (harmless _ rfl) credit isThread (step_spec taken)
      refine ⟨⟨stays, calm.call⟩, fun check => ?_⟩
      simpa using silent check
  | started =>
      exact ⟨⟨⟨rfl, calm.worker.audio, calm.worker.control, calm.worker.noPublisher⟩, trivial⟩,
        by simp [workerEvents]⟩
  | aborted =>
      exact ⟨⟨⟨isFaulted_cancelled calm.worker.healthy _, calm.worker.audio, calm.worker.control,
        calm.worker.noPublisher⟩, trivial⟩, by simp [workerEvents]⟩
  | abortFailed _ _ faulted => exact absurd faulted upstream
  | dispatchFailed _ failed | cancellationFailed _ failed =>
      rw [CallsSucceed, failed] at succeeds
      cases succeeds
  | waitTimedOut | drainTimedOut => exact succeeds.elim
  | faultEntered here | faultRepeated here | faultPublished here =>
      have call := calm.call
      rw [here] at call
      exact call.elim
  | startRejected => exact ⟨calm, by simp [workerEvents]⟩
  | dispatched | cancellationSent | waitEnded | drained =>
      exact ⟨⟨calm.worker, trivial⟩, by simp [workerEvents]⟩

/-! ## The invariant -/

/-- What holds in every state of a session whose provider keeps to the protocol. -/
structure CompliantInvariant (blockAlign : ℕ) (session : Session) : Prop where
  calm : session.speak.Calm
  records : ∀ event ∈ session.controlPipe, WellFormedRecord blockAlign event
  concluded : session.context.downstreamState = .idle → session.context.token.speakId ≠ 0 →
    Concluded session.request (session.pending session.context.token.speakId)

namespace CompliantInvariant

variable {blockAlign : ℕ} {session next : Session} {action : SessionAction} {speak : SpeakState}
  {events : List SessionObservation}

theorem initial (blockAlign : ℕ) (positive : 0 < blockAlign) :
    CompliantInvariant blockAlign (.initial blockAlign positive) := by
  refine ⟨⟨⟨rfl, trivial, trivial, rfl⟩, trivial⟩, ?_, fun _ named => absurd rfl named⟩
  intro event member
  cases member

/-- The bytes a speaking request can read stay within its declared end. -/
theorem staysWithin (attribution : AttributionInvariant session) {more : ℕ}
    (available : more ≤ session.audioPipe.length) : session.context.StaysWithin more := by
  intro speaking finished
  have isOpen : session.context.IsOpen := .inl speaking
  obtain ⟨event, member, valid, total⟩ := attribution.attributed.finished isOpen finished
  have within := attribution.bounded _ event member valid
  rw [total, ← attribution.attributed.counted isOpen] at within
  exact (Nat.add_le_add_left available _).trans within

/-- The request moves, from what a record has made of it. -/
theorem concluded_of_move (invariant : CompliantInvariant blockAlign session)
    {context : RequestContext} (moved : RequestMove context next.context)
    (token : context.token = session.context.token)
    (downstream : context.downstreamState = session.context.downstreamState)
    (provider : next.provider = session.provider)
    (heard : context.IsOpen → Heard context session.request
      (next.pending session.context.token.speakId))
    (pending : Concluded session.request (session.pending session.context.token.speakId) →
      Concluded session.request (next.pending session.context.token.speakId)) :
    next.context.downstreamState = .idle → next.context.token.speakId ≠ 0 →
      Concluded next.request (next.pending next.context.token.speakId) := by
  have same : next.context.token = session.context.token := moved.token.trans token
  rw [Session.request, provider, same]
  intro idle named
  cases moved with
  | kept keeps =>
      have before := downstream.symm.trans (keeps.downstream.symm.trans idle)
      exact pending (invariant.concluded before named)
  | ended isOpen finished => exact (heard isOpen).concluded finished
  | cancelled _ cancelling =>
      rw [idle] at cancelling
      cases cancelling
  | faulted faulted =>
      rw [idle] at faulted
      cases faulted

/-- A terminal record of the current request is not processed before it is expected. -/
theorem unfinished (invariant : CompliantInvariant blockAlign session)
    (lifecycle : LifecycleInvariant session) {now : ℕ} {event : ProviderControlEvent}
    {rest : List ProviderControlEvent} (pipe : session.controlPipe = event :: rest)
    (allowed : AcknowledgesUnfinished session (.readControl now))
    (matching : event.speakId = session.context.token.speakId)
    (terminal : event.isTerminal = true) : session.context.upstreamFinished = false := by
  by_contra finished
  rw [Bool.not_eq_false] at finished
  have pending : session.pending session.context.token.speakId =
      event :: rest.filter fun other =>
        other.isTerminal && other.speakId == session.context.token.speakId := by
    rw [Session.pending, pipe, List.filter_cons_of_pos (by simp [terminal, matching])]
  have concluded : Concluded session.request
      (session.pending session.context.token.speakId) := by
    have named : session.context.token.speakId ≠ 0 := by
      rw [← matching]
      exact (invariant.records event (by simp [pipe])).1
    cases state : session.context.downstreamState with
    | idle => exact invariant.concluded state named
    | speaking => exact (lifecycle.heard (.inl state)).concluded finished
    | cancelling => exact (lifecycle.heard (.inr state)).concluded finished
    | faulted =>
        exact absurd state
          (session.worker.isFaulted_eq_false.mp invariant.calm.worker.healthy).1
  rw [pending] at concluded
  have acknowledges := (concluded.last (lifecycle.lived _)).1
  have unfinished := allowed event (by simp [Session.recordTaken, pipe]) acknowledges matching
  rw [finished] at unfinished
  cases unfinished

/-- The next record passes every check. -/
theorem harmlessRecord (invariant : CompliantInvariant blockAlign session)
    (attribution : AttributionInvariant session) (lifecycle : LifecycleInvariant session)
    (alignment : session.worker.frameAssembler.blockAlign = blockAlign) {now : ℕ}
    {event : ProviderControlEvent} {rest : List ProviderControlEvent}
    (pipe : session.controlPipe = event :: rest)
    (allowed : AcknowledgesUnfinished session (.readControl now)) :
    HarmlessRecord session.worker event := by
  have head : event ∈ session.controlPipe := by simp [pipe]
  obtain ⟨named, boundary, log, declares⟩ := invariant.records event head
  refine ⟨named, boundary, log, fun terminal => (declares terminal).1, fun terminal => ?_,
    fun matching terminal => invariant.unfinished lifecycle pipe allowed matching terminal,
    fun matching terminal speaking => ?_⟩
  · rw [alignment]
    exact (declares terminal).2
  · have sent := attribution.records event head terminal
    have within := attribution.bounded _ event sent (declares terminal).1
    have counted := attribution.attributed.counted (.inl speaking)
    rw [matching, ← counted] at within
    exact (Nat.le_add_right _ _).trans within

/-- A step of the engine that reads nothing and starts nothing. -/
theorem moved {action : SpeakAction} {events : List SpeakObservation}
    (invariant : CompliantInvariant blockAlign session)
    (attribution : AttributionInvariant session) (lifecycle : LifecycleInvariant session)
    (settled : session.worker.Settled) (credit : session.speak.worker.CreditWithinRead)
    (internal : action.isInternal = true) (succeeds : CallsSucceed (.engine action))
    (taken : SpeakStep session.speak action speak events) :
    CompliantInvariant blockAlign
        { session with speak, commandPipe := session.commandPipe ++ sentCommands events } ∧
      ∀ check, .protocolFault check ∉ workerEvents events := by
  have harmless (step : WorkerAction) (here : action = .thread step) :
      Harmless session.speak.worker step := by
    subst here
    cases step with
    | audioChunk | frameAssemblyFails | controlRecord => cases internal
    | audioReadFails | controlReadFails => exact succeeds
    | batchOutcome => exact staysWithin attribution (Nat.zero_le _)
    | cancellationSent => exact succeeds
    | _ => trivial
  obtain ⟨calm, silent⟩ := taken.calm invariant.calm credit harmless succeeds
  refine ⟨⟨calm, invariant.records, ?_⟩, silent⟩
  exact invariant.concluded_of_move (taken.move settled internal) rfl rfl rfl lifecycle.heard id

/-- The worker takes in a read of the audio pipe. -/
theorem audioRead {now : ℕ} {bytes rest : List (ℕ × UInt8)} {worker : WorkerState}
    {observed : List Observation} (invariant : CompliantInvariant blockAlign session)
    (attribution : AttributionInvariant session) (lifecycle : LifecycleInvariant session)
    (settled : session.worker.Settled) (credit : session.speak.worker.CreditWithinRead)
    (nonempty : bytes ≠ []) (pipe : session.audioPipe = bytes ++ rest)
    (taken : session.speak.worker.step (.audioChunk now (payload bytes)) =
      some (worker, observed)) :
    CompliantInvariant blockAlign
        { session with speak := { session.speak with worker }, audioPipe := rest } ∧
      ∀ check, .protocolFault check ∉ observed := by
  have notIdle : session.context.downstreamState ≠ .idle := by
    intro idle
    have empty := (attribution.attributed.idle idle).1
    rw [pipe, List.append_eq_nil_iff] at empty
    exact nonempty empty.1
  have within : session.context.StaysWithin (payload bytes).length := by
    refine staysWithin attribution ?_
    rw [payload_length, pipe, List.length_append]
    exact Nat.le_add_right _ _
  have harmless : Harmless session.speak.worker (.audioChunk now (payload bytes)) :=
    ⟨notIdle, within⟩
  obtain ⟨calm, silent⟩ := calm_step invariant.calm.worker harmless credit rfl (step_spec taken)
  refine ⟨⟨⟨calm, invariant.calm.call⟩, invariant.records, ?_⟩, silent⟩
  rcases (step_spec taken).read_move settled (.inl rfl) with ⟨closed, keeps⟩ | ⟨isOpen, moved⟩
  · exact invariant.concluded_of_move (.kept keeps) rfl rfl rfl lifecycle.heard id
  · refine invariant.concluded_of_move moved rfl rfl rfl (fun _ => ?_) id
    exact (lifecycle.heard isOpen).counted

/-- The worker takes in a record. -/
theorem recordRead {now : ℕ} {event : ProviderControlEvent} {rest : List ProviderControlEvent}
    {worker : WorkerState} {observed : List Observation}
    (invariant : CompliantInvariant blockAlign session)
    (attribution : AttributionInvariant session) (lifecycle : LifecycleInvariant session)
    (credit : session.speak.worker.CreditWithinRead)
    (alignment : session.worker.frameAssembler.blockAlign = blockAlign)
    (pipe : session.controlPipe = event :: rest)
    (allowed : AcknowledgesUnfinished session (.readControl now))
    (taken : session.speak.worker.step (.controlRecord now event) = some (worker, observed)) :
    CompliantInvariant blockAlign
        { session with speak := { session.speak with worker }, controlPipe := rest } ∧
      ∀ check, .protocolFault check ∉ observed := by
  have harmless : Harmless session.speak.worker (.controlRecord now event) :=
    invariant.harmlessRecord attribution lifecycle alignment pipe allowed
  obtain ⟨calm, silent⟩ := calm_step invariant.calm.worker harmless credit rfl (step_spec taken)
  have tail (other : ProviderControlEvent) (member : other ∈ rest) :
      WellFormedRecord blockAlign other :=
    invariant.records other (by rw [pipe]; exact List.mem_cons_of_mem _ member)
  refine ⟨⟨⟨calm, invariant.calm.call⟩, tail, ?_⟩, silent⟩
  have pending := session.pending_cons pipe session.context.token.speakId
  cases (step_spec taken).record_move (attribution.noErrors event (by simp [pipe])) with
  | moved moved refused =>
      have kept : session.pending session.context.token.speakId =
          rest.filter fun other =>
            other.isTerminal && other.speakId == session.context.token.speakId := by
        rw [pending, if_neg, List.nil_append]
        rintro addressed
        rw [Bool.and_eq_true, beq_iff_eq] at addressed
        have faulted := refused addressed.2 harmless.addressed addressed.1
        exact (worker.worker.isFaulted_eq_false.mp calm.healthy).1 faulted
      refine invariant.concluded_of_move moved rfl rfl rfl (fun isOpen => ?_) fun concluded => ?_
      · have heard := lifecycle.heard isOpen
        rwa [kept] at heard
      · rwa [kept] at concluded
  | applied matching terminal valid unfinished moved =>
      rw [if_pos (by simp [terminal, matching]), List.singleton_append] at pending
      refine invariant.concluded_of_move moved rfl rfl rfl (fun isOpen => ?_) fun concluded => ?_
      · have heard := lifecycle.heard isOpen
        rw [pending] at heard
        exact heard.applied (lifecycle.lived _) unfinished
      · rw [pending] at concluded
        exact (concluded.last (lifecycle.lived _)).2

/-- A call of `Speak` starts a request, or fails to. -/
theorem spoken {now : ℕ} {observed : List SpeakObservation}
    (invariant : CompliantInvariant blockAlign session)
    (credit : session.speak.worker.CreditWithinRead)
    (taken : SpeakStep session.speak (.start now (session.speakIdCounter + 1)) speak observed) :
    CompliantInvariant blockAlign
        { session with speak, speakIdCounter := session.speakIdCounter + 1 } ∧
      ∀ check, .protocolFault check ∉ workerEvents observed := by
  obtain ⟨calm, silent⟩ := taken.calm invariant.calm credit (fun _ other => nomatch other) trivial
  refine ⟨⟨calm, invariant.records, ?_⟩, silent⟩
  cases taken with
  | started =>
      intro idle
      cases idle
  | startRejected => exact invariant.concluded

/-- The provider sends a record. -/
theorem sent {event : ProviderControlEvent} (invariant : CompliantInvariant blockAlign session)
    (follows : FollowsLifecycle session (.send event))
    (wellFormed : WellFormedRecord blockAlign event) :
    CompliantInvariant blockAlign (session.send event) := by
  refine ⟨invariant.calm, fun record member => ?_, fun idle named => ?_⟩
  · rcases List.mem_append.mp member with before | now
    · exact invariant.records record before
    · rw [List.mem_singleton] at now
      rw [now]
      exact wellFormed
  · have concluded := invariant.concluded idle named
    change Concluded ((session.send event).provider session.context.token.speakId)
      ((session.send event).pending session.context.token.speakId)
    rw [Session.pending_send]
    cases terminal : event.isTerminal with
    | true =>
        have provider : (session.send event).provider =
            updateRequest session.provider event.speakId (·.declare event) := by
          simp [Session.send, terminal]
        rw [provider]
        by_cases same : event.speakId = session.context.token.speakId
        · rw [if_pos (by simp [same]), ← same, updateRequest_same]
          rw [Session.request, ← same] at concluded
          exact concluded.declare (follows.not_cancelled terminal)
        · rw [if_neg (by simp [same]), List.append_nil, updateRequest_other (Ne.symm same)]
          exact concluded
    | false =>
        have provider : (session.send event).provider = session.provider := by
          simp [Session.send, terminal]
        rw [provider, if_neg (by simp), List.append_nil]
        exact concluded

/-- **Every step of a provider that keeps to the protocol keeps the invariant**, and
reports no protocol fault. -/
theorem step (invariant : CompliantInvariant blockAlign session)
    (attribution : AttributionInvariant session) (lifecycle : LifecycleInvariant session)
    (settled : session.worker.Settled) (credit : session.speak.worker.CreditWithinRead)
    (alignment : session.worker.frameAssembler.blockAlign = blockAlign)
    (compliant : Compliant blockAlign session action)
    (acknowledges : AcknowledgesUnfinished session action)
    (taken : SessionStep session action next events) :
    CompliantInvariant blockAlign next ∧ ∀ check, .protocolFault check ∉ sessionEvents events := by
  obtain ⟨follows, wellFormed, succeeds⟩ := compliant
  cases taken with
  | spoken taken =>
      rw [sessionEvents_map_engine]
      exact invariant.spoken credit taken
  | moved internal taken =>
      rw [sessionEvents_map_engine]
      exact invariant.moved attribution lifecycle settled credit internal succeeds taken
  | audioRead reads nonempty pipe taken =>
      rw [sessionEvents_append, sessionEvents_countedIn, sessionEvents_map_worker, List.nil_append]
      obtain ⟨now, ⟨-, rfl⟩ | ⟨rfl, -⟩⟩ := reads
      · exact invariant.audioRead attribution lifecycle settled credit nonempty pipe taken
      · exact succeeds.elim
  | recordRead pipe taken =>
      rw [sessionEvents_map_worker]
      exact invariant.recordRead attribution lifecycle credit alignment pipe acknowledges taken
  | @received _ _ speakId update pipe receives =>
      refine ⟨⟨invariant.calm, invariant.records, fun idle named => ?_⟩, by simp⟩
      exact updateRequest_imp (motive := fun request => Concluded request
          (session.pending session.context.token.speakId)) _
        (fun _ concluded => concluded.receive (receives.imp And.right And.right))
        (invariant.concluded idle named)
  | @committed speakId bytes =>
      refine ⟨⟨invariant.calm, invariant.records, fun idle named => ?_⟩, by simp⟩
      exact updateRequest_imp (motive := fun request => Concluded request
          (session.pending session.context.token.speakId)) _
        (fun _ concluded => concluded.commit _) (invariant.concluded idle named)
  | sent => exact ⟨invariant.sent follows wellFormed, by simp⟩

end CompliantInvariant

/-! ## The result -/

section Result

variable {blockAlign : ℕ} {positive : 0 < blockAlign} {session next : Session}
  {action : SessionAction} {trace events : List SessionObservation}

theorem mem_sessionEvents {event : Observation} :
    event ∈ sessionEvents trace ↔ .engine (.worker event) ∈ trace := by
  rw [sessionEvents, List.mem_flatMap]
  constructor
  · rintro ⟨observed, member, here⟩
    split at here
    · rw [List.mem_singleton] at here
      rw [here]
      exact member
    · cases here
  · intro member
    exact ⟨_, member, List.mem_singleton.mpr rfl⟩

/-- The block alignment is the one of the initial state. -/
theorem session_blockAlign {guard : Session → SessionAction → Prop}
    (run : sessionMachine.Run guard (.initial blockAlign positive) trace session) :
    session.worker.frameAssembler.blockAlign = blockAlign := by
  refine run.induct
    (motive := fun _ session => session.worker.frameAssembler.blockAlign = blockAlign) rfl ?_
  intro _ _ _ _ _ _ alignment _ taken
  rcases (sessionStep_spec taken).worker_cases with ⟨_, -, stepped⟩ | ⟨same, -⟩
  · exact (blockAlign_step (step_spec stepped)).trans alignment
  · rw [Session.worker, same]
    exact alignment

/-- A terminal record of a request whose terminal is known is taken for a duplicate. -/
theorem WorkerStep.duplicate {state after : WorkerState} {now : ℕ} {event : ProviderControlEvent}
    {observed : List Observation}
    (taken : WorkerStep state (.controlRecord now event) after observed)
    (addressed : event.speakId ≠ 0) (matching : event.speakId = state.context.token.speakId)
    (terminal : event.isTerminal = true) (finished : state.context.upstreamFinished = true) :
    ∃ check, .protocolFault check ∈ observed := by
  cases taken with
  | recordUnaddressed _ unaddressed => exact absurd unaddressed addressed
  | recordHandled _ _ outcome =>
      cases outcome with
      | unchanged inert =>
          rw [inert.terminal matching] at terminal
          cases terminal
      | malformed _ boundary =>
          rw [event.not_terminal_of_boundary boundary] at terminal
          cases terminal
      | @terminalFault _ _ check => exact ⟨check, List.mem_singleton.mpr rfl⟩
      | terminalApplied _ _ unfinished =>
          change state.context.upstreamFinished = false at unfinished
          rw [finished] at unfinished
          cases unfinished
      | fatal _ log | utteranceFailed _ log =>
          rw [event.not_terminal_of_log log] at terminal
          cases terminal
  | recordSkipped _ blank =>
      simp [ProviderControlEvent.isTerminal, ProviderEventType.isTerminal, blank] at terminal

/-- The invariant of a run in which acknowledgements are processed in time. -/
theorem compliantInvariant
    (run : sessionMachine.Run (fun session action =>
        Compliant blockAlign session action ∧ AcknowledgesUnfinished session action)
      (.initial blockAlign positive) trace session) :
    CompliantInvariant blockAlign session ∧ AttributionInvariant session ∧
      LifecycleInvariant session ∧ session.speak.worker.CreditWithinRead ∧
      ∀ check, .protocolFault check ∉ sessionEvents trace := by
  have always {trace : List SessionObservation} {session : Session}
      (run : sessionMachine.Run (fun session action =>
        Compliant blockAlign session action ∧ AcknowledgesUnfinished session action)
        (.initial blockAlign positive) trace session) :
      AttributionInvariant session ∧ LifecycleInvariant session ∧
        session.speak.worker.CreditWithinRead := by
    have reached : sessionMachine.Reaches _ trace session := ⟨_, ⟨blockAlign, positive, rfl⟩, run⟩
    have worker : workerMachine.Reaches Machine.anyStep (sessionEvents trace)
        session.speak.worker :=
      reaches_worker reached fun _ _ => trivial
    obtain ⟨attribution, lifecycle⟩ :=
      lifecycleInvariant (fun _ _ allowed => allowed.1.1) reached
    exact ⟨attribution, lifecycle, (deliveryInvariant worker).creditWithinRead⟩
  obtain ⟨attribution, lifecycle, credit⟩ := always run
  have kept : CompliantInvariant blockAlign session ∧
      ∀ check, .protocolFault check ∉ sessionEvents trace := by
    refine run.induct (motive := fun trace session => CompliantInvariant blockAlign session ∧
      ∀ check, .protocolFault check ∉ sessionEvents trace)
      ⟨.initial blockAlign positive, by simp⟩ ?_
    rintro _ _ _ _ _ before ⟨invariant, silent⟩ ⟨compliant, acknowledges⟩ taken
    obtain ⟨attribution, lifecycle, credit⟩ := always before
    have settled := (session_workerInvariant ⟨_, ⟨blockAlign, positive, rfl⟩, before⟩).consistent
    obtain ⟨after, quiet⟩ := invariant.step attribution lifecycle settled.toSettled credit
      (session_blockAlign before) compliant acknowledges (sessionStep_spec taken)
    refine ⟨after, fun check => ?_⟩
    rw [sessionEvents_append, List.mem_append, not_or]
    exact ⟨silent check, quiet check⟩
  exact ⟨kept.1, attribution, lifecycle, credit, kept.2⟩

/-- **A compliant provider is not quarantined**, as long as no acknowledgement of a
cancel is processed while the completion of the same request stands as its terminal. In
every state so reached the session is not faulted and no check has failed, and the next
step fails a check exactly when it processes such an acknowledgement. -/
theorem compliant_not_quarantined
    (run : sessionMachine.Run (fun session action =>
        Compliant blockAlign session action ∧ AcknowledgesUnfinished session action)
      (.initial blockAlign positive) trace session) :
    session.worker.isFaulted = false ∧
      (∀ check, .engine (.worker (.protocolFault check)) ∉ trace) ∧
      ∀ {action : SessionAction} {next : Session} {events : List SessionObservation},
        Compliant blockAlign session action → session.step action = some (next, events) →
          ((∀ check, .engine (.worker (.protocolFault check)) ∉ events) ↔
            AcknowledgesUnfinished session action) := by
  obtain ⟨invariant, attribution, lifecycle, credit, silent⟩ := compliantInvariant run
  refine ⟨invariant.calm.worker.healthy, fun check => ?_, fun {action} _ _ compliant taken => ?_⟩
  · rw [← mem_sessionEvents]
    exact silent check
  · have settled := (session_workerInvariant ⟨_, ⟨blockAlign, positive, rfl⟩, run⟩).consistent
    constructor
    · intro quiet event member acknowledges matching
      by_contra finished
      rw [Bool.not_eq_false] at finished
      cases action with
      | readControl now =>
          have terminal : event.isTerminal = true := by
            simp [ProviderControlEvent.isTerminal, ProviderEventType.isTerminal, acknowledges]
          obtain ⟨rest, pipe⟩ : ∃ rest, session.controlPipe = event :: rest :=
            List.head?_eq_some_iff.mp member
          have addressed := (invariant.records event (by simp [pipe])).1
          cases sessionStep_spec taken with
          | audioRead reads =>
              obtain ⟨_, ⟨other, -⟩ | ⟨other, -⟩⟩ := reads
              · cases other
              · cases other
          | recordRead here stepped =>
              rw [pipe, List.cons.injEq] at here
              obtain ⟨rfl, -⟩ := here
              obtain ⟨check, reported⟩ :=
                (step_spec stepped).duplicate addressed matching terminal finished
              exact quiet check (List.mem_map.mpr ⟨_, reported, rfl⟩)
      | _ => cases member
    · intro acknowledges check
      rw [← mem_sessionEvents]
      exact (invariant.step attribution lifecycle settled.toSettled credit
        (session_blockAlign run) compliant acknowledges (sessionStep_spec taken)).2 check

/-- Two requests, the second aborted before its bytes are read. -/
theorem compliant_not_quarantined_aborted :
    (sessionMachine.finalState (.initial 2 (by decide)) completedThenAborted).worker.isFaulted =
        false ∧
      ∀ check, .engine (.worker (.protocolFault check)) ∉
        sessionMachine.emitted (.initial 2 (by decide)) completedThenAborted := by
  have kept : sessionMachine.Along (fun session action _ =>
      Compliant 2 session action ∧ AcknowledgesUnfinished session action)
      (.initial 2 (by decide)) completedThenAborted := by
    decide
  have run := sessionMachine.run_finalState _ completedThenAborted kept (by decide)
  obtain ⟨healthy, silent, -⟩ := compliant_not_quarantined run
  exact ⟨healthy, silent⟩

/-- The completion is declared and half of its audio written when the abort comes. The
worker, already cancelling, processes the completion and then the acknowledgement. -/
def acknowledgedAfterCompletion : List SessionAction :=
  [.speak 0, .engine (.dispatched .sOk), .receive, .commit 1 [1, 2],
    .send
      { type := .synthesisComplete, speakId := 1, rawEventName := "synthesis_complete"
        terminalAudioBytes := 4, hasValidTerminalBytes := true },
    .engine (.abortObserved 5), .engine (.cancellationSent .sOk), .receive,
    .send
      { type := .synthesisCancelled, speakId := 1, rawEventName := "synthesis_cancelled"
        terminalAudioBytes := 2, hasValidTerminalBytes := true },
    .readControl 6, .engine (.thread .finalAdmission), .readControl 7]

/-- **A compliant provider can be quarantined.** -/
theorem compliant_quarantined :
    ¬∀ {blockAlign : ℕ} {positive : 0 < blockAlign} {trace : List SessionObservation}
        {session : Session},
      sessionMachine.Run (Compliant blockAlign) (.initial blockAlign positive) trace session →
        session.worker.isFaulted = false ∧
          ∀ check, .engine (.worker (.protocolFault check)) ∉ trace := by
  intro never
  have kept : sessionMachine.Along (fun session action _ => Compliant 2 session action)
      (.initial 2 (by decide)) acknowledgedAfterCompletion := by
    decide
  have run := sessionMachine.run_finalState _ acknowledgedAfterCompletion kept (by decide)
  have healthy := (never run).1
  revert healthy
  decide

end Result

end ModernSapi
