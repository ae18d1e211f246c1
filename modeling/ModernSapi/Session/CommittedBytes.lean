import ModernSapi.Library.History
import ModernSapi.Session.CountedBytes

/-!
# From the provider to SAPI

The bytes the provider commits for a request go through the audio pipe, the counters of
the worker, its frame assembler and the spans of its batches before SAPI takes them.
`end_to_end` puts the parts together: what SAPI takes of a request are the first bytes
committed for it, and all of them once the request has reached its declared end.

What was committed is read off the history of a run.
-/

set_option autoImplicit false

namespace ModernSapi

open Interleaving SpeechWorker PcmDeliveryPolicy

/-- A step of a session, with the states around it. -/
abbrev SessionTransition := Transition Session SessionAction SessionObservation

/-- The bytes an action commits for a request. -/
def SessionAction.commits (speakId : ℕ) : SessionAction → List UInt8
  | .commit owner bytes => if owner = speakId then bytes else []
  | _ => []

/-- The bytes the provider has committed for a request. -/
def committedBytes (speakId : ℕ) (history : List SessionTransition) : List UInt8 :=
  history.flatMap fun step => step.action.commits speakId

@[simp] theorem committedBytes_nil (speakId : ℕ) : committedBytes speakId [] = [] := rfl

@[simp] theorem committedBytes_append (speakId : ℕ) (first second : List SessionTransition) :
    committedBytes speakId (first ++ second) =
      committedBytes speakId first ++ committedBytes speakId second :=
  List.flatMap_append

@[simp] theorem committedBytes_singleton (speakId : ℕ) (step : SessionTransition) :
    committedBytes speakId [step] = step.action.commits speakId :=
  List.flatMap_singleton _ _

/-! ## The declared end -/

/-- What a step finds that brings a request to its declared end: a total that stands, or
the record that declares it. -/
structure ReachesEnd (context : RequestContext) (action : WorkerAction)
    (generation declared : ℕ) : Prop where
  generation : generation = context.token.generation
  speaking : context.downstreamState = .speaking
  declared : (context.upstreamFinished = true ∧ context.upstreamTerminalBytes = declared) ∨
    ∃ now event, action = .controlRecord now event ∧ event.speakId = context.token.speakId ∧
      event.isTerminal = true ∧ event.hasValidTerminalBytes = true ∧
      event.terminalAudioBytes = declared

section End

variable {generation declared : ℕ}

/-- Only a check that finds the end reached reports it. -/
theorem SpeechWorker.BoundaryOutcome.reachesEnd {worker : SpeechWorker}
    {checked : SpeechWorker × Bool × List Observation} (outcome : BoundaryOutcome worker checked)
    (member : .terminalBoundaryReached generation declared ∈ checked.2.2) :
    generation = worker.context.token.generation ∧ worker.context.downstreamState = .speaking ∧
      worker.context.upstreamFinished = true ∧
      worker.context.upstreamTerminalBytes = declared ∧
      checked.2.2 = [.terminalBoundaryReached generation declared] := by
  cases outcome with
  | continues | failed => cases member
  | overrun => simp at member
  | drained => simp at member
  | completed speaking finished =>
      obtain ⟨rfl, rfl⟩ := by simpa using member
      exact ⟨rfl, speaking, finished, rfl, rfl⟩

/-- **Only a step that finds the declared end of the speaking request reports it**, behind
the bytes it reads. -/
theorem WorkerStep.reachesEnd {state next : WorkerState} {action : WorkerAction}
    {events : List Observation} (taken : WorkerStep state action next events)
    (member : .terminalBoundaryReached generation declared ∈ events) :
    ReachesEnd state.context action generation declared ∧
      ∃ front, events = front ++ [.terminalBoundaryReached generation declared] := by
  cases taken with
  | @chunkTaken _ chunk _ _ _ outcome =>
      cases outcome with
      | unexpected | discarded | framed => simp at member
      | drained _ outcome | retained _ _ outcome =>
          have reported := by simpa using member
          obtain ⟨same, speaking, finished, total, only⟩ := outcome.reachesEnd reported
          refine ⟨⟨same, speaking, .inl ⟨finished, total⟩⟩, [.pcmRead chunk], ?_⟩
          rw [only]
          rfl
  | batchSettled _ outcome =>
      cases outcome with
      | ignored | rejected | rejectedFaulted => simp at member
      | accepted _ _ outcome | drained _ _ outcome =>
          obtain ⟨same, speaking, finished, total, only⟩ := outcome.reachesEnd member
          exact ⟨⟨same, speaking, .inl ⟨finished, total⟩⟩, [], only⟩
  | recordHandled _ _ outcome =>
      cases outcome with
      | unchanged | malformed | terminalFault | fatal | utteranceFailed => simp at member
      | terminalApplied matching terminal unfinished valid _ outcome =>
          have reported := by simpa using member
          obtain ⟨same, speaking, -, total, only⟩ := outcome.reachesEnd reported
          refine ⟨⟨same, speaking, .inr ⟨_, _, rfl, matching, terminal, valid, total⟩⟩, ?_⟩
          rw [only]
          exact ⟨_, List.singleton_append.symm⟩
  | _ => simp at member

end End

/-! ## The bytes committed -/

/-- The events of the worker in a history. -/
def workerEventsOf (history : List SessionTransition) : List Observation :=
  sessionEvents (eventsOf history)

@[simp] theorem workerEventsOf_append (history : List SessionTransition)
    (step : SessionTransition) :
    workerEventsOf (history ++ [step]) = workerEventsOf history ++ sessionEvents step.events := by
  rw [workerEventsOf, eventsOf_append, eventsOf_cons, eventsOf_nil, List.append_nil,
    sessionEvents_append]
  rfl

/-- How the bytes committed for the requests stand to those counted into them. -/
structure CommittedInvariant (history : List SessionTransition) (session : Session) : Prop where
  books : ∀ speakId,
    (committedBytes speakId history).length = (session.provider speakId).committed
  started : session.context.IsOpen →
    .requestStarted session.context.token ∈ workerEventsOf history
  unique : ∀ first second, .requestStarted first ∈ workerEventsOf history →
    .requestStarted second ∈ workerEventsOf history → first.generation = second.generation →
    first = second
  current : session.context.IsOpen →
    countedBytes session.context.token.generation (eventsOf history) ++
      payload session.audioPipe = committedBytes session.context.token.speakId history
  counted : ∀ token, .requestStarted token ∈ workerEventsOf history →
    countedBytes token.generation (eventsOf history) <+: committedBytes token.speakId history

namespace CommittedInvariant

variable {history : List SessionTransition} {session next : Session} {action : SessionAction}
  {events : List SessionObservation}

theorem initial (blockAlign : ℕ) (positive : 0 < blockAlign) :
    CommittedInvariant [] (.initial blockAlign positive) := by
  have idle : (Session.initial blockAlign positive).context.downstreamState = .idle := rfl
  have closed := RequestContext.not_isOpen_of_idle idle
  refine ⟨fun _ => rfl, fun isOpen => absurd isOpen closed, ?_, fun isOpen => absurd isOpen closed,
    ?_⟩
  · intro _ _ member
    cases member
  · intro _ member
    cases member

/-- What a request has counted are the first bytes committed for it, when no request is
started and the bytes committed grow. -/
theorem noStart (invariant : CommittedInvariant history session)
    (noStart : ∀ token, .requestStarted token ∉ sessionEvents events)
    (token : next.context.token = session.context.token)
    (opened : next.context.IsOpen → session.context.IsOpen)
    (books : ∀ speakId, (session.provider speakId).committed + (action.commits speakId).length =
      (next.provider speakId).committed)
    (current : next.context.IsOpen →
      countedBytes next.context.token.generation
          (eventsOf (history ++ [⟨session, action, next, events⟩])) ++ payload next.audioPipe =
        committedBytes next.context.token.speakId
          (history ++ [⟨session, action, next, events⟩]))
    (counted : ∀ token, .requestStarted token ∈ workerEventsOf history →
      countedBytes token.generation (eventsOf (history ++ [⟨session, action, next, events⟩])) <+:
        committedBytes token.speakId (history ++ [⟨session, action, next, events⟩])) :
    CommittedInvariant (history ++ [⟨session, action, next, events⟩]) next := by
  have before {token : RequestToken}
      (member : .requestStarted token ∈
        workerEventsOf (history ++ [⟨session, action, next, events⟩])) :
      .requestStarted token ∈ workerEventsOf history := by
    rw [workerEventsOf_append] at member
    exact (List.mem_append.mp member).resolve_right (noStart token)
  refine ⟨fun speakId => ?_, fun isOpen => ?_, fun first second one two => ?_, current,
    fun token member => counted token (before member)⟩
  · rw [committedBytes_append, List.length_append, committedBytes_singleton,
      invariant.books speakId, books]
  · rw [token, workerEventsOf_append]
    exact List.mem_append_left _ (invariant.started (opened isOpen))
  · exact invariant.unique first second (before one) (before two)

/-- A step that counts nothing, commits nothing and starts nothing. -/
theorem quiet (invariant : CommittedInvariant history session)
    (none : ∀ token bytes, .counted token bytes ∉ events)
    (noStart : ∀ token, .requestStarted token ∉ sessionEvents events)
    (uncommitted : ∀ speakId, action.commits speakId = [])
    (token : next.context.token = session.context.token)
    (opened : next.context.IsOpen → session.context.IsOpen)
    (books : ∀ speakId, (next.provider speakId).committed = (session.provider speakId).committed)
    (pipe : next.context.IsOpen → next.audioPipe = session.audioPipe) :
    CommittedInvariant (history ++ [⟨session, action, next, events⟩]) next := by
  have same (generation : ℕ) :
      countedBytes generation (eventsOf (history ++ [⟨session, action, next, events⟩])) =
        countedBytes generation (eventsOf history) := by
    rw [eventsOf_append, eventsOf_cons, eventsOf_nil, List.append_nil, countedBytes_append,
      countedBytes_of_none none, List.append_nil]
  have committed (speakId : ℕ) :
      committedBytes speakId (history ++ [⟨session, action, next, events⟩]) =
        committedBytes speakId history := by
    rw [committedBytes_append, committedBytes_singleton, uncommitted, List.append_nil]
  refine invariant.noStart noStart token opened (fun speakId => ?_) (fun isOpen => ?_)
    fun owner member => ?_
  · rw [uncommitted, books]
    rfl
  · rw [same, committed, token, pipe isOpen]
    exact invariant.current (opened isOpen)
  · rw [same, committed]
    exact invariant.counted owner member

/-- A read of the audio pipe. -/
theorem audioRead {read : WorkerAction} {now : ℕ} {bytes rest : List (ℕ × UInt8)}
    {worker : WorkerState} {observed : List Observation}
    (invariant : CommittedInvariant history session) (settled : session.worker.Settled)
    (uncommitted : ∀ speakId, action.commits speakId = [])
    (reads : read = .audioChunk now (payload bytes) ∨
      read = .frameAssemblyFails now (payload bytes))
    (pipe : session.audioPipe = bytes ++ rest)
    (taken : WorkerStep session.speak.worker read worker observed) :
    CommittedInvariant (history ++ [⟨session, action,
        { session with speak := { session.speak with worker }, audioPipe := rest },
        session.countedIn bytes ++ observed.map (.engine ∘ .worker)⟩])
      { session with speak := { session.speak with worker }, audioPipe := rest } := by
  have noStart (token : RequestToken) : .requestStarted token ∉ sessionEvents
      (session.countedIn bytes ++ observed.map (.engine ∘ .worker)) := by
    rw [sessionEvents_append, sessionEvents_countedIn, List.nil_append, sessionEvents_map_worker]
    refine taken.noStart (fun _ _ other => ?_) token
    rcases reads with rfl | rfl
    · cases other
    · cases other
  rcases taken.read_move settled reads with ⟨closed, keeps⟩ | ⟨isOpen, moved⟩
  · have uncounted : session.countedIn bytes = [] := by
      unfold Session.countedIn evaluateChunkIngest
      cases state : session.context.downstreamState with
      | idle | faulted => rfl
      | speaking => exact absurd (.inl state) closed
      | cancelling => exact absurd (.inr state) closed
    have stillClosed : ¬worker.context.IsOpen := by
      rw [keeps.isOpen]
      exact closed
    refine invariant.quiet ?_ noStart uncommitted keeps.token (fun isOpen => absurd isOpen stillClosed)
      (fun _ => rfl) fun isOpen => absurd isOpen stillClosed
    rw [uncounted]
    simp
  · have recorded : session.countedIn bytes = [.counted session.context.token bytes] := by
      unfold Session.countedIn evaluateChunkIngest
      rcases isOpen with speaking | cancelling
      · rw [speaking]
        rfl
      · rw [cancelling]
        rfl
    have token : worker.context.token = session.context.token := moved.token
    have current := invariant.current isOpen
    rw [pipe, payload, List.map_append, ← List.append_assoc] at current
    have committed (speakId : ℕ) : committedBytes speakId (history ++ [⟨session, action,
        { session with speak := { session.speak with worker }, audioPipe := rest },
        session.countedIn bytes ++ observed.map (.engine ∘ .worker)⟩]) =
        committedBytes speakId history := by
      rw [committedBytes_append, committedBytes_singleton, uncommitted, List.append_nil]
    have added (generation : ℕ) : countedBytes generation (eventsOf (history ++ [⟨session, action,
        { session with speak := { session.speak with worker }, audioPipe := rest },
        session.countedIn bytes ++ observed.map (.engine ∘ .worker)⟩])) =
        countedBytes generation (eventsOf history) ++
          if session.context.token.generation = generation then payload bytes else [] := by
      have none : ∀ token bytes, .counted token bytes ∉
          observed.map (SessionObservation.engine ∘ SpeakObservation.worker) := by
        simp
      rw [eventsOf_append, eventsOf_cons, eventsOf_nil, List.append_nil, countedBytes_append,
        countedBytes_append, countedBytes_of_none none, List.append_nil, recorded]
      simp [countedBytes]
    refine invariant.noStart noStart token (fun stillOpen => (moved.opened stillOpen).1)
      (fun speakId => ?_) (fun _ => ?_) fun owner member => ?_
    · rw [uncommitted]
      rfl
    · change countedBytes worker.context.token.generation _ ++ payload rest =
        committedBytes worker.context.token.speakId _
      rw [token, added, if_pos rfl, committed]
      exact current
    · rw [added, committed]
      by_cases same : session.context.token.generation = owner.generation
      · have owns := invariant.unique _ owner (invariant.started isOpen) member same
        rw [if_pos same, ← owns, ← current]
        exact List.prefix_append _ _
      · rw [if_neg same, List.append_nil]
        exact invariant.counted owner member

/-- The provider commits bytes. -/
theorem committed {speakId : ℕ} {bytes : List UInt8}
    (invariant : CommittedInvariant history session)
    (after : AttributionInvariant (session.commit speakId bytes)) :
    CommittedInvariant
      (history ++ [⟨session, .commit speakId bytes, session.commit speakId bytes, []⟩])
      (session.commit speakId bytes) := by
  have same (generation : ℕ) : countedBytes generation (eventsOf
      (history ++ [⟨session, .commit speakId bytes, session.commit speakId bytes, []⟩])) =
      countedBytes generation (eventsOf history) := by
    rw [eventsOf_append, eventsOf_cons, eventsOf_nil, List.append_nil, List.append_nil]
  refine invariant.noStart (by simp) rfl id (fun other => ?_) (fun isOpen => ?_)
    fun owner member => ?_
  · by_cases owner : other = speakId
    · subst owner
      simp [SessionAction.commits, Session.commit]
    · have different : speakId ≠ other := fun same => owner same.symm
      simp [SessionAction.commits, Session.commit, updateRequest_other owner, different]
  · -- What is in the pipe of an open request is its own, so a stray commit is empty.
    have tags := after.attributed.tags isOpen
    change countedBytes session.context.token.generation _ ++
      payload (session.audioPipe ++ bytes.map (speakId, ·)) =
        committedBytes session.context.token.speakId _
    have written : payload (bytes.map (speakId, ·)) = bytes := by
      simp [payload, Function.comp_def]
    rw [same, payload, List.map_append, ← List.append_assoc, committedBytes_append,
      committedBytes_singleton]
    refine congrArg₂ (· ++ ·) (invariant.current isOpen) ?_
    change payload (bytes.map (speakId, ·)) =
      if speakId = session.context.token.speakId then bytes else []
    split
    · exact written
    · next stray =>
        have none : bytes = [] := by
          cases bytes with
          | nil => rfl
          | cons byte bytes =>
              refine absurd (tags (speakId, byte) ?_) stray
              exact List.mem_append_right _ (List.mem_map_of_mem List.mem_cons_self)
        rw [written, none]
  · rw [same, committedBytes_append]
    exact (invariant.counted owner member).trans (List.prefix_append _ _)

/-- A request is started. -/
theorem spoken {now : ℕ} {speak : SpeakState} (invariant : CommittedInvariant history session)
    (attribution : AttributionInvariant session)
    (counted : CountedInvariant (eventsOf history) session)
    (delivered : Delivered (workerEventsOf history) session.worker session.speak.worker.audio)
    (can : session.context.downstreamState = .idle)
    (worker : speak.worker.worker =
      session.worker.started now (session.worker.nextToken (session.speakIdCounter + 1))) :
    CommittedInvariant
      (history ++ [⟨session, .speak now,
        { session with speak, speakIdCounter := session.speakIdCounter + 1 },
        [.engine (.worker (.requestStarted
          (session.worker.nextToken (session.speakIdCounter + 1))))]⟩])
      { session with speak, speakIdCounter := session.speakIdCounter + 1 } := by
  let token := session.worker.nextToken (session.speakIdCounter + 1)
  have generation : session.context.token.generation = session.worker.generationCounter :=
    delivered.generation
  have context : speak.context.token = token := by
    rw [SpeakState.context, WorkerState.context, worker]
    rfl
  have same (owner : ℕ) : countedBytes owner (eventsOf (history ++ [⟨session, .speak now,
      { session with speak, speakIdCounter := session.speakIdCounter + 1 },
      [.engine (.worker (.requestStarted token))]⟩])) = countedBytes owner (eventsOf history) := by
    rw [eventsOf_append, eventsOf_cons, eventsOf_nil, List.append_nil, countedBytes_append]
    exact List.append_nil _
  have committed (speakId : ℕ) : committedBytes speakId (history ++ [⟨session, .speak now,
      { session with speak, speakIdCounter := session.speakIdCounter + 1 },
      [.engine (.worker (.requestStarted token))]⟩]) = committedBytes speakId history := by
    rw [committedBytes_append, committedBytes_singleton]
    exact List.append_nil _
  -- Nothing was counted for the new generation, and nothing committed for the new request.
  have fresh : countedBytes token.generation (eventsOf history) = [] := by
    refine List.flatMap_eq_nil_iff.mpr fun event member => ?_
    cases event with
    | engine => rfl
    | counted owner bytes =>
        have older := counted.bounded owner bytes member
        rw [generation] at older
        have newer : token.generation = session.worker.generationCounter + 1 := rfl
        exact if_neg (by omega)
  have unknown : (session.provider (session.speakIdCounter + 1)).phase = .unknown := by
    by_contra asked
    exact absurd (attribution.known _ (.inl asked)) (by omega)
  have silent : committedBytes (session.speakIdCounter + 1) history = [] := by
    rw [← List.length_eq_zero_iff, invariant.books, attribution.silent _ unknown]
  have newest {owner : RequestToken} (member : .requestStarted owner ∈ workerEventsOf history) :
      owner.generation ≠ token.generation := by
    have older := delivered.startedBound member
    have newer : token.generation = session.worker.generationCounter + 1 := rfl
    omega
  have split {owner : RequestToken} (member : .requestStarted owner ∈
      workerEventsOf (history ++ [⟨session, .speak now,
        { session with speak, speakIdCounter := session.speakIdCounter + 1 },
        [.engine (.worker (.requestStarted token))]⟩])) :
      .requestStarted owner ∈ workerEventsOf history ∨ owner = token := by
    rw [workerEventsOf_append] at member
    exact (List.mem_append.mp member).imp_right fun now => by simpa [sessionEvents] using now
  refine ⟨fun speakId => ?_, fun _ => ?_, fun first second one two equal => ?_, fun _ => ?_,
    fun owner member => ?_⟩
  · rw [committed]
    exact invariant.books speakId
  · change Observation.requestStarted speak.context.token ∈ _
    rw [context, workerEventsOf_append]
    exact List.mem_append_right _ (by simp [sessionEvents, token])
  · rcases split one with old | rfl
    · rcases split two with other | rfl
      · exact invariant.unique first second old other equal
      · exact absurd equal (newest old)
    · rcases split two with other | rfl
      · exact absurd equal.symm (newest other)
      · rfl
  · change countedBytes speak.context.token.generation _ ++ payload session.audioPipe =
      committedBytes speak.context.token.speakId _
    rw [context, same, committed, fresh, (attribution.attributed.idle can).1]
    exact silent.symm
  · rw [same, committed]
    rcases split member with old | rfl
    · exact invariant.counted owner old
    · rw [fresh]
      exact List.nil_prefix

/-- **Every step keeps the invariant.** -/
theorem step (invariant : CommittedInvariant history session)
    (attribution : AttributionInvariant session) (after : AttributionInvariant next)
    (counted : CountedInvariant (eventsOf history) session)
    (delivered : Delivered (workerEventsOf history) session.worker session.speak.worker.audio)
    (settled : session.worker.Settled) (taken : SessionStep session action next events) :
    CommittedInvariant (history ++ [⟨session, action, next, events⟩]) next := by
  cases taken with
  | spoken taken =>
      cases taken with
      | started _ can => exact invariant.spoken attribution counted delivered can.2.1 rfl
      | startRejected =>
          exact invariant.quiet (by simp) (by simp [sessionEvents]) (fun _ => rfl) rfl id (fun _ => rfl)
            fun _ => rfl
  | moved internal taken =>
      have moves := taken.move settled internal
      obtain ⟨-, noStart, -⟩ := taken.emits internal
      rw [← sessionEvents_map_engine] at noStart
      exact invariant.quiet (not_counted_map_engine _) noStart (fun _ => rfl) moves.token
        (fun isOpen => (moves.opened isOpen).1) (fun _ => rfl) fun _ => rfl
  | audioRead reads _ pipe taken =>
      obtain ⟨now, reads⟩ := reads
      refine invariant.audioRead settled (fun _ => ?_) (reads.imp And.right And.right) pipe
        (step_spec taken)
      rcases reads with ⟨rfl, -⟩ | ⟨rfl, -⟩
      · rfl
      · rfl
  | @recordRead now event rest worker observed pipe taken =>
      have spec := step_spec taken
      have noError := attribution.noErrors event (by simp [pipe])
      have moved : worker.context.token = session.context.token ∧
          (worker.context.IsOpen → session.context.IsOpen) := by
        cases spec.record_move noError with
        | moved moved => exact ⟨moved.token, fun isOpen => (moved.opened isOpen).1⟩
        | applied _ _ _ _ moved => exact ⟨moved.token, fun isOpen => (moved.opened isOpen).1⟩
      refine invariant.quiet (by simp) ?_ (fun _ => rfl) moved.1 moved.2 (fun _ => rfl) fun _ => rfl
      rw [sessionEvents_map_worker]
      exact spec.noStart (by simp)
  | received pipe receives =>
      refine invariant.quiet (by simp) (by simp) (fun _ => rfl) rfl id (fun speakId => ?_) fun _ => rfl
      refine updateRequest_imp (motive := fun request =>
        request.committed = (session.provider speakId).committed) speakId ?_ rfl
      rcases receives with ⟨-, rfl⟩ | ⟨-, rfl⟩
      · exact fun _ same => same
      · exact fun _ same => same
  | committed => exact invariant.committed after
  | sent =>
      refine invariant.quiet (by simp) (by simp) (fun _ => rfl) rfl id (fun speakId => ?_) fun _ => rfl
      exact Session.send_imp (motive := fun request =>
        request.committed = (session.provider speakId).committed) _ speakId (fun _ same => same) rfl

end CommittedInvariant

/-! ## The result -/

section Result

variable {history : List SessionTransition} {session next : Session} {action : SessionAction}
  {events : List SessionObservation} {guard : Session → SessionAction → Prop}

theorem recorded_delivered (reached : sessionMachine.recorded.Reaches guard history session) :
    Delivered (workerEventsOf history) session.worker session.speak.worker.audio :=
  session_delivered reached.forget

theorem committedInvariant
    (contract : ∀ session action, guard session action → KeepsByteContract session action)
    (reached : sessionMachine.recorded.Reaches guard history session) :
    CommittedInvariant history session := by
  refine reached.induct (motive := CommittedInvariant) ?_ ?_
  · rintro _ ⟨blockAlign, positive, rfl⟩
    exact .initial blockAlign positive
  · intro _ _ _ _ _ before invariant allowed taken
    have after := before.step allowed taken
    obtain ⟨events, stepped, rfl⟩ := Machine.recorded_step taken
    exact invariant.step (attributionInvariant contract before.forget)
      (attributionInvariant contract after.forget) (countedInvariant contract before.forget)
      (recorded_delivered before) (session_workerInvariant before.forget).consistent.toSettled
      (sessionStep_spec stepped)

/-- What is handed to SAPI of a request are the first bytes committed for it. -/
theorem CommittedInvariant.handed (committed : CommittedInvariant history session)
    (counted : CountedInvariant (eventsOf history) session)
    (delivered : Delivered (workerEventsOf history) session.worker session.speak.worker.audio)
    {token : RequestToken} (started : .requestStarted token ∈ workerEventsOf history) :
    handedOf token.generation (workerEventsOf history) <+:
      committedBytes token.speakId history := by
  refine List.IsPrefix.trans ?_ (committed.counted token started)
  exact List.prefix_of_prefix_length_le (delivered.handedRead _) (counted.ofRead _)
    (counted.handed _)

/-- A terminal record stays in the books. -/
theorem SessionStep.terminals (taken : SessionStep session action next events) {speakId : ℕ}
    {event : ProviderControlEvent} (member : event ∈ (session.provider speakId).terminals) :
    event ∈ (next.provider speakId).terminals := by
  cases taken with
  | spoken | moved | audioRead | recordRead => exact member
  | received _ receives =>
      refine updateRequest_imp (motive := fun request => event ∈ request.terminals) speakId ?_ member
      rcases receives with ⟨-, rfl⟩ | ⟨-, rfl⟩
      · exact fun _ member => member
      · exact fun _ member => member
  | committed =>
      exact updateRequest_imp (motive := fun request => event ∈ request.terminals) speakId
        (fun _ member => member) member
  | sent =>
      exact Session.send_imp (motive := fun request => event ∈ request.terminals) _ speakId
        (fun _ member => List.mem_append_left _ member) member

/-- A step that brings a request to its declared end finds the record that declares it. -/
theorem ReachesEnd.record {step : WorkerAction} {generation declared : ℕ}
    (reaches : ReachesEnd session.context step generation declared)
    (attribution : AttributionInvariant session) (offered : session.Offers step) :
    ∃ event ∈ (session.provider session.context.token.speakId).terminals,
      event.hasValidTerminalBytes = true ∧ event.terminalAudioBytes = declared := by
  rcases reaches.declared with ⟨finished, total⟩ | ⟨now, event, rfl, matching, terminal, valid, total⟩
  · obtain ⟨event, member, valid, bytes⟩ :=
      attribution.attributed.finished (.inl reaches.speaking) finished
    exact ⟨event, member, valid, bytes.trans total⟩
  · have member := attribution.records event (offered.2 now event rfl) terminal
    rw [matching] at member
    exact ⟨event, member, valid, total⟩

/-- The record was in the books when the request of the token was speaking. -/
def SentWhileSpeaking (history : List SessionTransition) (token : RequestToken)
    (event : ProviderControlEvent) : Prop :=
  ∃ step ∈ history, step.before.context.downstreamState = .speaking ∧
    step.before.context.token = token ∧ event ∈ (step.before.provider token.speakId).terminals

/-- The request of the token has reached its declared end: SAPI took as many bytes, and a
terminal record declares them. -/
structure EndReached (history : List SessionTransition) (session : Session) (token : RequestToken)
    (declared : ℕ) : Prop where
  accepted : declared ≤ (acceptedOf token.generation (workerEventsOf history)).length
  record : ∃ event ∈ (session.provider token.speakId).terminals,
    event.hasValidTerminalBytes = true ∧ event.terminalAudioBytes = declared ∧
      SentWhileSpeaking history token event

/-- The step that reports the declared end of a request. -/
theorem endReached_step (attribution : AttributionInvariant session)
    (committed : CommittedInvariant history session)
    (delivered : Delivered (workerEventsOf (history ++ [⟨session, action, next, events⟩]))
      next.worker next.speak.worker.audio)
    (taken : SessionStep session action next events) {generation declared : ℕ}
    (reported : .terminalBoundaryReached generation declared ∈ sessionEvents events) :
    generation = session.context.token.generation ∧
      .requestStarted session.context.token ∈ workerEventsOf history ∧
      EndReached (history ++ [⟨session, action, next, events⟩]) next session.context.token
        declared := by
  rcases taken.worker_cases with ⟨step, offered, stepped⟩ | ⟨-, silent⟩
  · obtain ⟨reaches, front, split⟩ := (step_spec stepped).reachesEnd reported
    have isOpen : session.context.IsOpen := .inl reaches.speaking
    have generation := reaches.generation
    subst generation
    refine ⟨rfl, committed.started isOpen, ?_, ?_⟩
    · rw [workerEventsOf_append] at delivered ⊢
      have exactly := delivered.completed (workerEventsOf history ++ front) _ []
        (by rw [List.append_assoc, ← split]) _ declared rfl
      rw [split, ← List.append_assoc, acceptedOf_append]
      change declared ≤ (acceptedOf session.context.token.generation _ ++ _).length
      rw [List.length_append, exactly.2]
      exact Nat.le_add_right _ _
    · obtain ⟨event, member, valid, bytes⟩ := reaches.record attribution offered
      exact ⟨event, taken.terminals member, valid, bytes, _,
        List.mem_append_right _ (List.mem_singleton_self _), reaches.speaking, rfl, member⟩
  · rw [silent] at reported
    cases reported

/-- Every request whose end was reported has reached it. -/
theorem endReached
    (contract : ∀ session action, guard session action → KeepsByteContract session action)
    (reached : sessionMachine.recorded.Reaches guard history session) {generation declared : ℕ}
    (reported : .terminalBoundaryReached generation declared ∈ workerEventsOf history) :
    ∃ token, .requestStarted token ∈ workerEventsOf history ∧ token.generation = generation ∧
      EndReached history session token declared := by
  refine reached.induct (motive := fun history session =>
    .terminalBoundaryReached generation declared ∈ workerEventsOf history →
      ∃ token, .requestStarted token ∈ workerEventsOf history ∧ token.generation = generation ∧
        EndReached history session token declared) ?_ ?_ reported
  · intro _ _ member
    cases member
  · intro history steps session next action before ends allowed taken member
    have after := before.step allowed taken
    obtain ⟨events, stepped, rfl⟩ := Machine.recorded_step taken
    have spec := sessionStep_spec stepped
    have still {token : RequestToken} (started : .requestStarted token ∈ workerEventsOf history) :
        .requestStarted token ∈
          workerEventsOf (history ++ [⟨session, action, next, events⟩]) := by
      rw [workerEventsOf_append]
      exact List.mem_append_left _ started
    rw [workerEventsOf_append] at member
    rcases List.mem_append.mp member with past | now
    · obtain ⟨token, started, same, accepted, event, record, valid, bytes, step, earlier, spoken⟩ :=
        ends past
      refine ⟨token, still started, same, ?_, event, spec.terminals record, valid, bytes, step,
        List.mem_append_left _ earlier, spoken⟩
      rw [workerEventsOf_append, acceptedOf_append, List.length_append]
      exact accepted.trans (Nat.le_add_right _ _)
    · obtain ⟨same, started, end_⟩ := endReached_step (attributionInvariant contract before.forget)
        (committedInvariant contract before) (recorded_delivered after) spec now
      exact ⟨session.context.token, still started, same.symm, end_⟩

/-- **From the provider to SAPI.** Over a session whose provider keeps the byte contract,
what SAPI takes of a request, and what is handed to it, are the first bytes the provider
committed for that request. Once the request has reached its declared end SAPI has taken
all of them, as many as were declared. -/
theorem end_to_end (reached : sessionMachine.recorded.Reaches KeepsByteContract history session)
    {token : RequestToken} (started : .requestStarted token ∈ workerEventsOf history) :
    acceptedOf token.generation (workerEventsOf history) <+:
      handedOf token.generation (workerEventsOf history) ∧
    handedOf token.generation (workerEventsOf history) <+: committedBytes token.speakId history ∧
    ∀ declared, .terminalBoundaryReached token.generation declared ∈ workerEventsOf history →
      acceptedOf token.generation (workerEventsOf history) =
        committedBytes token.speakId history ∧
      (committedBytes token.speakId history).length = declared := by
  have contract (session : Session) (action : SessionAction)
      (allowed : KeepsByteContract session action) := allowed
  have counted := countedInvariant contract reached.forget
  have committed := committedInvariant contract reached
  have delivered := recorded_delivered reached
  have handed := committed.handed counted delivered started
  have accepted := delivered.acceptedHanded token.generation
  refine ⟨accepted, handed, fun declared reported => ?_⟩
  obtain ⟨owner, owns, same, enough, event, record, valid, bytes, -⟩ :=
    endReached contract reached reported
  have here : owner = token := committed.unique owner token owns started same
  subst here
  have within := (attributionInvariant contract reached.forget).bounded _ event record valid
  rw [← committed.books, bytes] at within
  have whole := accepted.trans handed
  have equal : acceptedOf owner.generation (workerEventsOf history) =
      committedBytes owner.speakId history :=
    whole.eq_of_length (Nat.le_antisymm whole.length_le (within.trans enough))
  exact ⟨equal, Nat.le_antisymm within (equal ▸ enough)⟩

/-- The request of `completedThenAborted` that completes. -/
def completedHistory : List SessionTransition :=
  sessionMachine.recorded.emitted (.initial 2 Nat.two_pos) completedThenAborted

theorem end_to_end_completed :
    acceptedOf 1 (workerEventsOf completedHistory) = committedBytes 1 completedHistory ∧
      (committedBytes 1 completedHistory).length = 4 := by
  have reached : sessionMachine.recorded.Reaches KeepsByteContract completedHistory
      (sessionMachine.recorded.finalState (.initial 2 Nat.two_pos) completedThenAborted) :=
    ⟨_, ⟨2, Nat.two_pos, rfl⟩, sessionMachine.recorded.run_finalState _ _ (by decide) (by decide)⟩
  have started : Observation.requestStarted ⟨1, 1⟩ ∈ workerEventsOf completedHistory := by decide
  exact (end_to_end reached started).2.2 4 (by decide)

end Result

end ModernSapi
