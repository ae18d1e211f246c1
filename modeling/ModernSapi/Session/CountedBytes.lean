import ModernSapi.Session.Attribution
import ModernSapi.Worker.RequestEnd

/-!
# Byte attribution

`byte_attribution`: over a session whose provider keeps the byte contract, every
byte counted into a request was written for it, and what is handed to SAPI in
batches of a request are the first bytes counted into it.
-/

set_option autoImplicit false

namespace ModernSapi

open Interleaving SpeechWorker PcmDeliveryPolicy

/-- The bytes counted into the request of a generation. -/
def countedBytes (generation : ℕ) (trace : List SessionObservation) : List UInt8 :=
  trace.flatMap fun
    | .counted token bytes => if token.generation = generation then payload bytes else []
    | _ => []

/-! ## The bytes counted -/

variable {session next : Session} {action : SessionAction}
  {trace events : List SessionObservation}

theorem countedBytes_append (generation : ℕ) :
    countedBytes generation (trace ++ events) =
      countedBytes generation trace ++ countedBytes generation events :=
  List.flatMap_append

theorem countedBytes_of_none (none : ∀ token bytes, .counted token bytes ∉ events)
    (generation : ℕ) : countedBytes generation events = [] := by
  refine List.flatMap_eq_nil_iff.mpr fun event member => ?_
  cases event with
  | engine => rfl
  | counted token bytes => exact absurd member (none token bytes)

theorem not_counted_map_engine (observed : List SpeakObservation) (token : RequestToken)
    (bytes : List (ℕ × UInt8)) : .counted token bytes ∉ observed.map SessionObservation.engine := by
  simp

/-- How the bytes counted relate to those read and those handed to SAPI. -/
structure CountedInvariant (trace : List SessionObservation) (session : Session) : Prop where
  owned : ∀ token bytes, .counted token bytes ∈ trace → ∀ byte ∈ bytes, byte.1 = token.speakId
  bounded : ∀ token bytes, .counted token bytes ∈ trace →
    token.generation ≤ session.context.token.generation
  ofRead : ∀ generation,
    countedBytes generation trace <+: readSince generation (sessionEvents trace)
  current : session.context.IsOpen →
    countedBytes session.context.token.generation trace =
      readSince session.context.token.generation (sessionEvents trace)
  raw : session.context.IsOpen → session.context.rawAudioBytesRead =
    (countedBytes session.context.token.generation trace).length
  handed : ∀ generation, (handedOf generation (sessionEvents trace)).length ≤
    (countedBytes generation trace).length

namespace CountedInvariant

/-- A step that counts nothing, reads nothing and starts nothing. -/
theorem quiet (counted : CountedInvariant trace session)
    (none : ∀ token bytes, .counted token bytes ∉ events)
    (read : readBytes (sessionEvents events) = [])
    (noStart : ∀ token, .requestStarted token ∉ sessionEvents events)
    (token : next.context.token = session.context.token)
    (opened : next.context.IsOpen → session.context.IsOpen ∧
      next.context.rawAudioBytesRead = session.context.rawAudioBytesRead)
    (handed : ∀ generation, handedOf generation (sessionEvents events) = [] ∨
      (generation = next.context.token.generation ∧ next.context.IsOpen))
    (delivered : Delivered (sessionEvents (trace ++ events)) next.worker next.speak.worker.audio) :
    CountedInvariant (trace ++ events) next := by
  have same (generation : ℕ) :
      countedBytes generation (trace ++ events) = countedBytes generation trace := by
    rw [countedBytes_append, countedBytes_of_none none, List.append_nil]
  have sinceSame (generation : ℕ) :
      readSince generation (sessionEvents (trace ++ events)) =
        readSince generation (sessionEvents trace) := by
    rw [sessionEvents_append]
    exact readSince_append_quiet read noStart
  have before {token : RequestToken} {bytes : List (ℕ × UInt8)}
      (member : .counted token bytes ∈ trace ++ events) : .counted token bytes ∈ trace :=
    (List.mem_append.mp member).resolve_right (none token bytes)
  refine ⟨fun token bytes member => counted.owned token bytes (before member),
    fun token bytes member => ?_, fun generation => ?_, fun isOpen => ?_, fun isOpen => ?_,
    fun generation => ?_⟩
  · rw [‹next.context.token = session.context.token›]
    exact counted.bounded token bytes (before member)
  · rw [same, sinceSame]
    exact counted.ofRead generation
  · rw [token, same, sinceSame]
    exact counted.current (opened isOpen).1
  · rw [(opened isOpen).2, token, same]
    exact counted.raw (opened isOpen).1
  · rw [same]
    rcases handed generation with nothing | ⟨rfl, isOpen⟩
    · rw [sessionEvents_append, handedOf_append, nothing, List.append_nil]
      exact counted.handed generation
    · have within := delivered.handedRaw
      obtain ⟨wasOpen, raw⟩ := opened isOpen
      rw [show next.worker.context.rawAudioBytesRead = _ from raw, counted.raw wasOpen] at within
      rw [token] at within ⊢
      exact within

theorem initial (blockAlign : ℕ) (positive : 0 < blockAlign) :
    CountedInvariant [] (.initial blockAlign positive) := by
  have idle : (Session.initial blockAlign positive).context.downstreamState = .idle := rfl
  have closed := RequestContext.not_isOpen_of_idle idle
  refine ⟨?_, ?_, fun _ => List.nil_prefix, fun isOpen => absurd isOpen closed,
    fun isOpen => absurd isOpen closed, fun _ => Nat.le_refl _⟩
  · intro _ _ member
    cases member
  · intro _ _ member
    cases member

/-- A read of the audio pipe. -/
theorem audioRead {read : WorkerAction} {now : ℕ} {bytes rest : List (ℕ × UInt8)}
    {worker : WorkerState} {observed : List Observation}
    (counted : CountedInvariant trace session) (attribution : AttributionInvariant session)
    (settled : session.worker.Settled)
    (started : session.context.IsOpen →
      Started session.context.token.generation (sessionEvents trace))
    (reads : read = .audioChunk now (payload bytes) ∨
      read = .frameAssemblyFails now (payload bytes))
    (pipe : session.audioPipe = bytes ++ rest)
    (taken : WorkerStep session.speak.worker read worker observed) :
    CountedInvariant
      (trace ++ (session.countedIn bytes ++ observed.map (.engine ∘ .worker)))
      { session with speak := { session.speak with worker }, audioPipe := rest } := by
  have chunk : readBytes observed = payload bytes := by
    rw [taken.readBytes]
    rcases reads with rfl | rfl
    · rfl
    · rfl
  have notHanded (generation : ℕ) : handedOf generation observed = [] := by
    rcases taken.handedOf generation with nothing | ⟨other, -⟩
    · exact nothing
    · rcases reads with rfl | rfl
      · cases other
      · cases other
  have worked : sessionEvents (session.countedIn bytes ++ observed.map (.engine ∘ .worker)) =
      observed := by
    simp
  have none : ∀ token bytes, .counted token bytes ∉
      observed.map (SessionObservation.engine ∘ SpeakObservation.worker) := by
    simp
  have handed (generation : ℕ) : (handedOf generation (sessionEvents (trace ++
      (session.countedIn bytes ++ observed.map (.engine ∘ .worker))))).length ≤
      (countedBytes generation (trace ++
        (session.countedIn bytes ++ observed.map (.engine ∘ .worker)))).length := by
    rw [sessionEvents_append, worked, handedOf_append, notHanded, List.append_nil,
      countedBytes_append, List.length_append]
    exact (counted.handed generation).trans (Nat.le_add_right _ _)
  rcases taken.read_move settled reads with ⟨closed, keeps⟩ | ⟨isOpen, moved⟩
  · have uncounted : session.countedIn bytes = [] := by
      unfold Session.countedIn evaluateChunkIngest
      cases state : session.context.downstreamState with
      | idle | faulted => rfl
      | speaking => exact absurd (.inl state) closed
      | cancelling => exact absurd (.inr state) closed
    have stillClosed : ¬worker.context.IsOpen := by
      rw [keeps.isOpen]
      exact closed
    have before {token : RequestToken} {other : List (ℕ × UInt8)}
        (member : .counted token other ∈ trace ++
          (session.countedIn bytes ++ observed.map (.engine ∘ .worker))) :
        .counted token other ∈ trace := by
      rw [uncounted, List.nil_append] at member
      exact (List.mem_append.mp member).resolve_right (none token other)
    refine ⟨fun token other member => counted.owned token other (before member),
      fun token other member => ?_, fun generation => ?_, fun isOpen => absurd isOpen stillClosed,
      fun isOpen => absurd isOpen stillClosed, handed⟩
    · change _ ≤ worker.context.token.generation
      rw [keeps.token]
      exact counted.bounded token other (before member)
    · rw [countedBytes_append, uncounted, List.nil_append, countedBytes_of_none none,
        List.append_nil, sessionEvents_append]
      exact (counted.ofRead generation).trans (readSince_prefix_append _)
  · have recorded : session.countedIn bytes = [.counted session.context.token bytes] := by
      unfold Session.countedIn evaluateChunkIngest
      rcases isOpen with speaking | cancelling
      · rw [speaking]
        rfl
      · rw [cancelling]
        rfl
    have token : worker.context.token = session.context.token := moved.token
    have added (generation : ℕ) : countedBytes generation (trace ++
        (session.countedIn bytes ++ observed.map (.engine ∘ .worker))) =
        countedBytes generation trace ++
          if session.context.token.generation = generation then payload bytes else [] := by
      rw [countedBytes_append, countedBytes_append, countedBytes_of_none none, List.append_nil,
        recorded]
      simp [countedBytes]
    have since : readSince session.context.token.generation (sessionEvents (trace ++
        (session.countedIn bytes ++ observed.map (.engine ∘ .worker)))) =
        readSince session.context.token.generation (sessionEvents trace) ++ payload bytes := by
      rw [sessionEvents_append, worked, readSince_append_of_started _ (started isOpen), chunk]
    have member {owner : RequestToken} {other : List (ℕ × UInt8)}
        (here : .counted owner other ∈ trace ++
          (session.countedIn bytes ++ observed.map (.engine ∘ .worker))) :
        .counted owner other ∈ trace ∨ (owner = session.context.token ∧ other = bytes) := by
      rw [recorded] at here
      rcases List.mem_append.mp here with before | now
      · exact .inl before
      · rcases List.mem_append.mp now with this | later
        · rw [List.mem_singleton] at this
          cases this
          exact .inr ⟨rfl, rfl⟩
        · exact absurd later (none owner other)
    refine ⟨fun owner other here => ?_, fun owner other here => ?_, fun generation => ?_,
      fun _ => ?_, fun stillOpen => ?_, handed⟩
    · rcases member here with before | ⟨rfl, rfl⟩
      · exact counted.owned owner other before
      · intro byte inBytes
        refine attribution.attributed.tags isOpen byte ?_
        rw [pipe]
        exact List.mem_append_left _ inBytes
    · change _ ≤ worker.context.token.generation
      rw [token]
      rcases member here with before | ⟨rfl, rfl⟩
      · exact counted.bounded owner other before
      · exact Nat.le_refl _
    · rw [added]
      by_cases same : session.context.token.generation = generation
      · subst same
        rw [if_pos rfl, since, counted.current isOpen]
      · rw [if_neg same, List.append_nil, sessionEvents_append]
        exact (counted.ofRead generation).trans (readSince_prefix_append _)
    · change countedBytes worker.context.token.generation _ =
        readSince worker.context.token.generation _
      rw [token, added, if_pos rfl, since, counted.current isOpen]
    · change worker.context.rawAudioBytesRead =
        (countedBytes worker.context.token.generation _).length
      rw [token, added, if_pos rfl, List.length_append, payload_length, ← counted.raw isOpen]
      have raw := (moved.opened stillOpen).2
      rw [payload_length] at raw
      exact raw

/-- A request is started. -/
theorem started {now speakId : ℕ} {speak : SpeakState} (counted : CountedInvariant trace session)
    (delivered : Delivered (sessionEvents trace) session.worker session.speak.worker.audio)
    (worker : speak.worker.worker =
      session.worker.started now (session.worker.nextToken speakId)) :
    CountedInvariant
      (trace ++ [.engine (.worker (.requestStarted (session.worker.nextToken speakId)))])
      { session with speak, speakIdCounter := session.speakIdCounter + 1 } := by
  have context : speak.context =
      (session.worker.started now (session.worker.nextToken speakId)).context := by
    rw [SpeakState.context, WorkerState.context, worker]
  have generation : session.context.token.generation = session.worker.generationCounter :=
    delivered.generation
  have none : ∀ token bytes, .counted token bytes ∉
      [SessionObservation.engine (.worker (.requestStarted (session.worker.nextToken speakId)))] := by
    simp
  have before {token : RequestToken} {bytes : List (ℕ × UInt8)}
      (member : .counted token bytes ∈ trace ++
        [.engine (.worker (.requestStarted (session.worker.nextToken speakId)))]) :
      .counted token bytes ∈ trace :=
    (List.mem_append.mp member).resolve_right (none token bytes)
  have same (owner : ℕ) : countedBytes owner (trace ++
      [.engine (.worker (.requestStarted (session.worker.nextToken speakId)))]) =
      countedBytes owner trace := by
    rw [countedBytes_append, countedBytes_of_none none, List.append_nil]
  -- The generation is new, so nothing was counted or read for it.
  have fresh : countedBytes (session.worker.generationCounter + 1) trace = [] := by
    refine List.flatMap_eq_nil_iff.mpr fun event member => ?_
    cases event with
    | engine => rfl
    | counted token bytes =>
        have older := counted.bounded token bytes member
        rw [generation] at older
        exact if_neg (by omega)
  have notStarted : ¬Started (session.worker.generationCounter + 1) (sessionEvents trace) := by
    rintro ⟨token, member, new⟩
    have older := delivered.startedBound member
    omega
  refine ⟨fun token bytes member => counted.owned token bytes (before member),
    fun token bytes member => ?_, fun owner => ?_, fun _ => ?_, fun _ => ?_, fun owner => ?_⟩
  · change _ ≤ speak.context.token.generation
    rw [context]
    have older := counted.bounded token bytes (before member)
    rw [generation] at older
    exact older.trans (Nat.le_succ _)
  · rw [same, sessionEvents_append]
    exact (counted.ofRead owner).trans (readSince_prefix_append _)
  · change countedBytes speak.context.token.generation _ =
      readSince speak.context.token.generation _
    rw [context, same, sessionEvents_append]
    change countedBytes (session.worker.generationCounter + 1) trace =
      readSince (session.worker.generationCounter + 1) _
    rw [fresh, readSince_append_of_not_started _ notStarted]
    simp [sessionEvents, readSince, nextToken]
  · change speak.context.rawAudioBytesRead =
      (countedBytes speak.context.token.generation _).length
    rw [context, same]
    change 0 = (countedBytes (session.worker.generationCounter + 1) trace).length
    rw [fresh]
    rfl
  · rw [same, sessionEvents_append, handedOf_append]
    exact (congrArg List.length (List.append_nil _)).trans_le (counted.handed owner)

/-- **Every step keeps the invariant.** -/
theorem step (counted : CountedInvariant trace session)
    (attribution : AttributionInvariant session)
    (before : Delivered (sessionEvents trace) session.worker session.speak.worker.audio)
    (after : Delivered (sessionEvents (trace ++ events)) next.worker next.speak.worker.audio)
    (settled : session.worker.Settled) (taken : SessionStep session action next events) :
    CountedInvariant (trace ++ events) next := by
  cases taken with
  | @spoken now _ _ taken =>
      cases taken with
      | started => exact counted.started before rfl
      | startRejected =>
          exact counted.quiet (by simp) rfl (by simp [sessionEvents]) rfl (fun isOpen => ⟨isOpen, rfl⟩)
            (fun _ => .inl rfl) after
  | @moved action speak observed internal taken =>
      have moves := taken.move settled internal
      obtain ⟨read, noStart, handed⟩ := taken.emits internal
      rw [← sessionEvents_map_engine] at read noStart handed
      refine counted.quiet (not_counted_map_engine _) read noStart moves.token moves.opened
        (fun generation => ?_) after
      refine (handed generation).imp id ?_
      rintro ⟨same, speaking, context⟩
      refine ⟨?_, ?_⟩
      · change _ = speak.context.token.generation
        rw [context]
        exact same
      · change speak.context.IsOpen
        rw [context]
        exact .inl speaking
  | audioRead reads _ pipe taken =>
      obtain ⟨now, reads⟩ := reads
      exact counted.audioRead attribution settled before.openStarted
        (reads.imp And.right And.right) pipe (step_spec taken)
  | @recordRead now event rest worker observed pipe taken =>
      have spec := step_spec taken
      have noError := attribution.noErrors event (by simp [pipe])
      have moved : worker.context.token = session.context.token ∧
          (worker.context.IsOpen → session.context.IsOpen ∧
            worker.context.rawAudioBytesRead = session.context.rawAudioBytesRead) := by
        cases spec.record_move noError with
        | moved moved => exact ⟨moved.token, moved.opened⟩
        | applied _ _ _ _ moved => exact ⟨moved.token, moved.opened⟩
      refine counted.quiet (by simp) ?_ ?_ moved.1 moved.2 (fun generation => ?_) after
      · rw [sessionEvents_map_worker]
        exact spec.readBytes
      · rw [sessionEvents_map_worker]
        exact spec.noStart (by simp)
      · rw [sessionEvents_map_worker]
        refine (spec.handedOf generation).imp id ?_
        rintro ⟨other, -⟩
        cases other
  | received | committed | sent =>
      exact counted.quiet (by simp) rfl (by simp) rfl (fun isOpen => ⟨isOpen, rfl⟩)
        (fun _ => .inl rfl) after

end CountedInvariant

theorem session_delivered {guard : Session → SessionAction → Prop}
    (reached : sessionMachine.Reaches guard trace session) :
    Delivered (sessionEvents trace) session.worker session.speak.worker.audio := by
  have run : workerMachine.Reaches Machine.anyStep (sessionEvents trace) session.speak.worker :=
    reaches_worker reached fun _ _ => trivial
  exact (deliveryInvariant run).delivered

theorem countedInvariant {guard : Session → SessionAction → Prop}
    (contract : ∀ session action, guard session action → KeepsByteContract session action)
    (reached : sessionMachine.Reaches guard trace session) : CountedInvariant trace session := by
  refine reached.induct (motive := CountedInvariant) ?_ ?_
  · rintro _ ⟨blockAlign, positive, rfl⟩
    exact .initial blockAlign positive
  · intro _ _ _ _ _ before counted allowed taken
    exact counted.step (attributionInvariant contract before) (session_delivered before)
      (session_delivered (before.step allowed taken))
      (session_workerInvariant before).consistent.toSettled (sessionStep_spec taken)

/-! ## The result -/

/-- **Byte attribution.** Over a session whose provider keeps the byte contract,
every byte counted into a request was written for that request, an open request has
counted as many bytes as its counter says, and what is handed to SAPI in batches of
a request are the first bytes counted into it. -/
theorem byte_attribution {blockAlign : ℕ} {positive : 0 < blockAlign}
    (run : sessionMachine.Run KeepsByteContract (.initial blockAlign positive) trace session) :
    (∀ token bytes, .counted token bytes ∈ trace → ∀ byte ∈ bytes, byte.1 = token.speakId) ∧
    (session.context.IsOpen → session.context.rawAudioBytesRead =
      (countedBytes session.context.token.generation trace).length) ∧
    ∀ generation, handedOf generation (sessionEvents trace) <+: countedBytes generation trace := by
  have reached : sessionMachine.Reaches KeepsByteContract trace session :=
    ⟨_, ⟨blockAlign, positive, rfl⟩, run⟩
  have counted := countedInvariant (fun _ _ allowed => allowed) reached
  refine ⟨counted.owned, counted.raw, fun generation => ?_⟩
  exact List.prefix_of_prefix_length_le ((session_delivered reached).handedRead generation)
    (counted.ofRead generation) (counted.handed generation)

/-- A session of two requests: the first completes, the second is aborted after its
bytes were committed and before they are read. -/
def completedThenAborted : List SessionAction :=
  [.speak 0, .engine (.dispatched .sOk), .receive, .commit 1 [1, 2, 3, 4],
    .send
      { type := .synthesisComplete, speakId := 1, rawEventName := "synthesis_complete"
        terminalAudioBytes := 4, hasValidTerminalBytes := true },
    .readControl 1, .readAudio 2 4, .engine (.thread .spanAdmission),
    .engine (.thread (.onAudioDataReturns true)), .engine (.thread .spanAdmission),
    .engine (.thread (.batchOutcome 3)), .engine .waitEnds, .engine (.thread .finalAdmission),
    .speak 10, .engine (.dispatched .sOk), .receive, .commit 2 [5, 6],
    .engine (.abortObserved 11), .engine (.cancellationSent .sOk), .receive,
    .send
      { type := .synthesisCancelled, speakId := 2, rawEventName := "synthesis_cancelled"
        terminalAudioBytes := 2, hasValidTerminalBytes := true },
    .readAudio 12 2, .readControl 13, .engine .drained]

theorem byte_attribution_served :
    let trace := sessionMachine.emitted (.initial 2 (by decide)) completedThenAborted
    (∀ token bytes, .counted token bytes ∈ trace → ∀ byte ∈ bytes, byte.1 = token.speakId) ∧
      ∀ generation, handedOf generation (sessionEvents trace) <+: countedBytes generation trace := by
  have kept : sessionMachine.Along (fun session action _ => KeepsByteContract session action)
      (.initial 2 (by decide)) completedThenAborted := by
    decide
  have run := sessionMachine.run_finalState _ completedThenAborted kept (by decide)
  obtain ⟨owned, -, handed⟩ := byte_attribution run
  exact ⟨owned, handed⟩

end ModernSapi
