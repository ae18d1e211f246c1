import ModernSapi.Worker.DeliveryInvariant

/-!
# Exact delivery

The results on the bytes of a run of a worker.

* `exact_delivery`: when a request completes, SAPI took exactly the declared bytes,
  in order; and in every run SAPI takes the bytes read in order, is handed whole
  frames, and is handed nothing past a declared total that was recorded before the
  bytes were read.
* `no_missed_completion`: a speaking request with no batch in flight has every
  byte it read delivered but for a partial frame, and has not reached its declared
  end.
-/

set_option autoImplicit false

namespace ModernSapi

open Interleaving SpeechWorker PcmDeliveryPolicy

variable {trace events : List Observation} {state next : WorkerState} {action : WorkerAction}

/-- What holds of the bytes of a run. -/
structure DeliveryInvariant (trace : List Observation) (state : WorkerState) : Prop where
  delivered : Delivered trace state.worker state.audio
  noMissed : state.context.downstreamState = .speaking →
    NoMissedEnd trace state.worker (state.audio.flight state.context.token)

namespace DeliveryInvariant

/-- A step that moves no byte and ends no request. -/
theorem settle {after : SpeechWorker} {audio : AudioThread} {control : ControlThread}
    {publisher : Option Thread} (invariant : DeliveryInvariant trace state)
    (silent : ∀ event ∈ events, event.Silent)
    (noEnd : ∀ generation declared, .terminalBoundaryReached generation declared ∉ events)
    (settles : SettlesTo state.worker after) (kept : AudioKept state.audio audio)
    (flight : after.context.downstreamState = .speaking →
      audio.flight state.context.token = state.audio.flight state.context.token) :
    DeliveryInvariant (trace ++ events) { worker := after, audio, control, publisher } where
  delivered := invariant.delivered.quiet silent (fun member => absurd member (noEnd _ _)) settles
    kept flight
  noMissed speaking := by
    obtain ⟨before, same⟩ := settles.speaking speaking
    change NoMissedEnd _ _ (audio.flight after.context.token)
    rw [settles.token, flight speaking]
    exact (invariant.noMissed before).quiet same

/-- A step that changes neither the worker nor the audio thread. -/
theorem same (invariant : DeliveryInvariant trace state) (worker : next.worker = state.worker)
    (audio : next.audio = state.audio) : DeliveryInvariant (trace ++ []) next := by
  rw [List.append_nil]
  refine ⟨?_, ?_⟩
  · rw [worker, audio]
    exact invariant.delivered
  · rw [WorkerState.context, worker, audio]
    exact invariant.noMissed

/-- The check of the declared end. -/
theorem check {worker : SpeechWorker} {checked : SpeechWorker × Bool × List Observation}
    {audio : AudioThread} (delivered : Delivered trace worker audio)
    (outcome : BoundaryOutcome worker checked) (control : ControlThread)
    (publisher : Option Thread) :
    DeliveryInvariant (trace ++ checked.2.2)
      { worker := checked.1.pendFault checked.2.1, audio, control, publisher } where
  delivered := delivered.check outcome
  noMissed := delivered.check_noMissedEnd outcome

/-- A step that moves the audio thread without a batch, and settles the worker. -/
theorem leave {after : SpeechWorker} {audio : AudioThread} {control : ControlThread}
    {publisher : Option Thread} (invariant : DeliveryInvariant trace state)
    (settles : SettlesTo state.worker after) (clear : state.audio.Clear) (left : audio.Clear)
    (dead : state.audio.Dead → audio.Dead) :
    DeliveryInvariant (trace ++ []) { worker := after, audio, control, publisher } :=
  invariant.settle (by simp) (by simp) settles ⟨.inr left, dead⟩
    fun _ => (left.flight _).trans (clear.flight _).symm

/-- A closed worker, whatever its audio thread does with its batch. -/
theorem close {after : SpeechWorker} {audio : AudioThread} {control : ControlThread}
    {publisher : Option Thread} (invariant : DeliveryInvariant trace state)
    (silent : ∀ event ∈ events, event.Silent)
    (noEnd : ∀ generation declared, .terminalBoundaryReached generation declared ∉ events)
    (settles : SettlesTo state.worker after) (kept : AudioKept state.audio audio)
    (notSpeaking : after.context.downstreamState ≠ .speaking) :
    DeliveryInvariant (trace ++ events) { worker := after, audio, control, publisher } :=
  invariant.settle silent noEnd settles kept fun speaking => absurd speaking notSpeaking

theorem settlesTo_handleMissingSpeakIdLocked (worker : SpeechWorker) :
    SettlesTo worker worker.handleMissingSpeakIdLocked := by
  obtain ⟨failed, same⟩ := worker.handleMissingSpeakIdLocked_eq
  rw [same]
  exact (SettlesTo.refl worker).pendFault failed

theorem settlesTo_cancelled {worker : SpeechWorker} (deadline : ℕ)
    (speaking : worker.context.downstreamState = .speaking) :
    SettlesTo worker (worker.cancelled deadline) where
  token := rfl
  counter := rfl
  raw := rfl
  blockAlign := rfl
  opened _ := .inl speaking
  speaking cancelling := by simp [cancelled, RequestContext.transitionToCancelling] at cancelling

theorem clear_afterBatch (fault : Bool) (cancellationToSend : ℕ) :
    (WorkerState.afterBatch fault cancellationToSend).Clear := by
  unfold WorkerState.afterBatch
  split
  · trivial
  · exact AudioThread.clear_afterChunk fault

/-- Where the thread that leaves `EnterFaultedState` stands. -/
theorem kept_leaveFaulted {thread : Thread}
    (entering : thread = .audio → ∃ thenStop, state.audio = .enterFaultedState thenStop) :
    AudioKept state.audio (state.leaveFaulted thread).audio := by
  cases thread with
  | audio =>
      obtain ⟨thenStop, here⟩ := entering rfl
      refine ⟨.inr (AudioThread.clear_afterFault _), fun dead => .inr ?_⟩
      rw [here] at dead
      rcases dead with dead | dead
      · cases dead
        simp [WorkerState.leaveFaulted, here, AudioThread.afterFault]
      · cases dead
  | control | caller => exact .refl _

/-- A thread leaves `EnterFaultedState` of a closed worker. -/
theorem leaveFaulted {thread : Thread} {after : SpeechWorker} {publisher : Option Thread}
    (invariant : DeliveryInvariant trace state) (settles : SettlesTo state.worker after)
    (notSpeaking : after.context.downstreamState ≠ .speaking)
    (entering : thread = .audio → ∃ thenStop, state.audio = .enterFaultedState thenStop) :
    DeliveryInvariant (trace ++ [])
      ({ state with worker := after, publisher }.leaveFaulted thread) := by
  have kept := kept_leaveFaulted entering
  have same : ({ state with worker := after, publisher }.leaveFaulted thread).audio =
      (state.leaveFaulted thread).audio := by
    cases thread <;> rfl
  rw [← same] at kept
  refine ⟨?_, fun speaking => ?_⟩
  · rw [WorkerState.leaveFaulted_worker]
    exact invariant.delivered.quiet (by simp) (by simp) settles kept
      fun speaking => absurd speaking notSpeaking
  · rw [WorkerState.context, WorkerState.leaveFaulted_worker] at speaking
    exact absurd speaking notSpeaking

/-! ### The steps with a case of their own -/

/-- The audio thread takes in a chunk. -/
theorem chunkTaken {now : ℕ} {chunk : List UInt8}
    {result : SpeechWorker × AudioIngestResult × List Observation}
    (invariant : DeliveryInvariant trace state) (reading : state.audio = .reading)
    (nonempty : chunk ≠ []) (outcome : IngestOutcome state.worker now chunk result) :
    DeliveryInvariant (trace ++ result.2.2)
      { state with worker := result.1, audio := WorkerState.afterIngest result.2.1 } := by
  have delivered := invariant.delivered
  rw [reading] at delivered
  cases outcome with
  | unexpected idle =>
      have read : DeliveryInvariant (trace ++ [.pcmRead chunk]) { state with audio := .reading } :=
        ⟨delivered.readClosed (by simp [idle]) chunk, fun speaking => by
          simp [WorkerState.context, idle] at speaking⟩
      have settled : DeliveryInvariant
          ((trace ++ [.pcmRead chunk]) ++ [.protocolFault .faultUnexpectedIdleAudio])
          { state with
            worker := state.worker.setFaultPending, audio := .enterFaultedState false } :=
        read.settle (by simp [Observation.Silent]) (by simp)
          ((SettlesTo.refl _).pendFault true) ⟨.inr trivial, by simp [AudioThread.Dead]⟩
          fun _ => rfl
      rw [List.append_assoc] at settled
      exact settled
  | discarded faulted =>
      exact ⟨delivered.readClosed (by simp [faulted]) chunk, fun speaking => by
        simp [WorkerState.context, faulted] at speaking⟩
  | @drained cancelling checked outcome =>
      have read := (delivered.readCancelling cancelling now chunk).cleared trivial
        (AudioThread.clear_afterChunk checked.2.1) (by simp [AudioThread.Dead])
      have settled := check read outcome state.control state.publisher
      rw [List.append_assoc] at settled
      exact settled
  | @retained speaking noSpan checked outcome =>
      have left := AudioThread.clear_afterChunk checked.2.1
      have flight : (AudioThread.afterChunk checked.2.1).flight state.worker.context.token =
          { active := false, spans := (state.worker.framing chunk).2 } := by
        rw [left.flight, noSpan]
      have read := delivered.readSpeaking speaking nonempty now false
        (by simp [left.batchToken?]) (by simp [left.spansInFlight])
        (fun batch span here => by
          rw [here] at left
          exact left.elim) flight
      have settled := check read outcome state.control state.publisher
      rw [List.append_assoc] at settled
      exact settled
  | framed speaking spans =>
      refine ⟨delivered.readSpeaking speaking nonempty now true ?_ ?_ ?_ ?_, ?_⟩
      · intro token carried
        exact (Option.some.inj carried).symm
      · exact fun span member => member
      · simp [WorkerState.afterIngest]
      · simp [WorkerState.afterIngest, AudioThread.flight]
      · intro _ _ _ inactive
        simp [WorkerState.afterIngest, AudioThread.flight, WorkerState.context, chunkFramed,
          chunkCounted] at inactive

/-- The outcome of a batch is applied. -/
theorem batchSettled {now bytes : ℕ} {token : RequestToken} {writeAccepted : Bool}
    {result : SpeechWorker × Bool × ℕ × List Observation}
    (invariant : DeliveryInvariant trace state) (consistent : state.worker.Consistent)
    (here : state.audio = .batchDone token bytes writeAccepted)
    (outcome : DeliveryOutcome state.worker now token bytes writeAccepted result) :
    DeliveryInvariant (trace ++ result.2.2.2)
      { state with worker := result.1, audio := WorkerState.afterBatch result.2.1 result.2.2.1 } := by
  have notDead : ¬state.audio.Dead := by simp [here, AudioThread.Dead]
  have kept (fault : Bool) (cancellationToSend : ℕ) :
      AudioKept state.audio (WorkerState.afterBatch fault cancellationToSend) :=
    ⟨.inr (clear_afterBatch _ _), fun dead => absurd dead notDead⟩
  cases outcome with
  | ignored inactive =>
      refine invariant.settle (by simp) (by simp) (.refl _) (kept _ _) fun speaking => ?_
      rw [(clear_afterBatch _ _).flight, here]
      rcases inactive with other | idle | faulted
      · simp [AudioThread.flight, Ne.symm other]
      · simp [idle] at speaking
      · simp [faulted] at speaking
  | @accepted matching speaking checked outcome =>
      subst matching
      have delivered := invariant.delivered
      rw [here] at delivered
      exact check (delivered.credited (clear_afterBatch checked.2.1 0)) outcome _ _
  | rejected _ speaking =>
      refine invariant.close (by simp) (by simp) ?_ (kept _ _) (by
        simp [cancelled, RequestContext.transitionToCancelling])
      have settles := settlesTo_cancelled (now + cancellationTimeoutMs) speaking
      exact ⟨settles.token, settles.counter, settles.raw, settles.blockAlign, settles.opened,
        fun still => by simp [cancelled, RequestContext.transitionToCancelling] at still⟩
  | rejectedFaulted _ speaking upstream =>
      have faulted := consistent.faultedBoth upstream
      rw [speaking] at faulted
      cases faulted
  | @drained _ _ cancelling checked outcome =>
      have moved : Delivered (trace ++ []) state.worker
          (WorkerState.afterBatch checked.2.1 0) :=
        invariant.delivered.quiet (by simp) (by simp) (.refl _) (kept checked.2.1 0)
          fun speaking => by simp [cancelling] at speaking
      rw [List.append_nil] at moved
      exact check moved outcome _ _

/-- A record is taken in. -/
theorem recordHandled {worker : SpeechWorker} {event : ProviderControlEvent} {forward : Bool}
    {audio : AudioThread} {control control' : ControlThread} {publisher : Option Thread}
    {result : SpeechWorker × ControlEventDisposition × List Observation}
    (invariant : DeliveryInvariant trace { worker, audio, control, publisher })
    (outcome : EventOutcome worker event forward result) :
    DeliveryInvariant (trace ++ result.2.2)
      { worker := result.1, audio, control := control', publisher } := by
  cases outcome with
  | unchanged => exact invariant.same rfl rfl
  | malformed =>
      exact invariant.settle (by simp [Observation.Silent]) (by simp)
        ((SettlesTo.refl _).pendFault true) (.refl _) fun _ => rfl
  | fatal =>
      exact invariant.settle (by simp) (by simp) ((SettlesTo.refl _).pendFault true) (.refl _)
        fun _ => rfl
  | terminalFault =>
      exact invariant.close (by simp [Observation.Silent]) (by simp)
        (.of_closed rfl rfl rfl rfl (.inr rfl)) (.refl _)
        (by simp [setFaultPending, transitionRequestToFaultedLocked])
  | @terminalApplied _ _ unfinished _ aligned checked outcome =>
      have applied := invariant.delivered.applyTerminal unfinished event.type aligned
      have settled := check applied outcome control' publisher
      rw [List.append_assoc] at settled
      exact settled
  | utteranceFailed =>
      exact invariant.close (by simp) (by simp) (.of_closed rfl rfl rfl rfl (.inl rfl)) (.refl _)
        (by simp [resetToIdleLocked])

/-- The worker notes progress before it takes in a record. -/
theorem refreshProgress (invariant : DeliveryInvariant trace state) (now : ℕ) (refresh : Bool) :
    DeliveryInvariant (trace ++ [])
      { state with worker := state.worker.refreshProgress now refresh } :=
  invariant.settle (by simp) (by simp)
    ⟨rfl, rfl, rfl, rfl, id, fun speaking => ⟨speaking, rfl, rfl, rfl, rfl, rfl, rfl, id⟩⟩
    (.refl _) fun _ => rfl

/-- **Every step keeps the invariant.** -/
theorem step (invariant : DeliveryInvariant trace state) (worker : WorkerInvariant state)
    (taken : WorkerStep state action next events) : DeliveryInvariant (trace ++ events) next := by
  cases taken with
  | chunkTaken reading nonempty outcome => exact invariant.chunkTaken reading nonempty outcome
  | assemblyFailed reading _ speaking =>
      have delivered := invariant.delivered
      rw [reading] at delivered
      exact ⟨delivered.readFailing speaking _ _, fun _ assembled => absurd (by simp) assembled⟩
  | audioReadFailed reading =>
      refine invariant.leave (.refl _) ?_ trivial ?_
      · rw [reading]
        trivial
      · simp [reading, AudioThread.Dead]
  | spansEnd here ended =>
      have delivered := invariant.delivered
      rw [here] at delivered
      refine ⟨?_, fun speaking => ?_⟩
      · rw [List.append_nil]
        exact delivered.spansEnd ended
      · exact (invariant.noMissed speaking).moves (by rw [here]; rfl)
  | spanHanded here spans matching speaking noFault =>
      have delivered := invariant.delivered
      rw [here] at delivered
      refine ⟨delivered.spanHanded spans matching speaking noFault, fun speaking => ?_⟩
      exact (invariant.noMissed speaking).moves (by rw [here]; rfl)
  | spanAccepted here =>
      have delivered := invariant.delivered
      rw [here] at delivered
      refine ⟨delivered.spanAccepted, fun speaking => ?_⟩
      exact (invariant.noMissed speaking).moves (by rw [here]; rfl)
  | spanRejected here =>
      have delivered := invariant.delivered
      rw [here] at delivered
      refine ⟨?_, fun speaking => ?_⟩
      · rw [List.append_nil]
        exact delivered.spanRejected
      · exact (invariant.noMissed speaking).moves (by rw [here]; rfl)
  | batchSettled here outcome => exact invariant.batchSettled worker.consistent here outcome
  | cancellationSent here =>
      refine invariant.leave (.refl _) ?_ (AudioThread.clear_afterChunk _) ?_
      · rw [here]
        trivial
      · simp [here, AudioThread.Dead]
  | recordUnaddressed =>
      exact invariant.settle (by simp) (by simp) (settlesTo_handleMissingSpeakIdLocked _)
        (.refl _) fun _ => rfl
  | @recordHandled now event _ _ _ outcome =>
      have noted := invariant.refreshProgress now
        (ControlEventPolicy.evaluateParsedEvent event state.context).shouldRefreshProgress
      rw [List.append_nil] at noted
      exact noted.recordHandled outcome
  | recordSkipped | controlReadFailed | eventDecided | eventReturned | startRejected | stopIgnored
  | cancellationIgnored =>
      exact invariant.same rfl rfl
  | faultEntered =>
      exact invariant.close (by simp) (by simp) (.of_closed rfl rfl rfl rfl (.inr rfl)) (.refl _)
        (by simp [setFaultPending, faulted, transitionRequestToFaultedLocked])
  | faultRepeated may =>
      refine invariant.leaveFaulted (.of_closed rfl rfl rfl rfl (.inr rfl))
        (by simp [faulted, transitionRequestToFaultedLocked]) ?_
      rintro rfl
      exact state.entering_of_mayEnterFaulted may
  | faultPublished publisher =>
      have held := worker.publishing (by simp [publisher])
      refine invariant.leaveFaulted (.of_closed rfl rfl rfl rfl held.closed) held.not_speaking ?_
      rintro rfl
      exact worker.audioPublishes publisher
  | @started now speakId =>
      refine ⟨invariant.delivered.started now speakId, fun _ _ _ _ finished => ?_⟩
      simp [SpeechWorker.started, RequestContext.reset] at finished
  | stopped =>
      exact invariant.close (by simp) (by simp) (.resetToIdleLocked _) (.refl _)
        (by simp [resetToIdleLocked])
  | cancellationBegun speaking =>
      exact invariant.close (by simp) (by simp) (settlesTo_cancelled _ speaking) (.refl _)
        (by simp [cancelled, RequestContext.transitionToCancelling])

theorem initial (blockAlign : ℕ) (positive : 0 < blockAlign) :
    DeliveryInvariant [] (.initial blockAlign positive) :=
  ⟨.initial blockAlign positive, fun speaking => by
    simp [WorkerState.initial, WorkerState.context] at speaking⟩

end DeliveryInvariant

/-- **The invariant holds in every state of every run.** -/
theorem deliveryInvariant {guard : WorkerState → WorkerAction → Prop}
    (reached : workerMachine.Reaches guard trace state) : DeliveryInvariant trace state := by
  refine reached.induct (motive := DeliveryInvariant) ?_ ?_
  · rintro _ ⟨blockAlign, positive, rfl⟩
    exact .initial blockAlign positive
  · intro _ _ _ _ _ before invariant _ taken
    exact invariant.step (workerInvariant before) (step_spec taken)

/-! ## The block alignment of a run -/

theorem blockAlign_step (taken : WorkerStep state action next events) :
    next.worker.frameAssembler.blockAlign = state.worker.frameAssembler.blockAlign := by
  cases taken with
  | chunkTaken _ _ outcome =>
      cases outcome with
      | unexpected | discarded => rfl
      | drained _ outcome => exact (SettlesTo.boundary outcome).blockAlign
      | retained _ _ outcome =>
          exact (SettlesTo.boundary outcome).blockAlign.trans (chunkFramed_blockAlign _ _ _)
      | framed => exact chunkFramed_blockAlign _ _ _
  | batchSettled _ outcome =>
      cases outcome with
      | ignored | rejected | rejectedFaulted => rfl
      | accepted _ _ outcome => exact (SettlesTo.boundary outcome).blockAlign
      | drained _ _ outcome => exact (SettlesTo.boundary outcome).blockAlign
  | recordUnaddressed => exact (DeliveryInvariant.settlesTo_handleMissingSpeakIdLocked _).blockAlign
  | recordHandled _ _ outcome =>
      cases outcome with
      | unchanged | malformed | terminalFault | fatal | utteranceFailed => rfl
      | terminalApplied _ _ _ _ _ outcome => exact (SettlesTo.boundary outcome).blockAlign
  | faultRepeated | faultPublished =>
      rw [WorkerState.leaveFaulted_worker]
      rfl
  | _ => rfl

theorem blockAlign_run {guard : WorkerState → WorkerAction → Prop} {start : WorkerState}
    (run : workerMachine.Run guard start trace state) :
    state.worker.frameAssembler.blockAlign = start.worker.frameAssembler.blockAlign := by
  induction run with
  | refl => rfl
  | step _ _ taken ih => exact (blockAlign_step (step_spec taken)).trans ih

/-! ## Exact delivery -/

section Claims

variable {blockAlign : ℕ} {positive : 0 < blockAlign}

/-- **Exact delivery.** Whenever a request ends by normal completion, SAPI has
taken exactly the bytes read for it up to the declared total, and as many as were
declared. In every run, each
span handed over is a positive number of whole frames, and what SAPI took of a
request are the first bytes read for it, in order. Of the bytes read after the
declared total was recorded none past that total is handed over. -/
theorem exact_delivery
    (run : workerMachine.Run Machine.anyStep (.initial blockAlign positive) trace state) :
    (∀ before generation declared after,
      trace = before ++ .terminalBoundaryReached generation declared :: after →
        acceptedOf generation before = (readSince generation before).take declared ∧
          (acceptedOf generation before).length = declared) ∧
    (∀ generation span, .spanHanded generation span ∈ trace → WholeFrames blockAlign span) ∧
    (∀ generation, acceptedOf generation trace <+: readSince generation trace) ∧
    ∀ before generation declared raw after,
      trace = before ++ .terminalReceived generation declared raw :: after →
        handedOf generation trace <+:
          (readSince generation trace).take (max (readSince generation before).length declared) := by
  have delivered := (deliveryInvariant ⟨_, ⟨blockAlign, positive, rfl⟩, run⟩).delivered
  refine ⟨?_, ?_, delivered.acceptedRead, ?_⟩
  · intro before generation declared after split
    exact delivered.completed before _ after split generation declared rfl
  · intro generation span handed
    have frames := delivered.handedFrames handed
    rwa [blockAlign_run run] at frames
  · intro before generation declared raw after split
    have received : .terminalReceived generation declared raw ∈ trace := by
      rw [split]
      simp
    have counted := delivered.recorded before _ after split generation declared raw rfl
    have bounded := (delivered.record received).2
    refine List.prefix_take_iff.mpr ⟨delivered.handedRead generation, ?_⟩
    exact bounded.trans (max_le_max_right declared counted)

/-- A request of eight bytes in two frames: the first chunk ends inside a frame, the
declared total overtakes the second, and SAPI takes two batches. -/
def straddledRequest : List WorkerAction :=
  [.start 0 1, .audioChunk 1 [1, 2, 3, 4, 5], .spanAdmission,
    .controlRecord 2
      { type := .synthesisComplete, speakId := 1, rawEventName := "synthesis_complete"
        terminalAudioBytes := 8, hasValidTerminalBytes := true },
    .onAudioDataReturns true, .spanAdmission, .batchOutcome 3, .audioChunk 4 [6, 7, 8],
    .spanAdmission, .onAudioDataReturns true, .spanAdmission, .batchOutcome 5]

theorem exact_delivery_straddled :
    let trace := workerMachine.emitted (.initial 4 (by decide)) straddledRequest
    .terminalBoundaryReached 1 8 ∈ trace ∧ acceptedOf 1 trace <+: readSince 1 trace ∧
      ∀ before generation declared after,
        trace = before ++ .terminalBoundaryReached generation declared :: after →
          acceptedOf generation before = (readSince generation before).take declared ∧
            (acceptedOf generation before).length = declared := by
  have run := workerMachine.run_finalState (.initial 4 (by decide)) straddledRequest
    (Machine.along_anyStep _ _) (by decide)
  obtain ⟨completed, -, inOrder, -⟩ := exact_delivery run
  exact ⟨by decide, inOrder 1, completed⟩

/-! ## No missed completion -/

/-- No frame assembly runs out of memory. -/
def AssemblySucceeds (_ : WorkerState) : WorkerAction → Prop
  | .frameAssemblyFails .. => False
  | _ => True

instance (state : WorkerState) : DecidablePred (AssemblySucceeds state)
  | .frameAssemblyFails .. => .isFalse id
  | .audioChunk .. | .audioReadFails | .spanAdmission | .onAudioDataReturns _ | .batchOutcome _
  | .cancellationSent _ | .controlRecord .. | .controlReadFails | .finalAdmission
  | .onSpeechEventReturns | .enterFaultedState _ | .publishFault _ | .start .. | .stop
  | .beginCancellation _ => .isTrue trivial

theorem assembled_step (allowed : AssemblySucceeds state action)
    (taken : WorkerStep state action next events) : .frameAssemblyFailed ∉ events := by
  have boundary {worker : SpeechWorker} {checked : SpeechWorker × Bool × List Observation}
      (outcome : BoundaryOutcome worker checked) : .frameAssemblyFailed ∉ checked.2.2 :=
    fun member => outcome.silent _ member
  cases taken with
  | assemblyFailed => exact allowed.elim
  | chunkTaken _ _ outcome =>
      cases outcome with
      | unexpected | discarded | framed => simp
      | drained _ outcome => simpa using boundary outcome
      | retained _ _ outcome => simpa using boundary outcome
  | batchSettled _ outcome =>
      cases outcome with
      | ignored | rejected | rejectedFaulted => simp
      | accepted _ _ outcome => exact boundary outcome
      | drained _ _ outcome => exact boundary outcome
  | recordHandled _ _ outcome =>
      cases outcome with
      | unchanged | malformed | terminalFault | fatal | utteranceFailed => simp
      | terminalApplied _ _ _ _ _ outcome => simpa using boundary outcome
  | _ => simp

theorem assembled {start : WorkerState}
    (run : workerMachine.Run AssemblySucceeds start trace state) :
    .frameAssemblyFailed ∉ trace := by
  induction run with
  | refl => simp
  | step _ allowed taken ih =>
      rw [List.mem_append, not_or]
      exact ⟨ih, assembled_step allowed (step_spec taken)⟩

/-- With no batch in flight, every byte of the speaking request has been delivered
but for the carry, and no declared end has been passed. -/
theorem DeliveryInvariant.delivered_add_carry (invariant : DeliveryInvariant trace state)
    (assembled : .frameAssemblyFailed ∉ trace)
    (speaking : state.context.downstreamState = .speaking)
    (noFault : state.context.faultPending = false) (noBatch : state.audio.Clear) :
    state.context.deliveredAudioBytes + state.worker.frameAssembler.carry.length =
      state.context.rawAudioBytesRead := by
  have ledger := invariant.delivered.ledger speaking
  have open_ := invariant.noMissed speaking assembled noFault
  rw [noBatch.flight] at ledger open_
  have handed := ledger.handed rfl
  have credit := ledger.credit
  simp only [List.append_nil, Nat.add_zero] at handed credit
  rcases ledger.line assembled noFault rfl with whole | ⟨finished, excess, -⟩
  · rw [deliveryLine, handed, List.flatten_nil, List.append_nil] at whole
    rw [WorkerState.context, ledger.raw, ← whole, List.length_append, credit]
  · exact absurd excess (Nat.lt_asymm (open_ rfl finished))

/-- **No missed completion.** When frame assembly does not run out of memory, in
every state of every run in which a request is speaking, no fault is pending and no
batch is between its ingest and its outcome: the bytes delivered and the carry are
the bytes read, the bytes delivered are whole frames, and a declared end has not been
reached. So a request whose declared bytes have all been read is not left speaking,
and neither is one that overran, unless the session is faulted. -/
theorem no_missed_completion
    (run : workerMachine.Run AssemblySucceeds (.initial blockAlign positive) trace state)
    (speaking : state.context.downstreamState = .speaking) (noBatch : state.audio.Clear) :
    (state.context.faultPending = false →
      state.context.deliveredAudioBytes + state.worker.frameAssembler.carry.length =
          state.context.rawAudioBytesRead ∧
        blockAlign ∣ state.context.deliveredAudioBytes ∧
        (state.context.upstreamFinished = true →
          state.context.rawAudioBytesRead < state.context.upstreamTerminalBytes)) ∧
    (state.context.upstreamFinished = true →
      state.context.upstreamTerminalBytes ≤ state.context.rawAudioBytesRead →
        state.worker.isFaulted = true) := by
  have invariant := deliveryInvariant ⟨_, ⟨blockAlign, positive, rfl⟩, run⟩
  have whole := assembled run
  have below (noFault : state.context.faultPending = false)
      (finished : state.context.upstreamFinished = true) :
      state.context.rawAudioBytesRead < state.context.upstreamTerminalBytes :=
    invariant.noMissed speaking whole noFault (by rw [noBatch.flight]) finished
  refine ⟨fun noFault => ⟨?_, ?_, below noFault⟩, fun finished reached => ?_⟩
  · exact invariant.delivered_add_carry whole speaking noFault noBatch
  · have aligned := invariant.delivered.acceptedAligned state.context.token.generation
    have credit := (invariant.delivered.ledger speaking).credit
    rw [noBatch.flight, Nat.add_zero] at credit
    rw [blockAlign_run run, ← credit] at aligned
    exact aligned
  · cases pending : state.context.faultPending with
    | true => exact isFaulted_of_pending pending
    | false => exact absurd reached (Nat.not_le_of_lt (below pending finished))

/-- Between the two batches of a request, with the declared total recorded. -/
theorem no_missed_completion_straddled :
    let state := workerMachine.finalState (.initial 4 (by decide)) (straddledRequest.take 7)
    state.context.deliveredAudioBytes + state.worker.frameAssembler.carry.length =
        state.context.rawAudioBytesRead ∧
      4 ∣ state.context.deliveredAudioBytes ∧
      (state.context.upstreamFinished = true →
        state.context.rawAudioBytesRead < state.context.upstreamTerminalBytes) :=
  (no_missed_completion
    (workerMachine.run_finalState (.initial 4 (by decide)) (straddledRequest.take 7)
      (by decide) (by decide))
    (by decide) (by decide)).1 (by decide)

end Claims

end ModernSapi
