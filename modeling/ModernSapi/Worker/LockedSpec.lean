import ModernSapi.Worker.Locked

/-!
# What each critical section can do

One inversion for each critical section of the worker: the cases it has, the
condition of each case, and the worker it leaves. The results about runs go
through these and never unfold the sections.
-/

set_option autoImplicit false

namespace ModernSapi.SpeechWorker

open SpeechStatePolicy PcmDeliveryPolicy ControlEventPolicy

/-! ## Small facts about the updates -/

section Updates

variable (worker : SpeechWorker)

@[simp] theorem pendFault_false : worker.pendFault false = worker := rfl

@[simp] theorem pendFault_true : worker.pendFault true = worker.setFaultPending := rfl

@[simp] theorem pendFault_frameAssembler (failed : Bool) :
    (worker.pendFault failed).frameAssembler = worker.frameAssembler := by
  cases failed <;> rfl

@[simp] theorem pendFault_generationCounter (failed : Bool) :
    (worker.pendFault failed).generationCounter = worker.generationCounter := by
  cases failed <;> rfl

theorem pendFault_context (failed : Bool) :
    (worker.pendFault failed).context =
      { worker.context with faultPending := worker.context.faultPending || failed } := by
  cases failed <;> simp [pendFault, setFaultPending]

/-- A record that names no request changes the worker by a pending fault, if at all. -/
theorem handleMissingSpeakIdLocked_eq :
    ∃ failed, worker.handleMissingSpeakIdLocked = worker.pendFault failed := by
  unfold handleMissingSpeakIdLocked
  split
  · exact ⟨true, rfl⟩
  · exact ⟨false, rfl⟩

theorem isFaulted_eq_true : worker.isFaulted = true ↔
    worker.context.downstreamState = .faulted ∨ worker.context.upstreamState = .faulted ∨
      worker.context.faultPending = true := by
  simp [isFaulted, or_assoc]

theorem isFaulted_eq_false : worker.isFaulted = false ↔
    worker.context.downstreamState ≠ .faulted ∧ worker.context.upstreamState ≠ .faulted ∧
      worker.context.faultPending = false := by
  simp [isFaulted, and_assoc]

variable {worker}

theorem isFaulted_of_downstream (downstream : worker.context.downstreamState = .faulted) :
    worker.isFaulted = true :=
  worker.isFaulted_eq_true.mpr (.inl downstream)

theorem isFaulted_of_pending (pending : worker.context.faultPending = true) :
    worker.isFaulted = true :=
  worker.isFaulted_eq_true.mpr (.inr (.inr pending))

end Updates

/-! ## Starting, stopping and faulting -/

/-- A start finds the worker idle and without a fault. -/
def CanStart (worker : SpeechWorker) : Prop :=
  worker.context.upstreamState = .idle ∧ worker.context.downstreamState = .idle ∧
    worker.context.faultPending = false

/-- The token a start creates. -/
def nextToken (worker : SpeechWorker) (speakId : ℕ) : RequestToken :=
  { speakId, generation := worker.generationCounter + 1 }

theorem start_accepted {worker : SpeechWorker} (can : worker.CanStart) (now speakId : ℕ) :
    worker.start now speakId =
      (worker.started now (worker.nextToken speakId), true,
        [.requestStarted (worker.nextToken speakId)]) := by
  simp [start, evaluateStart, can.1, can.2.1, can.2.2, nextToken]

theorem start_rejected {worker : SpeechWorker} (cannot : ¬worker.CanStart) (now speakId : ℕ) :
    worker.start now speakId = (worker, false, []) := by
  have refused : ¬(worker.context.upstreamState = .idle ∧
      worker.context.downstreamState = .idle ∧ ¬worker.context.faultPending = true) := by
    simpa [CanStart] using cannot
  simp only [start, evaluateStart, refused, if_false, ne_eq, reduceCtorEq, not_false_eq_true,
    if_true]

/-- A worker that is faulted cannot start. -/
theorem not_canStart_of_isFaulted {worker : SpeechWorker} (faulted : worker.isFaulted = true) :
    ¬worker.CanStart := by
  rintro ⟨upstream, downstream, pending⟩
  simp [isFaulted, upstream, downstream, pending] at faulted

/-- The request is neither closed nor faulted. -/
def IsOpen (worker : SpeechWorker) : Prop :=
  worker.context.downstreamState ≠ .idle ∧ worker.context.downstreamState ≠ .faulted ∧
    worker.context.upstreamState ≠ .faulted

theorem stop_open {worker : SpeechWorker} (isOpen : worker.IsOpen) :
    worker.stop = (worker.resetToIdleLocked, some worker.context.token.speakId) := by
  simp [stop, evaluateStop, isOpen.1, isOpen.2.1, isOpen.2.2]

theorem stop_closed {worker : SpeechWorker} (closed : ¬worker.IsOpen) :
    worker.stop = (worker, none) := by
  have ignored : worker.context.downstreamState = .idle ∨
      worker.context.downstreamState = .faulted ∨ worker.context.upstreamState = .faulted := by
    by_contra other
    push Not at other
    exact closed other
  simp only [stop, evaluateStop, ignored, if_true]

/-- A cancellation begins for a request that is being spoken. -/
theorem beginCancellationLocked_speaking {worker : SpeechWorker}
    (speaking : worker.context.downstreamState = .speaking)
    (upstream : worker.context.upstreamState ≠ .faulted) (deadline : ℕ) :
    worker.beginCancellationLocked deadline =
      (worker.cancelled deadline, .sOk, worker.context.token.speakId) := by
  simp [beginCancellationLocked, SpeechStatePolicy.evaluateBeginCancellation, speaking, upstream]

/-- In every other state the worker is left as it is. -/
theorem beginCancellationLocked_other {worker : SpeechWorker}
    (other : worker.context.downstreamState = .speaking → worker.context.upstreamState = .faulted)
    (deadline : ℕ) :
    (worker.beginCancellationLocked deadline).1 = worker ∧
      (worker.beginCancellationLocked deadline).2.1 ≠ .sOk := by
  unfold beginCancellationLocked SpeechStatePolicy.evaluateBeginCancellation
  cases state : worker.context.downstreamState with
  | idle => simp
  | faulted => simp
  | cancelling =>
      by_cases upstream : worker.context.upstreamState = .faulted <;> simp [upstream]
  | speaking => simp [other state]

/-- The worker once its request is faulted, and the fault is announced if it is
the first. -/
def faulted (worker : SpeechWorker) : SpeechWorker :=
  { worker with frameAssembler := worker.frameAssembler.reset }.transitionRequestToFaultedLocked

theorem enterFaultedState_first {worker : SpeechWorker}
    (first : worker.faultPublicationStarted = false) :
    worker.enterFaultedState =
      ({ worker.faulted with faultPublicationStarted := true }.setFaultPending, true) := by
  simp [enterFaultedState, faulted, transitionRequestToFaultedLocked, first]

theorem enterFaultedState_again {worker : SpeechWorker}
    (again : worker.faultPublicationStarted = true) :
    worker.enterFaultedState = (worker.faulted, false) := by
  simp [enterFaultedState, faulted, transitionRequestToFaultedLocked, again]

/-! ## The end of a request -/

/-- The counters of a speaking request have reached its declared end. -/
structure ReachedEnd (worker : SpeechWorker) : Prop where
  raw : worker.context.rawAudioBytesRead = worker.context.upstreamTerminalBytes
  delivered : worker.context.deliveredAudioBytes = worker.context.upstreamTerminalBytes
  carry : worker.frameAssembler.carry = []

/-- The request goes on: its end is not declared, not reached, or not its own to
reach. -/
def GoesOn (worker : SpeechWorker) : Prop :=
  worker.context.upstreamFinished = true →
    match worker.context.downstreamState with
    | .speaking =>
        worker.context.rawAudioBytesRead ≤ worker.context.upstreamTerminalBytes ∧
          worker.context.deliveredAudioBytes ≤ worker.context.upstreamTerminalBytes ∧
          ¬worker.ReachedEnd
    | .cancelling => worker.context.rawAudioBytesRead < worker.context.upstreamTerminalBytes
    | .idle | .faulted => True

theorem GoesOn.speaking {worker : SpeechWorker} (goesOn : worker.GoesOn)
    (speaking : worker.context.downstreamState = .speaking)
    (finished : worker.context.upstreamFinished = true) :
    worker.context.rawAudioBytesRead ≤ worker.context.upstreamTerminalBytes ∧
      worker.context.deliveredAudioBytes ≤ worker.context.upstreamTerminalBytes ∧
      ¬worker.ReachedEnd := by
  have bounded := goesOn finished
  rw [speaking] at bounded
  exact bounded

theorem GoesOn.cancelling {worker : SpeechWorker} (goesOn : worker.GoesOn)
    (cancelling : worker.context.downstreamState = .cancelling)
    (finished : worker.context.upstreamFinished = true) :
    worker.context.rawAudioBytesRead < worker.context.upstreamTerminalBytes := by
  have bounded := goesOn finished
  rw [cancelling] at bounded
  exact bounded

/-- The outcomes of the boundary check. -/
inductive BoundaryOutcome (worker : SpeechWorker) :
    SpeechWorker × Bool × List Observation → Prop where
  | continues (notFailed : worker.context.upstreamState ≠ .failed) (goesOn : worker.GoesOn) :
      BoundaryOutcome worker (worker, false, [])
  | failed (failed : worker.context.upstreamState = .failed) :
      BoundaryOutcome worker (worker.resetToIdleLocked, false, [])
  | overrun (speaking : worker.context.downstreamState = .speaking)
      (finished : worker.context.upstreamFinished = true)
      (excess : worker.context.upstreamTerminalBytes < worker.context.rawAudioBytesRead ∨
        worker.context.upstreamTerminalBytes < worker.context.deliveredAudioBytes) :
      BoundaryOutcome worker (worker, true, [.protocolFault .overrunFault])
  | completed (speaking : worker.context.downstreamState = .speaking)
      (finished : worker.context.upstreamFinished = true) (reached : worker.ReachedEnd) :
      BoundaryOutcome worker (worker.resetToIdleLocked, false,
        [.terminalBoundaryReached worker.context.token.generation
          worker.context.upstreamTerminalBytes])
  | drained (cancelling : worker.context.downstreamState = .cancelling)
      (finished : worker.context.upstreamFinished = true)
      (enough : worker.context.upstreamTerminalBytes ≤ worker.context.rawAudioBytesRead) :
      BoundaryOutcome worker (worker.resetToIdleLocked, false,
        [.cancellationBoundaryReached worker.context.token.generation
          worker.context.upstreamTerminalBytes worker.context.rawAudioBytesRead])

/-- The check has one of its five outcomes, each under its own condition. -/
theorem checkTerminalBoundaryLocked_spec (worker : SpeechWorker) :
    BoundaryOutcome worker worker.checkTerminalBoundaryLocked := by
  unfold checkTerminalBoundaryLocked evaluateTerminalBoundary
  by_cases failed : worker.context.upstreamState = .failed
  · simpa only [failed, if_true] using .failed failed
  simp only [failed, if_false]
  cases finished : worker.context.upstreamFinished with
  | false =>
      refine .continues failed ?_
      intro declared
      simp [finished] at declared
  | true =>
      cases state : worker.context.downstreamState with
      | speaking =>
          by_cases excess : worker.context.upstreamTerminalBytes <
              worker.context.rawAudioBytesRead ∨
            worker.context.upstreamTerminalBytes < worker.context.deliveredAudioBytes
          · simpa [evaluateTerminalBoundaryFacts, excess] using
              BoundaryOutcome.overrun state finished excess
          · by_cases reached : worker.ReachedEnd
            · simpa [evaluateTerminalBoundaryFacts, reached.raw, reached.delivered,
                reached.carry] using BoundaryOutcome.completed state finished reached
            · have goesOn : worker.GoesOn := by
                intro _
                simp only [state]
                push Not at excess
                exact ⟨excess.1, excess.2, reached⟩
              have notReached : ¬(worker.context.rawAudioBytesRead =
                  worker.context.upstreamTerminalBytes ∧
                worker.context.deliveredAudioBytes = worker.context.upstreamTerminalBytes ∧
                worker.frameAssembler.carry = []) := fun all => reached ⟨all.1, all.2.1, all.2.2⟩
              simpa [evaluateTerminalBoundaryFacts, excess, and_assoc, notReached] using
                BoundaryOutcome.continues failed goesOn
      | cancelling =>
          by_cases enough : worker.context.upstreamTerminalBytes ≤
              worker.context.rawAudioBytesRead
          · simpa [evaluateTerminalBoundaryFacts, enough] using
              BoundaryOutcome.drained state finished enough
          · have goesOn : worker.GoesOn := by
              intro _
              simpa only [state] using Nat.not_le.mp enough
            simpa [evaluateTerminalBoundaryFacts, enough] using
              BoundaryOutcome.continues failed goesOn
      | idle =>
          have goesOn : worker.GoesOn := by simp [GoesOn, state]
          simpa using BoundaryOutcome.continues failed goesOn
      | faulted =>
          have goesOn : worker.GoesOn := by simp [GoesOn, state]
          simpa using BoundaryOutcome.continues failed goesOn

/-! ## Audio -/

/-- The worker after a chunk is counted for its open request. -/
def chunkCounted (worker : SpeechWorker) (now bytesRead : ℕ) : SpeechWorker :=
  { worker with
    lastProviderProgressTick := now
    context :=
      { worker.context with
        rawAudioBytesRead := worker.context.rawAudioBytesRead + bytesRead } }

/-- The frame assembler and the spans after the framed part of a chunk. -/
def framing (worker : SpeechWorker) (chunk : List UInt8) :
    PcmFrameAssembler × List (List UInt8) :=
  worker.frameAssembler.process (chunk.take (bytesToFrame worker.context chunk.length))

/-- The worker after a chunk is counted and framed. -/
def chunkFramed (worker : SpeechWorker) (now : ℕ) (chunk : List UInt8) : SpeechWorker :=
  { worker.chunkCounted now chunk.length with frameAssembler := (worker.framing chunk).1 }

/-- The outcomes of taking in a chunk. -/
inductive IngestOutcome (worker : SpeechWorker) (now : ℕ) (chunk : List UInt8) :
    SpeechWorker × AudioIngestResult × List Observation → Prop where
  | unexpected (idle : worker.context.downstreamState = .idle) :
      IngestOutcome worker now chunk (worker.setFaultPending,
        { token := worker.context.token, protocolBoundaryFailed := true },
        [.pcmRead chunk, .protocolFault .faultUnexpectedIdleAudio])
  | discarded (faulted : worker.context.downstreamState = .faulted) :
      IngestOutcome worker now chunk (worker, { token := worker.context.token }, [.pcmRead chunk])
  | drained (cancelling : worker.context.downstreamState = .cancelling)
      {checked : SpeechWorker × Bool × List Observation}
      (outcome : BoundaryOutcome (worker.chunkCounted now chunk.length) checked) :
      IngestOutcome worker now chunk (checked.1.pendFault checked.2.1,
        { token := worker.context.token, protocolBoundaryFailed := checked.2.1 },
        .pcmRead chunk :: checked.2.2)
  | retained (speaking : worker.context.downstreamState = .speaking)
      (noSpan : (worker.framing chunk).2 = [])
      {checked : SpeechWorker × Bool × List Observation}
      (outcome : BoundaryOutcome (worker.chunkFramed now chunk) checked) :
      IngestOutcome worker now chunk (checked.1.pendFault checked.2.1,
        { token := worker.context.token, protocolBoundaryFailed := checked.2.1 },
        .pcmRead chunk :: checked.2.2)
  | framed (speaking : worker.context.downstreamState = .speaking)
      (spans : (worker.framing chunk).2 ≠ []) :
      IngestOutcome worker now chunk (worker.chunkFramed now chunk,
        { token := worker.context.token, shouldDeliverAudio := true
          spansToWrite := (worker.framing chunk).2 },
        [.pcmRead chunk])

/-- A chunk that is not counted leaves the worker as it was. -/
theorem countChunk_uncounted {worker : SpeechWorker} {bytesRead : ℕ} (now : ℕ)
    {action : ChunkAction} {bytes : ℕ}
    (decision : evaluateChunkIngest worker.context bytesRead =
      { action, bytesToFrame := bytes, refreshProgress := false, countRawBytes := false }) :
    worker.countChunk now bytesRead = worker := by
  simp only [countChunk, decision]
  rfl

theorem countChunk_counted {worker : SpeechWorker} {bytesRead : ℕ} (now : ℕ)
    {action : ChunkAction} {bytes : ℕ}
    (decision : evaluateChunkIngest worker.context bytesRead =
      { action, bytesToFrame := bytes, refreshProgress := true, countRawBytes := true }) :
    worker.countChunk now bytesRead = worker.chunkCounted now bytesRead := by
  simp only [countChunk, decision]
  rfl

/-- A chunk has one of five outcomes, by the state of the request and by whether
it completes a frame. -/
theorem ingestAudioChunkLocked_spec (worker : SpeechWorker) (now : ℕ) (chunk : List UInt8) :
    IngestOutcome worker now chunk (worker.ingestAudioChunkLocked now chunk) := by
  unfold ingestAudioChunkLocked
  cases state : worker.context.downstreamState with
  | idle =>
      have decision : evaluateChunkIngest worker.context chunk.length =
          { action := .faultUnexpectedIdleAudio, bytesToFrame := 0, refreshProgress := false
            countRawBytes := false } := by
        simp only [evaluateChunkIngest, state]
      simp only [decision, countChunk_uncounted now decision]
      exact .unexpected state
  | faulted =>
      have decision : evaluateChunkIngest worker.context chunk.length =
          { action := .drainFaultedSessionAudio, bytesToFrame := 0, refreshProgress := false
            countRawBytes := false } := by
        simp only [evaluateChunkIngest, state]
      simp only [decision, countChunk_uncounted now decision]
      exact .discarded state
  | cancelling =>
      have decision : evaluateChunkIngest worker.context chunk.length =
          { action := .drainCancellationAudio, bytesToFrame := 0, refreshProgress := true
            countRawBytes := true } := by
        simp only [evaluateChunkIngest, state]
      simp only [decision, countChunk_counted now decision]
      exact .drained state (checkTerminalBoundaryLocked_spec _)
  | speaking =>
      have decision : evaluateChunkIngest worker.context chunk.length =
          { action := .assembleSpeakingAudio
            bytesToFrame := bytesToFrame worker.context chunk.length, refreshProgress := true
            countRawBytes := true } := by
        simp only [evaluateChunkIngest, state]
      simp only [decision, countChunk_counted now decision]
      split
      · next noSpan =>
          exact .retained state (List.isEmpty_iff.mp noSpan) (checkTerminalBoundaryLocked_spec _)
      · next spans =>
          exact .framed state fun none => spans (List.isEmpty_iff.mpr none)

/-- The outcomes of a delivered batch. -/
inductive DeliveryOutcome (worker : SpeechWorker) (now : ℕ) (batchToken : RequestToken)
    (deliveredBytes : ℕ) : Bool → SpeechWorker × Bool × ℕ × List Observation → Prop where
  | ignored {writeAccepted : Bool}
      (inactive : worker.context.token ≠ batchToken ∨ worker.context.downstreamState = .idle ∨
        worker.context.downstreamState = .faulted) :
      DeliveryOutcome worker now batchToken deliveredBytes writeAccepted (worker, false, 0, [])
  | accepted (matching : worker.context.token = batchToken)
      (speaking : worker.context.downstreamState = .speaking)
      {checked : SpeechWorker × Bool × List Observation}
      (outcome : BoundaryOutcome (worker.credited deliveredBytes) checked) :
      DeliveryOutcome worker now batchToken deliveredBytes true
        (checked.1.pendFault checked.2.1, checked.2.1, 0, checked.2.2)
  | rejected (matching : worker.context.token = batchToken)
      (speaking : worker.context.downstreamState = .speaking)
      (upstream : worker.context.upstreamState ≠ .faulted) :
      DeliveryOutcome worker now batchToken deliveredBytes false
        ((worker.credited deliveredBytes).cancelled (now + cancellationTimeoutMs), false,
          worker.context.token.speakId, [])
  | rejectedFaulted (matching : worker.context.token = batchToken)
      (speaking : worker.context.downstreamState = .speaking)
      (upstream : worker.context.upstreamState = .faulted) :
      DeliveryOutcome worker now batchToken deliveredBytes false
        (worker.credited deliveredBytes, false, 0, [])
  | drained {writeAccepted : Bool} (matching : worker.context.token = batchToken)
      (cancelling : worker.context.downstreamState = .cancelling)
      {checked : SpeechWorker × Bool × List Observation}
      (outcome : BoundaryOutcome worker checked) :
      DeliveryOutcome worker now batchToken deliveredBytes writeAccepted
        (checked.1.pendFault checked.2.1, checked.2.1, 0, checked.2.2)

/-- A batch has one of five outcomes, by its token, the state of the request and
whether SAPI took every span. -/
theorem updateAfterAudioDeliveryLocked_spec (worker : SpeechWorker) (now : ℕ)
    (batchToken : RequestToken) (deliveredBytes : ℕ) (writeAccepted : Bool) :
    DeliveryOutcome worker now batchToken deliveredBytes writeAccepted
      (worker.updateAfterAudioDeliveryLocked now batchToken deliveredBytes writeAccepted) := by
  have uncredited : worker.credited 0 = worker := rfl
  unfold updateAfterAudioDeliveryLocked
  by_cases matching : worker.context.token = batchToken
  · cases state : worker.context.downstreamState with
    | idle =>
        have decision : evaluateBatchOutcome worker.context batchToken deliveredBytes
            (!writeAccepted) =
            { action := .ignoreStaleOrInactive, acceptedBytesToCredit := 0 } := by
          simp [evaluateBatchOutcome, matching, state]
        simp only [decision, uncredited]
        exact .ignored (.inr (.inl state))
    | faulted =>
        have decision : evaluateBatchOutcome worker.context batchToken deliveredBytes
            (!writeAccepted) =
            { action := .ignoreStaleOrInactive, acceptedBytesToCredit := 0 } := by
          simp [evaluateBatchOutcome, matching, state]
        simp only [decision, uncredited]
        exact .ignored (.inr (.inr state))
    | cancelling =>
        have decision : evaluateBatchOutcome worker.context batchToken deliveredBytes
            (!writeAccepted) =
            { action := .checkCancellationBoundary, acceptedBytesToCredit := 0 } := by
          simp [evaluateBatchOutcome, matching, state]
        simp only [decision, uncredited]
        exact .drained matching state (checkTerminalBoundaryLocked_spec _)
    | speaking =>
        cases writeAccepted with
        | true =>
            have decision : evaluateBatchOutcome worker.context batchToken deliveredBytes
                (!true) =
                { action := .creditAndCheckBoundary
                  acceptedBytesToCredit := deliveredBytes } := by
              simp [evaluateBatchOutcome, matching, state]
            simp only [decision]
            exact .accepted matching state (checkTerminalBoundaryLocked_spec _)
        | false =>
            have decision : evaluateBatchOutcome worker.context batchToken deliveredBytes
                (!false) =
                { action := .creditAndBeginCancellation
                  acceptedBytesToCredit := deliveredBytes } := by
              simp [evaluateBatchOutcome, matching, state]
            simp only [decision]
            by_cases upstream : worker.context.upstreamState = .faulted
            · have cancelDecision (deadline : ℕ) :
                  (evaluateBeginCancellation (worker.credited deliveredBytes).context
                    deadline).action = .faulted := by
                simp [evaluateBeginCancellation, credited, state, upstream]
              simp only [cancelDecision, reduceCtorEq, if_false]
              exact .rejectedFaulted matching state upstream
            · have cancelDecision (deadline : ℕ) :
                  evaluateBeginCancellation (worker.credited deliveredBytes).context deadline =
                    { action := .transitionToCancelling
                      speakId := worker.context.token.speakId, deadlineTick := deadline } := by
                simp [evaluateBeginCancellation, credited, state, upstream]
              simp only [cancelDecision, if_true]
              exact .rejected matching state upstream
  · have decision : evaluateBatchOutcome worker.context batchToken deliveredBytes
        (!writeAccepted) = { action := .ignoreStaleOrInactive, acceptedBytesToCredit := 0 } := by
      simp [evaluateBatchOutcome, matching]
    simp only [decision, uncredited]
    exact .ignored (.inl matching)

/-! ## Control records -/

/-- Why a terminal event of the request quarantines the session. -/
inductive TerminalFault (worker : SpeechWorker) (event : ProviderControlEvent) :
    ProtocolFault → Prop where
  | duplicate (finished : worker.context.upstreamFinished = true) :
      TerminalFault worker event .duplicateFault
  | invalid (unfinished : worker.context.upstreamFinished = false)
      (bytes : event.hasValidTerminalBytes = false) :
      TerminalFault worker event .invalidBytesFault
  | misaligned (unfinished : worker.context.upstreamFinished = false)
      (bytes : event.hasValidTerminalBytes = true)
      (fraction : ¬worker.frameAssembler.blockAlign ∣ event.terminalAudioBytes) :
      TerminalFault worker event .misalignedBytesFault

/-- The upstream state a terminal event leads to. -/
def terminalTarget (type : ProviderEventType) : UpstreamState :=
  if type = .synthesisComplete then .completed else .cancelled

theorem terminalTarget_ne_failed (type : ProviderEventType) : terminalTarget type ≠ .failed := by
  unfold terminalTarget
  split <;> simp

theorem terminalTarget_ne_faulted (type : ProviderEventType) :
    terminalTarget type ≠ .faulted := by
  unfold terminalTarget
  split <;> simp

/-- The record is of no other request, ends nothing, is well formed and reports
no failure. -/
structure Inert (worker : SpeechWorker) (event : ProviderControlEvent) : Prop where
  terminal : event.speakId = worker.context.token.speakId → event.isTerminal = false
  boundary : event.speakId = worker.context.token.speakId → event.isSpeechBoundary = true →
    event.hasValidSpeechOffsets = true
  log : event.speakId = worker.context.token.speakId → event.type = .log →
    event.logSeverity ≠ "error" ∧ event.logSeverity ≠ "fatal"

/-- The outcomes of a control event, for a worker whose progress is noted. -/
inductive EventOutcome (worker : SpeechWorker) (event : ProviderControlEvent) (forward : Bool) :
    SpeechWorker × ControlEventDisposition × List Observation → Prop where
  | unchanged (inert : Inert worker event) :
      EventOutcome worker event forward
        (worker, { shouldForwardToSapi := forward, shouldEnterFaultedState := false }, [])
  | malformed (matching : event.speakId = worker.context.token.speakId)
      (boundary : event.isSpeechBoundary = true)
      (invalid : event.hasValidSpeechOffsets = false) :
      EventOutcome worker event forward
        (worker.setFaultPending,
          { shouldForwardToSapi := forward, shouldEnterFaultedState := true },
          [.protocolFault .malformedSpeechBoundary])
  | terminalFault (matching : event.speakId = worker.context.token.speakId)
      (terminal : event.isTerminal = true) {fault : ProtocolFault}
      (reason : TerminalFault worker event fault) :
      EventOutcome worker event forward
        (worker.transitionRequestToFaultedLocked.setFaultPending,
          { shouldForwardToSapi := forward, shouldEnterFaultedState := true },
          [.protocolFault fault])
  | terminalApplied (matching : event.speakId = worker.context.token.speakId)
      (terminal : event.isTerminal = true)
      (unfinished : worker.context.upstreamFinished = false)
      (valid : event.hasValidTerminalBytes = true)
      (aligned : worker.frameAssembler.blockAlign ∣ event.terminalAudioBytes)
      {checked : SpeechWorker × Bool × List Observation}
      (outcome : BoundaryOutcome
        (worker.applyTerminal (terminalTarget event.type) event.terminalAudioBytes) checked) :
      EventOutcome worker event forward
        (checked.1.pendFault checked.2.1,
          { shouldForwardToSapi := forward, shouldEnterFaultedState := checked.2.1 },
          .terminalReceived worker.context.token.generation event.terminalAudioBytes
            worker.context.rawAudioBytesRead :: checked.2.2)
  | fatal (matching : event.speakId = worker.context.token.speakId)
      (log : event.type = .log) (severity : event.logSeverity = "fatal") :
      EventOutcome worker event forward
        (worker.setFaultPending,
          { shouldForwardToSapi := forward, shouldEnterFaultedState := true }, [])
  | utteranceFailed (matching : event.speakId = worker.context.token.speakId)
      (log : event.type = .log) (severity : event.logSeverity = "error") :
      EventOutcome worker event forward
        (worker.applyUtteranceFailure.resetToIdleLocked,
          { shouldForwardToSapi := forward, shouldEnterFaultedState := false }, [])

/-- What `handleParsedControlEventLocked` does once the action is known. -/
def eventResult (worker : SpeechWorker) (event : ProviderControlEvent) (forward : Bool)
    (action : EventAction) : SpeechWorker × ControlEventDisposition × List Observation :=
  let applied := worker.applyEventAction event action
  (applied.1.pendFault applied.2.1,
    { shouldForwardToSapi := forward, shouldEnterFaultedState := applied.2.1 }, applied.2.2)

theorem isTerminalByteCountFrameAligned_eq (assembler : PcmFrameAssembler) (bytes : ℕ) :
    isTerminalByteCountFrameAligned bytes assembler.blockAlign = true ↔
      assembler.blockAlign ∣ bytes := by
  have positive : assembler.blockAlign ≠ 0 := Nat.ne_of_gt assembler.blockAlign_pos
  simp [isTerminalByteCountFrameAligned, positive, Nat.dvd_iff_mod_eq_zero]

theorem eventResult_terminal {worker : SpeechWorker} {event : ProviderControlEvent}
    {forward : Bool} {action : EventAction}
    (matching : event.speakId = worker.context.token.speakId)
    (terminal : event.isTerminal = true)
    (applies : worker.applyEventAction event action =
      worker.handleTerminalEventLocked event.type event.terminalAudioBytes
        event.hasValidTerminalBytes) :
    EventOutcome worker event forward (worker.eventResult event forward action) := by
  have aligned := isTerminalByteCountFrameAligned_eq worker.frameAssembler event.terminalAudioBytes
  unfold eventResult
  rw [applies]
  unfold handleTerminalEventLocked evaluateUpstreamTerminal
  cases finished : worker.context.upstreamFinished with
  | true => exact .terminalFault matching terminal (.duplicate finished)
  | false =>
      cases valid : event.hasValidTerminalBytes with
      | false => exact .terminalFault matching terminal (.invalid finished valid)
      | true =>
          by_cases whole : worker.frameAssembler.blockAlign ∣ event.terminalAudioBytes
          · rw [aligned.mpr whole]
            have target : (if terminalKind event.type = .completed then UpstreamState.completed
                else .cancelled) = terminalTarget event.type := by
              unfold terminalKind terminalTarget
              split <;> simp
            simp only [Bool.not_true, Bool.false_eq_true, if_false, target]
            exact .terminalApplied matching terminal finished valid whole
              (checkTerminalBoundaryLocked_spec _)
          · rw [Bool.eq_false_iff.mpr (fun even => whole (aligned.mp even))]
            exact .terminalFault matching terminal (.misaligned finished valid whole)

theorem eventResult_log {worker : SpeechWorker} {event : ProviderControlEvent}
    {forward : Bool} {action : EventAction}
    (matching : event.speakId = worker.context.token.speakId) (log : event.type = .log)
    (applies : worker.applyEventAction event action =
      worker.handleLogEventLocked event.logSeverity) :
    EventOutcome worker event forward (worker.eventResult event forward action) := by
  unfold eventResult
  rw [applies]
  unfold handleLogEventLocked
  by_cases fatal : event.logSeverity = "fatal"
  · rw [fatal]
    exact .fatal matching log fatal
  · by_cases error : event.logSeverity = "error"
    · rw [error]
      exact .utteranceFailed matching log error
    · have inert : Inert worker event := by
        refine ⟨fun _ => ?_, fun _ boundary => ?_, fun _ _ => ⟨error, fatal⟩⟩
        · simp [ProviderControlEvent.isTerminal, ProviderEventType.isTerminal, log]
        · simp [ProviderControlEvent.isSpeechBoundary, ProviderEventType.isSpeechBoundary,
            log] at boundary
      by_cases empty : event.logSeverity.isEmpty = true
      · simp only [empty, if_true, String.reduceEq, if_false]
        exact .unchanged inert
      · simp only [empty, if_false, fatal, error, Bool.false_eq_true]
        exact .unchanged inert

/-- A control event has one of six outcomes. -/
theorem handleParsedControlEventLocked_spec (worker : SpeechWorker) (now : ℕ)
    (event : ProviderControlEvent) :
    EventOutcome
      (worker.refreshProgress now (evaluateParsedEvent event worker.context).shouldRefreshProgress)
      event (evaluateParsedEvent event worker.context).shouldForwardToSapi
      (worker.handleParsedControlEventLocked now event) := by
  change EventOutcome _ _ _ (eventResult _ event _ (evaluateParsedEvent event worker.context).action)
  generalize refreshed : worker.refreshProgress now
    (evaluateParsedEvent event worker.context).shouldRefreshProgress = noted
  have same : worker.context = noted.context := by rw [← refreshed]; rfl
  by_cases matching : event.speakId = worker.context.token.speakId
  · have noted' : event.speakId = noted.context.token.speakId := by rw [matching, same]
    cases type : event.type with
    | wordBoundary | sentenceBoundary | bookmark =>
        have boundary : event.isSpeechBoundary = true := by
          simp [ProviderControlEvent.isSpeechBoundary, ProviderEventType.isSpeechBoundary, type]
        cases valid : event.hasValidSpeechOffsets with
        | false =>
            simp only [evaluateParsedEvent, matching, type, valid, ne_eq, not_true, if_false,
              Bool.not_false, if_true]
            exact .malformed noted' boundary valid
        | true =>
            simp only [evaluateParsedEvent, matching, type, valid, ne_eq, not_true, if_false,
              Bool.not_true, Bool.false_eq_true]
            refine .unchanged ⟨fun _ => ?_, fun _ _ => valid, fun _ log => ?_⟩
            · simp [ProviderControlEvent.isTerminal, ProviderEventType.isTerminal, type]
            · simp [type] at log
    | synthesisComplete | synthesisCancelled =>
        have terminal : event.isTerminal = true := by
          simp [ProviderControlEvent.isTerminal, ProviderEventType.isTerminal, type]
        simp only [evaluateParsedEvent, matching, type, ne_eq, not_true, if_false]
        exact eventResult_terminal noted' terminal rfl
    | log =>
        simp only [evaluateParsedEvent, matching, type, ne_eq, not_true, if_false]
        refine eventResult_log noted' type ?_
        unfold logAction
        split
        · rfl
        · split <;> rfl
    | legacyCompleted | unknown =>
        simp only [evaluateParsedEvent, matching, type, ne_eq, not_true, if_false]
        refine .unchanged ⟨fun _ => ?_, fun _ boundary => ?_, fun _ log => ?_⟩
        · simp [ProviderControlEvent.isTerminal, ProviderEventType.isTerminal, type]
        · simp [ProviderControlEvent.isSpeechBoundary, ProviderEventType.isSpeechBoundary,
            type] at boundary
        · simp [type] at log
  · simp only [evaluateParsedEvent, matching, ne_eq, not_false_eq_true, if_true]
    have other : event.speakId ≠ noted.context.token.speakId := by rwa [← same]
    exact .unchanged ⟨fun same => absurd same other, fun same => absurd same other,
      fun same => absurd same other⟩

end ModernSapi.SpeechWorker
