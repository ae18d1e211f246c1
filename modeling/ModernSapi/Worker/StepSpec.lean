import ModernSapi.Worker.Threads

/-!
# What a step of a worker can do

`WorkerStep` lists the cases of a step with the condition of each and the state
it leads to, in terms of the outcomes of the critical sections. Every invariant
of the worker is proved over these cases (`step_spec`).
-/

set_option autoImplicit false

namespace ModernSapi

open Interleaving PcmDeliveryPolicy ControlEventPolicy SpeechWorker

namespace WorkerState

/-- Where the audio thread stands after a chunk. -/
def afterIngest (result : AudioIngestResult) : AudioThread :=
  if result.shouldDeliverAudio then
    .admitting { token := result.token, spans := result.spansToWrite }
  else .afterChunk result.protocolBoundaryFailed

/-- Where the audio thread stands after a batch. -/
def afterBatch (fault : Bool) (cancellationToSend : ℕ) : AudioThread :=
  if cancellationToSend ≠ 0 then .sendCancellation cancellationToSend else .afterChunk fault

/-- Where the control thread stands after a record. -/
def afterRecord (event : ProviderControlEvent) (disposition : ControlEventDisposition) :
    ControlThread :=
  if disposition.shouldForwardToSapi then .forwarding event disposition.shouldEnterFaultedState
  else .afterEvent disposition.shouldEnterFaultedState

section Leaving

variable (state : WorkerState) (thread : Thread)

@[simp] theorem leaveFaulted_worker : (state.leaveFaulted thread).worker = state.worker := by
  cases thread <;> rfl

@[simp] theorem leaveFaulted_publisher :
    (state.leaveFaulted thread).publisher = state.publisher := by
  cases thread <;> rfl

/-- An audio thread that may enter `EnterFaultedState` stands before it. -/
theorem entering_of_mayEnterFaulted (may : state.mayEnterFaulted .audio = true) :
    ∃ thenStop, state.audio = .enterFaultedState thenStop := by
  simp only [mayEnterFaulted, Bool.and_eq_true, Bool.or_eq_true, beq_iff_eq] at may
  rcases may.1 with entering | entering
  · exact ⟨true, entering⟩
  · exact ⟨false, entering⟩

theorem controlEntering_of_mayEnterFaulted (may : state.mayEnterFaulted .control = true) :
    ∃ thenStop, state.control = .enterFaultedState thenStop := by
  simp only [mayEnterFaulted, Bool.and_eq_true, Bool.or_eq_true, beq_iff_eq] at may
  rcases may.1 with entering | entering
  · exact ⟨true, entering⟩
  · exact ⟨false, entering⟩

/-- A thread that publishes is not about to enter `EnterFaultedState` again. -/
theorem not_mayEnterFaulted_of_publisher {state : WorkerState} {thread : Thread}
    (publisher : state.publisher = some thread) : ¬state.mayEnterFaulted thread = true := by
  cases thread <;> simp [mayEnterFaulted, publisher]

end Leaving

/-- The spans of a batch go no further: none is left, or the request of the batch
is not speaking any more. -/
def SpansEnd (state : WorkerState) (batch : Batch) : Prop :=
  batch.spans = [] ∨
    ¬(state.context.token = batch.token ∧ state.context.downstreamState = .speaking ∧
      state.context.faultPending = false)

end WorkerState

open WorkerState

/-- The cases of a step. -/
inductive WorkerStep (state : WorkerState) :
    WorkerAction → WorkerState → List Observation → Prop where
  | chunkTaken {now : ℕ} {chunk : List UInt8}
      {result : SpeechWorker × AudioIngestResult × List Observation}
      (reading : state.audio = .reading) (nonempty : chunk ≠ [])
      (outcome : IngestOutcome state.worker now chunk result) :
      WorkerStep state (.audioChunk now chunk)
        { state with worker := result.1, audio := afterIngest result.2.1 } result.2.2
  | assemblyFailed {now : ℕ} {chunk : List UInt8} (reading : state.audio = .reading)
      (nonempty : chunk ≠ []) (speaking : state.context.downstreamState = .speaking) :
      WorkerStep state (.frameAssemblyFails now chunk)
        { state with
          worker := state.worker.chunkCounted now chunk.length
          audio := .enterFaultedState true }
        [.pcmRead chunk, .frameAssemblyFailed]
  | audioReadFailed (reading : state.audio = .reading) :
      WorkerStep state .audioReadFails { state with audio := .enterFaultedState true } []
  | spansEnd {batch : Batch} (here : state.audio = .admitting batch)
      (ended : state.SpansEnd batch) :
      WorkerStep state .spanAdmission
        { state with audio := .batchDone batch.token batch.delivered true } []
  | spanHanded {batch : Batch} {span : List UInt8} {spans : List (List UInt8)}
      (here : state.audio = .admitting batch) (next : batch.spans = span :: spans)
      (matching : state.context.token = batch.token)
      (speaking : state.context.downstreamState = .speaking)
      (noFault : state.context.faultPending = false) :
      WorkerStep state .spanAdmission
        { state with audio := .onAudioData { batch with spans } span }
        [.spanHanded batch.token.generation span]
  | spanAccepted {batch : Batch} {span : List UInt8}
      (here : state.audio = .onAudioData batch span) :
      WorkerStep state (.onAudioDataReturns true)
        { state with
          audio := .admitting { batch with delivered := batch.delivered + span.length } }
        [.spanAccepted batch.token.generation span]
  | spanRejected {batch : Batch} {span : List UInt8}
      (here : state.audio = .onAudioData batch span) :
      WorkerStep state (.onAudioDataReturns false)
        { state with audio := .batchDone batch.token batch.delivered false } []
  | batchSettled {now delivered : ℕ} {token : RequestToken} {writeAccepted : Bool}
      {result : SpeechWorker × Bool × ℕ × List Observation}
      (here : state.audio = .batchDone token delivered writeAccepted)
      (outcome : DeliveryOutcome state.worker now token delivered writeAccepted result) :
      WorkerStep state (.batchOutcome now)
        { state with worker := result.1, audio := afterBatch result.2.1 result.2.2.1 }
        result.2.2.2
  | cancellationSent {speakId : ℕ} {sent : HResult}
      (here : state.audio = .sendCancellation speakId) :
      WorkerStep state (.cancellationSent sent)
        { state with audio := .afterChunk sent.failed } []
  | recordUnaddressed {now : ℕ} {event : ProviderControlEvent}
      (reading : state.control = .reading) (unaddressed : event.speakId = 0) :
      WorkerStep state (.controlRecord now event)
        { state with
          worker := state.worker.handleMissingSpeakIdLocked
          control := .enterFaultedState false } []
  | recordHandled {now : ℕ} {event : ProviderControlEvent}
      {result : SpeechWorker × ControlEventDisposition × List Observation}
      (reading : state.control = .reading) (addressed : event.speakId ≠ 0)
      (outcome : EventOutcome
        (state.worker.refreshProgress now
          (evaluateParsedEvent event state.context).shouldRefreshProgress)
        event (evaluateParsedEvent event state.context).shouldForwardToSapi result) :
      WorkerStep state (.controlRecord now event)
        { state with worker := result.1, control := afterRecord event result.2.1 } result.2.2
  | recordSkipped {now : ℕ} {event : ProviderControlEvent}
      (reading : state.control = .reading) (blank : event.type = .unknown) :
      WorkerStep state (.controlRecord now event) state []
  | controlReadFailed (reading : state.control = .reading) :
      WorkerStep state .controlReadFails { state with control := .enterFaultedState true } []
  | eventDecided {event : ProviderControlEvent} {thenFault : Bool}
      (here : state.control = .forwarding event thenFault) :
      WorkerStep state .finalAdmission
        { state with
          control :=
            if state.worker.admitsEvent event then .onSpeechEvent event thenFault
            else .afterEvent thenFault } []
  | eventReturned {event : ProviderControlEvent} {thenFault : Bool}
      (here : state.control = .onSpeechEvent event thenFault) :
      WorkerStep state .onSpeechEventReturns
        { state with control := .afterEvent thenFault } []
  | faultEntered {thread : Thread} (may : state.mayEnterFaulted thread = true)
      (first : state.worker.faultPublicationStarted = false) :
      WorkerStep state (.enterFaultedState thread)
        { state with
          worker := { state.worker.faulted with faultPublicationStarted := true }.setFaultPending
          publisher := some thread } []
  | faultRepeated {thread : Thread} (may : state.mayEnterFaulted thread = true)
      (again : state.worker.faultPublicationStarted = true) :
      WorkerStep state (.enterFaultedState thread)
        ({ state with worker := state.worker.faulted }.leaveFaulted thread) []
  | faultPublished {thread : Thread} (publisher : state.publisher = some thread) :
      WorkerStep state (.publishFault thread)
        ({ state with worker := state.worker.publishFault, publisher := none }.leaveFaulted thread)
        []
  | started {now speakId : ℕ} (can : state.worker.CanStart) :
      WorkerStep state (.start now speakId)
        { state with worker := state.worker.started now (state.worker.nextToken speakId) }
        [.requestStarted (state.worker.nextToken speakId)]
  | startRejected {now speakId : ℕ} (cannot : ¬state.worker.CanStart) :
      WorkerStep state (.start now speakId) state []
  | stopped (isOpen : state.worker.IsOpen) :
      WorkerStep state .stop { state with worker := state.worker.resetToIdleLocked } []
  | stopIgnored (closed : ¬state.worker.IsOpen) : WorkerStep state .stop state []
  | cancellationBegun {deadlineTick : ℕ} (speaking : state.context.downstreamState = .speaking)
      (upstream : state.context.upstreamState ≠ .faulted) :
      WorkerStep state (.beginCancellation deadlineTick)
        { state with worker := state.worker.cancelled deadlineTick } []
  | cancellationIgnored {deadlineTick : ℕ}
      (other : state.context.downstreamState = .speaking →
        state.context.upstreamState = .faulted) :
      WorkerStep state (.beginCancellation deadlineTick) state []

section Spec

variable {state next : WorkerState} {events : List Observation}

theorem spanAdmission_spec (taken : state.spanAdmission = some (next, events)) :
    WorkerStep state .spanAdmission next events := by
  unfold WorkerState.spanAdmission at taken
  split at taken
  · next batch here =>
      split at taken
      · next none =>
          cases taken
          exact .spansEnd here (.inl none)
      · next span spans more =>
          split at taken
          · next allowed =>
              cases taken
              simp only [evaluateSpanAdmission] at allowed
              split at allowed
              · next open_ =>
                  exact .spanHanded here more open_.1 open_.2.1 (by simpa using open_.2.2)
              · cases allowed
          · next refused =>
              cases taken
              refine .spansEnd here (.inr fun open_ => refused ?_)
              simp [evaluateSpanAdmission, open_.1, open_.2.1, open_.2.2]
  · cases taken

theorem controlRecord_spec {now : ℕ} {event : ProviderControlEvent}
    (taken : state.controlRecord now event = some (next, events)) :
    WorkerStep state (.controlRecord now event) next events := by
  unfold WorkerState.controlRecord at taken
  split at taken
  · next reading =>
      split at taken
      · next blank =>
          cases taken
          exact .recordSkipped reading blank.1
      · split at taken
        · next unaddressed =>
            cases taken
            exact .recordUnaddressed reading unaddressed
        · next addressed =>
            cases taken
            exact .recordHandled reading addressed (handleParsedControlEventLocked_spec _ _ _)
  · cases taken

theorem enterFaultedState_spec {thread : Thread}
    (taken : state.enterFaultedState thread = some (next, events)) :
    WorkerStep state (.enterFaultedState thread) next events := by
  unfold WorkerState.enterFaultedState at taken
  split at taken
  · next may =>
      cases started : state.worker.faultPublicationStarted with
      | false =>
          simp only [enterFaultedState_first started, if_true, Option.some.injEq,
            Prod.mk.injEq] at taken
          obtain ⟨rfl, rfl⟩ := taken
          exact .faultEntered may started
      | true =>
          simp only [enterFaultedState_again started, Bool.false_eq_true, if_false,
            Option.some.injEq, Prod.mk.injEq] at taken
          obtain ⟨rfl, rfl⟩ := taken
          exact .faultRepeated may started
  · cases taken

theorem start_spec {now speakId : ℕ} (taken : state.start now speakId = some (next, events)) :
    WorkerStep state (.start now speakId) next events := by
  unfold WorkerState.start at taken
  by_cases can : state.worker.CanStart
  · simp only [start_accepted can, Option.some.injEq, Prod.mk.injEq] at taken
    obtain ⟨rfl, rfl⟩ := taken
    exact .started can
  · simp only [start_rejected can, Option.some.injEq, Prod.mk.injEq] at taken
    obtain ⟨rfl, rfl⟩ := taken
    exact .startRejected can

theorem stop_spec (taken : state.stop = some (next, events)) :
    WorkerStep state .stop next events := by
  unfold WorkerState.stop at taken
  by_cases isOpen : state.worker.IsOpen
  · simp only [stop_open isOpen, Option.some.injEq, Prod.mk.injEq] at taken
    obtain ⟨rfl, rfl⟩ := taken
    exact .stopped isOpen
  · simp only [stop_closed isOpen, Option.some.injEq, Prod.mk.injEq] at taken
    obtain ⟨rfl, rfl⟩ := taken
    exact .stopIgnored isOpen

theorem beginCancellation_spec {deadlineTick : ℕ}
    (taken : state.beginCancellation deadlineTick = some (next, events)) :
    WorkerStep state (.beginCancellation deadlineTick) next events := by
  unfold WorkerState.beginCancellation at taken
  by_cases can : state.context.downstreamState = .speaking ∧
      state.context.upstreamState ≠ .faulted
  · simp only [beginCancellationLocked_speaking can.1 can.2, Option.some.injEq,
      Prod.mk.injEq] at taken
    obtain ⟨rfl, rfl⟩ := taken
    exact .cancellationBegun can.1 can.2
  · have other : state.context.downstreamState = .speaking →
        state.context.upstreamState = .faulted := by
      intro speaking
      by_contra upstream
      exact can ⟨speaking, upstream⟩
    simp only [(beginCancellationLocked_other other deadlineTick).1, Option.some.injEq,
      Prod.mk.injEq] at taken
    obtain ⟨rfl, rfl⟩ := taken
    exact .cancellationIgnored other

/-- **Every step is one of the listed cases.** -/
theorem step_spec {action : WorkerAction} (taken : state.step action = some (next, events)) :
    WorkerStep state action next events := by
  cases action with
  | audioChunk now chunk =>
      simp only [WorkerState.step, WorkerState.audioChunk] at taken
      split at taken
      · next ready =>
          cases taken
          exact .chunkTaken ready.1 ready.2 (ingestAudioChunkLocked_spec _ _ _)
      · cases taken
  | frameAssemblyFails now chunk =>
      simp only [WorkerState.step, WorkerState.frameAssemblyFails] at taken
      split at taken
      · next ready =>
          obtain ⟨reading, nonempty, speaking⟩ := ready
          have decision : evaluateChunkIngest state.context chunk.length =
              { action := .assembleSpeakingAudio
                bytesToFrame := bytesToFrame state.context chunk.length
                refreshProgress := true, countRawBytes := true } := by
            simp only [evaluateChunkIngest, speaking]
          rw [countChunk_counted now decision] at taken
          cases taken
          exact .assemblyFailed reading nonempty speaking
      · cases taken
  | audioReadFails =>
      simp only [WorkerState.step] at taken
      split at taken
      · next reading =>
          cases taken
          exact .audioReadFailed reading
      · cases taken
  | spanAdmission => exact spanAdmission_spec taken
  | onAudioDataReturns accepted =>
      simp only [WorkerState.step, WorkerState.onAudioDataReturns] at taken
      split at taken
      · next batch span here =>
          cases accepted with
          | true =>
              cases taken
              exact .spanAccepted here
          | false =>
              cases taken
              exact .spanRejected here
      · cases taken
  | batchOutcome now =>
      simp only [WorkerState.step, WorkerState.batchOutcome] at taken
      split at taken
      · next token delivered writeAccepted here =>
          cases taken
          exact .batchSettled here (updateAfterAudioDeliveryLocked_spec _ _ _ _ _)
      · cases taken
  | cancellationSent sent =>
      simp only [WorkerState.step, WorkerState.cancellationSent] at taken
      split at taken
      · next speakId here =>
          cases taken
          exact .cancellationSent here
      · cases taken
  | controlRecord now event => exact controlRecord_spec taken
  | controlReadFails =>
      simp only [WorkerState.step] at taken
      split at taken
      · next reading =>
          cases taken
          exact .controlReadFailed reading
      · cases taken
  | finalAdmission =>
      simp only [WorkerState.step, WorkerState.finalAdmission] at taken
      split at taken
      · next here =>
          cases taken
          exact .eventDecided here
      · cases taken
  | onSpeechEventReturns =>
      simp only [WorkerState.step, WorkerState.onSpeechEventReturns] at taken
      split at taken
      · next here =>
          cases taken
          exact .eventReturned here
      · cases taken
  | enterFaultedState thread => exact enterFaultedState_spec taken
  | publishFault thread =>
      simp only [WorkerState.step, WorkerState.publishFault] at taken
      split at taken
      · next publisher =>
          cases taken
          exact .faultPublished publisher
      · cases taken
  | start now speakId => exact start_spec taken
  | stop => exact stop_spec taken
  | beginCancellation deadlineTick => exact beginCancellation_spec taken

end Spec

end ModernSapi
