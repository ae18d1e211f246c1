import ModernSapi.Worker.Delivery
import ModernSapi.Worker.SpeakCall

/-!
# A worker that nothing disturbs

A worker is calm while neither side of it is faulted, no fault is pending, and no thread
is on its way into `EnterFaultedState`. `Harmless` says what a step must not run into:
a failing call, bytes that no request expects, or a record that fails a check. A harmless
step keeps a worker calm and reports no protocol fault (`calm_step`).
-/

set_option autoImplicit false

namespace ModernSapi

open SpeechWorker WorkerState

/-- The audio thread is not on its way into `EnterFaultedState`. -/
def AudioThread.Calm : AudioThread → Prop
  | .enterFaultedState _ => False
  | _ => True

/-- Neither is the control thread, nor will it be after its record. -/
def ControlThread.Calm : ControlThread → Prop
  | .forwarding _ thenFault | .onSpeechEvent _ thenFault => thenFault = false
  | .enterFaultedState _ => False
  | _ => True

/-- Nothing disturbs the worker. -/
structure WorkerState.Calm (state : WorkerState) : Prop where
  healthy : state.worker.isFaulted = false
  audio : state.audio.Calm
  control : state.control.Calm
  noPublisher : state.publisher = none

/-- The counters of a speaking request stay within its declared end when more bytes
are read. -/
def RequestContext.StaysWithin (context : RequestContext) (more : ℕ) : Prop :=
  context.downstreamState = .speaking → context.upstreamFinished = true →
    context.rawAudioBytesRead + more ≤ context.upstreamTerminalBytes

/-- The record passes every check of the worker. -/
structure HarmlessRecord (worker : SpeechWorker) (event : ProviderControlEvent) : Prop where
  addressed : event.speakId ≠ 0
  boundary : event.isSpeechBoundary = true → event.hasValidSpeechOffsets = true
  log : event.type = .log → event.logSeverity ≠ "error" ∧ event.logSeverity ≠ "fatal"
  valid : event.isTerminal = true → event.hasValidTerminalBytes = true
  aligned : event.isTerminal = true →
    worker.frameAssembler.blockAlign ∣ event.terminalAudioBytes
  first : event.speakId = worker.context.token.speakId → event.isTerminal = true →
    worker.context.upstreamFinished = false
  within : event.speakId = worker.context.token.speakId → event.isTerminal = true →
    worker.context.downstreamState = .speaking →
      worker.context.rawAudioBytesRead ≤ event.terminalAudioBytes

/-- The step runs into nothing that quarantines a session. -/
def Harmless (state : WorkerState) : WorkerAction → Prop
  | .audioChunk _ chunk =>
      state.context.downstreamState ≠ .idle ∧ state.context.StaysWithin chunk.length
  | .frameAssemblyFails .. | .audioReadFails | .controlReadFails => False
  | .batchOutcome _ => state.context.StaysWithin 0
  | .cancellationSent sent => sent.failed = false
  | .controlRecord _ event => HarmlessRecord state.worker event
  | _ => True

/-- The bytes SAPI has taken of a speaking request, credited or not, have been read. -/
def WorkerState.CreditWithinRead (state : WorkerState) : Prop :=
  state.context.downstreamState = .speaking →
    state.context.deliveredAudioBytes + (state.audio.flight state.context.token).delivered ≤
      state.context.rawAudioBytesRead

theorem DeliveryInvariant.creditWithinRead {trace : List Observation} {state : WorkerState}
    (invariant : DeliveryInvariant trace state) : state.CreditWithinRead := by
  intro speaking
  rw [(invariant.delivered.ledger speaking).credit]
  exact (invariant.delivered.acceptedHanded _).length_le.trans invariant.delivered.handedRaw

/-! ## The critical sections -/

namespace SpeechWorker

variable {worker : SpeechWorker}

theorem isFaulted_resetToIdleLocked (healthy : worker.isFaulted = false) :
    worker.resetToIdleLocked.isFaulted = false := by
  obtain ⟨-, -, pending⟩ := worker.isFaulted_eq_false.mp healthy
  simp [isFaulted, resetToIdleLocked, pending]

theorem isFaulted_cancelled (healthy : worker.isFaulted = false) (deadline : ℕ) :
    (worker.cancelled deadline).isFaulted = false := by
  obtain ⟨-, upstream, pending⟩ := worker.isFaulted_eq_false.mp healthy
  simp [isFaulted, cancelled, RequestContext.transitionToCancelling, upstream, pending]

theorem isFaulted_applyTerminal (healthy : worker.isFaulted = false) (type : ProviderEventType)
    (bytes : ℕ) : (worker.applyTerminal (terminalTarget type) bytes).isFaulted = false := by
  obtain ⟨downstream, -, pending⟩ := worker.isFaulted_eq_false.mp healthy
  simp [isFaulted, applyTerminal, downstream, pending, terminalTarget_ne_faulted]

/-- The result of a critical section: no fault, and none reported. -/
structure Undisturbed (after : SpeechWorker) (fault : Bool) (events : List Observation) :
    Prop where
  healthy : after.isFaulted = false
  noFault : fault = false
  silent : ∀ check, .protocolFault check ∉ events

theorem Undisturbed.of_quiet {events : List Observation} (healthy : worker.isFaulted = false)
    (silent : ∀ check, .protocolFault check ∉ events) : Undisturbed worker false events :=
  ⟨healthy, rfl, silent⟩

/-- The boundary check of a request that has not overrun. -/
theorem BoundaryOutcome.undisturbed {checked : SpeechWorker × Bool × List Observation}
    (outcome : BoundaryOutcome worker checked) (healthy : worker.isFaulted = false)
    (within : worker.context.StaysWithin 0)
    (credit : worker.context.downstreamState = .speaking →
      worker.context.deliveredAudioBytes ≤ worker.context.rawAudioBytesRead) :
    Undisturbed (checked.1.pendFault checked.2.1) checked.2.1 checked.2.2 := by
  cases outcome with
  | continues => exact .of_quiet healthy (by simp)
  | failed => exact .of_quiet (isFaulted_resetToIdleLocked healthy) (by simp)
  | overrun speaking finished excess =>
      have bounded := within speaking finished
      have delivered := credit speaking
      omega
  | completed => exact .of_quiet (isFaulted_resetToIdleLocked healthy) (by simp)
  | drained => exact .of_quiet (isFaulted_resetToIdleLocked healthy) (by simp)

/-- A chunk of an open request that stays within its declared end. -/
theorem IngestOutcome.undisturbed {now : ℕ} {chunk : List UInt8}
    {result : SpeechWorker × AudioIngestResult × List Observation}
    (outcome : IngestOutcome worker now chunk result) (healthy : worker.isFaulted = false)
    (notIdle : worker.context.downstreamState ≠ .idle)
    (within : worker.context.StaysWithin chunk.length)
    (credit : worker.context.downstreamState = .speaking →
      worker.context.deliveredAudioBytes ≤ worker.context.rawAudioBytesRead) :
    Undisturbed result.1 result.2.1.protocolBoundaryFailed result.2.2 := by
  have pcm {events : List Observation} (silent : ∀ check, .protocolFault check ∉ events) (check) :
      .protocolFault check ∉ .pcmRead chunk :: events := by
    rw [List.mem_cons, not_or]
    exact ⟨by simp, silent check⟩
  have counted (speaking : worker.context.downstreamState = .speaking) :
      worker.context.deliveredAudioBytes ≤
        worker.context.rawAudioBytesRead + chunk.length :=
    (credit speaking).trans (Nat.le_add_right _ _)
  cases outcome with
  | unexpected idle => exact absurd idle notIdle
  | discarded => exact ⟨healthy, rfl, pcm (by simp)⟩
  | drained _ outcome =>
      obtain ⟨healthy, noFault, silent⟩ := outcome.undisturbed healthy within counted
      exact ⟨healthy, noFault, pcm silent⟩
  | retained _ _ outcome =>
      obtain ⟨healthy, noFault, silent⟩ := outcome.undisturbed healthy within counted
      exact ⟨healthy, noFault, pcm silent⟩
  | framed => exact ⟨healthy, rfl, pcm (by simp)⟩

/-- A batch whose bytes have been read. -/
theorem DeliveryOutcome.undisturbed {now bytes : ℕ} {token : RequestToken} {writeAccepted : Bool}
    {result : SpeechWorker × Bool × ℕ × List Observation}
    (outcome : DeliveryOutcome worker now token bytes writeAccepted result)
    (healthy : worker.isFaulted = false) (within : worker.context.StaysWithin 0)
    (credit : worker.context.token = token → worker.context.downstreamState = .speaking →
      worker.context.deliveredAudioBytes + bytes ≤ worker.context.rawAudioBytesRead) :
    Undisturbed result.1 result.2.1 result.2.2.2 := by
  cases outcome with
  | ignored => exact .of_quiet healthy (by simp)
  | accepted matching _ outcome => exact outcome.undisturbed healthy within (credit matching)
  | rejected =>
      have credited : (worker.credited bytes).isFaulted = false := healthy
      exact .of_quiet (isFaulted_cancelled credited (now + cancellationTimeoutMs)) (by simp)
  | rejectedFaulted => exact .of_quiet healthy (by simp)
  | drained _ cancelling outcome =>
      refine outcome.undisturbed healthy within fun speaking => ?_
      rw [cancelling] at speaking
      cases speaking

/-- A record that passes every check. -/
theorem EventOutcome.undisturbed {event : ProviderControlEvent} {forward : Bool}
    {result : SpeechWorker × ControlEventDisposition × List Observation}
    (outcome : EventOutcome worker event forward result) (healthy : worker.isFaulted = false)
    (harmless : HarmlessRecord worker event)
    (credit : worker.context.downstreamState = .speaking →
      worker.context.deliveredAudioBytes ≤ worker.context.rawAudioBytesRead) :
    Undisturbed result.1 result.2.1.shouldEnterFaultedState result.2.2 := by
  cases outcome with
  | unchanged => exact .of_quiet healthy (by simp)
  | malformed _ boundary invalid =>
      rw [harmless.boundary boundary] at invalid
      cases invalid
  | terminalFault matching terminal reason =>
      cases reason with
      | duplicate finished =>
          rw [harmless.first matching terminal] at finished
          cases finished
      | invalid _ bytes =>
          rw [harmless.valid terminal] at bytes
          cases bytes
      | misaligned _ _ fraction => exact absurd (harmless.aligned terminal) fraction
  | terminalApplied matching terminal _ _ _ outcome =>
      have ⟨healthy, noFault, silent⟩ := outcome.undisturbed
        (isFaulted_applyTerminal healthy event.type event.terminalAudioBytes)
        (fun speaking _ => harmless.within matching terminal speaking) credit
      refine ⟨healthy, noFault, fun check => ?_⟩
      rw [List.mem_cons, not_or]
      exact ⟨by simp, silent check⟩
  | fatal _ log severity => exact absurd severity (harmless.log log).2
  | utteranceFailed _ log severity => exact absurd severity (harmless.log log).1

end SpeechWorker

/-! ## The step -/

section Step

variable {state next : WorkerState} {action : WorkerAction} {events : List Observation}

theorem AudioThread.calm_afterChunk {fault : Bool} (noFault : fault = false) :
    (AudioThread.afterChunk fault).Calm := by
  rw [noFault]
  trivial

theorem ControlThread.calm_afterEvent {fault : Bool} (noFault : fault = false) :
    (ControlThread.afterEvent fault).Calm := by
  rw [noFault]
  trivial

/-- A thread of a calm worker does not enter `EnterFaultedState`. -/
theorem WorkerState.Calm.not_mayEnterFaulted {thread : Thread} (calm : state.Calm)
    (isThread : thread ≠ .caller) : ¬state.mayEnterFaulted thread = true := by
  intro may
  cases thread with
  | audio =>
      obtain ⟨thenStop, here⟩ := state.entering_of_mayEnterFaulted may
      have audio := calm.audio
      rw [here] at audio
      exact audio
  | control =>
      simp only [mayEnterFaulted, Bool.and_eq_true, Bool.or_eq_true, beq_iff_eq] at may
      have control := calm.control
      rcases may.1 with here | here
      · rw [here] at control
        exact control
      · rw [here] at control
        exact control
  | caller => exact isThread rfl

/-- **A harmless step of the threads keeps a worker calm**, and reports no protocol
fault. -/
theorem calm_step (calm : state.Calm) (harmless : Harmless state action)
    (credit : state.CreditWithinRead) (isThread : action.isThreadStep = true)
    (taken : WorkerStep state action next events) :
    next.Calm ∧ ∀ check, .protocolFault check ∉ events := by
  have reading (here : state.audio = .reading)
      (speaking : state.context.downstreamState = .speaking) :
      state.context.deliveredAudioBytes ≤ state.context.rawAudioBytesRead := by
    have credited := credit speaking
    rwa [here] at credited
  cases taken with
  | chunkTaken here _ outcome =>
      obtain ⟨notIdle, within⟩ := harmless
      obtain ⟨healthy, noFault, silent⟩ :=
        outcome.undisturbed calm.healthy notIdle within (reading here)
      refine ⟨⟨healthy, ?_, calm.control, calm.noPublisher⟩, silent⟩
      simp only [WorkerState.afterIngest]
      split
      · trivial
      · exact AudioThread.calm_afterChunk noFault
  | assemblyFailed | audioReadFailed => exact harmless.elim
  | spansEnd | spanRejected =>
      exact ⟨⟨calm.healthy, trivial, calm.control, calm.noPublisher⟩, by simp⟩
  | spanHanded | spanAccepted =>
      exact ⟨⟨calm.healthy, trivial, calm.control, calm.noPublisher⟩, by simp⟩
  | batchSettled here outcome =>
      have bounded (matching : state.context.token = _)
          (speaking : state.context.downstreamState = .speaking) := by
        have credited := credit speaking
        rw [here, AudioThread.flight, if_pos matching.symm] at credited
        exact credited
      obtain ⟨healthy, noFault, silent⟩ := outcome.undisturbed calm.healthy harmless bounded
      refine ⟨⟨healthy, ?_, calm.control, calm.noPublisher⟩, silent⟩
      simp only [WorkerState.afterBatch]
      split
      · trivial
      · exact AudioThread.calm_afterChunk noFault
  | cancellationSent =>
      exact ⟨⟨calm.healthy, AudioThread.calm_afterChunk harmless, calm.control,
        calm.noPublisher⟩, by simp⟩
  | recordUnaddressed _ unaddressed => exact absurd unaddressed harmless.addressed
  | recordHandled _ _ outcome =>
      have noted (refresh : Bool) (now : ℕ) :
          HarmlessRecord (state.worker.refreshProgress now refresh) _ :=
        ⟨harmless.addressed, harmless.boundary, harmless.log, harmless.valid, harmless.aligned,
          harmless.first, harmless.within⟩
      obtain ⟨healthy, noFault, silent⟩ := outcome.undisturbed calm.healthy (noted _ _)
        fun speaking => (Nat.le_add_right _ _).trans (credit speaking)
      refine ⟨⟨healthy, calm.audio, ?_, calm.noPublisher⟩, silent⟩
      simp only [WorkerState.afterRecord]
      split
      · exact noFault
      · exact ControlThread.calm_afterEvent noFault
  | recordSkipped => exact ⟨calm, by simp⟩
  | controlReadFailed => exact harmless.elim
  | eventDecided here =>
      have control := calm.control
      rw [here] at control
      refine ⟨⟨calm.healthy, calm.audio, ?_, calm.noPublisher⟩, by simp⟩
      simp only
      split
      · exact control
      · exact ControlThread.calm_afterEvent control
  | eventReturned here =>
      have control := calm.control
      rw [here] at control
      exact ⟨⟨calm.healthy, calm.audio, ControlThread.calm_afterEvent control,
        calm.noPublisher⟩, by simp⟩
  | faultEntered may | faultRepeated may =>
      refine absurd may (calm.not_mayEnterFaulted ?_)
      rintro rfl
      cases isThread
  | faultPublished publisher =>
      rw [calm.noPublisher] at publisher
      cases publisher
  | started | startRejected | stopped | stopIgnored | cancellationBegun | cancellationIgnored =>
      cases isThread

end Step

end ModernSapi
