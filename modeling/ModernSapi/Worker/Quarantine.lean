import ModernSapi.Worker.Invariant

/-!
# Quarantine

A faulted worker is meant to stay faulted: its session is retired and replaced,
never used again. Three fields of the context say that a worker is faulted, and
the steps that follow a fault still rewrite them.

One of them ends the quarantine. A request-error log that carries the speak id of
the faulted request resets the request to idle, and once the fault has been
published nothing marks the session any more: `quarantine_ends` is such a run, and
the next start is accepted. `quarantine_absorbing` shows that this is the only
way: as long as no such log is taken in while the engine side is faulted, a
faulted worker stays faulted and refuses every start.
-/

set_option autoImplicit false

namespace ModernSapi

open Interleaving SpeechWorker

/-- The record is a request-error log for the current speak id. One with the id 0 is
for no request. -/
def IsRequestError (worker : SpeechWorker) (event : ProviderControlEvent) : Prop :=
  event.type = .log ∧ event.logSeverity = "error" ∧ event.speakId ≠ 0 ∧
    event.speakId = worker.context.token.speakId

/-- No request-error log for the current speak id is taken in while the engine
side is faulted. -/
def NoErrorWhileFaulted (state : WorkerState) : WorkerAction → Prop
  | .controlRecord _ event =>
      state.context.downstreamState = .faulted → ¬IsRequestError state.worker event
  | _ => True

instance (worker : SpeechWorker) (event : ProviderControlEvent) :
    Decidable (IsRequestError worker event) :=
  inferInstanceAs (Decidable (_ ∧ _ ∧ _ ∧ _))

instance (state : WorkerState) : DecidablePred (NoErrorWhileFaulted state)
  | .controlRecord _ event =>
      inferInstanceAs (Decidable (state.context.downstreamState = .faulted →
        ¬IsRequestError state.worker event))
  | .audioChunk .. | .frameAssemblyFails .. | .audioReadFails | .spanAdmission
  | .onAudioDataReturns _ | .batchOutcome _ | .cancellationSent _ | .controlReadFails
  | .finalAdmission | .onSpeechEventReturns | .enterFaultedState _ | .publishFault _
  | .start .. | .stop | .beginCancellation _ => .isTrue trivial

namespace SpeechWorker

variable {worker : SpeechWorker} {now : ℕ} {chunk : List UInt8} {token : RequestToken}
  {delivered : ℕ} {writeAccepted forward : Bool} {event : ProviderControlEvent}

/-- A faulted worker has a fault pending or a faulted engine side. -/
theorem Settled.faulted_cases (settled : worker.Settled) (faulted : worker.isFaulted = true) :
    worker.context.downstreamState = .faulted ∨ worker.context.faultPending = true := by
  rcases worker.isFaulted_eq_true.mp faulted with downstream | upstream | pending
  · exact .inl downstream
  · exact .inl (settled.faultedBoth upstream)
  · exact .inr pending

theorem isFaulted_setFaultPending : worker.setFaultPending.isFaulted = true :=
  isFaulted_of_pending rfl

theorem isFaulted_pendFault (faulted : worker.isFaulted = true) (failed : Bool) :
    (worker.pendFault failed).isFaulted = true := by
  cases failed with
  | false => exact faulted
  | true => exact isFaulted_setFaultPending

theorem BoundaryOutcome.pending {checked : SpeechWorker × Bool × List Observation}
    (outcome : BoundaryOutcome worker checked) :
    checked.1.context.faultPending = worker.context.faultPending := by
  rcases outcome.worker_cases with same | ⟨reset, -⟩
  · rw [same]
  · rw [reset]
    rfl

/-- The check resets no request whose engine side is faulted. -/
theorem BoundaryOutcome.of_faulted {checked : SpeechWorker × Bool × List Observation}
    (outcome : BoundaryOutcome worker checked)
    (notFailed : worker.context.upstreamState ≠ .failed)
    (downstream : worker.context.downstreamState = .faulted) : checked.1 = worker := by
  cases outcome with
  | continues | overrun => rfl
  | failed failed => exact absurd failed notFailed
  | completed speaking => simp [downstream] at speaking
  | drained cancelling => simp [downstream] at cancelling

theorem BoundaryOutcome.isFaulted {checked : SpeechWorker × Bool × List Observation}
    (outcome : BoundaryOutcome worker checked)
    (notFailed : worker.context.upstreamState ≠ .failed)
    (faulted : worker.context.downstreamState = .faulted ∨ worker.context.faultPending = true) :
    checked.1.isFaulted = true := by
  rcases faulted with downstream | pending
  · rw [outcome.of_faulted notFailed downstream]
    exact isFaulted_of_downstream downstream
  · exact isFaulted_of_pending (outcome.pending.trans pending)

theorem IngestOutcome.isFaulted {result : SpeechWorker × AudioIngestResult × List Observation}
    (outcome : IngestOutcome worker now chunk result) (settled : worker.Settled)
    (faulted : worker.isFaulted = true) : result.1.isFaulted = true := by
  have cause := settled.faulted_cases faulted
  cases outcome with
  | unexpected => exact isFaulted_setFaultPending
  | discarded => exact faulted
  | drained _ outcome => exact isFaulted_pendFault (outcome.isFaulted settled.notFailed cause) _
  | retained _ _ outcome =>
      exact isFaulted_pendFault (outcome.isFaulted settled.notFailed cause) _
  | framed => exact faulted

theorem DeliveryOutcome.isFaulted {result : SpeechWorker × Bool × ℕ × List Observation}
    (outcome : DeliveryOutcome worker now token delivered writeAccepted result)
    (settled : worker.Settled) (faulted : worker.isFaulted = true) :
    result.1.isFaulted = true := by
  have cause := settled.faulted_cases faulted
  cases outcome with
  | ignored | rejectedFaulted => exact faulted
  | accepted _ _ outcome =>
      exact isFaulted_pendFault (outcome.isFaulted settled.notFailed cause) _
  | rejected _ speaking =>
      rcases cause with downstream | pending
      · simp [downstream] at speaking
      · exact isFaulted_of_pending pending
  | drained _ _ outcome =>
      exact isFaulted_pendFault (outcome.isFaulted settled.notFailed cause) _

/-- A control event keeps a worker faulted, a request-error log of a faulted
request apart. -/
theorem EventOutcome.isFaulted
    {result : SpeechWorker × ControlEventDisposition × List Observation}
    (outcome : EventOutcome worker event forward result) (settled : worker.Settled)
    (addressed : event.speakId ≠ 0)
    (noError : worker.context.downstreamState = .faulted → ¬IsRequestError worker event)
    (faulted : worker.isFaulted = true) : result.1.isFaulted = true := by
  have cause := settled.faulted_cases faulted
  cases outcome with
  | unchanged => exact faulted
  | malformed | fatal | terminalFault => exact isFaulted_setFaultPending
  | terminalApplied _ _ _ _ _ outcome =>
      exact isFaulted_pendFault
        (outcome.isFaulted (terminalTarget_ne_failed event.type) cause) _
  | utteranceFailed matching log severity =>
      rcases cause with downstream | pending
      · exact absurd ⟨log, severity, addressed, matching⟩ (noError downstream)
      · exact isFaulted_of_pending pending

theorem handleMissingSpeakIdLocked_downstream :
    worker.handleMissingSpeakIdLocked.context.downstreamState
      = worker.context.downstreamState := by
  obtain ⟨failed, same⟩ := worker.handleMissingSpeakIdLocked_eq
  rw [same, pendFault_context]

theorem isFaulted_handleMissingSpeakIdLocked (faulted : worker.isFaulted = true) :
    worker.handleMissingSpeakIdLocked.isFaulted = true := by
  obtain ⟨failed, same⟩ := worker.handleMissingSpeakIdLocked_eq
  rw [same]
  exact isFaulted_pendFault faulted failed

end SpeechWorker

/-! ## One step, then a run -/

variable {state next final : WorkerState} {action : WorkerAction}
  {trace later events : List Observation}

/-- The engine side is faulted while the fault is on its way to be published. -/
def PublishingFaulted (state : WorkerState) : Prop :=
  state.publisher.isSome = true → state.context.downstreamState = .faulted

/-- The engine side leaves the faulted state only through a start or a
request-error log. -/
theorem EventOutcome.stays_faulted {worker : SpeechWorker} {event : ProviderControlEvent}
    {forward : Bool} {result : SpeechWorker × ControlEventDisposition × List Observation}
    (outcome : EventOutcome worker event forward result)
    (downstream : worker.context.downstreamState = .faulted) (addressed : event.speakId ≠ 0)
    (noError : ¬IsRequestError worker event) : result.1.context.downstreamState = .faulted := by
  cases outcome with
  | unchanged | malformed | fatal => exact downstream
  | terminalFault => rfl
  | terminalApplied _ _ _ _ _ outcome =>
      have same := outcome.of_faulted (terminalTarget_ne_failed event.type) downstream
      rw [pendFault_context, same]
      exact downstream
  | utteranceFailed matching log severity => exact absurd ⟨log, severity, addressed, matching⟩ noError

/-- A step that meets the condition keeps the engine side faulted, in a worker
that cannot start. -/
theorem downstream_faulted_step (downstream : state.context.downstreamState = .faulted)
    (allowed : NoErrorWhileFaulted state action) (taken : WorkerStep state action next events) :
    next.context.downstreamState = .faulted := by
  cases taken with
  | chunkTaken _ _ outcome =>
      cases outcome with
      | discarded => exact downstream
      | unexpected idle => simp [downstream] at idle
      | drained cancelling => simp [downstream] at cancelling
      | retained speaking => simp [downstream] at speaking
      | framed speaking => simp [downstream] at speaking
  | assemblyFailed _ _ speaking => simp [downstream] at speaking
  | audioReadFailed | spansEnd | spanHanded | spanAccepted | spanRejected | cancellationSent
  | recordSkipped | controlReadFailed | eventDecided | eventReturned | startRejected | stopIgnored
  | cancellationIgnored =>
      exact downstream
  | batchSettled _ outcome =>
      cases outcome with
      | ignored => exact downstream
      | accepted _ speaking => simp [downstream] at speaking
      | rejected _ speaking => simp [downstream] at speaking
      | rejectedFaulted _ speaking => simp [downstream] at speaking
      | drained _ cancelling => simp [downstream] at cancelling
  | recordUnaddressed =>
      rw [WorkerState.context, handleMissingSpeakIdLocked_downstream]
      exact downstream
  | recordHandled _ addressed outcome =>
      exact EventOutcome.stays_faulted outcome downstream addressed (allowed downstream)
  | faultEntered => rfl
  | faultRepeated =>
      rw [WorkerState.context, WorkerState.leaveFaulted_worker]
      rfl
  | faultPublished =>
      rw [WorkerState.context, WorkerState.leaveFaulted_worker]
      exact downstream
  | started can =>
      have idle := can.2.1
      rw [downstream] at idle
      cases idle
  | stopped isOpen => exact absurd downstream isOpen.2.1
  | cancellationBegun speaking => simp [downstream] at speaking

theorem publishingFaulted_step (held : PublishingFaulted state)
    (allowed : NoErrorWhileFaulted state action) (taken : WorkerStep state action next events) :
    PublishingFaulted next := by
  intro publishing
  by_cases before : state.publisher.isSome = true
  · exact downstream_faulted_step (held before) allowed taken
  · cases taken with
    | faultEntered => rfl
    | faultPublished => simp [WorkerState.leaveFaulted_publisher] at publishing
    | faultRepeated =>
        rw [WorkerState.leaveFaulted_publisher] at publishing
        exact absurd publishing before
    | _ => exact absurd publishing before

/-- A step that meets the condition keeps a faulted worker faulted. -/
theorem isFaulted_step (invariant : WorkerInvariant state) (publishing : PublishingFaulted state)
    (faulted : state.worker.isFaulted = true) (allowed : NoErrorWhileFaulted state action)
    (taken : WorkerStep state action next events) : next.worker.isFaulted = true := by
  have settled := invariant.consistent.toSettled
  cases taken with
  | chunkTaken _ _ outcome => exact outcome.isFaulted settled faulted
  | assemblyFailed | audioReadFailed | spansEnd | spanHanded | spanAccepted | spanRejected
  | cancellationSent | recordSkipped | controlReadFailed | eventDecided | eventReturned
  | startRejected | stopIgnored | cancellationIgnored => exact faulted
  | batchSettled _ outcome => exact outcome.isFaulted settled faulted
  | recordUnaddressed => exact isFaulted_handleMissingSpeakIdLocked faulted
  | recordHandled _ addressed outcome =>
      exact outcome.isFaulted (invariant.consistent.refreshProgress _ _).toSettled addressed allowed
        faulted
  | faultEntered => exact isFaulted_of_downstream rfl
  | faultRepeated =>
      rw [WorkerState.leaveFaulted_worker]
      exact isFaulted_of_downstream rfl
  | faultPublished publisher =>
      rw [WorkerState.leaveFaulted_worker]
      exact isFaulted_of_downstream (publishing (by rw [publisher]; rfl))
  | started can => exact absurd can (not_canStart_of_isFaulted faulted)
  | stopped isOpen =>
      rcases settled.faulted_cases faulted with downstream | pending
      · exact absurd downstream isOpen.2.1
      · exact isFaulted_of_pending pending
  | cancellationBegun speaking =>
      rcases settled.faulted_cases faulted with downstream | pending
      · simp [downstream] at speaking
      · exact isFaulted_of_pending pending

theorem publishingFaulted (reached : workerMachine.Reaches NoErrorWhileFaulted trace state) :
    PublishingFaulted state := by
  refine reached.induct (motive := fun _ state => PublishingFaulted state) ?_ ?_
  · rintro _ ⟨blockAlign, positive, rfl⟩ publishing
    simp [WorkerState.initial] at publishing
  · intro _ _ _ _ _ _ held allowed taken
    exact publishingFaulted_step held allowed (step_spec taken)

/-- **Quarantine is absorbing, as long as no request-error log for the current
speak id is taken in while the engine side is faulted.** A worker that is faulted
after such a run is faulted after every such continuation, and refuses to start. -/
theorem quarantine_absorbing (reached : workerMachine.Reaches NoErrorWhileFaulted trace state)
    (faulted : state.worker.isFaulted = true)
    (run : workerMachine.Run NoErrorWhileFaulted state later final) :
    final.worker.isFaulted = true ∧
      ∀ now speakId, final.worker.start now speakId = (final.worker, false, []) := by
  have held : ∃ seen, workerMachine.Reaches NoErrorWhileFaulted seen final ∧
      final.worker.isFaulted = true := by
    induction run with
    | refl => exact ⟨trace, reached, faulted⟩
    | step _ allowed taken ih =>
        obtain ⟨seen, before, still⟩ := ih
        exact ⟨_, before.step allowed taken, isFaulted_step (workerInvariant before)
          (publishingFaulted before) still allowed (step_spec taken)⟩
  obtain ⟨-, -, still⟩ := held
  exact ⟨still, start_rejected (not_canStart_of_isFaulted still)⟩

/-! ## Runs of a faulted session -/

/-- A session of one request whose audio pipe fails, up to the published fault. -/
def audioPipeFailure : List WorkerAction :=
  [.start 0 1, .audioReadFails, .enterFaultedState .audio, .publishFault .audio]

/-- A request-error log for a speak id. -/
def requestErrorLog (speakId : ℕ) : ProviderControlEvent :=
  { type := .log, speakId, rawEventName := "log", logSeverity := "error" }

/-- The condition is met by a session whose provider falls silent after the fault,
and by one that is stopped and restarted then. -/
theorem quarantine_absorbing_silent :
    let failed := workerMachine.finalState (.initial 2 (by decide)) audioPipeFailure
    let ended := workerMachine.finalState failed [.stop, .start 9 2]
    ended.worker.isFaulted = true ∧
      ∀ now speakId, ended.worker.start now speakId = (ended.worker, false, []) :=
  quarantine_absorbing
    ⟨_, ⟨2, by decide, rfl⟩,
      workerMachine.run_finalState _ audioPipeFailure (by decide) (by decide)⟩
    (by decide) (workerMachine.run_finalState _ [.stop, .start 9 2] (by decide) (by decide))

/-- **Quarantine is not absorbing in general.** The provider logs an error for the
request after the pipe failure has quarantined the session: the worker is idle
again, and starts the next request. -/
theorem quarantine_ends :
    ¬∀ {trace later : List Observation} {state final : WorkerState},
      workerMachine.Reaches Machine.anyStep trace state → state.worker.isFaulted = true →
        workerMachine.Run Machine.anyStep state later final →
          final.worker.isFaulted = true ∧
            ∀ now speakId, final.worker.start now speakId = (final.worker, false, []) := by
  intro absorbing
  have reached : workerMachine.Reaches Machine.anyStep
      (workerMachine.emitted (.initial 2 (by decide)) audioPipeFailure)
      (workerMachine.finalState (.initial 2 (by decide)) audioPipeFailure) :=
    ⟨_, ⟨2, by decide, rfl⟩,
      workerMachine.run_finalState _ _ (Machine.along_anyStep _ _) (by decide)⟩
  have run := workerMachine.run_finalState
    (workerMachine.finalState (.initial 2 (by decide)) audioPipeFailure)
    [.controlRecord 9 (requestErrorLog 1)] (Machine.along_anyStep _ _) (by decide)
  have still := (absorbing reached (by decide) run).1
  revert still
  decide

end ModernSapi
