import ModernSapi.Worker.Invariant

/-!
# After a request is stopped

`Stop` makes a worker idle before the provider has ended the request. The token is kept,
and so is the fact that no terminal record has come. A terminal record that comes late, such
as the acknowledgement of the very cancel that `Stop` sends, still matches the token: it is
applied, and moves the provider's side of the idle worker to `Completed` or `Cancelled`. No
start is accepted after that, and the worker is not faulted either, so that nobody rebuilds
the session (`stop_wedges`).

`not_wedged` says that no other way leads there, and `not_lateTerminal` that it needs a
`Stop`.
-/

set_option autoImplicit false

namespace ModernSapi

open Interleaving SpeechWorker

/-- A terminal record of the idle worker's last request that the worker applies. -/
def LateTerminal (state : WorkerState) : WorkerAction → Prop
  | .controlRecord _ event =>
      state.context.downstreamState = .idle ∧ state.context.upstreamFinished = false ∧
        event.speakId = state.context.token.speakId ∧ event.speakId ≠ 0 ∧
        event.isTerminal = true ∧ event.hasValidTerminalBytes = true ∧
        state.worker.frameAssembler.blockAlign ∣ event.terminalAudioBytes
  | _ => False

instance (state : WorkerState) : DecidablePred (LateTerminal state)
  | .controlRecord .. => inferInstanceAs (Decidable (_ ∧ _ ∧ _ ∧ _ ∧ _ ∧ _ ∧ _))
  | .audioChunk .. | .frameAssemblyFails .. | .audioReadFails | .spanAdmission
  | .onAudioDataReturns _ | .batchOutcome _ | .cancellationSent _ | .controlReadFails
  | .finalAdmission | .onSpeechEventReturns | .enterFaultedState _ | .publishFault _ | .start ..
  | .stop | .beginCancellation _ => .isFalse id

/-! ## How a worker is idle -/

/-- The worker was idle before, with the same request. -/
structure StaysIdle (before after : RequestContext) : Prop where
  idle : before.downstreamState = .idle
  upstream : after.upstreamState = before.upstreamState
  finished : after.upstreamFinished = before.upstreamFinished
  token : after.token = before.token

/-- The request has come to its end. -/
structure EndsIdle (after : RequestContext) : Prop where
  upstream : after.upstreamState = .idle
  finished : after.upstreamFinished = true

namespace SpeechWorker

variable {worker : SpeechWorker} {now : ℕ} {chunk : List UInt8} {token : RequestToken}
  {delivered : ℕ} {writeAccepted forward : Bool} {event : ProviderControlEvent}

theorem staysIdle_setFaultPending (idle : worker.context.downstreamState = .idle) :
    StaysIdle worker.context worker.setFaultPending.context :=
  ⟨idle, rfl, rfl, rfl⟩

theorem BoundaryOutcome.idle {checked : SpeechWorker × Bool × List Observation}
    (outcome : BoundaryOutcome worker checked)
    (notFailed : worker.context.upstreamState ≠ .failed)
    (idle : (checked.1.pendFault checked.2.1).context.downstreamState = .idle) :
    worker.context.downstreamState = .idle ∨
      EndsIdle (checked.1.pendFault checked.2.1).context := by
  cases outcome with
  | continues => exact .inl idle
  | failed failed => exact absurd failed notFailed
  | overrun => exact .inl idle
  | completed _ finished => exact .inr ⟨rfl, finished⟩
  | drained _ finished => exact .inr ⟨rfl, finished⟩

theorem IngestOutcome.idle {result : SpeechWorker × AudioIngestResult × List Observation}
    (outcome : IngestOutcome worker now chunk result)
    (notFailed : worker.context.upstreamState ≠ .failed)
    (idle : result.1.context.downstreamState = .idle) :
    StaysIdle worker.context result.1.context ∨ EndsIdle result.1.context := by
  cases outcome with
  | unexpected before => exact .inl (staysIdle_setFaultPending before)
  | discarded => exact .inl ⟨idle, rfl, rfl, rfl⟩
  | drained cancelling outcome =>
      refine .inr ((outcome.idle notFailed idle).resolve_left fun before => ?_)
      cases cancelling.symm.trans before
  | retained speaking _ outcome =>
      refine .inr ((outcome.idle notFailed idle).resolve_left fun before => ?_)
      cases speaking.symm.trans before
  | framed speaking => cases speaking.symm.trans idle

theorem DeliveryOutcome.idle {result : SpeechWorker × Bool × ℕ × List Observation}
    (outcome : DeliveryOutcome worker now token delivered writeAccepted result)
    (notFailed : worker.context.upstreamState ≠ .failed)
    (idle : result.1.context.downstreamState = .idle) :
    StaysIdle worker.context result.1.context ∨ EndsIdle result.1.context := by
  cases outcome with
  | ignored => exact .inl ⟨idle, rfl, rfl, rfl⟩
  | accepted _ speaking outcome =>
      refine .inr ((outcome.idle notFailed idle).resolve_left fun before => ?_)
      cases speaking.symm.trans before
  | rejected => cases idle
  | rejectedFaulted _ speaking => cases speaking.symm.trans idle
  | drained _ cancelling outcome =>
      refine .inr ((outcome.idle notFailed idle).resolve_left fun before => ?_)
      cases cancelling.symm.trans before

/-- A record that leaves the worker idle leaves its request as it was, ends it, or is a
terminal record of a worker that was idle. -/
theorem EventOutcome.idle
    {result : SpeechWorker × ControlEventDisposition × List Observation}
    (outcome : EventOutcome worker event forward result)
    (idle : result.1.context.downstreamState = .idle) :
    StaysIdle worker.context result.1.context ∨ EndsIdle result.1.context ∨
      (worker.context.downstreamState = .idle ∧ worker.context.upstreamFinished = false ∧
        event.speakId = worker.context.token.speakId ∧ event.isTerminal = true ∧
        event.hasValidTerminalBytes = true ∧
        worker.frameAssembler.blockAlign ∣ event.terminalAudioBytes) := by
  cases outcome with
  | unchanged => exact .inl ⟨idle, rfl, rfl, rfl⟩
  | malformed => exact .inl (staysIdle_setFaultPending idle)
  | fatal => exact .inl (staysIdle_setFaultPending idle)
  | terminalFault => cases idle
  | terminalApplied matching terminal unfinished valid aligned outcome =>
      rcases outcome.idle (terminalTarget_ne_failed event.type) idle with before | ended
      · exact .inr (.inr ⟨before, unfinished, matching, terminal, valid, aligned⟩)
      · exact .inr (.inl ended)
  | utteranceFailed => exact .inr (.inl ⟨rfl, rfl⟩)

theorem staysIdle_handleMissingSpeakIdLocked
    (idle : worker.handleMissingSpeakIdLocked.context.downstreamState = .idle) :
    StaysIdle worker.context worker.handleMissingSpeakIdLocked.context := by
  obtain ⟨failed, same⟩ := worker.handleMissingSpeakIdLocked_eq
  rw [same] at idle ⊢
  rw [pendFault_context] at idle ⊢
  exact ⟨idle, rfl, rfl, rfl⟩

end SpeechWorker

section Steps

variable {state next : WorkerState} {action : WorkerAction} {trace events : List Observation}
  {guard : WorkerState → WorkerAction → Prop}

/-- **A worker that is idle after a step** was idle with the same request, has come to the
end of its request, was stopped, or has applied a late terminal record. -/
theorem WorkerStep.idle_cases (taken : WorkerStep state action next events)
    (settled : state.worker.Settled) (idle : next.context.downstreamState = .idle) :
    StaysIdle state.context next.context ∨ EndsIdle next.context ∨
      (action = .stop ∧ next.context.upstreamState = .idle) ∨ LateTerminal state action := by
  cases taken with
  | chunkTaken _ _ outcome =>
      exact (outcome.idle settled.notFailed idle).imp_right .inl
  | assemblyFailed _ _ speaking => cases speaking.symm.trans idle
  | batchSettled _ outcome =>
      exact (outcome.idle settled.notFailed idle).imp_right .inl
  | recordUnaddressed => exact .inl (staysIdle_handleMissingSpeakIdLocked idle)
  | recordHandled _ addressed outcome =>
      rcases outcome.idle idle with stays | ends | ⟨before, unfinished, matching, rest⟩
      · exact .inl ⟨stays.idle, stays.upstream, stays.finished, stays.token⟩
      · exact .inr (.inl ends)
      · exact .inr (.inr (.inr ⟨before, unfinished, matching, addressed, rest⟩))
  | started | faultEntered | cancellationBegun => cases idle
  | stopped => exact .inr (.inr (.inl ⟨rfl, rfl⟩))
  | faultRepeated =>
      rw [WorkerState.context, WorkerState.leaveFaulted_worker] at idle
      cases idle
  | faultPublished =>
      simp only [WorkerState.context, WorkerState.leaveFaulted_worker] at idle ⊢
      exact .inl ⟨idle, rfl, rfl, rfl⟩
  | _ => exact .inl ⟨idle, rfl, rfl, rfl⟩

theorem settled_of_reaches (reached : workerMachine.Reaches guard trace state) :
    state.worker.Settled :=
  (workerInvariant reached).consistent.toSettled

/-- As long as no late terminal record is applied, an idle worker has an idle provider
side. -/
theorem upstream_idle
    (reached : workerMachine.Reaches (fun state action => ¬LateTerminal state action) trace state)
    (idle : state.context.downstreamState = .idle) : state.context.upstreamState = .idle := by
  refine reached.induct (motive := fun _ state => state.context.downstreamState = .idle →
    state.context.upstreamState = .idle) ?_ ?_ idle
  · rintro _ ⟨blockAlign, positive, rfl⟩ -
    rfl
  · intro _ _ _ _ _ before ih notLate taken after
    rcases (step_spec taken).idle_cases (settled_of_reaches before) after with
      stays | ends | ⟨-, reset⟩ | late
    · exact stays.upstream.trans (ih stays.idle)
    · exact ends.upstream
    · exact reset
    · exact absurd late notLate

/-- **No worker is wedged** unless a late terminal record is applied: in every run, with
stops and late records of any other kind, a worker that is idle and not faulted has an idle
provider side and no fault pending, and accepts the next start. -/
theorem not_wedged
    (reached : workerMachine.Reaches (fun state action => ¬LateTerminal state action) trace state)
    (idle : state.context.downstreamState = .idle) (healthy : state.worker.isFaulted = false) :
    state.context.upstreamState = .idle ∧ state.context.faultPending = false ∧
      ∀ now speakId, (state.worker.start now speakId).2.1 = true := by
  have upstream := upstream_idle reached idle
  obtain ⟨-, -, pending⟩ := state.worker.isFaulted_eq_false.mp healthy
  refine ⟨upstream, pending, fun now speakId => ?_⟩
  rw [start_accepted ⟨upstream, idle, pending⟩]

/-- Without a stop, an idle worker has had the end of its request, or has had none. -/
theorem finished_of_idle
    (reached : workerMachine.Reaches (fun _ action => action ≠ .stop) trace state)
    (idle : state.context.downstreamState = .idle) :
    state.context.upstreamFinished = true ∨ state.context.token.speakId = 0 := by
  refine reached.induct (motive := fun _ state => state.context.downstreamState = .idle →
    state.context.upstreamFinished = true ∨ state.context.token.speakId = 0) ?_ ?_ idle
  · rintro _ ⟨blockAlign, positive, rfl⟩ -
    exact .inr rfl
  · intro _ _ state next action before ih notStop taken after
    rcases (step_spec taken).idle_cases (settled_of_reaches before) after with
      stays | ends | ⟨stop, -⟩ | late
    · rw [stays.finished, stays.token]
      exact ih stays.idle
    · exact .inl ends.finished
    · exact absurd stop notStop
    · cases action with
      | controlRecord now event =>
          obtain ⟨before, unfinished, matching, addressed, -⟩ := late
          rcases ih before with finished | none
          · cases unfinished.symm.trans finished
          · exact absurd (matching.trans none) addressed
      | _ => exact late.elim

/-- **A terminal record is late only after a stop.** -/
theorem not_lateTerminal
    (reached : workerMachine.Reaches (fun _ action => action ≠ .stop) trace state) :
    ¬LateTerminal state action := by
  intro late
  cases action with
  | controlRecord now event =>
      obtain ⟨idle, unfinished, matching, addressed, -⟩ := late
      rcases finished_of_idle reached idle with finished | none
      · cases unfinished.symm.trans finished
      · exact absurd (matching.trans none) addressed
  | _ => exact late.elim

end Steps

/-- The acknowledgement of a cancel that nothing was committed for. -/
def cancelAcknowledged (speakId : ℕ) : ProviderControlEvent where
  type := .synthesisCancelled
  speakId := speakId
  rawEventName := "synthesis_cancelled"
  hasValidTerminalBytes := true

/-- A request that is stopped after its completion, and a late record of it. -/
def stoppedAfterCompletion : List WorkerAction :=
  [.start 0 1, .audioChunk 1 [1, 2],
    .controlRecord 2
      { type := .synthesisComplete, speakId := 1, rawEventName := "synthesis_complete"
        terminalAudioBytes := 4, hasValidTerminalBytes := true },
    .finalAdmission, .onSpeechEventReturns, .stop,
    .controlRecord 3 { type := .log, speakId := 1, rawEventName := "log", logSeverity := "error" }]

theorem not_wedged_stopped :
    let state := workerMachine.finalState (.initial 2 (by decide)) stoppedAfterCompletion
    state.context.upstreamState = .idle ∧ state.context.faultPending = false ∧
      ∀ now speakId, (state.worker.start now speakId).2.1 = true :=
  not_wedged ⟨_, ⟨_, _, rfl⟩, workerMachine.run_finalState (.initial 2 (by decide))
    stoppedAfterCompletion (by decide) (by decide)⟩ (by decide) (by decide)

/-- A request that is stopped, and the acknowledgement of its cancel. -/
def stoppedThenAcknowledged : List WorkerAction :=
  [.start 0 1, .stop, .controlRecord 1 (cancelAcknowledged 1)]

/-- A stopped request wedges the worker when its cancel is acknowledged. -/
theorem stop_wedges :
    ¬∀ trace state, workerMachine.Reaches Machine.anyStep trace state →
      state.context.downstreamState = .idle → state.worker.isFaulted = false →
        state.context.upstreamState = .idle := by
  intro never
  have wedged := never _ _ ⟨_, ⟨2, by decide, rfl⟩,
    workerMachine.run_finalState (.initial 2 (by decide)) stoppedThenAcknowledged
      (Machine.along_anyStep _ _) (by decide)⟩ (by decide) (by decide)
  exact absurd wedged (by decide)

end ModernSapi
