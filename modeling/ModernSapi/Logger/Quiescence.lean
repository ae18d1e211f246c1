import ModernSapi.Library.Threads
import ModernSapi.Logger.MessageOrder
import ModernSapi.Logger.WorkerHandles

/-!
# Quiescence of the logger

A call of `BeginUnloadQuiescence` that returns true has seen the logger stopped, and joined the
worker whose handle it found. Nothing that it has seen under the mutex need hold any more by
then: a worker that stops opens the admission again when another call has given up waiting for
it, and so does a call of `ResumeAfterUnloadRejected` that was under way before. And a call that
finds no handle returns while another one still joins the worker.

`quiescence_real` says when the logger is quiet at the return.
-/

set_option autoImplicit false

namespace ModernSapi

open Interleaving AsyncLogger

/-- No step opens the admission: neither a worker that stops nor the end of
`ResumeAfterUnloadRejected`. -/
def KeepsQuiescent (logger : AsyncLogger) : LoggerAction → Prop
  | .settle _ => ¬logger.resumesItself
  | .resumeJoined _ => False
  | _ => True

/-- No worker runs, nothing is queued, and no call of `Log` can start a worker. -/
structure AsyncLogger.Quiesced (logger : AsyncLogger) : Prop where
  finished : ∀ place ∈ logger.workers, place = .finished
  empty : logger.queue = []
  admission : logger.admission = .quiescent
  noStart : ∀ {action : LoggerAction} {next : AsyncLogger} {events : List LoggerObservation},
    logger.step action = some (next, events) → next.workers.length = logger.workers.length

section Steps

variable {logger next : AsyncLogger} {action : LoggerAction} {events : List LoggerObservation}
  {thread : ℕ}

theorem refusesMessages_of_quiescent (quiescent : logger.admission = .quiescent) :
    logger.refusesMessages = true := by
  rw [refusesMessages, quiescent]
  rfl

/-- A call of `Log` is refused in either section. -/
theorem log_refused {outcome : LogOutcome} (quiescent : logger.admission = .quiescent)
    (ends : logger.LogSection thread outcome next) : next = logger.moveCall thread .idle := by
  have refuses := refusesMessages_of_quiescent quiescent
  cases ends with
  | refused _ same => exact same
  | handleTaken accepts | ended accepts =>
      rw [refuses] at accepts
      cases accepts

/-- **The admission opens in two steps only.** -/
theorem admission_opens (quiescent : logger.admission = .quiescent)
    (taken : logger.step action = some (next, events)) :
    next.admission = .quiescent ∨ ¬KeepsQuiescent logger action := by
  have spec := loggerStep_spec taken
  have live := liveStep_of_step taken
  cases action with
  | resumeJoined => exact .inr not_false
  | settle worker =>
      rcases (workerMoves taken rfl).admission_cases with unchanged | ⟨-, resumes⟩
      · exact .inl (unchanged.trans quiescent)
      · exact .inr (not_not_intro resumes)
  | dequeue | deliver | stop | workerThrows | workerFails | cleanupFileStream | workerExits =>
      obtain unchanged | ⟨⟨_, ⟨⟩⟩, -⟩ := (workerMoves taken rfl).admission_cases
      exact .inl (unchanged.trans quiescent)
  | logEnters thread outcome =>
      left
      rw [log_refused quiescent (logEnters_section live).2]
      exact quiescent
  | logJoined thread outcome =>
      left
      rw [log_refused quiescent (logJoined_section live).2.2]
      exact quiescent
  | log | beginUnloadQuiescence | shutdown | resumeAfterUnloadRejected =>
      obtain ⟨-, ended⟩ := Option.ite_none_right_eq_some.mp live
      cases ended
      exact .inl quiescent
  | logThrows thread =>
      simp only [liveStep] at live
      split at live
      · cases live
        exact .inl quiescent
      · cases live
  | quiesceEnters | stopSeen | stopTimesOut | stoppedJoined | resumeEnters =>
      left
      cases spec with
      | background isBackground => cases isBackground
      | _ => first | rfl | exact quiescent

/-- No worker is started while the admission is closed. -/
theorem workers_of_quiescent (quiescent : logger.admission = .quiescent)
    (taken : logger.step action = some (next, events)) :
    next.workers.length = logger.workers.length := by
  cases loggerStep_spec taken with
  | background _ taken =>
      cases taken with
      | logEnded _ isOpen _ => exact nomatch quiescent.symm.trans isOpen
      | logCalled | logReturned | handleTaken => rfl
      | _ => exact List.length_set
  | _ => rfl

/-- A stopped logger without a handle stays so while the admission is closed. -/
theorem stopped_stays (quiescent : logger.admission = .quiescent)
    (stopped : logger.state = .stopped) (free : logger.worker = none)
    (taken : logger.LoggerStep action next events) :
    next.state = .stopped ∧ next.worker = none := by
  cases taken with
  | background _ taken =>
      cases taken with
      | logEnded _ isOpen _ => exact nomatch quiescent.symm.trans isOpen
      | handleTaken => exact ⟨stopped, rfl⟩
      | settledStopped | settledResumed => exact ⟨rfl, free⟩
      | workerFailed =>
          refine ⟨?_, free⟩
          change logger.state.afterException = .stopped
          rw [stopped]
          rfl
      | _ => exact ⟨stopped, free⟩
  | stopAsked _ running => exact nomatch running.symm.trans stopped
  | alreadyStopped | stopSeen | resumeTaken => exact ⟨stopped, rfl⟩
  | _ => exact ⟨stopped, free⟩

/-- A call that comes to join the stopped worker leaves the logger stopped, and without the
handle. -/
theorem joiningStopped_before {shutdown : Bool} {worker : Option ℕ}
    (quiescent : logger.admission = .quiescent) (taken : logger.LoggerStep action next events)
    (stands : next.calls thread = .joiningStopped shutdown worker) :
    logger.calls thread = .joiningStopped shutdown worker ∨
      (next.state = .stopped ∧ next.worker = none) := by
  cases taken with
  | background _ taken =>
      left
      cases taken with
      | logEnded _ isOpen _ => exact nomatch quiescent.symm.trans isOpen
      | logCalled | logReturned | handleTaken => exact standing_before stands nofun
      | _ => exact stands
  | called _ enters =>
      left
      refine standing_before stands ?_
      rcases enters with ⟨-, rfl⟩ | ⟨-, rfl⟩ | ⟨-, rfl⟩ <;> exact nofun
  | alreadyStopped _ stopped | stopSeen _ stopped => exact .inr ⟨stopped, rfl⟩
  | _ => exact .inl (standing_before stands nofun)

end Steps

/-! ## From the closing of the admission to the return -/

/-- The admission is closed, and the logger is stopped when the call has seen it so. -/
structure StaysQuiet (thread : ℕ) (logger : AsyncLogger) : Prop where
  quiescent : logger.admission = .quiescent
  seen : ∀ shutdown worker, logger.calls thread = .joiningStopped shutdown worker →
    logger.state = .stopped ∧ logger.worker = none

section Quiet

variable {logger next : AsyncLogger} {action : LoggerAction} {events : List LoggerObservation}
  {thread : ℕ}

/-- The first section of the call closes the admission. -/
theorem StaysQuiet.closed (taken : logger.step (.quiesceEnters thread) = some (next, events)) :
    StaysQuiet thread next := by
  have spec := loggerStep_spec taken
  have moved {call : LoggerCall} {calls : ℕ → LoggerCall} {shutdown : Bool} {worker : Option ℕ}
      (elsewhere : call ≠ .joiningStopped shutdown worker) :
      Function.update calls thread call thread ≠ .joiningStopped shutdown worker := by
    rw [Function.update_self]
    exact elsewhere
  cases spec with
  | background isBackground => cases isBackground
  | called _ enters => simp at enters
  | alreadyStopped _ stopped => exact ⟨rfl, fun _ _ _ => ⟨stopped, rfl⟩⟩
  | stopAsked | stopAwaited | alreadyFailed =>
      exact ⟨rfl, fun _ _ stands => absurd stands (moved nofun)⟩

/-- **No step opens the admission, or starts a worker.** -/
theorem StaysQuiet.step (quiet : StaysQuiet thread logger) (allowed : KeepsQuiescent logger action)
    (taken : logger.step action = some (next, events)) : StaysQuiet thread next := by
  have spec := loggerStep_spec taken
  refine ⟨?_, fun shutdown worker stands => ?_⟩
  · exact (admission_opens quiet.quiescent taken).resolve_right (not_not_intro allowed)
  · rcases joiningStopped_before quiet.quiescent spec stands with before | stopped
    · obtain ⟨stopped, free⟩ := quiet.seen shutdown worker before
      exact stopped_stays quiet.quiescent stopped free spec
    · exact stopped

end Quiet

/-! ## The result -/

/-- No other call waits for a worker that has not exited. -/
def NobodyJoins (logger : AsyncLogger) (thread : ℕ) : Prop :=
  ∀ other, other ≠ thread → ∀ worker, (logger.calls other).joins = some worker →
    logger.workers[worker]? = some .finished

/-- **The logger is quiet when `BeginUnloadQuiescence` returns true**, unless another call still
joins a worker, in every run in which nothing opens the admission meanwhile. -/
theorem quiescence_real {trace closing later returning : List LoggerObservation}
    {before entered atEnd next : AsyncLogger} {thread : ℕ}
    (reached : loggerMachine.Reaches Machine.anyStep trace before)
    (closed : before.step (.quiesceEnters thread) = some (entered, closing))
    (run : loggerMachine.Run KeepsQuiescent entered later atEnd)
    (returned : atEnd.step (.stoppedJoined thread) = some (next, returning)) :
    next.Quiesced ↔ NobodyJoins atEnd thread := by
  have reached : loggerMachine.Reaches Machine.anyStep (trace ++ closing ++ later) atEnd := by
    obtain ⟨start, initial, first⟩ := reached.step trivial closed
    exact ⟨start, initial, first.trans run.unguarded⟩
  have quiet : StaysQuiet thread atEnd := by
    refine run.stable ?_ (StaysQuiet.closed closed)
    intro logger next action events quiet allowed taken
    exact quiet.step allowed taken
  have invariant := LoggerInvariant.of_reaches reached
  have owned := owned_of_reaches reached
  obtain ⟨shutdown, own, here, exited, call, -, rfl⟩ :=
    stoppedJoined_known (liveStep_of_step returned)
  obtain ⟨stopped, free⟩ := quiet.seen shutdown own here
  constructor
  · intro quiesced other _ worker waits
    have bounded := owned.takenIssued other worker waits
    have member := List.getElem_mem bounded
    rw [List.getElem?_eq_getElem bounded, quiesced.finished _ member]
  · intro alone
    refine ⟨?_, (invariant.stopped stopped).2, quiet.quiescent, ?_⟩
    · -- a worker that has not exited is held by a call, and by no other than this one
      intro place member
      obtain ⟨worker, here'⟩ := List.getElem?_of_mem member
      change atEnd.workers[worker]? = some place at here'
      by_contra runs
      rcases owned.held worker ⟨place, here', runs⟩ with inSlot | ⟨other, waits⟩
      · exact nomatch inSlot.symm.trans free
      · have finished : atEnd.workers[worker]? = some .finished := by
          by_cases same : other = thread
          · subst same
            change (atEnd.calls other).joins = some worker at waits
            rw [here] at waits
            change own = some worker at waits
            rw [waits] at exited
            exact eq_of_beq exited
          · exact alone other same worker waits
        rw [here'] at finished
        exact runs (Option.some.inj finished)
    · intro action final events taken
      have closed : (atEnd.moveCall thread call).admission = .quiescent := quiet.quiescent
      exact workers_of_quiescent closed taken

/-- A message is logged, and the logger is stopped for an unload. -/
def stoppedForUnload : List LoggerAction :=
  [.dequeue 0, .deliver 0, .stop 0, .cleanupFileStream 0, .settle 0, .stopSeen 1, .workerExits 0]

/-- A worker runs, and a call is about to stop the logger. -/
def loggedOnce : List LoggerAction :=
  [.log 0 "message", .logEnters 0 .completes, .beginUnloadQuiescence 1]

theorem quiescence_real_stopped :
    ∃ entered atEnd next : AsyncLogger,
      loggerMachine.step (loggerMachine.finalState {} loggedOnce) (.quiesceEnters 1) =
          some (entered, []) ∧
        loggerMachine.Run KeepsQuiescent entered
          (loggerMachine.emitted entered stoppedForUnload) atEnd ∧
        atEnd.step (.stoppedJoined 1) = some (next, [.quiesceReturned 1 true]) ∧
        next.Quiesced := by
  have start := loggerMachine.run_finalState {} loggedOnce (Machine.along_anyStep _ _) (by decide)
  have quiet : loggerMachine.Along (fun logger action _ => KeepsQuiescent logger action)
      (loggerMachine.finalState {} (loggedOnce ++ [.quiesceEnters 1])) stoppedForUnload :=
    ⟨trivial, trivial, trivial, trivial, (fun resumes => nomatch resumes.2), trivial, trivial, trivial⟩
  have run := loggerMachine.run_finalState _ stoppedForUnload quiet (by decide)
  have closed : (loggerMachine.finalState {} loggedOnce).step (.quiesceEnters 1) =
      some (loggerMachine.finalState {} (loggedOnce ++ [.quiesceEnters 1]), []) := rfl
  have returned : (loggerMachine.finalState (loggerMachine.finalState {}
      (loggedOnce ++ [.quiesceEnters 1])) stoppedForUnload).step (.stoppedJoined 1) =
      some (_, [.quiesceReturned 1 true]) := rfl
  have real := quiescence_real ⟨{}, rfl, start⟩ closed run returned
  refine ⟨_, _, _, closed, run, returned, real.mpr ?_⟩
  intro other elsewhere worker waits
  match other with
  | 0 => cases waits
  | 1 => exact absurd rfl elsewhere
  | _ + 2 => cases waits

/-- A call that gives up waiting, another that does not. -/
def givenUp : List LoggerAction :=
  [.quiesceEnters 1, .beginUnloadQuiescence 2, .quiesceEnters 2, .stopTimesOut 2, .dequeue 0,
    .deliver 0, .stop 0, .cleanupFileStream 0, .settle 0, .workerExits 0, .stopSeen 1]

/-- Nobody calls `ResumeAfterUnloadRejected`, and `Shutdown`, which calls it. -/
def StartsNoResume (_ : AsyncLogger) : LoggerAction → Prop
  | .resumeAfterUnloadRejected _ | .shutdown _ => False
  | _ => True

/-- **`BeginUnloadQuiescence` can return true with the admission open.** -/
theorem quiesced_open : ¬∀ (trace later returning : List LoggerObservation)
    (before entered atEnd next : AsyncLogger) (thread : ℕ),
    loggerMachine.Reaches Machine.anyStep trace before →
      before.step (.beginUnloadQuiescence thread) = some (entered, []) →
        loggerMachine.Run StartsNoResume entered later atEnd →
          atEnd.step (.stoppedJoined thread) = some (next, returning) → next.Quiesced := by
  intro always
  have start := loggerMachine.run_finalState {} [.log 0 "message", .logEnters 0 .completes]
    (Machine.along_anyStep _ _) (by decide)
  have noResume : loggerMachine.Along (fun logger action _ => StartsNoResume logger action)
      (loggerMachine.finalState {} loggedOnce) givenUp :=
    ⟨trivial, trivial, trivial, trivial, trivial, trivial, trivial, trivial, trivial, trivial,
      trivial, trivial⟩
  have run := loggerMachine.run_finalState _ givenUp noResume (by decide)
  have quiesced := always _ _ _ _ _ _ _ 1 ⟨{}, rfl, start⟩ rfl run rfl
  exact nomatch quiesced.admission

end ModernSapi
