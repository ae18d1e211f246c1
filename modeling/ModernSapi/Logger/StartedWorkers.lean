import ModernSapi.Logger.Quiescence

/-!
# The handle a new worker is put in

`Log` moves the handle of a stopped worker out of `m_worker` and joins it without the mutex.
What it does afterwards rests on a check made before: when the logger is still stopped it
starts a worker, and `m_worker` must be empty for that. Meanwhile another call may have started
a worker, and that worker may have been stopped again. An admission that is closed then keeps
`Log` from starting another one, but it opens as `Quiescence` says, and assigning to a handle
that is still joinable terminates the process (`handle_overwritten`).

`handles_safe` says that nothing else goes wrong: as long as no such step is taken while a call
of `Log` joins, `StartLocked` finds the handle empty. No worker is ever joined by two calls.
-/

set_option autoImplicit false

namespace ModernSapi

open Interleaving AsyncLogger

/-- The call has taken the handle of a stopped worker, to start another one. -/
def LoggerCall.joinsToLog : LoggerCall → Bool
  | .joiningToLog .. => true
  | _ => false

namespace AsyncLogger

/-- The step runs `StartLocked`. -/
def runsStartLocked (logger : AsyncLogger) : LoggerAction → Bool
  | .logEnters thread _ =>
      match logger.calls thread with
      | .logging _ =>
          !logger.refusesMessages && logger.state == .stopped && logger.worker.isNone
      | _ => false
  | .logJoined thread _ =>
      match logger.calls thread with
      | .joiningToLog _ worker =>
          logger.joinable (some worker) && !logger.refusesMessages && logger.state == .stopped
      | _ => false
  | _ => false

/-- No call of `Log` joins a worker. -/
def NoLogJoins (logger : AsyncLogger) : Prop :=
  ∀ thread, (logger.calls thread).joinsToLog = false

/-- The worker whose handle is in `m_worker` has stopped, or is to stop. -/
def LeavesHandle (logger : AsyncLogger) : Prop :=
  (logger.state = .stopped ∨ logger.state = .drainingForUnload) ∧ logger.worker ≠ none

end AsyncLogger

/-- The admission does not open on a handle that is left while a call of `Log` joins another
one. -/
def KeepsHandle (logger : AsyncLogger) : LoggerAction → Prop
  | .settle _ => logger.resumesItself → logger.NoLogJoins
  | .resumeJoined _ => logger.LeavesHandle → logger.NoLogJoins
  | _ => True

/-- While a call of `Log` joins, a handle that is left waits behind a closed admission. -/
def HandleGuarded (logger : AsyncLogger) : Prop :=
  ∀ thread, (logger.calls thread).joinsToLog = true → logger.LeavesHandle →
    logger.admission = .quiescent

section Steps

variable {logger next : AsyncLogger} {action : LoggerAction} {events : List LoggerObservation}
  {thread : ℕ}

/-- A call that comes to join has taken the handle. -/
theorem joinsToLog_before (taken : logger.LoggerStep action next events)
    (joins : (next.calls thread).joinsToLog = true) :
    (logger.calls thread).joinsToLog = true ∨ next.worker = none := by
  have stays {mover : ℕ} {call : LoggerCall} (elsewhere : call.joinsToLog = false)
      (joins : (Function.update logger.calls mover call thread).joinsToLog = true) :
      (logger.calls thread).joinsToLog = true := by
    by_cases same : thread = mover
    · rw [same, Function.update_self, elsewhere] at joins
      cases joins
    · rwa [Function.update_of_ne same] at joins
  cases taken with
  | background _ taken =>
      cases taken with
      | handleTaken => exact .inr rfl
      | logCalled | logReturned => exact .inl (stays rfl joins)
      | logEnded _ _ ends => cases ends <;> exact .inl (stays rfl joins)
      | _ => exact .inl joins
  | called _ enters =>
      refine .inl (stays ?_ joins)
      rcases enters with ⟨-, rfl⟩ | ⟨-, rfl⟩ | ⟨-, rfl⟩ <;> rfl
  | _ => exact .inl (stays rfl joins)

/-- A handle is left by a worker that was asked to stop behind a closed admission, or it was
left before. -/
theorem leavesHandle_before (taken : logger.LoggerStep action next events)
    (leaves : next.LeavesHandle) : next.admission = .quiescent ∨ logger.LeavesHandle := by
  cases taken with
  | background _ taken =>
      right
      cases taken with
      | handleTaken => exact absurd rfl leaves.2
      | logEnded _ _ ends =>
          cases ends with
          | started | startedAndPushed => exact leaves.1.elim nofun nofun
          | _ => exact leaves
      | settledStopped _ draining | settledResumed _ draining =>
          exact ⟨.inr draining, leaves.2⟩
      | workerFailed =>
          obtain ⟨ends, left⟩ := leaves
          change logger.state.afterException = .stopped ∨
            logger.state.afterException = .drainingForUnload at ends
          rcases logger.state.afterException_cases with failed | same
          · rw [failed] at ends
            exact ends.elim nofun nofun
          · rw [same] at ends
            exact ⟨ends, left⟩
      | _ => exact leaves
  | stopAsked => exact .inl rfl
  | alreadyStopped | stopSeen | resumeTaken => exact absurd rfl leaves.2
  | _ => exact .inr leaves

/-- **No step leaves a handle open to a call that joins.** -/
theorem HandleGuarded.step (guarded : HandleGuarded logger) (allowed : KeepsHandle logger action)
    (taken : logger.step action = some (next, events)) : HandleGuarded next := by
  intro thread joins leaves
  have spec := loggerStep_spec taken
  have joined := (joinsToLog_before spec joins).resolve_right leaves.2
  rcases leavesHandle_before spec leaves with closed | left
  · exact closed
  · have closed := guarded thread joined left
    refine (admission_opens closed taken).resolve_right fun opens => ?_
    have nobody : logger.NoLogJoins := by
      cases action with
      | settle => exact allowed (not_not.mp opens)
      | resumeJoined => exact allowed left
      | _ => exact absurd trivial opens
    rw [nobody thread] at joined
    cases joined

/-- The process is terminated by assigning a worker to a joinable handle. -/
theorem startAndPush_terminates {message : String} {outcome : LogOutcome}
    (alive : logger.terminated = false)
    (terminates : (logger.startAndPush thread message outcome).1.terminated = true) :
    logger.state = .stopped ∧ logger.worker ≠ none := by
  have pushed (pusher : AsyncLogger) (alive : pusher.terminated = false) :
      (pusher.push thread message outcome).1.terminated = false := by
    unfold push
    split
    · exact alive
    · exact alive
  unfold startAndPush at terminates
  split at terminates
  · next stopped =>
      refine ⟨stopped, fun free => ?_⟩
      cases outcome with
      | fileFails | threadFails => exact nomatch alive.symm.trans terminates
      | completes | pushThrows =>
          simp only [startLocked, free] at terminates
          exact nomatch (pushed logger.started alive).symm.trans terminates
  · exact nomatch (pushed logger alive).symm.trans terminates

/-- **Only `StartLocked` with a joinable handle terminates the process.** -/
theorem terminates_by_start (taken : logger.step action = some (next, events))
    (terminates : next.terminated = true) :
    logger.runsStartLocked action = true ∧ logger.worker ≠ none := by
  have alive : logger.terminated = false := by
    unfold AsyncLogger.step at taken
    split at taken
    · cases taken
    · next alive => exact Bool.eq_false_iff.mpr alive
  have stays (same : next.terminated = logger.terminated) :
      logger.runsStartLocked action = true ∧ logger.worker ≠ none :=
    nomatch (alive.symm.trans same.symm).trans terminates
  have spec := loggerStep_spec taken
  have live := liveStep_of_step taken
  cases action with
  | logEnters thread outcome =>
      obtain ⟨free, ends⟩ := logEnters_section live
      cases ends with
      | refused _ same | handleTaken _ _ _ same => exact stays (by rw [same]; rfl)
      | ended _ _ noHandle same =>
          rw [same] at terminates
          obtain ⟨stopped, joinable⟩ := startAndPush_terminates alive terminates
          exact absurd (noHandle free stopped) joinable
  | logJoined thread outcome =>
      obtain ⟨⟨message, worker, here⟩, exited, ends⟩ := logJoined_section live
      cases ends with
      | refused _ same | handleTaken _ _ _ same => exact stays (by rw [same]; rfl)
      | ended accepts _ _ same =>
          rw [same] at terminates
          obtain ⟨stopped, joinable⟩ := startAndPush_terminates alive terminates
          rw [here] at exited
          change logger.joinable (some worker) = true at exited
          refine ⟨?_, joinable⟩
          simp [runsStartLocked, here, exited, accepts, stopped]
  | log | beginUnloadQuiescence | shutdown | resumeAfterUnloadRejected =>
      obtain ⟨-, ended⟩ := Option.ite_none_right_eq_some.mp live
      cases ended
      exact stays rfl
  | logThrows thread =>
      simp only [liveStep] at live
      split at live
      · cases live
        exact stays rfl
      · cases live
  | dequeue | deliver | stop | workerThrows | workerFails | cleanupFileStream | settle
  | workerExits => exact stays (workerMoves taken rfl).terminated_eq
  | quiesceEnters | stopSeen | stopTimesOut | stoppedJoined | resumeEnters | resumeJoined =>
      cases spec with
      | background isBackground => cases isBackground
      | _ => exact stays rfl

end Steps

/-! ## The result -/

/-- The process is not terminated, no step runs `StartLocked` with a joinable handle, and the
worker that a call joins is joined by no other call, now or later. -/
structure HandlesSafe (logger : AsyncLogger) : Prop where
  alive : logger.terminated = false
  starts : ∀ action, logger.runsStartLocked action = true → logger.worker = none
  joinedOnce : ∀ {first second worker : ℕ} {later : AsyncLogger} {trace : List LoggerObservation},
    (logger.calls first).joins = some worker →
      loggerMachine.Run Machine.anyStep logger trace later →
        (later.calls second).joins = some worker → second = first

theorem HandleGuarded.starts {logger : AsyncLogger} {action : LoggerAction}
    (guarded : HandleGuarded logger) (runs : logger.runsStartLocked action = true) :
    logger.worker = none := by
  cases action with
  | logEnters thread outcome =>
      simp only [runsStartLocked] at runs
      split at runs
      · rw [Bool.and_eq_true, Option.isNone_iff_eq_none] at runs
        exact runs.2
      · cases runs
  | logJoined thread outcome =>
      simp only [runsStartLocked] at runs
      split at runs
      · next message worker here =>
          rw [Bool.and_eq_true, Bool.and_eq_true] at runs
          obtain ⟨⟨-, accepts⟩, stopped⟩ := runs
          by_contra joinable
          have closed := guarded thread (by rw [here]; rfl) ⟨.inl (eq_of_beq stopped), joinable⟩
          rw [refusesMessages_of_quiescent closed] at accepts
          cases accepts
      · cases runs
  | _ => cases runs

/-- **No worker is put in a joinable handle, and none is joined by two calls**, in every run in
which the admission opens on no handle that a call of `Log` leaves behind. -/
theorem handles_safe {trace : List LoggerObservation} {logger : AsyncLogger}
    (reached : loggerMachine.Reaches KeepsHandle trace logger) : HandlesSafe logger := by
  have kept : HandleGuarded logger ∧ logger.terminated = false := by
    refine reached.induct (motive := fun _ logger =>
      HandleGuarded logger ∧ logger.terminated = false) ?_ ?_
    · rintro _ rfl
      exact ⟨nofun, rfl⟩
    · intro trace events logger next action _ kept allowed taken
      refine ⟨kept.1.step allowed taken, ?_⟩
      by_contra terminates
      obtain ⟨runs, joinable⟩ := terminates_by_start taken ((Bool.not_eq_false _).mp terminates)
      exact joinable (kept.1.starts runs)
  refine ⟨kept.2, fun action runs => kept.1.starts runs, ?_⟩
  intro first second worker later trace joins run again
  exact joined_once reached joins run again

/-- A worker is stopped for a call that has given up waiting, a call of `Log` takes its handle,
and another one starts a worker meanwhile. -/
def startedMeanwhile : List LoggerAction :=
  [.log 1 "first", .logEnters 1 .completes, .beginUnloadQuiescence 3, .quiesceEnters 3,
    .stopTimesOut 3, .dequeue 0, .deliver 0, .stop 0, .cleanupFileStream 0, .settle 0,
    .log 1 "second", .logEnters 1 .completes, .log 2 "third", .logEnters 2 .completes]

theorem handles_safe_joined :
    HandlesSafe (loggerMachine.finalState {} (startedMeanwhile ++
      [.workerExits 0, .logJoined 1 .completes])) := by
  have kept : loggerMachine.Along (fun logger action _ => KeepsHandle logger action) {}
      (startedMeanwhile ++ [.workerExits 0, .logJoined 1 .completes]) := by
    refine ⟨trivial, trivial, trivial, trivial, trivial, trivial, trivial, trivial, trivial,
      fun _ thread => ?_, trivial, trivial, trivial, trivial, trivial, trivial, trivial⟩
    match thread with
    | 0 | 1 | 2 | 3 => rfl
    | _ + 4 => rfl
  have run := loggerMachine.run_finalState {} _ kept (by decide)
  exact handles_safe ⟨{}, rfl, run⟩

/-- The second worker is stopped as the first one was, before its handle is joined. -/
def stoppedMeanwhile : List LoggerAction :=
  startedMeanwhile ++ [.beginUnloadQuiescence 3, .quiesceEnters 3, .stopTimesOut 3, .dequeue 1,
    .deliver 1, .stop 1, .cleanupFileStream 1, .settle 1, .workerExits 0]

/-- **`Log` can start a worker while `m_worker` is joinable**, which terminates the process. -/
theorem handle_overwritten : ¬∀ (trace : List LoggerObservation) (logger : AsyncLogger),
    loggerMachine.Reaches Machine.anyStep trace logger → HandlesSafe logger := by
  intro always
  have run := loggerMachine.run_finalState {} stoppedMeanwhile (Machine.along_anyStep _ _)
    (by decide)
  have safe := always _ _ ⟨{}, rfl, run⟩
  have free := safe.starts (.logJoined 1 .completes) (by decide)
  revert free
  decide

end ModernSapi
