import ModernSapi.Library.Handles
import ModernSapi.Logger.AsyncLogger

/-!
# The handles of the workers

`m_worker` is a slot for the handle of the worker that was started last. Three functions take
the handle out and wait for the worker without the mutex, and `StartLocked` puts a new one in.
Every step of the logger is a few steps of that kind (`handleSteps`), so no handle is ever with
two calls, and every worker that has not exited is in `m_worker` or waited for by a call.
-/

set_option autoImplicit false

namespace ModernSapi

open Interleaving

/-- The worker that the call waits for. -/
def LoggerCall.joins : LoggerCall → Option ℕ
  | .joiningToLog _ worker => some worker
  | .joiningStopped _ worker | .joiningToResume _ worker => worker
  | _ => none

/-- The step is one of a worker. -/
def LoggerAction.ofWorker : LoggerAction → Bool
  | .dequeue _ | .deliver _ | .stop _ | .workerThrows _ | .workerFails _ | .cleanupFileStream _
  | .settle _ | .workerExits _ => true
  | _ => false

namespace AsyncLogger

/-- The worker that stops next lets the logger go on, for a call that has given up waiting. -/
def resumesItself (logger : AsyncLogger) : Prop :=
  logger.state = .drainingForUnload ∧ logger.resumeWhenStopped = true

/-- What a worker does to the logger: it moves, and opens the admission when it settles the
state for a call that has given up waiting. -/
inductive WorkerMoves (logger : AsyncLogger) (action : LoggerAction) (next : AsyncLogger) :
    Prop where
  | moved {worker : ℕ} {place after : LoggerWorker} (here : logger.workers[worker]? = some place)
      (runs : place ≠ .finished) (workers : next.workers = logger.workers.set worker after)
      (calls : next.calls = logger.calls) (handle : next.worker = logger.worker)
      (alive : next.terminated = logger.terminated)
      (admission : next.admission = logger.admission ∨
        ((∃ worker, action = .settle worker) ∧ logger.resumesItself))

section WorkerMoves

variable {logger next : AsyncLogger} {action : LoggerAction} {events : List LoggerObservation}

theorem workerMoves (taken : logger.step action = some (next, events))
    (ofWorker : action.ofWorker = true) : logger.WorkerMoves action next := by
  have live := liveStep_of_step taken
  cases action with
  | dequeue worker =>
      simp only [liveStep, dequeue] at live
      split at live
      · next here _ =>
          cases live
          exact .moved here (by simp) rfl rfl rfl rfl (.inl rfl)
      · cases live
  | deliver worker =>
      simp only [liveStep, deliver] at live
      split at live
      · next here =>
          cases live
          exact .moved here (by simp) rfl rfl rfl rfl (.inl rfl)
      · cases live
  | stop =>
      obtain ⟨⟨here, -⟩, ended⟩ := Option.ite_none_right_eq_some.mp live
      cases ended
      exact .moved here (by simp) rfl rfl rfl rfl (.inl rfl)
  | workerThrows | workerFails | cleanupFileStream | workerExits =>
      obtain ⟨here, ended⟩ := Option.ite_none_right_eq_some.mp live
      cases ended
      exact .moved here (by simp) rfl rfl rfl rfl (.inl rfl)
  | settle worker =>
      obtain ⟨here, ended⟩ := Option.ite_none_right_eq_some.mp live
      cases ended
      unfold settled
      split
      · next draining =>
          split
          · next resumes =>
              exact .moved here (by simp) rfl rfl rfl rfl (.inr ⟨⟨worker, rfl⟩, draining, resumes⟩)
          · exact .moved here (by simp) rfl rfl rfl rfl (.inl rfl)
      · exact .moved here (by simp) rfl rfl rfl rfl (.inl rfl)
  | _ => cases ofWorker

theorem WorkerMoves.terminated_eq (moves : logger.WorkerMoves action next) :
    next.terminated = logger.terminated := by
  cases moves with
  | moved _ _ _ _ _ alive _ => exact alive

theorem WorkerMoves.admission_cases (moves : logger.WorkerMoves action next) :
    next.admission = logger.admission ∨
      ((∃ worker, action = .settle worker) ∧ logger.resumesItself) := by
  cases moves with
  | moved _ _ _ _ _ _ admission => exact admission

end WorkerMoves

/-- What a section of `Log` does: the call returns, takes the handle of the stopped worker out,
or goes on to its end, with no handle left if it has not joined a worker. -/
inductive LogSection (logger : AsyncLogger) (thread : ℕ) (outcome : LogOutcome)
    (next : AsyncLogger) : Prop where
  | refused (exited : logger.joinable (logger.calls thread).joins = true)
      (same : next = logger.moveCall thread .idle)
  | handleTaken {message : String} {worker : ℕ} (accepts : logger.refusesMessages = false)
      (free : (logger.calls thread).joins = none) (inSlot : logger.worker = some worker)
      (same : next =
        { logger with worker := none }.moveCall thread (.joiningToLog message worker))
  | ended {message : String} (accepts : logger.refusesMessages = false)
      (exited : logger.joinable (logger.calls thread).joins = true)
      (noHandle : (logger.calls thread).joins = none → logger.state = .stopped →
        logger.worker = none)
      (same : next = (logger.startAndPush thread message outcome).1)

section Sections

variable {logger next : AsyncLogger} {events : List LoggerObservation} {thread : ℕ}
  {outcome : LogOutcome}

theorem logEnters_section (taken : logger.logEnters thread outcome = some (next, events)) :
    (logger.calls thread).joins = none ∧ logger.LogSection thread outcome next := by
  unfold logEnters at taken
  split at taken
  · next message here =>
      have free : (logger.calls thread).joins = none := by rw [here]; rfl
      have exited : logger.joinable (logger.calls thread).joins = true := by rw [free]; rfl
      refine ⟨free, ?_⟩
      split at taken
      · cases taken
        exact .refused exited rfl
      · next accepts =>
          rw [Bool.not_eq_true] at accepts
          split at taken
          · next worker _ inSlot =>
              cases taken
              exact .handleTaken accepts free inSlot rfl
          · next elsewhere =>
              refine .ended accepts exited ?_ (congrArg Prod.fst (Option.some.inj taken)).symm
              intro _ stopped
              apply Option.eq_none_iff_forall_ne_some.mpr
              intro worker inSlot
              exact elsewhere worker stopped inSlot
  · cases taken

theorem logJoined_section (taken : logger.logJoined thread outcome = some (next, events)) :
    (∃ message worker, logger.calls thread = .joiningToLog message worker) ∧
      logger.joinable (logger.calls thread).joins = true ∧
        logger.LogSection thread outcome next := by
  unfold logJoined at taken
  split at taken
  · next message worker here =>
      obtain ⟨joinable, ended⟩ := Option.ite_none_right_eq_some.mp taken
      have exited : logger.joinable (logger.calls thread).joins = true := by
        rw [here]
        exact joinable
      refine ⟨⟨message, worker, here⟩, exited, ?_⟩
      split at ended
      · cases ended
        exact .refused exited rfl
      · next accepts =>
          rw [Bool.not_eq_true] at accepts
          refine .ended accepts exited ?_ (congrArg Prod.fst (Option.some.inj ended)).symm
          intro free
          rw [here] at free
          cases free
  · cases taken

/-- What the call knows when it has joined. -/
theorem stoppedJoined_known (taken : logger.stoppedJoined thread = some (next, events)) :
    ∃ shutdown worker, logger.calls thread = .joiningStopped shutdown worker ∧
      logger.joinable worker = true ∧
        ∃ call : LoggerCall, call.joins = none ∧ next = logger.moveCall thread call := by
  unfold stoppedJoined at taken
  split at taken
  · next shutdown worker here =>
      obtain ⟨exited, ended⟩ := Option.ite_none_right_eq_some.mp taken
      refine ⟨shutdown, worker, here, exited, ?_⟩
      cases shutdown with
      | true =>
          cases ended
          exact ⟨_, rfl, rfl⟩
      | false =>
          cases ended
          exact ⟨_, rfl, rfl⟩
  · cases taken

end Sections

/-! ## The handles -/

/-- Who holds the handles of the workers. -/
def handles (logger : AsyncLogger) : Handles ℕ ℕ where
  slot := logger.worker
  taken thread := (logger.calls thread).joins
  running := {worker | ∃ place, logger.workers[worker]? = some place ∧ place ≠ .finished}
  issued := {worker | worker < logger.workers.length}

section HandleSteps

variable {logger next : AsyncLogger} {action : LoggerAction} {events : List LoggerObservation}
  {thread worker : ℕ} {call : LoggerCall} {place after : LoggerWorker}

theorem handles_moveCall : (logger.moveCall thread call).handles =
    { logger.handles with
      taken := Function.update logger.handles.taken thread call.joins } := by
  have taken : (fun other => (Function.update logger.calls thread call other).joins) =
      Function.update logger.handles.taken thread call.joins := by
    funext other
    by_cases same : other = thread
    · rw [same, Function.update_self, Function.update_self]
    · rw [Function.update_of_ne same, Function.update_of_ne same]
      rfl
  rw [← taken]
  rfl

/-- A worker moves on, and does not exit. -/
theorem handles_moveWorker (here : logger.workers[worker]? = some place)
    (runs : place ≠ .finished) (stays : after ≠ .finished) :
    (logger.moveWorker worker after).handles = logger.handles := by
  have running : (logger.moveWorker worker after).handles.running = logger.handles.running := by
    ext other
    change (∃ there, (logger.workers.set worker after)[other]? = some there ∧ _) ↔
      ∃ there, logger.workers[other]? = some there ∧ there ≠ .finished
    by_cases same : worker = other
    · subst same
      rw [List.getElem?_set_self (List.getElem?_eq_some_iff.mp here).choose, here]
      exact ⟨fun _ => ⟨place, rfl, runs⟩, fun _ => ⟨after, rfl, stays⟩⟩
    · rw [List.getElem?_set_ne same]
  have issued : (logger.moveWorker worker after).handles.issued = logger.handles.issued := by
    ext other
    change other < (logger.workers.set worker after).length ↔ other < logger.workers.length
    rw [List.length_set]
  rw [handles, Handles.mk.injEq]
  exact ⟨rfl, rfl, running, issued⟩

theorem handles_exits : Handles.Step logger.handles (logger.moveWorker worker .finished).handles := by
  have exited : (logger.moveWorker worker .finished).handles =
      { logger.handles with running := logger.handles.running \ {worker} } := by
    rw [handles, Handles.mk.injEq]
    refine ⟨rfl, rfl, ?_, ?_⟩
    · ext other
      change (∃ there, (logger.workers.set worker .finished)[other]? = some there ∧ _) ↔
        (∃ there, logger.workers[other]? = some there ∧ there ≠ .finished) ∧ other ≠ worker
      by_cases same : worker = other
      · subst same
        refine ⟨?_, fun both => absurd rfl both.2⟩
        rintro ⟨there, member, runs⟩
        have bounded := (List.getElem?_eq_some_iff.mp member).choose
        rw [List.length_set] at bounded
        rw [List.getElem?_set_self bounded] at member
        exact absurd (Option.some.inj member).symm runs
      · rw [List.getElem?_set_ne same]
        exact ⟨fun runs => ⟨runs, Ne.symm same⟩, And.left⟩
    · ext other
      change other < (logger.workers.set worker .finished).length ↔ other < logger.workers.length
      rw [List.length_set]
  rw [exited]
  exact .exits

/-- A worker moves on, or exits. -/
theorem WorkerMoves.handleSteps (moves : logger.WorkerMoves action next) :
    Relation.ReflTransGen Handles.Step logger.handles next.handles := by
  obtain @⟨worker, _, after, here, runs, workers, calls, handle, -, -⟩ := moves
  have moved : next.handles = (logger.moveWorker worker after).handles := by
    rw [handles, handles, workers, calls, handle]
    rfl
  rw [moved]
  by_cases exits : after = .finished
  · rw [exits]
    exact .single handles_exits
  · rw [handles_moveWorker here runs exits]

/-- A call goes on that waits for nobody, or for a worker that has exited. -/
theorem handles_leaves (ended : logger.joinable (logger.calls thread).joins = true)
    (nothing : call.joins = none) :
    Handles.Step logger.handles (logger.moveCall thread call).handles := by
  rw [handles_moveCall, nothing]
  refine .joins fun worker waits => ?_
  change (logger.calls thread).joins = some worker at waits
  rw [waits] at ended
  rintro ⟨place, here, runs⟩
  rw [joinable, here] at ended
  exact runs (Option.some.inj (eq_of_beq ended))

/-- A call takes the handle out of `m_worker`. -/
theorem handles_takes (free : (logger.calls thread).joins = none)
    (waits : call.joins = logger.worker) :
    Handles.Step logger.handles ({ logger with worker := none }.moveCall thread call).handles := by
  rw [handles_moveCall, waits]
  exact .takes free

/-- `StartLocked` puts a new handle in. -/
theorem handles_puts (free : logger.worker = none) :
    Handles.Step logger.handles logger.started.handles := by
  have started : logger.started.handles =
      { logger.handles with
        slot := some logger.workers.length
        running := insert logger.workers.length logger.handles.running
        issued := insert logger.workers.length logger.handles.issued } := by
    rw [handles, Handles.mk.injEq]
    refine ⟨rfl, rfl, ?_, ?_⟩
    · ext other
      change (∃ there, (logger.workers ++ [LoggerWorker.waiting])[other]? = some there ∧ _) ↔
        other = logger.workers.length ∨
          ∃ there, logger.workers[other]? = some there ∧ there ≠ .finished
      rcases Nat.lt_trichotomy other logger.workers.length with earlier | rfl | later
      · rw [List.getElem?_append_left earlier]
        exact ⟨.inr, fun runs => runs.resolve_left (Nat.ne_of_lt earlier)⟩
      · rw [List.getElem?_concat_length]
        exact ⟨fun _ => .inl rfl, fun _ => ⟨LoggerWorker.waiting, rfl, nofun⟩⟩
      · rw [List.getElem?_eq_none (by simp; omega), List.getElem?_eq_none (by omega)]
        simp
        omega
    · ext other
      change other < (logger.workers ++ [LoggerWorker.waiting]).length ↔
        other = logger.workers.length ∨ other < logger.workers.length
      rw [List.length_append, List.length_singleton]
      omega
  rw [started]
  exact .puts (Nat.lt_irrefl _) free

/-- The end of a call of `Log` that waits for nobody any more. -/
theorem startAndPush_handles (ended : logger.joinable (logger.calls thread).joins = true)
    (message : String) (outcome : LogOutcome) :
    Relation.ReflTransGen Handles.Step logger.handles
      (logger.startAndPush thread message outcome).1.handles := by
  have left : Handles.Step logger.handles (logger.moveCall thread .idle).handles :=
    handles_leaves ended rfl
  have pushed (pusher : AsyncLogger)
      (same : (pusher.moveCall thread .idle).handles = (logger.moveCall thread .idle).handles ∨
        Handles.Step (logger.moveCall thread .idle).handles (pusher.moveCall thread .idle).handles) :
      Relation.ReflTransGen Handles.Step logger.handles
        (pusher.push thread message outcome).1.handles := by
    have ends : (pusher.push thread message outcome).1.handles =
        (pusher.moveCall thread .idle).handles := by
      unfold push
      split <;> rfl
    rw [ends]
    rcases same with same | stepped
    · rw [same]
      exact .single left
    · exact .tail (.single left) stepped
  unfold startAndPush
  split
  · cases outcome with
    | fileFails | threadFails => exact .single left
    | completes | pushThrows =>
        simp only [startLocked]
        split
        · exact .single left
        · next free =>
            rw [Bool.not_eq_true, Option.isSome_eq_false_iff, Option.isNone_iff_eq_none] at free
            exact pushed logger.started (.inr (handles_puts free))
  · exact pushed logger (.inl rfl)

theorem LogSection.handleSteps {outcome : LogOutcome}
    (ends : logger.LogSection thread outcome next) :
    Relation.ReflTransGen Handles.Step logger.handles next.handles := by
  cases ends with
  | refused exited same =>
      rw [same]
      exact .single (handles_leaves exited rfl)
  | handleTaken _ free inSlot same =>
      rw [same]
      exact .single (handles_takes free inSlot.symm)
  | @ended message _ exited _ same =>
      rw [same]
      exact startAndPush_handles exited message outcome

theorem stoppedJoined_handles (taken : logger.stoppedJoined thread = some (next, events)) :
    Handles.Step logger.handles next.handles := by
  obtain ⟨shutdown, worker, here, exited, call, nothing, rfl⟩ := stoppedJoined_known taken
  refine handles_leaves ?_ nothing
  rw [here]
  exact exited

theorem resumeJoined_handles (taken : logger.resumeJoined thread = some (next, events)) :
    Handles.Step logger.handles next.handles := by
  unfold resumeJoined at taken
  split at taken
  · next shutdown worker here =>
      obtain ⟨exited, ended⟩ := Option.ite_none_right_eq_some.mp taken
      have joinable : logger.joinable (logger.calls thread).joins = true := by
        rw [here]
        exact exited
      cases ended
      exact handles_leaves joinable rfl
  · cases taken

/-- A call that waits for nobody goes on to a place where it waits for nobody. -/
theorem handles_moves (free : (logger.calls thread).joins = none) (nothing : call.joins = none) :
    Handles.Step logger.handles (logger.moveCall thread call).handles := by
  refine handles_leaves ?_ nothing
  rw [free]
  rfl

/-- **Every step of the logger is a few steps of the handles.** -/
theorem handleSteps (taken : logger.step action = some (next, events)) :
    Relation.ReflTransGen Handles.Step logger.handles next.handles := by
  have live := liveStep_of_step taken
  have spec := loggerStep_spec taken
  cases action with
  | logEnters => exact (logEnters_section live).2.handleSteps
  | logJoined => exact (logJoined_section live).2.2.handleSteps
  | stoppedJoined => exact .single (stoppedJoined_handles live)
  | resumeJoined => exact .single (resumeJoined_handles live)
  | log | beginUnloadQuiescence | shutdown | resumeAfterUnloadRejected =>
      obtain ⟨idle, ended⟩ := Option.ite_none_right_eq_some.mp live
      cases ended
      exact .single (handles_moves (by rw [idle]; rfl) rfl)
  | logThrows thread =>
      simp only [liveStep] at live
      split at live
      · next here =>
          cases live
          exact .single (handles_moves (by rw [here]; rfl) rfl)
      · cases live
  | quiesceEnters =>
      cases spec with
      | background isBackground => cases isBackground
      | called _ enters => simp at enters
      | stopAsked here | stopAwaited here | alreadyFailed here =>
          exact .single (handles_moves (by rw [here]; rfl) rfl)
      | alreadyStopped here => exact .single (handles_takes (by rw [here]; rfl) rfl)
  | stopSeen =>
      cases spec with
      | background isBackground => cases isBackground
      | called _ enters => simp at enters
      | stopSeen here => exact .single (handles_takes (by rw [here]; rfl) rfl)
      | failureSeen here => exact .single (handles_moves (by rw [here]; rfl) rfl)
  | stopTimesOut =>
      cases spec with
      | background isBackground => cases isBackground
      | called _ enters => simp at enters
      | timedOut here => exact .single (handles_moves (by rw [here]; rfl) rfl)
  | resumeEnters =>
      cases spec with
      | background isBackground => cases isBackground
      | called _ enters => simp at enters
      | resumeIgnored here => exact .single (handles_moves (by rw [here]; rfl) rfl)
      | resumeTaken here => exact .single (handles_takes (by rw [here]; rfl) rfl)
  | dequeue | deliver | stop | workerThrows | workerFails | cleanupFileStream | settle
  | workerExits => exact (workerMoves taken rfl).handleSteps

end HandleSteps

/-! ## Runs -/

section Runs

variable {start logger later : AsyncLogger} {guard other : AsyncLogger → LoggerAction → Prop}
  {trace events : List LoggerObservation}

theorem handles_initial : ({} : AsyncLogger).handles.Owned where
  slotIssued := nofun
  slotAlone := nofun
  takenIssued := nofun
  takenAlone := nofun
  held := by
    rintro worker ⟨place, here, -⟩
    cases here

/-- A run of the logger is one of the handles. -/
theorem handles_run (run : loggerMachine.Run guard start trace logger) :
    Relation.ReflTransGen Handles.Step start.handles logger.handles := by
  induction run with
  | refl => exact .refl
  | step _ _ taken ih => exact ih.trans (handleSteps taken)

theorem owned_of_reaches (reached : loggerMachine.Reaches guard trace logger) :
    logger.handles.Owned := by
  obtain ⟨_, rfl, run⟩ := reached
  exact handles_initial.steps (handles_run run)

/-- **A worker is joined by one call only**, whatever the calls do. -/
theorem joined_once {first second worker : ℕ} (reached : loggerMachine.Reaches guard trace logger)
    (joins : (logger.calls first).joins = some worker)
    (run : loggerMachine.Run other logger events later)
    (again : (later.calls second).joins = some worker) : second = first := by
  have sole := (owned_of_reaches reached).sole joins
  exact (sole.steps (handles_run run)).alone second again

end Runs

end AsyncLogger

end ModernSapi
