import ModernSapi.Library.Machine

/-!
# The asynchronous logger

`Log` pushes a message on a queue and starts a worker thread when there is none. The worker
delivers the messages to a file until it is asked to stop, and one worker follows another
each time the logger is stopped for an unload and goes on afterwards. Any number of threads
call the functions of the logger; the steps are their sections under the mutex, and those of
the workers.

A worker is named by its place in the list of those that were started. A call that has moved
the handle of a worker out of `m_worker` waits until that worker has finished. Assigning a
new thread to a handle that is still joinable terminates the process.
-/

set_option autoImplicit false

namespace ModernSapi

open Interleaving

inductive LoggerState where
  | stopped
  | running
  | drainingForUnload
  | stopFailed
  deriving DecidableEq, Repr

/-- The state after an exception in the loop of the worker. -/
def LoggerState.afterException : LoggerState → LoggerState
  | .running | .drainingForUnload => .stopFailed
  | state => state

theorem LoggerState.afterException_cases (state : LoggerState) :
    state.afterException = .stopFailed ∨ state.afterException = state := by
  cases state with
  | running | drainingForUnload => exact .inl rfl
  | stopped | stopFailed => exact .inr rfl

theorem LoggerState.afterException_ne_running (state : LoggerState) :
    state.afterException ≠ .running := by
  intro running
  cases state <;> cases running

inductive LoggerAdmission where
  | open_
  | quiescent
  deriving DecidableEq, Repr

/-- Where a worker thread stands: in its loop, behind an exception, or behind the loop with
the file still to be closed and the state to be settled. A worker that is leaving has only
the callers to wake. -/
inductive LoggerWorker where
  | waiting
  | delivering (message : String)
  | failing
  | exiting
  | settling
  | leaving
  | finished
  deriving DecidableEq, Repr

/-- The worker has settled the state of the logger. -/
def LoggerWorker.ended : LoggerWorker → Bool
  | .leaving | .finished => true
  | _ => false

/-- Where a caller stands. `Shutdown` goes through the other two functions. -/
inductive LoggerCall where
  | idle
  | logging (message : String)
  | joiningToLog (message : String) (worker : ℕ)
  | quiescing (shutdown : Bool)
  | awaitingStop (shutdown : Bool)
  | joiningStopped (shutdown : Bool) (worker : Option ℕ)
  | resuming (shutdown : Bool)
  | joiningToResume (shutdown : Bool) (worker : Option ℕ)
  deriving DecidableEq, Repr

/-- The call is one of `Log`, in its sections. -/
def LoggerCall.isLog : LoggerCall → Bool
  | .logging _ | .joiningToLog .. => true
  | _ => false

structure AsyncLogger where
  queue : List String := []
  state : LoggerState := .stopped
  admission : LoggerAdmission := .open_
  stopRequested : Bool := false
  resumeWhenStopped : Bool := false
  worker : Option ℕ := none
  fileOpen : Bool := false
  workers : List LoggerWorker := []
  calls : ℕ → LoggerCall := fun _ => .idle
  terminated : Bool := false

/-- What is seen of the logger. -/
inductive LoggerObservation where
  | pushed (message : String)
  | delivered (message : String)
  | quiesceReturned (thread : ℕ) (quiesced : Bool)
  | resumeReturned (thread : ℕ)
  | shutdownReturned (thread : ℕ) (stopped : Bool)
  deriving DecidableEq, Repr

/-- What may go wrong in a call of `Log`. -/
inductive LogOutcome where
  | completes
  | fileFails
  | threadFails
  | pushThrows
  deriving DecidableEq, Repr

inductive LoggerAction where
  | log (thread : ℕ) (message : String)
  | logThrows (thread : ℕ)
  | logEnters (thread : ℕ) (outcome : LogOutcome)
  | logJoined (thread : ℕ) (outcome : LogOutcome)
  | beginUnloadQuiescence (thread : ℕ)
  | shutdown (thread : ℕ)
  | resumeAfterUnloadRejected (thread : ℕ)
  | quiesceEnters (thread : ℕ)
  | stopSeen (thread : ℕ)
  | stopTimesOut (thread : ℕ)
  | stoppedJoined (thread : ℕ)
  | resumeEnters (thread : ℕ)
  | resumeJoined (thread : ℕ)
  | dequeue (worker : ℕ)
  | deliver (worker : ℕ)
  | stop (worker : ℕ)
  | workerThrows (worker : ℕ)
  | workerFails (worker : ℕ)
  | cleanupFileStream (worker : ℕ)
  | settle (worker : ℕ)
  | workerExits (worker : ℕ)
  deriving DecidableEq, Repr

/-- The step is one of a call of `Log`, or of a worker. -/
def LoggerAction.isBackground : LoggerAction → Bool
  | .log .. | .logThrows _ | .logEnters .. | .logJoined .. | .dequeue _ | .deliver _ | .stop _
  | .workerThrows _ | .workerFails _ | .cleanupFileStream _ | .settle _ | .workerExits _ => true
  | _ => false

namespace AsyncLogger

def moveCall (logger : AsyncLogger) (thread : ℕ) (call : LoggerCall) : AsyncLogger :=
  { logger with calls := Function.update logger.calls thread call }

def moveWorker (logger : AsyncLogger) (worker : ℕ) (place : LoggerWorker) : AsyncLogger :=
  { logger with workers := logger.workers.set worker place }

/-- The worker behind a handle has finished, or the handle is empty. -/
def joinable (logger : AsyncLogger) (worker : Option ℕ) : Bool :=
  match worker with
  | some worker => logger.workers[worker]? == some .finished
  | none => true

/-! ## `Log` -/

/-- The file is open and a new worker runs. -/
def started (logger : AsyncLogger) : AsyncLogger :=
  { logger with
    fileOpen := true, stopRequested := false, state := .running
    worker := some logger.workers.length, workers := logger.workers ++ [.waiting] }

/-- The logger after `StartLocked`, and whether a worker was started. -/
def startLocked (logger : AsyncLogger) (outcome : LogOutcome) : AsyncLogger × Bool :=
  match outcome with
  | .fileFails => ({ logger with fileOpen := false }, false)
  | .threadFails => ({ logger with fileOpen := false, stopRequested := false }, false)
  | .completes | .pushThrows =>
      if logger.worker.isSome then ({ logger with terminated := true }, false)
      else (logger.started, true)

/-- The message is pushed on a running logger. -/
def push (logger : AsyncLogger) (thread : ℕ) (message : String) (outcome : LogOutcome) :
    AsyncLogger × List LoggerObservation :=
  if logger.state ≠ .running ∨ outcome = .pushThrows then (logger.moveCall thread .idle, [])
  else ({ logger with queue := logger.queue ++ [message] }.moveCall thread .idle, [.pushed message])

/-- The end of `Log`, under the mutex. -/
def startAndPush (logger : AsyncLogger) (thread : ℕ) (message : String) (outcome : LogOutcome) :
    AsyncLogger × List LoggerObservation :=
  if logger.state = .stopped then
    let started := logger.startLocked outcome
    if started.2 then started.1.push thread message outcome
    else (started.1.moveCall thread .idle, [])
  else logger.push thread message outcome

def refusesMessages (logger : AsyncLogger) : Bool :=
  logger.admission != .open_ || logger.state == .stopFailed

/-- The first section of `Log`. -/
def logEnters (logger : AsyncLogger) (thread : ℕ) (outcome : LogOutcome) :
    Option (AsyncLogger × List LoggerObservation) :=
  match logger.calls thread with
  | .logging message =>
      if logger.refusesMessages then some (logger.moveCall thread .idle, [])
      else
        match logger.state, logger.worker with
        | .stopped, some worker =>
            some ({ logger with worker := none }.moveCall thread (.joiningToLog message worker), [])
        | _, _ => some (logger.startAndPush thread message outcome)
  | _ => none

/-- The section after the join, when there is one. -/
def logJoined (logger : AsyncLogger) (thread : ℕ) (outcome : LogOutcome) :
    Option (AsyncLogger × List LoggerObservation) :=
  match logger.calls thread with
  | .joiningToLog message worker =>
      if logger.joinable (some worker) then
        if logger.refusesMessages then some (logger.moveCall thread .idle, [])
        else some (logger.startAndPush thread message outcome)
      else none
  | _ => none

/-! ## Stopping and going on -/

/-- What a call of `BeginUnloadQuiescence` shows that returns without the logger being
stopped. -/
def notQuiesced (thread : ℕ) (shutdown : Bool) : List LoggerObservation :=
  [if shutdown then .shutdownReturned thread false else .quiesceReturned thread false]

/-- The handle of the stopped worker is moved out. -/
def takeStopped (logger : AsyncLogger) (thread : ℕ) (shutdown : Bool) : AsyncLogger :=
  { logger with worker := none }.moveCall thread (.joiningStopped shutdown logger.worker)

/-- The first section of `BeginUnloadQuiescence`. -/
def quiesceEnters (logger : AsyncLogger) (thread : ℕ) :
    Option (AsyncLogger × List LoggerObservation) :=
  match logger.calls thread with
  | .quiescing shutdown =>
      let quiescent := { logger with admission := .quiescent, resumeWhenStopped := false }
      some (match logger.state with
        | .stopFailed => (quiescent.moveCall thread .idle, notQuiesced thread shutdown)
        | .running =>
            ({ quiescent with state := .drainingForUnload, stopRequested := true }.moveCall thread
              (.awaitingStop shutdown), [])
        | .drainingForUnload => (quiescent.moveCall thread (.awaitingStop shutdown), [])
        | .stopped => (quiescent.takeStopped thread shutdown, []))
  | _ => none

/-- The wait ends with the logger stopped, or failed. -/
def stopSeen (logger : AsyncLogger) (thread : ℕ) :
    Option (AsyncLogger × List LoggerObservation) :=
  match logger.calls thread with
  | .awaitingStop shutdown =>
      match logger.state with
      | .stopped => some (logger.takeStopped thread shutdown, [])
      | .stopFailed => some (logger.moveCall thread .idle, notQuiesced thread shutdown)
      | _ => none
  | _ => none

/-- The wait times out, and the logger is to go on when it stops. -/
def stopTimesOut (logger : AsyncLogger) (thread : ℕ) :
    Option (AsyncLogger × List LoggerObservation) :=
  match logger.calls thread with
  | .awaitingStop shutdown =>
      if logger.state = .stopped ∨ logger.state = .stopFailed then none
      else some ({ logger with resumeWhenStopped := true }.moveCall thread .idle,
        notQuiesced thread shutdown)
  | _ => none

def stoppedJoined (logger : AsyncLogger) (thread : ℕ) :
    Option (AsyncLogger × List LoggerObservation) :=
  match logger.calls thread with
  | .joiningStopped shutdown worker =>
      if logger.joinable worker then
        some (if shutdown then (logger.moveCall thread (.resuming true), [])
          else (logger.moveCall thread .idle, [.quiesceReturned thread true]))
      else none
  | _ => none

/-- What the end of `ResumeAfterUnloadRejected` shows. -/
def resumed (thread : ℕ) (shutdown : Bool) : List LoggerObservation :=
  [if shutdown then .shutdownReturned thread true else .resumeReturned thread]

/-- The first section of `ResumeAfterUnloadRejected`. -/
def resumeEnters (logger : AsyncLogger) (thread : ℕ) :
    Option (AsyncLogger × List LoggerObservation) :=
  match logger.calls thread with
  | .resuming shutdown =>
      some (if logger.state ≠ .stopped then (logger.moveCall thread .idle, resumed thread shutdown)
        else
          ({ logger with worker := none }.moveCall thread
            (.joiningToResume shutdown logger.worker), []))
  | _ => none

/-- The second section, which does not look at the state again. -/
def resumeJoined (logger : AsyncLogger) (thread : ℕ) :
    Option (AsyncLogger × List LoggerObservation) :=
  match logger.calls thread with
  | .joiningToResume shutdown worker =>
      if logger.joinable worker then
        some ({ logger with
          stopRequested := false, resumeWhenStopped := false, admission := .open_ }.moveCall thread
            .idle, resumed thread shutdown)
      else none
  | _ => none

/-! ## The worker -/

/-- The locked section of the loop with a message in the queue. -/
def dequeue (logger : AsyncLogger) (worker : ℕ) :
    Option (AsyncLogger × List LoggerObservation) :=
  match logger.workers[worker]?, logger.queue with
  | some .waiting, message :: queue =>
      some ({ logger with queue }.moveWorker worker (.delivering message), [])
  | _, _ => none

def deliver (logger : AsyncLogger) (worker : ℕ) :
    Option (AsyncLogger × List LoggerObservation) :=
  match logger.workers[worker]? with
  | some (.delivering message) =>
      some (logger.moveWorker worker .waiting, if logger.fileOpen then [.delivered message] else [])
  | _ => none

/-- The locked section of the loop that leaves it. -/
def stop (logger : AsyncLogger) (worker : ℕ) : Option (AsyncLogger × List LoggerObservation) :=
  if logger.workers[worker]? = some .waiting ∧ logger.queue = [] ∧ logger.stopRequested = true then
    some (logger.moveWorker worker .exiting, [])
  else none

/-- The handler of an exception in the loop. -/
def workerFails (logger : AsyncLogger) (worker : ℕ) :
    Option (AsyncLogger × List LoggerObservation) :=
  if logger.workers[worker]? = some .failing then
    some ({ logger with state := logger.state.afterException }.moveWorker worker .exiting, [])
  else none

/-- What the last section of a worker makes of the state. -/
def settled (logger : AsyncLogger) : AsyncLogger :=
  if logger.state = .drainingForUnload then
    if logger.resumeWhenStopped then
      { logger with
        state := .stopped, resumeWhenStopped := false, stopRequested := false
        admission := .open_ }
    else { logger with state := .stopped }
  else logger

def settle (logger : AsyncLogger) (worker : ℕ) : Option (AsyncLogger × List LoggerObservation) :=
  if logger.workers[worker]? = some .settling then
    some ((logger.moveWorker worker .leaving).settled, [])
  else none

/-! ## The machine -/

/-- A thread calls one of the functions. -/
def enter (logger : AsyncLogger) (thread : ℕ) (call : LoggerCall) :
    Option (AsyncLogger × List LoggerObservation) :=
  if logger.calls thread = .idle then some (logger.moveCall thread call, []) else none

/-- One step of a process that has not been terminated. -/
def liveStep (logger : AsyncLogger) : LoggerAction → Option (AsyncLogger × List LoggerObservation)
  | .log thread message => logger.enter thread (.logging message)
  | .logThrows thread =>
      match logger.calls thread with
      | .logging _ => some (logger.moveCall thread .idle, [])
      | _ => none
  | .logEnters thread outcome => logger.logEnters thread outcome
  | .logJoined thread outcome => logger.logJoined thread outcome
  | .beginUnloadQuiescence thread => logger.enter thread (.quiescing false)
  | .shutdown thread => logger.enter thread (.quiescing true)
  | .resumeAfterUnloadRejected thread => logger.enter thread (.resuming false)
  | .quiesceEnters thread => logger.quiesceEnters thread
  | .stopSeen thread => logger.stopSeen thread
  | .stopTimesOut thread => logger.stopTimesOut thread
  | .stoppedJoined thread => logger.stoppedJoined thread
  | .resumeEnters thread => logger.resumeEnters thread
  | .resumeJoined thread => logger.resumeJoined thread
  | .dequeue worker => logger.dequeue worker
  | .deliver worker => logger.deliver worker
  | .stop worker => logger.stop worker
  | .workerThrows worker =>
      if logger.workers[worker]? = some .waiting then
        some (logger.moveWorker worker .failing, [])
      else none
  | .workerFails worker => logger.workerFails worker
  | .cleanupFileStream worker =>
      if logger.workers[worker]? = some .exiting then
        some ({ logger with fileOpen := false }.moveWorker worker .settling, [])
      else none
  | .settle worker => logger.settle worker
  | .workerExits worker =>
      if logger.workers[worker]? = some .leaving then
        some (logger.moveWorker worker .finished, [])
      else none

def step (logger : AsyncLogger) (action : LoggerAction) :
    Option (AsyncLogger × List LoggerObservation) :=
  if logger.terminated then none else logger.liveStep action

end AsyncLogger

/-- The machine of the logger. -/
def loggerMachine : Machine AsyncLogger LoggerAction LoggerObservation where
  init logger := logger = {}
  step := AsyncLogger.step

/-! ## The cases of a step -/

namespace AsyncLogger

/-- How a call of `Log` that is not refused ends. -/
inductive LogEnds (logger : AsyncLogger) (thread : ℕ) :
    AsyncLogger → List LoggerObservation → Prop where
  | notPushed : LogEnds logger thread (logger.moveCall thread .idle) []
  | startFailed {stopRequested : Bool} (stopped : logger.state = .stopped)
      (kept : stopRequested = true → logger.stopRequested = true) :
      LogEnds logger thread
        ({ logger with fileOpen := false, stopRequested }.moveCall thread .idle) []
  | terminated (stopped : logger.state = .stopped) :
      LogEnds logger thread ({ logger with terminated := true }.moveCall thread .idle) []
  | started (stopped : logger.state = .stopped) :
      LogEnds logger thread (logger.started.moveCall thread .idle) []
  | startedAndPushed {message : String} (stopped : logger.state = .stopped) :
      LogEnds logger thread
        ({ logger.started with queue := logger.queue ++ [message] }.moveCall thread .idle)
        [.pushed message]
  | pushed {message : String} (running : logger.state = .running) :
      LogEnds logger thread
        ({ logger with queue := logger.queue ++ [message] }.moveCall thread .idle)
        [.pushed message]

/-- What the first section of `BeginUnloadQuiescence` leaves. -/
abbrev quiescent (logger : AsyncLogger) : AsyncLogger :=
  { logger with admission := .quiescent, resumeWhenStopped := false }

/-- The steps of the calls of `Log` and of the workers. -/
inductive BackgroundStep (logger : AsyncLogger) : AsyncLogger → List LoggerObservation → Prop where
  | logCalled {thread : ℕ} {message : String} (idle : logger.calls thread = .idle) :
      BackgroundStep logger (logger.moveCall thread (.logging message)) []
  | logReturned {thread : ℕ} (here : (logger.calls thread).isLog = true) :
      BackgroundStep logger (logger.moveCall thread .idle) []
  | handleTaken {thread worker : ℕ} {message : String}
      (here : (logger.calls thread).isLog = true) :
      BackgroundStep logger
        ({ logger with worker := none }.moveCall thread (.joiningToLog message worker)) []
  | logEnded {thread : ℕ} {next : AsyncLogger} {events : List LoggerObservation}
      (here : (logger.calls thread).isLog = true) (isOpen : logger.admission = .open_)
      (ends : logger.LogEnds thread next events) : BackgroundStep logger next events
  | dequeued {worker : ℕ} {message : String} {queue : List String}
      (here : logger.workers[worker]? = some .waiting) (waits : logger.queue = message :: queue) :
      BackgroundStep logger ({ logger with queue }.moveWorker worker (.delivering message)) []
  | delivered {worker : ℕ} {message : String}
      (here : logger.workers[worker]? = some (.delivering message)) :
      BackgroundStep logger (logger.moveWorker worker .waiting)
        (if logger.fileOpen then [.delivered message] else [])
  | loopLeft {worker : ℕ} (here : logger.workers[worker]? = some .waiting)
      (empty : logger.queue = []) (asked : logger.stopRequested = true) :
      BackgroundStep logger (logger.moveWorker worker .exiting) []
  | workerThrew {worker : ℕ} (here : logger.workers[worker]? = some .waiting) :
      BackgroundStep logger (logger.moveWorker worker .failing) []
  | workerFailed {worker : ℕ} (here : logger.workers[worker]? = some .failing) :
      BackgroundStep logger
        ({ logger with state := logger.state.afterException }.moveWorker worker .exiting) []
  | fileClosed {worker : ℕ} (here : logger.workers[worker]? = some .exiting) :
      BackgroundStep logger ({ logger with fileOpen := false }.moveWorker worker .settling) []
  | settledStopped {worker : ℕ} (here : logger.workers[worker]? = some .settling)
      (draining : logger.state = .drainingForUnload) (stays : logger.resumeWhenStopped = false) :
      BackgroundStep logger ({ logger with state := .stopped }.moveWorker worker .leaving) []
  | settledResumed {worker : ℕ} (here : logger.workers[worker]? = some .settling)
      (draining : logger.state = .drainingForUnload) (resumes : logger.resumeWhenStopped = true) :
      BackgroundStep logger
        ({ logger with
          state := .stopped, resumeWhenStopped := false, stopRequested := false
          admission := .open_ }.moveWorker worker .leaving) []
  | settledOther {worker : ℕ} (here : logger.workers[worker]? = some .settling)
      (other : logger.state ≠ .drainingForUnload) :
      BackgroundStep logger (logger.moveWorker worker .leaving) []
  | exited {worker : ℕ} (here : logger.workers[worker]? = some .leaving) :
      BackgroundStep logger (logger.moveWorker worker .finished) []

/-- The cases of a step of the logger. -/
inductive LoggerStep (logger : AsyncLogger) :
    LoggerAction → AsyncLogger → List LoggerObservation → Prop where
  | background {action : LoggerAction} {next : AsyncLogger} {events : List LoggerObservation}
      (isBackground : action.isBackground = true) (taken : logger.BackgroundStep next events) :
      LoggerStep logger action next events
  | called {action : LoggerAction} {thread : ℕ} {call : LoggerCall}
      (idle : logger.calls thread = .idle)
      (enters : (action = .beginUnloadQuiescence thread ∧ call = .quiescing false) ∨
        (action = .shutdown thread ∧ call = .quiescing true) ∨
        action = .resumeAfterUnloadRejected thread ∧ call = .resuming false) :
      LoggerStep logger action (logger.moveCall thread call) []
  | stopAsked {thread : ℕ} {shutdown : Bool} (here : logger.calls thread = .quiescing shutdown)
      (running : logger.state = .running) :
      LoggerStep logger (.quiesceEnters thread)
        ({ logger.quiescent with state := .drainingForUnload, stopRequested := true }.moveCall thread
          (.awaitingStop shutdown)) []
  | stopAwaited {thread : ℕ} {shutdown : Bool} (here : logger.calls thread = .quiescing shutdown)
      (draining : logger.state = .drainingForUnload) :
      LoggerStep logger (.quiesceEnters thread)
        (logger.quiescent.moveCall thread (.awaitingStop shutdown)) []
  | alreadyStopped {thread : ℕ} {shutdown : Bool}
      (here : logger.calls thread = .quiescing shutdown) (stopped : logger.state = .stopped) :
      LoggerStep logger (.quiesceEnters thread) (logger.quiescent.takeStopped thread shutdown) []
  | alreadyFailed {thread : ℕ} {shutdown : Bool}
      (here : logger.calls thread = .quiescing shutdown) (failed : logger.state = .stopFailed) :
      LoggerStep logger (.quiesceEnters thread) (logger.quiescent.moveCall thread .idle)
        (notQuiesced thread shutdown)
  | stopSeen {thread : ℕ} {shutdown : Bool} (here : logger.calls thread = .awaitingStop shutdown)
      (stopped : logger.state = .stopped) :
      LoggerStep logger (.stopSeen thread) (logger.takeStopped thread shutdown) []
  | failureSeen {thread : ℕ} {shutdown : Bool}
      (here : logger.calls thread = .awaitingStop shutdown) (failed : logger.state = .stopFailed) :
      LoggerStep logger (.stopSeen thread) (logger.moveCall thread .idle)
        (notQuiesced thread shutdown)
  | timedOut {thread : ℕ} {shutdown : Bool} (here : logger.calls thread = .awaitingStop shutdown)
      (notStopped : logger.state ≠ .stopped) (notFailed : logger.state ≠ .stopFailed) :
      LoggerStep logger (.stopTimesOut thread)
        ({ logger with resumeWhenStopped := true }.moveCall thread .idle)
        (notQuiesced thread shutdown)
  | stoppedJoined {thread : ℕ} {worker : Option ℕ}
      (here : logger.calls thread = .joiningStopped false worker) :
      LoggerStep logger (.stoppedJoined thread) (logger.moveCall thread .idle)
        [.quiesceReturned thread true]
  | shutdownJoined {thread : ℕ} {worker : Option ℕ}
      (here : logger.calls thread = .joiningStopped true worker) :
      LoggerStep logger (.stoppedJoined thread) (logger.moveCall thread (.resuming true)) []
  | resumeIgnored {thread : ℕ} {shutdown : Bool} (here : logger.calls thread = .resuming shutdown)
      (notStopped : logger.state ≠ .stopped) :
      LoggerStep logger (.resumeEnters thread) (logger.moveCall thread .idle)
        (resumed thread shutdown)
  | resumeTaken {thread : ℕ} {shutdown : Bool} (here : logger.calls thread = .resuming shutdown)
      (stopped : logger.state = .stopped) :
      LoggerStep logger (.resumeEnters thread)
        ({ logger with worker := none }.moveCall thread (.joiningToResume shutdown logger.worker)) []
  | resumed {thread : ℕ} {shutdown : Bool} {worker : Option ℕ}
      (here : logger.calls thread = .joiningToResume shutdown worker) :
      LoggerStep logger (.resumeJoined thread)
        ({ logger with
          stopRequested := false, resumeWhenStopped := false, admission := .open_ }.moveCall thread
            .idle) (resumed thread shutdown)

section Spec

variable {logger next : AsyncLogger} {action : LoggerAction} {events : List LoggerObservation}
  {thread worker : ℕ}

theorem push_ends {message : String} {outcome : LogOutcome} :
    logger.LogEnds thread (logger.push thread message outcome).1
      (logger.push thread message outcome).2 := by
  unfold push
  split
  · exact .notPushed
  · next pushes =>
      rw [not_or, not_not] at pushes
      exact .pushed pushes.1

/-- A thread is started unless the handle is joinable, which terminates the process. -/
theorem startLocked_cases (logger : AsyncLogger) {outcome : LogOutcome}
    (starts : outcome = .completes ∨ outcome = .pushThrows) :
    logger.startLocked outcome = ({ logger with terminated := true }, false) ∨
      logger.startLocked outcome = (logger.started, true) := by
  rcases starts with rfl | rfl
  · exact (ite_eq_or_eq _ _ _)
  · exact (ite_eq_or_eq _ _ _)

theorem startAndPush_ends (logger : AsyncLogger) (thread : ℕ) (message : String)
    (outcome : LogOutcome) :
    logger.LogEnds thread (logger.startAndPush thread message outcome).1
      (logger.startAndPush thread message outcome).2 := by
  unfold startAndPush
  split
  · next stopped =>
      cases outcome with
      | fileFails => exact .startFailed stopped id
      | threadFails => exact .startFailed stopped nofun
      | completes =>
          rcases logger.startLocked_cases (.inl rfl) with ends | starts
          · rw [ends]
            exact .terminated stopped
          · rw [starts]
            exact .startedAndPushed stopped
      | pushThrows =>
          rcases logger.startLocked_cases (.inr rfl) with ends | starts
          · rw [ends]
            exact .terminated stopped
          · rw [starts]
            exact .started stopped
  · exact push_ends

theorem admission_of_accepts (accepts : logger.refusesMessages = false) :
    logger.admission = .open_ := by
  rw [refusesMessages, Bool.or_eq_false_iff] at accepts
  cases admission : logger.admission with
  | open_ => rfl
  | quiescent =>
      rw [admission] at accepts
      cases accepts.1

theorem logEnters_spec {outcome : LogOutcome}
    (taken : logger.logEnters thread outcome = some (next, events)) :
    LoggerStep logger (.logEnters thread outcome) next events := by
  unfold logEnters at taken
  split at taken
  · next message here =>
      have isLog : (logger.calls thread).isLog = true := by rw [here]; rfl
      split at taken
      · cases taken
        exact .background rfl (.logReturned isLog)
      · next accepts =>
          split at taken
          · cases taken
            exact .background rfl (.handleTaken isLog)
          · have ends := logger.startAndPush_ends thread message outcome
            rw [Option.some.inj taken] at ends
            exact .background rfl
              (.logEnded isLog (admission_of_accepts (Bool.eq_false_iff.mpr accepts)) ends)
  · cases taken

theorem logJoined_spec {outcome : LogOutcome}
    (taken : logger.logJoined thread outcome = some (next, events)) :
    LoggerStep logger (.logJoined thread outcome) next events := by
  unfold logJoined at taken
  split at taken
  · next message worker here =>
      have isLog : (logger.calls thread).isLog = true := by rw [here]; rfl
      split at taken
      · split at taken
        · cases taken
          exact .background rfl (.logReturned isLog)
        · next accepts =>
            have ends := logger.startAndPush_ends thread message outcome
            rw [Option.some.inj taken] at ends
            exact .background rfl
              (.logEnded isLog (admission_of_accepts (Bool.eq_false_iff.mpr accepts)) ends)
      · cases taken
  · cases taken

theorem quiesceEnters_spec (taken : logger.quiesceEnters thread = some (next, events)) :
    LoggerStep logger (.quiesceEnters thread) next events := by
  unfold quiesceEnters at taken
  split at taken
  · next shutdown here =>
      have ended := Option.some.inj taken
      split at ended
      · next failed =>
          cases ended
          exact .alreadyFailed here failed
      · next running =>
          cases ended
          exact .stopAsked here running
      · next draining =>
          cases ended
          exact .stopAwaited here draining
      · next stopped =>
          cases ended
          exact .alreadyStopped here stopped
  · cases taken

theorem stopSeen_spec (taken : logger.stopSeen thread = some (next, events)) :
    LoggerStep logger (.stopSeen thread) next events := by
  unfold stopSeen at taken
  split at taken
  · next shutdown here =>
      split at taken
      · next stopped =>
          cases taken
          exact .stopSeen here stopped
      · next failed =>
          cases taken
          exact .failureSeen here failed
      · cases taken
  · cases taken

theorem stopTimesOut_spec (taken : logger.stopTimesOut thread = some (next, events)) :
    LoggerStep logger (.stopTimesOut thread) next events := by
  unfold stopTimesOut at taken
  split at taken
  · next shutdown here =>
      split at taken
      · cases taken
      · next waits =>
          rw [not_or] at waits
          cases taken
          exact .timedOut here waits.1 waits.2
  · cases taken

theorem stoppedJoined_spec (taken : logger.stoppedJoined thread = some (next, events)) :
    LoggerStep logger (.stoppedJoined thread) next events := by
  unfold stoppedJoined at taken
  split at taken
  · next shutdown worker here =>
      split at taken
      · cases shutdown with
        | true =>
            cases taken
            exact .shutdownJoined here
        | false =>
            cases taken
            exact .stoppedJoined here
      · cases taken
  · cases taken

theorem resumeEnters_spec (taken : logger.resumeEnters thread = some (next, events)) :
    LoggerStep logger (.resumeEnters thread) next events := by
  unfold resumeEnters at taken
  split at taken
  · next shutdown here =>
      have ended := Option.some.inj taken
      split at ended
      · next notStopped =>
          cases ended
          exact .resumeIgnored here notStopped
      · next stopped =>
          cases ended
          exact .resumeTaken here (not_not.mp stopped)
  · cases taken

theorem resumeJoined_spec (taken : logger.resumeJoined thread = some (next, events)) :
    LoggerStep logger (.resumeJoined thread) next events := by
  unfold resumeJoined at taken
  split at taken
  · next shutdown worker here =>
      split at taken
      · cases taken
        exact .resumed here
      · cases taken
  · cases taken

theorem dequeue_spec (taken : logger.dequeue worker = some (next, events)) :
    LoggerStep logger (.dequeue worker) next events := by
  unfold dequeue at taken
  split at taken
  · next here waits =>
      cases taken
      exact .background rfl (.dequeued here waits)
  · cases taken

theorem deliver_spec (taken : logger.deliver worker = some (next, events)) :
    LoggerStep logger (.deliver worker) next events := by
  unfold deliver at taken
  split at taken
  · next here =>
      cases taken
      exact .background rfl (.delivered here)
  · cases taken

theorem settle_spec (taken : logger.settle worker = some (next, events)) :
    LoggerStep logger (.settle worker) next events := by
  unfold settle at taken
  obtain ⟨here, ended⟩ := Option.ite_none_right_eq_some.mp taken
  cases ended
  unfold settled
  split
  · next draining =>
      split
      · next resumes => exact .background rfl (.settledResumed here draining resumes)
      · next stays =>
          exact .background rfl (.settledStopped here draining (Bool.eq_false_iff.mpr stays))
  · next other => exact .background rfl (.settledOther here other)

theorem enter_spec {call : LoggerCall} (taken : logger.enter thread call = some (next, events))
    (enters : (action = .beginUnloadQuiescence thread ∧ call = .quiescing false) ∨
      (action = .shutdown thread ∧ call = .quiescing true) ∨
      action = .resumeAfterUnloadRejected thread ∧ call = .resuming false) :
    LoggerStep logger action next events := by
  obtain ⟨idle, ended⟩ := Option.ite_none_right_eq_some.mp taken
  cases ended
  exact .called idle enters

theorem liveStep_of_step (taken : logger.step action = some (next, events)) :
    logger.liveStep action = some (next, events) := by
  unfold step at taken
  split at taken
  · cases taken
  · exact taken

/-- **Every step is one of the listed cases.** -/
theorem loggerStep_spec (taken : logger.step action = some (next, events)) :
    LoggerStep logger action next events := by
  have live := liveStep_of_step taken
  cases action with
  | log thread message =>
      obtain ⟨idle, ended⟩ := Option.ite_none_right_eq_some.mp live
      cases ended
      exact .background rfl (.logCalled idle)
  | logThrows thread =>
      simp only [liveStep] at live
      split at live
      · next here =>
          cases live
          exact .background rfl (.logReturned (by rw [here]; rfl))
      · cases live
  | logEnters thread outcome => exact logEnters_spec live
  | logJoined thread outcome => exact logJoined_spec live
  | beginUnloadQuiescence thread => exact enter_spec live (.inl ⟨rfl, rfl⟩)
  | shutdown thread => exact enter_spec live (.inr (.inl ⟨rfl, rfl⟩))
  | resumeAfterUnloadRejected thread => exact enter_spec live (.inr (.inr ⟨rfl, rfl⟩))
  | quiesceEnters thread => exact quiesceEnters_spec live
  | stopSeen thread => exact stopSeen_spec live
  | stopTimesOut thread => exact stopTimesOut_spec live
  | stoppedJoined thread => exact stoppedJoined_spec live
  | resumeEnters thread => exact resumeEnters_spec live
  | resumeJoined thread => exact resumeJoined_spec live
  | dequeue worker => exact dequeue_spec live
  | deliver worker => exact deliver_spec live
  | stop worker =>
      obtain ⟨⟨here, empty, asked⟩, ended⟩ := Option.ite_none_right_eq_some.mp live
      cases ended
      exact .background rfl (.loopLeft here empty asked)
  | workerThrows worker =>
      obtain ⟨here, ended⟩ := Option.ite_none_right_eq_some.mp live
      cases ended
      exact .background rfl (.workerThrew here)
  | workerFails worker =>
      obtain ⟨here, ended⟩ := Option.ite_none_right_eq_some.mp live
      cases ended
      exact .background rfl (.workerFailed here)
  | cleanupFileStream worker =>
      obtain ⟨here, ended⟩ := Option.ite_none_right_eq_some.mp live
      cases ended
      exact .background rfl (.fileClosed here)
  | settle worker => exact settle_spec live
  | workerExits worker =>
      obtain ⟨here, ended⟩ := Option.ite_none_right_eq_some.mp live
      cases ended
      exact .background rfl (.exited here)

end Spec

end AsyncLogger

end ModernSapi
