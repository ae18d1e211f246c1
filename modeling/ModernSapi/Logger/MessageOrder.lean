import ModernSapi.Logger.AsyncLogger

/-!
# The order of messages

At most one worker of the logger is alive (`Standing`), whatever its callers do: a new one is
started only when the state is Stopped, and the last thing a worker does is to set it so. A
worker that is about to do that has left its loop with the queue empty, and nothing is pushed
while the logger drains.

`logger_fifo` is what follows for the messages: those delivered, the one that is dequeued and
those in the queue are together those that were pushed, in order.
-/

set_option autoImplicit false

namespace ModernSapi

open Interleaving AsyncLogger

/-! ## The workers -/

/-- All workers have ended, or all but the last. -/
inductive Standing : List LoggerWorker → Option LoggerWorker → Prop where
  | nobody {workers : List LoggerWorker} (ended : ∀ place ∈ workers, place.ended = true) :
      Standing workers none
  | last {before : List LoggerWorker} {place : LoggerWorker}
      (ended : ∀ place ∈ before, place.ended = true) : Standing (before ++ [place]) (some place)

/-- The messages that are dequeued and not delivered. -/
def dequeued (workers : List LoggerWorker) : List String :=
  workers.filterMap fun
    | .delivering message => some message
    | _ => none

/-- The message of the worker, if it has one. -/
def LoggerWorker.holds : LoggerWorker → List String
  | .delivering message => [message]
  | _ => []

section Standing

variable {workers : List LoggerWorker} {current : Option LoggerWorker} {worker : ℕ}
  {place next : LoggerWorker}

theorem dequeued_ended (ended : ∀ place ∈ workers, place.ended = true) :
    dequeued workers = [] := by
  apply List.filterMap_eq_nil_iff.mpr
  intro place member
  have past := ended place member
  cases place <;> first | rfl | cases past

theorem dequeued_last (ended : ∀ place ∈ workers, place.ended = true) :
    dequeued (workers ++ [place]) = place.holds := by
  have before := dequeued_ended ended
  rw [dequeued] at before
  rw [dequeued, List.filterMap_append, before]
  cases place <;> rfl

/-- A worker that has not ended is the last one. -/
theorem Standing.alive (standing : Standing workers current)
    (here : workers[worker]? = some place) (alive : place.ended = false) :
    ∃ before, (∀ place ∈ before, place.ended = true) ∧ workers = before ++ [place] ∧
      worker = before.length ∧ current = some place := by
  cases standing with
  | nobody ended => exact absurd (ended place (List.mem_of_getElem? here)) (Bool.eq_false_iff.mp alive)
  | @last before last ended =>
      rcases Nat.lt_or_ge worker before.length with earlier | later
      · rw [List.getElem?_append_left earlier] at here
        exact absurd (ended place (List.mem_of_getElem? here)) (Bool.eq_false_iff.mp alive)
      · rw [List.getElem?_append_right later] at here
        have only : worker - before.length = 0 := by
          have short := (List.getElem?_eq_some_iff.mp here).choose
          rw [List.length_singleton] at short
          omega
        rw [only] at here
        cases here
        exact ⟨before, ended, rfl, by omega, rfl⟩

theorem set_last (before : List LoggerWorker) :
    (before ++ [place]).set before.length next = before ++ [next] := by
  rw [List.set_append_right _ _ (Nat.le_refl _), Nat.sub_self]
  rfl

theorem Standing.ends {before : List LoggerWorker}
    (ended : ∀ place ∈ before, place.ended = true) : Standing (before ++ [.leaving]) none := by
  refine .nobody fun place member => ?_
  rcases List.mem_append.mp member with member | member
  · exact ended place member
  · rw [List.mem_singleton.mp member]
    rfl

/-- A worker that has ended exits. -/
theorem Standing.exits (standing : Standing workers current)
    (alive : ∀ place, current = some place → place.ended = false)
    (here : workers[worker]? = some .leaving) : Standing (workers.set worker .finished) current := by
  have past {others : List LoggerWorker} (ended : ∀ place ∈ others, place.ended = true) :
      ∀ place ∈ others.set worker .finished, place.ended = true := by
    intro place member
    rcases List.mem_or_eq_of_mem_set member with member | rfl
    · exact ended place member
    · rfl
  cases standing with
  | nobody ended => exact .nobody (past ended)
  | @last before place ended =>
      have earlier : worker < before.length := by
        by_contra later
        rw [List.getElem?_append_right (Nat.not_lt.mp later)] at here
        have only := List.mem_singleton.mp (List.mem_of_getElem? here)
        have waits := alive place rfl
        rw [← only] at waits
        cases waits
      rw [List.set_append_left _ _ earlier]
      exact .last (past ended)

theorem dequeued_exits (here : workers[worker]? = some .leaving) :
    dequeued (workers.set worker .finished) = dequeued workers := by
  induction workers generalizing worker with
  | nil => cases here
  | cons first rest ih =>
      cases worker with
      | zero =>
          cases here
          rfl
      | succ worker =>
          have same := ih here
          rw [dequeued, dequeued] at same
          rw [dequeued, dequeued, List.set_cons_succ, List.filterMap_cons, same,
            List.filterMap_cons]

end Standing

/-! ## The invariant -/

/-- What the state of the logger is while its last worker stands there, or all have
ended. -/
def AsyncLogger.Fits (logger : AsyncLogger) : Option LoggerWorker → Prop
  | none => (logger.state = .stopped ∧ logger.queue = []) ∨ logger.state = .stopFailed
  | some .waiting | some (.delivering _) =>
      (logger.state = .running ∨ logger.state = .drainingForUnload) ∧ logger.fileOpen = true
  | some .failing => logger.state = .running ∨ logger.state = .drainingForUnload
  | some .exiting | some .settling =>
      (logger.state = .drainingForUnload ∧ logger.queue = []) ∨ logger.state = .stopFailed
  | some .leaving | some .finished => False

/-- What holds in every state of the logger. -/
structure LoggerInvariant (logger : AsyncLogger) : Prop where
  standing : ∃ current, Standing logger.workers current ∧ logger.Fits current
  stopping : logger.stopRequested = true → logger.state ≠ .running

namespace LoggerInvariant

variable {logger next : AsyncLogger} {action : LoggerAction} {events : List LoggerObservation}
  {worker : ℕ} {place : LoggerWorker}

theorem initial : LoggerInvariant {} where
  standing := ⟨none, .nobody nofun, .inl ⟨rfl, rfl⟩⟩
  stopping := nofun

/-- The worker that is alive is the last one, and the state fits it. -/
theorem alive (invariant : LoggerInvariant logger) (here : logger.workers[worker]? = some place)
    (alive : place.ended = false) :
    ∃ before, (∀ place ∈ before, place.ended = true) ∧ logger.workers = before ++ [place] ∧
      worker = before.length ∧ logger.Fits (some place) := by
  obtain ⟨current, standing, fits⟩ := invariant.standing
  obtain ⟨before, ended, split, last, rfl⟩ := standing.alive here alive
  exact ⟨before, ended, split, last, fits⟩

/-- A stopped logger has no worker, and nothing to deliver. -/
theorem stopped (invariant : LoggerInvariant logger) (stopped : logger.state = .stopped) :
    (∀ place ∈ logger.workers, place.ended = true) ∧ logger.queue = [] := by
  obtain ⟨current, standing, fits⟩ := invariant.standing
  generalize logger.workers = workers at standing
  cases standing with
  | nobody ended =>
      rcases fits with ⟨-, empty⟩ | failed
      · exact ⟨ended, empty⟩
      · rw [stopped] at failed
        cases failed
  | @last before place ended =>
      cases place <;> simp [Fits, stopped] at fits

/-- Nothing that the workers depend on has changed. -/
theorem same (invariant : LoggerInvariant logger) (workers : next.workers = logger.workers)
    (state : next.state = logger.state) (queue : next.queue = logger.queue)
    (file : next.fileOpen = logger.fileOpen)
    (stopping : next.stopRequested = true → logger.stopRequested = true) :
    LoggerInvariant next := by
  obtain ⟨current, standing, fits⟩ := invariant.standing
  refine ⟨⟨current, ?_, ?_⟩, fun asked => ?_⟩
  · rw [workers]
    exact standing
  · unfold Fits at fits ⊢
    rw [state, queue, file]
    exact fits
  · rw [state]
    exact invariant.stopping (stopping asked)

/-- The worker that is alive moves on. -/
theorem moves (invariant : LoggerInvariant logger) (here : logger.workers[worker]? = some place)
    (alive : place.ended = false) {after : LoggerWorker}
    (workers : next.workers = logger.workers.set worker after)
    (fits : logger.Fits (some place) → next.Fits (some after))
    (stopping : next.stopRequested = true → next.state ≠ .running) : LoggerInvariant next := by
  obtain ⟨before, ended, split, rfl, holds⟩ := invariant.alive here alive
  refine ⟨⟨some after, ?_, fits holds⟩, stopping⟩
  rw [workers, split, set_last]
  exact .last ended

/-- The worker that is alive ends. -/
theorem ends (invariant : LoggerInvariant logger)
    (here : logger.workers[worker]? = some .settling)
    (workers : next.workers = logger.workers.set worker .leaving)
    (fits : logger.Fits (some .settling) → next.Fits none)
    (stopping : next.stopRequested = true → next.state ≠ .running) : LoggerInvariant next := by
  obtain ⟨before, ended, split, rfl, holds⟩ := invariant.alive here rfl
  refine ⟨⟨none, ?_, fits holds⟩, stopping⟩
  rw [workers, split, set_last]
  exact .ends ended

/-- A new worker is started when the old ones have ended. -/
theorem starts (invariant : LoggerInvariant logger) (stopped : logger.state = .stopped)
    (workers : next.workers = logger.workers ++ [.waiting]) (state : next.state = .running)
    (file : next.fileOpen = true) (cleared : next.stopRequested = false) : LoggerInvariant next := by
  refine ⟨⟨some .waiting, ?_, .inl state, file⟩, fun asked => ?_⟩
  · rw [workers]
    exact .last (invariant.stopped stopped).1
  · rw [cleared] at asked
    cases asked

theorem logEnds (invariant : LoggerInvariant logger) {thread : ℕ}
    (ends : logger.LogEnds thread next events) : LoggerInvariant next := by
  cases ends with
  | notPushed => exact invariant.same rfl rfl rfl rfl id
  | startFailed stopped kept =>
      obtain ⟨ended, empty⟩ := invariant.stopped stopped
      refine ⟨⟨none, .nobody ended, .inl ⟨stopped, empty⟩⟩, fun asked => ?_⟩
      exact invariant.stopping (kept asked)
  | terminated => exact invariant.same rfl rfl rfl rfl id
  | started stopped | startedAndPushed stopped => exact invariant.starts stopped rfl rfl rfl rfl
  | pushed running =>
      obtain ⟨current, standing, fits⟩ := invariant.standing
      refine ⟨⟨current, standing, ?_⟩, invariant.stopping⟩
      match current with
      | none => simp [Fits, running] at fits
      | some .waiting | some (.delivering _) | some .failing => exact fits
      | some .exiting | some .settling => simp [Fits, running] at fits

theorem backgroundStep (invariant : LoggerInvariant logger)
    (taken : logger.BackgroundStep next events) : LoggerInvariant next := by
  cases taken with
  | logCalled | logReturned | handleTaken => exact invariant.same rfl rfl rfl rfl id
  | logEnded _ _ ends => exact invariant.logEnds ends
  | dequeued here | delivered here => exact invariant.moves here rfl rfl id invariant.stopping
  | workerThrew here => exact invariant.moves here rfl rfl And.left invariant.stopping
  | loopLeft here empty asked =>
      refine invariant.moves here rfl rfl (fun fits => .inl ⟨?_, empty⟩) invariant.stopping
      exact fits.1.resolve_left (invariant.stopping asked)
  | workerFailed here =>
      refine invariant.moves here rfl rfl (fun fits => .inr ?_) fun _ => ?_
      · change logger.state.afterException = .stopFailed
        rcases fits with running | draining
        · rw [running]
          rfl
        · rw [draining]
          rfl
      · exact logger.state.afterException_ne_running
  | fileClosed here => exact invariant.moves here rfl rfl id invariant.stopping
  | settledStopped here draining =>
      refine invariant.ends here rfl (fun fits => .inl ⟨rfl, ?_⟩) fun _ => nofun
      rcases fits with ⟨-, empty⟩ | failed
      · exact empty
      · rw [draining] at failed
        cases failed
  | settledResumed here draining =>
      refine invariant.ends here rfl (fun fits => .inl ⟨rfl, ?_⟩) nofun
      rcases fits with ⟨-, empty⟩ | failed
      · exact empty
      · rw [draining] at failed
        cases failed
  | settledOther here other =>
      refine invariant.ends here rfl (fun fits => .inr ?_) invariant.stopping
      exact fits.resolve_left fun draining => other draining.1
  | exited here =>
      obtain ⟨current, standing, fits⟩ := invariant.standing
      refine ⟨⟨current, standing.exits ?_ here, fits⟩, invariant.stopping⟩
      rintro place rfl
      cases place <;> first | rfl | cases fits

/-- **Every step keeps the invariant.** -/
theorem step (invariant : LoggerInvariant logger)
    (taken : logger.LoggerStep action next events) : LoggerInvariant next := by
  cases taken with
  | background _ taken => exact invariant.backgroundStep taken
  | called | stopAwaited | alreadyStopped | alreadyFailed | stopSeen | failureSeen | timedOut
  | stoppedJoined | shutdownJoined | resumeIgnored | resumeTaken =>
      exact invariant.same rfl rfl rfl rfl id
  | stopAsked here running =>
      obtain ⟨current, standing, fits⟩ := invariant.standing
      refine ⟨⟨current, standing, ?_⟩, nofun⟩
      match current with
      | none => simp [Fits, running] at fits
      | some .waiting | some (.delivering _) => exact ⟨.inr rfl, fits.2⟩
      | some .failing => exact .inr rfl
      | some .exiting | some .settling => simp [Fits, running] at fits
  | resumed => exact invariant.same rfl rfl rfl rfl nofun

theorem of_reaches {trace : List LoggerObservation}
    (reached : loggerMachine.Reaches Machine.anyStep trace logger) : LoggerInvariant logger := by
  refine reached.induct (motive := fun _ logger => LoggerInvariant logger) ?_ ?_
  · rintro _ rfl
    exact initial
  · intro _ _ _ _ _ _ invariant _ taken
    exact invariant.step (loggerStep_spec taken)

end LoggerInvariant

/-! ## The messages -/

def pushedMessages (trace : List LoggerObservation) : List String :=
  trace.filterMap fun
    | .pushed message => some message
    | _ => none

def deliveredMessages (trace : List LoggerObservation) : List String :=
  trace.filterMap fun
    | .delivered message => some message
    | _ => none

section Messages

variable {logger next : AsyncLogger} {action : LoggerAction}
  {trace events : List LoggerObservation}

@[simp] theorem pushedMessages_append :
    pushedMessages (trace ++ events) = pushedMessages trace ++ pushedMessages events :=
  List.filterMap_append

@[simp] theorem deliveredMessages_append :
    deliveredMessages (trace ++ events) = deliveredMessages trace ++ deliveredMessages events :=
  List.filterMap_append

/-- What is on its way to the file. -/
def AsyncLogger.undelivered (logger : AsyncLogger) : List String :=
  dequeued logger.workers ++ logger.queue

/-- What a step adds to the deliveries and to what is on its way is what it pushes. -/
def AsyncLogger.Balanced (logger next : AsyncLogger) (events : List LoggerObservation) : Prop :=
  deliveredMessages events ++ next.undelivered = logger.undelivered ++ pushedMessages events

theorem AsyncLogger.Balanced.of_same (workers : next.workers = logger.workers)
    (queue : next.queue = logger.queue) (delivers : deliveredMessages events = [])
    (pushes : pushedMessages events = []) : logger.Balanced next events := by
  rw [AsyncLogger.Balanced, delivers, pushes, undelivered, undelivered, workers, queue]
  simp

/-- A message is pushed at the end of the queue. -/
theorem AsyncLogger.Balanced.of_push {message : String}
    (workers : dequeued next.workers = dequeued logger.workers)
    (queue : next.queue = logger.queue ++ [message]) :
    logger.Balanced next [.pushed message] := by
  rw [AsyncLogger.Balanced, undelivered, undelivered, workers, queue]
  simp [deliveredMessages, pushedMessages]

/-- The worker that is alive moves on. -/
theorem LoggerInvariant.balanced (invariant : LoggerInvariant logger) {worker : ℕ}
    {place after : LoggerWorker} (here : logger.workers[worker]? = some place)
    (alive : place.ended = false) (workers : next.workers = logger.workers.set worker after)
    (pushes : pushedMessages events = [])
    (carries : deliveredMessages events ++ (after.holds ++ next.queue) =
      place.holds ++ logger.queue) : logger.Balanced next events := by
  obtain ⟨before, ended, split, rfl, -⟩ := invariant.alive here alive
  rw [AsyncLogger.Balanced, undelivered, undelivered, workers, split, set_last,
    dequeued_last ended, dequeued_last ended, pushes, List.append_nil]
  exact carries

theorem LoggerInvariant.logEnds_balanced (invariant : LoggerInvariant logger) {thread : ℕ}
    (ends : logger.LogEnds thread next events) : logger.Balanced next events := by
  have fresh (stopped : logger.state = .stopped) :
      dequeued (logger.workers ++ [.waiting]) = dequeued logger.workers := by
    have ended := (invariant.stopped stopped).1
    rw [dequeued_last ended, dequeued_ended ended]
    rfl
  cases ends with
  | notPushed | startFailed | terminated => exact .of_same rfl rfl rfl rfl
  | started stopped =>
      have same := fresh stopped
      rw [AsyncLogger.Balanced, undelivered, undelivered]
      change [] ++ (dequeued (logger.workers ++ [.waiting]) ++ logger.queue) =
        dequeued logger.workers ++ logger.queue ++ []
      rw [same, List.append_nil, List.nil_append]
  | startedAndPushed stopped => exact .of_push (fresh stopped) rfl
  | pushed => exact .of_push rfl rfl

theorem LoggerInvariant.background_balanced (invariant : LoggerInvariant logger)
    (taken : logger.BackgroundStep next events) : logger.Balanced next events := by
  cases taken with
  | logCalled | logReturned | handleTaken => exact .of_same rfl rfl rfl rfl
  | logEnded _ _ ends => exact invariant.logEnds_balanced ends
  | dequeued here waits =>
      refine invariant.balanced here rfl rfl rfl ?_
      rw [waits]
      rfl
  | delivered here =>
      obtain ⟨-, -, -, -, -, fileOpen⟩ := invariant.alive here rfl
      rw [fileOpen]
      exact invariant.balanced here rfl rfl rfl rfl
  | loopLeft here | workerThrew here | workerFailed here | fileClosed here | settledStopped here
  | settledResumed here | settledOther here => exact invariant.balanced here rfl rfl rfl rfl
  | exited here =>
      have same := dequeued_exits here
      rw [AsyncLogger.Balanced, undelivered, undelivered]
      change [] ++ (dequeued (logger.workers.set _ .finished) ++ logger.queue) = _ ++ []
      rw [same, List.append_nil, List.nil_append]

theorem notQuiesced_silent (thread : ℕ) (shutdown : Bool) :
    deliveredMessages (notQuiesced thread shutdown) = [] ∧
      pushedMessages (notQuiesced thread shutdown) = [] := by
  cases shutdown <;> exact ⟨rfl, rfl⟩

theorem resumed_silent (thread : ℕ) (shutdown : Bool) :
    deliveredMessages (resumed thread shutdown) = [] ∧
      pushedMessages (resumed thread shutdown) = [] := by
  cases shutdown <;> exact ⟨rfl, rfl⟩

/-- **Every step keeps the balance.** -/
theorem LoggerInvariant.step_balanced (invariant : LoggerInvariant logger)
    (taken : logger.LoggerStep action next events) : logger.Balanced next events := by
  cases taken with
  | background _ taken => exact invariant.background_balanced taken
  | called | stopAsked | stopAwaited | alreadyStopped | stopSeen | stoppedJoined | shutdownJoined
  | resumeTaken => exact .of_same rfl rfl rfl rfl
  | alreadyFailed | failureSeen | timedOut =>
      exact .of_same rfl rfl (notQuiesced_silent _ _).1 (notQuiesced_silent _ _).2
  | resumeIgnored | resumed =>
      exact .of_same rfl rfl (resumed_silent _ _).1 (resumed_silent _ _).2

theorem background_pushes_nothing (taken : logger.BackgroundStep next events)
    (draining : logger.state = .drainingForUnload) : pushedMessages events = [] := by
  cases taken with
  | logEnded _ _ ends =>
      cases ends with
      | notPushed | startFailed | terminated | started => rfl
      | startedAndPushed stopped =>
          rw [draining] at stopped
          cases stopped
      | pushed running =>
          rw [draining] at running
          cases running
  | delivered => split <;> rfl
  | _ => rfl

/-- Only a running logger takes a message, or one that is started by the call. -/
theorem pushes_nothing (taken : logger.LoggerStep action next events)
    (draining : logger.state = .drainingForUnload) : pushedMessages events = [] := by
  cases taken with
  | background _ taken => exact background_pushes_nothing taken draining
  | alreadyFailed | failureSeen | timedOut => exact (notQuiesced_silent _ _).2
  | resumeIgnored | resumed => exact (resumed_silent _ _).2
  | _ => rfl

end Messages

/-! ## The result -/

/-- Every message that was pushed is delivered, or on its way, in the order of the pushes; a
stopped logger has delivered them all; and none is pushed while the logger drains. -/
structure DeliversInOrder (trace : List LoggerObservation) (logger : AsyncLogger) : Prop where
  inOrder : deliveredMessages trace ++ dequeued logger.workers ++ logger.queue =
    pushedMessages trace
  atMostOne : (dequeued logger.workers).length ≤ 1
  stopped : logger.state = .stopped → deliveredMessages trace = pushedMessages trace
  draining : ∀ {action : LoggerAction} {next : AsyncLogger} {events : List LoggerObservation},
    logger.state = .drainingForUnload → logger.step action = some (next, events) →
      pushedMessages events = []

/-- **The logger delivers exactly once, and in order**, across all the workers it starts. -/
theorem logger_fifo {trace : List LoggerObservation} {logger : AsyncLogger}
    (reached : loggerMachine.Reaches Machine.anyStep trace logger) :
    DeliversInOrder trace logger := by
  have kept : LoggerInvariant logger ∧
      deliveredMessages trace ++ logger.undelivered = pushedMessages trace := by
    refine reached.induct (motive := fun trace logger => LoggerInvariant logger ∧
      deliveredMessages trace ++ logger.undelivered = pushedMessages trace) ?_ ?_
    · rintro _ rfl
      exact ⟨.initial, rfl⟩
    · rintro trace events logger next action - ⟨invariant, before⟩ - taken
      have spec := loggerStep_spec taken
      have balanced := invariant.step_balanced spec
      refine ⟨invariant.step spec, ?_⟩
      rw [AsyncLogger.Balanced] at balanced
      rw [deliveredMessages_append, pushedMessages_append, List.append_assoc, balanced,
        ← List.append_assoc, before]
  obtain ⟨invariant, order⟩ := kept
  refine ⟨?_, ?_, fun stopped => ?_, fun draining taken => ?_⟩
  · rw [List.append_assoc]
    exact order
  · obtain ⟨current, standing, -⟩ := invariant.standing
    generalize logger.workers = workers at standing
    cases standing with
    | nobody ended =>
        rw [dequeued_ended ended]
        exact Nat.zero_le 1
    | @last _ place ended =>
        rw [dequeued_last ended]
        cases place <;> simp [LoggerWorker.holds]
  · obtain ⟨ended, empty⟩ := invariant.stopped stopped
    rw [undelivered, dequeued_ended ended, empty] at order
    simpa using order
  · exact pushes_nothing (loggerStep_spec taken) draining

/-- Two messages are pushed, the logger is stopped while the second is in the queue, goes on
and takes a third. -/
def stoppedBetween : List LoggerAction :=
  [.log 1 "first", .logEnters 1 .completes, .log 2 "second", .logEnters 2 .completes, .dequeue 0,
    .beginUnloadQuiescence 3, .quiesceEnters 3, .deliver 0, .dequeue 0, .deliver 0, .stop 0,
    .cleanupFileStream 0, .settle 0, .stopSeen 3, .workerExits 0, .stoppedJoined 3,
    .resumeAfterUnloadRejected 3, .resumeEnters 3, .resumeJoined 3, .log 1 "third", .logEnters 1 .completes]

theorem logger_fifo_stopped :
    pushedMessages (loggerMachine.emitted {} stoppedBetween) = ["first", "second", "third"] ∧
      DeliversInOrder (loggerMachine.emitted {} stoppedBetween)
        (loggerMachine.finalState {} stoppedBetween) := by
  have run := loggerMachine.run_finalState {} stoppedBetween (Machine.along_anyStep _ _) (by decide)
  exact ⟨by decide, logger_fifo ⟨{}, rfl, run⟩⟩

end ModernSapi
