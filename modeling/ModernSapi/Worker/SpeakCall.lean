import ModernSapi.Worker.RequestMove

/-!
# The calls of `Speak`

The owner of a worker calls it from one thread, one `Speak` at a time: it starts
the request, dispatches `sapi_speak`, and waits until the request has ended, an
abort of SAPI is observed, or a deadline passes. `speakMachine` adds that thread
to the threads of the worker.

Every step of the machine is a step of the worker or leaves the worker as it is
(`SpeakStep.worker_cases`), so what holds of every run of a worker holds here
(`speak_reaches_worker`).
-/

set_option autoImplicit false

namespace ModernSapi

open Interleaving SpeechStatePolicy SpeechWorker

/-- The commands the engine sends for a request. -/
inductive Command where
  | sapiSpeak (speakId : ℕ)
  | cancel (speakId : ℕ)
  deriving DecidableEq, Repr

/-- Where the thread of `Speak` stands. A result in hand is what the call is going
to return. -/
inductive SpeakCall where
  | idle
  | dispatching (speakId : ℕ)
  | waiting
  | sendCancellation (speakId deadline : ℕ)
  | draining (deadline : ℕ)
  | enterFaultedState (result : HResult)
  | publishing (result : HResult)
  deriving DecidableEq, Repr

/-- A worker and the thread of `Speak`. -/
structure SpeakState where
  worker : WorkerState
  call : SpeakCall := .idle
  deriving DecidableEq

/-- What is seen of a worker and its `Speak` calls. -/
inductive SpeakObservation where
  | worker (event : Observation)
  | sent (command : Command)
  | returned (result : HResult)
  deriving DecidableEq, Repr

/-- The steps of a worker and of the thread of `Speak`. -/
inductive SpeakAction where
  | thread (action : WorkerAction)
  | start (now speakId : ℕ)
  | dispatched (sent : HResult)
  | waitEnds
  | waitTimesOut (now : ℕ)
  | abortObserved (now : ℕ)
  | cancellationSent (sent : HResult)
  | drained
  | drainTimesOut (now : ℕ)
  | enterFaultedState
  | publishFault
  deriving DecidableEq

/-- The step is one of the audio or of the control thread. -/
def WorkerAction.isThreadStep : WorkerAction → Bool
  | .start .. | .stop | .beginCancellation _ => false
  | .enterFaultedState thread | .publishFault thread => thread != .caller
  | _ => true

/-- The step of the engine starts no request and takes in nothing from a pipe. -/
def SpeakAction.isInternal : SpeakAction → Bool
  | .start .. | .thread (.audioChunk ..) | .thread (.frameAssemblyFails ..)
  | .thread (.controlRecord ..) => false
  | _ => true

/-- The command a step of a worker thread sends: the cancellation of a rejected
batch. -/
def WorkerState.sentBy (state : WorkerState) : WorkerAction → List Command
  | .cancellationSent sent =>
      match state.audio with
      | .sendCancellation speakId => if sent.failed then [] else [.cancel speakId]
      | _ => []
  | _ => []

namespace SpeakState

def initial (blockAlign : ℕ) (positive : 0 < blockAlign) : SpeakState where
  worker := .initial blockAlign positive

abbrev context (state : SpeakState) : RequestContext := state.worker.context

def thread (state : SpeakState) (action : WorkerAction) :
    Option (SpeakState × List SpeakObservation) :=
  if action.isThreadStep then
    match state.worker.step action with
    | some (worker, events) =>
        some ({ state with worker },
          events.map .worker ++ (state.worker.sentBy action).map .sent)
    | none => none
  else none

/-- `Start` accepts the request, or `Speak` fails at once. -/
def start (state : SpeakState) (now speakId : ℕ) :
    Option (SpeakState × List SpeakObservation) :=
  if state.call = .idle then
    let started := state.worker.worker.start now speakId
    if started.2.1 then
      some ({ worker := { state.worker with worker := started.1 }, call := .dispatching speakId },
        started.2.2.map .worker)
    else some (state, [.returned .eFail])
  else none

def dispatched (state : SpeakState) (sent : HResult) :
    Option (SpeakState × List SpeakObservation) :=
  match state.call with
  | .dispatching speakId =>
      if sent.failed then some ({ state with call := .enterFaultedState sent }, [])
      else some ({ state with call := .waiting }, [.sent (.sapiSpeak speakId)])
  | _ => none

def waitEnds (state : SpeakState) : Option (SpeakState × List SpeakObservation) :=
  if state.call = .waiting ∧ isWaitTerminal state.context false then
    some ({ state with call := .idle }, [.returned state.context.completionHr])
  else none

/-- The watchdog of `WaitUntilFinished` finds a deadline passed. -/
def waitTimesOut (state : SpeakState) (now : ℕ) : Option (SpeakState × List SpeakObservation) :=
  if state.call = .waiting ∧ ¬isWaitTerminal state.context false ∧
      (evaluateTimeouts state.context now state.worker.worker.lastProviderProgressTick
        synthesisInactivityTimeoutMs).condition ≠ .none then
    some ({ state with call := .enterFaultedState .errorTimeout }, [])
  else none

/-- SAPI asked for an abort, and the request still speaks. -/
def abortObserved (state : SpeakState) (now : ℕ) : Option (SpeakState × List SpeakObservation) :=
  if state.call = .waiting ∧ state.context.downstreamState = .speaking then
    let begun := state.worker.worker.beginCancellationLocked (now + cancellationTimeoutMs)
    let worker := { state.worker with worker := begun.1 }
    if begun.2.1.failed then some ({ worker, call := .idle }, [.returned begun.2.1])
    else
      some ({ worker, call := .sendCancellation begun.2.2 (now + cancellationTimeoutMs) }, [])
  else none

def cancellationSent (state : SpeakState) (sent : HResult) :
    Option (SpeakState × List SpeakObservation) :=
  match state.call with
  | .sendCancellation speakId deadline =>
      if sent.failed then
        let result := if sent = .errorTimeout then sent else .eFail
        some ({ state with call := .enterFaultedState result }, [])
      else some ({ state with call := .draining deadline }, [.sent (.cancel speakId)])
  | _ => none

def drained (state : SpeakState) : Option (SpeakState × List SpeakObservation) :=
  match state.call with
  | .draining _ =>
      if state.context.isDrainingCancellation then none
      else some ({ state with call := .idle }, [.returned state.context.completionHr])
  | _ => none

def drainTimesOut (state : SpeakState) (now : ℕ) : Option (SpeakState × List SpeakObservation) :=
  match state.call with
  | .draining deadline =>
      if deadline ≤ now ∧ state.context.isDrainingCancellation then
        some ({ state with call := .enterFaultedState .errorTimeout }, [])
      else none
  | _ => none

def enterFaultedState (state : SpeakState) : Option (SpeakState × List SpeakObservation) :=
  match state.call with
  | .enterFaultedState result =>
      match state.worker.step (.enterFaultedState .caller) with
      | some (worker, _) =>
          if worker.publisher = some .caller then
            some ({ worker, call := .publishing result }, [])
          else some ({ worker, call := .idle }, [.returned result])
      | none => none
  | _ => none

def publishFault (state : SpeakState) : Option (SpeakState × List SpeakObservation) :=
  match state.call with
  | .publishing result =>
      match state.worker.step (.publishFault .caller) with
      | some (worker, _) => some ({ worker, call := .idle }, [.returned result])
      | none => none
  | _ => none

def step (state : SpeakState) : SpeakAction → Option (SpeakState × List SpeakObservation)
  | .thread action => state.thread action
  | .start now speakId => state.start now speakId
  | .dispatched sent => state.dispatched sent
  | .waitEnds => state.waitEnds
  | .waitTimesOut now => state.waitTimesOut now
  | .abortObserved now => state.abortObserved now
  | .cancellationSent sent => state.cancellationSent sent
  | .drained => state.drained
  | .drainTimesOut now => state.drainTimesOut now
  | .enterFaultedState => state.enterFaultedState
  | .publishFault => state.publishFault

end SpeakState

/-- The machine of one worker and the `Speak` calls on it. -/
def speakMachine : Machine SpeakState SpeakAction SpeakObservation where
  init state := ∃ blockAlign positive, state = .initial blockAlign positive
  step := SpeakState.step

/-! ## The cases of a step -/

open SpeakState

/-- The cases of a step of a worker and its `Speak` calls. -/
inductive SpeakStep (state : SpeakState) :
    SpeakAction → SpeakState → List SpeakObservation → Prop where
  | thread {action : WorkerAction} {worker : WorkerState} {events : List Observation}
      (isThread : action.isThreadStep = true)
      (taken : state.worker.step action = some (worker, events)) :
      SpeakStep state (.thread action) { state with worker }
        (events.map .worker ++ (state.worker.sentBy action).map .sent)
  | started {now speakId : ℕ} (ready : state.call = .idle)
      (can : state.worker.worker.CanStart) :
      SpeakStep state (.start now speakId)
        { worker :=
            { state.worker with
              worker := state.worker.worker.started now (state.worker.worker.nextToken speakId) }
          call := .dispatching speakId }
        [.worker (.requestStarted (state.worker.worker.nextToken speakId))]
  | startRejected {now speakId : ℕ} (ready : state.call = .idle)
      (cannot : ¬state.worker.worker.CanStart) :
      SpeakStep state (.start now speakId) state [.returned .eFail]
  | dispatched {speakId : ℕ} {sent : HResult} (here : state.call = .dispatching speakId)
      (ok : sent.failed = false) :
      SpeakStep state (.dispatched sent) { state with call := .waiting }
        [.sent (.sapiSpeak speakId)]
  | aborted {now : ℕ} (here : state.call = .waiting)
      (speaking : state.context.downstreamState = .speaking)
      (upstream : state.context.upstreamState ≠ .faulted) :
      SpeakStep state (.abortObserved now)
        { worker :=
            { state.worker with
              worker := state.worker.worker.cancelled (now + cancellationTimeoutMs) }
          call := .sendCancellation state.context.token.speakId (now + cancellationTimeoutMs) } []
  | abortFailed {now : ℕ} (here : state.call = .waiting)
      (speaking : state.context.downstreamState = .speaking)
      (upstream : state.context.upstreamState = .faulted) :
      SpeakStep state (.abortObserved now) { state with call := .idle } [.returned .eFail]
  | cancellationSent {speakId deadline : ℕ} {sent : HResult}
      (here : state.call = .sendCancellation speakId deadline) (ok : sent.failed = false) :
      SpeakStep state (.cancellationSent sent) { state with call := .draining deadline }
        [.sent (.cancel speakId)]
  | waitEnded (here : state.call = .waiting)
      (closed : state.context.downstreamState = .idle ∨ state.context.downstreamState = .faulted) :
      SpeakStep state .waitEnds { state with call := .idle } [.returned state.context.completionHr]
  | drained {deadline : ℕ} (here : state.call = .draining deadline)
      (ended : state.context.downstreamState ≠ .cancelling) :
      SpeakStep state .drained { state with call := .idle } [.returned state.context.completionHr]
  | dispatchFailed {speakId : ℕ} {sent : HResult} (here : state.call = .dispatching speakId)
      (failed : sent.failed = true) :
      SpeakStep state (.dispatched sent) { state with call := .enterFaultedState sent } []
  | cancellationFailed {speakId deadline : ℕ} {sent : HResult}
      (here : state.call = .sendCancellation speakId deadline) (failed : sent.failed = true) :
      SpeakStep state (.cancellationSent sent)
        { state with
          call := .enterFaultedState (if sent = .errorTimeout then sent else .eFail) } []
  | waitTimedOut {now : ℕ} (here : state.call = .waiting)
      (late : (evaluateTimeouts state.context now state.worker.worker.lastProviderProgressTick
        synthesisInactivityTimeoutMs).condition ≠ .none) :
      SpeakStep state (.waitTimesOut now)
        { state with call := .enterFaultedState .errorTimeout } []
  | drainTimedOut {now deadline : ℕ} (here : state.call = .draining deadline)
      (late : deadline ≤ now) (cancelling : state.context.downstreamState = .cancelling) :
      SpeakStep state (.drainTimesOut now)
        { state with call := .enterFaultedState .errorTimeout } []
  | faultEntered {result : HResult} {worker : WorkerState}
      (here : state.call = .enterFaultedState result)
      (taken : state.worker.step (.enterFaultedState .caller) = some (worker, []))
      (won : worker.publisher = some .caller) :
      SpeakStep state .enterFaultedState { worker, call := .publishing result } []
  | faultRepeated {result : HResult} {worker : WorkerState}
      (here : state.call = .enterFaultedState result)
      (taken : state.worker.step (.enterFaultedState .caller) = some (worker, []))
      (lost : worker.publisher ≠ some .caller) :
      SpeakStep state .enterFaultedState { worker, call := .idle } [.returned result]
  | faultPublished {result : HResult} {worker : WorkerState}
      (here : state.call = .publishing result)
      (taken : state.worker.step (.publishFault .caller) = some (worker, [])) :
      SpeakStep state .publishFault { worker, call := .idle } [.returned result]

section Spec

variable {state next : SpeakState} {action : SpeakAction} {events : List SpeakObservation}

theorem speakStart_spec {now speakId : ℕ} (taken : state.start now speakId = some (next, events)) :
    SpeakStep state (.start now speakId) next events := by
  unfold SpeakState.start at taken
  split at taken
  · next ready =>
      by_cases can : state.worker.worker.CanStart
      · simp only [start_accepted can, if_true, List.map_cons, List.map_nil, Option.some.injEq,
          Prod.mk.injEq] at taken
        obtain ⟨rfl, rfl⟩ := taken
        exact .started ready can
      · simp only [start_rejected can, Bool.false_eq_true, if_false, Option.some.injEq,
          Prod.mk.injEq] at taken
        obtain ⟨rfl, rfl⟩ := taken
        exact .startRejected ready can
  · cases taken

theorem abortObserved_spec {now : ℕ} (taken : state.abortObserved now = some (next, events)) :
    SpeakStep state (.abortObserved now) next events := by
  unfold SpeakState.abortObserved at taken
  split at taken
  · next ready =>
      obtain ⟨here, speaking⟩ := ready
      by_cases upstream : state.context.upstreamState = .faulted
      · have begun : state.worker.worker.beginCancellationLocked (now + cancellationTimeoutMs) =
            (state.worker.worker, .eFail, 0) := by
          simp [beginCancellationLocked, evaluateBeginCancellation, speaking, upstream]
        simp only [begun, HResult.failed, if_true, Option.some.injEq, Prod.mk.injEq] at taken
        obtain ⟨rfl, rfl⟩ := taken
        exact .abortFailed here speaking upstream
      · have begun := beginCancellationLocked_speaking speaking upstream
          (now + cancellationTimeoutMs)
        simp only [begun, HResult.failed, Bool.false_eq_true, if_false, Option.some.injEq,
          Prod.mk.injEq] at taken
        obtain ⟨rfl, rfl⟩ := taken
        exact .aborted here speaking upstream
  · cases taken

theorem speakEnterFaultedState_spec (taken : state.enterFaultedState = some (next, events)) :
    SpeakStep state .enterFaultedState next events := by
  unfold SpeakState.enterFaultedState at taken
  split at taken
  · next result here =>
      split at taken
      · next worker observed entered =>
          have silent : observed = [] := by
            cases step_spec entered with
            | faultEntered | faultRepeated => rfl
          rw [silent] at entered
          split at taken
          · next won =>
              cases taken
              exact .faultEntered here entered won
          · next lost =>
              cases taken
              exact .faultRepeated here entered lost
      · cases taken
  · cases taken

theorem speakPublishFault_spec (taken : state.publishFault = some (next, events)) :
    SpeakStep state .publishFault next events := by
  unfold SpeakState.publishFault at taken
  split at taken
  · next result here =>
      split at taken
      · next worker observed published =>
          have silent : observed = [] := by
            cases step_spec published with
            | faultPublished => rfl
          rw [silent] at published
          cases taken
          exact .faultPublished here published
      · cases taken
  · cases taken

/-- **Every step is one of the listed cases.** -/
theorem speakStep_spec (taken : state.step action = some (next, events)) :
    SpeakStep state action next events := by
  cases action with
  | thread action =>
      simp only [SpeakState.step, SpeakState.thread] at taken
      split at taken
      · next isThread =>
          split at taken
          · next stepped =>
              cases taken
              exact .thread isThread stepped
          · cases taken
      · cases taken
  | start now speakId => exact speakStart_spec taken
  | dispatched sent =>
      simp only [SpeakState.step, SpeakState.dispatched] at taken
      split at taken
      · next speakId here =>
          split at taken
          · next failed =>
              cases taken
              exact .dispatchFailed here failed
          · next ok =>
              cases taken
              exact .dispatched here (by simpa using ok)
      · cases taken
  | waitEnds =>
      simp only [SpeakState.step, SpeakState.waitEnds] at taken
      split at taken
      · next ready =>
          cases taken
          refine .waitEnded ready.1 ?_
          simpa [isWaitTerminal] using ready.2
      · cases taken
  | waitTimesOut now =>
      simp only [SpeakState.step, SpeakState.waitTimesOut] at taken
      split at taken
      · next ready =>
          cases taken
          exact .waitTimedOut ready.1 ready.2.2
      · cases taken
  | abortObserved now => exact abortObserved_spec taken
  | cancellationSent sent =>
      simp only [SpeakState.step, SpeakState.cancellationSent] at taken
      split at taken
      · next speakId deadline here =>
          split at taken
          · next failed =>
              cases taken
              exact .cancellationFailed here failed
          · next ok =>
              cases taken
              exact .cancellationSent here (by simpa using ok)
      · cases taken
  | drained =>
      simp only [SpeakState.step, SpeakState.drained] at taken
      split at taken
      · next deadline here =>
          split at taken
          · cases taken
          · next ended =>
              cases taken
              refine .drained here ?_
              simpa [RequestContext.isDrainingCancellation] using ended
      · cases taken
  | drainTimesOut now =>
      simp only [SpeakState.step, SpeakState.drainTimesOut] at taken
      split at taken
      · next deadline here =>
          split at taken
          · next late =>
              cases taken
              refine .drainTimedOut here late.1 ?_
              simpa [RequestContext.isDrainingCancellation] using late.2
          · cases taken
      · cases taken
  | enterFaultedState => exact speakEnterFaultedState_spec taken
  | publishFault => exact speakPublishFault_spec taken

end Spec

/-! ## The worker of a run -/

/-- The events of the worker. -/
def workerEvents (trace : List SpeakObservation) : List Observation :=
  trace.flatMap fun
    | .worker event => [event]
    | _ => []

section Worker

variable {state next : SpeakState} {action : SpeakAction} {trace events : List SpeakObservation}

@[simp] theorem workerEvents_append :
    workerEvents (trace ++ events) = workerEvents trace ++ workerEvents events :=
  List.flatMap_append

@[simp] theorem workerEvents_map_worker (observed : List Observation) :
    workerEvents (observed.map .worker) = observed := by
  induction observed with
  | nil => rfl
  | cons first rest ih =>
      rw [workerEvents, List.map_cons, List.flatMap_cons, List.singleton_append]
      exact congrArg (first :: ·) ih

@[simp] theorem workerEvents_map_sent (commands : List Command) :
    workerEvents (commands.map .sent) = [] := by
  refine List.flatMap_eq_nil_iff.mpr fun event member => ?_
  obtain ⟨command, -, rfl⟩ := List.mem_map.mp member
  rfl

/-- The step of the worker behind a step, when there is one. -/
def SpeakAction.workerAction? : SpeakAction → Option WorkerAction
  | .thread action => some action
  | .start now speakId => some (.start now speakId)
  | .abortObserved now => some (.beginCancellation (now + cancellationTimeoutMs))
  | .enterFaultedState => some (.enterFaultedState .caller)
  | .publishFault => some (.publishFault .caller)
  | _ => none

/-- A step is a step of the worker, or leaves the worker as it is. -/
theorem SpeakStep.worker_cases (taken : SpeakStep state action next events) :
    (∃ step, action.workerAction? = some step ∧
      state.worker.step step = some (next.worker, workerEvents events)) ∨
    (next.worker = state.worker ∧ workerEvents events = []) := by
  cases taken with
  | thread _ taken =>
      refine .inl ⟨_, rfl, ?_⟩
      simpa using taken
  | started _ can =>
      refine .inl ⟨_, rfl, ?_⟩
      simp only [WorkerState.step, WorkerState.start, start_accepted can]
      rfl
  | aborted _ speaking upstream =>
      refine .inl ⟨_, rfl, ?_⟩
      simp only [WorkerState.step, WorkerState.beginCancellation,
        beginCancellationLocked_speaking speaking upstream]
      rfl
  | faultEntered _ taken => exact .inl ⟨_, rfl, taken⟩
  | faultRepeated _ taken => exact .inl ⟨_, rfl, taken⟩
  | faultPublished _ taken => exact .inl ⟨_, rfl, taken⟩
  | _ => exact .inr ⟨rfl, rfl⟩

/-- No `Speak` call stops the worker. -/
theorem SpeakStep.not_stop (taken : SpeakStep state action next events) :
    action.workerAction? ≠ some .stop := by
  cases taken with
  | thread isThread =>
      rintro stops
      cases stops
      cases isThread
  | _ => exact nofun

/-- A step that starts no request is no start of the worker. -/
theorem SpeakStep.not_start (taken : SpeakStep state action next events)
    (notStart : ∀ now speakId, action ≠ .start now speakId) {now speakId : ℕ}
    (inner : action.workerAction? = some (.start now speakId)) : False := by
  cases action with
  | start now speakId => exact notStart now speakId rfl
  | thread worker =>
      cases inner
      cases taken with
      | thread isThread => cases isThread
  | _ => cases inner

theorem SpeakStep.workerInvariant (taken : SpeakStep state action next events)
    (invariant : WorkerInvariant state.worker) : WorkerInvariant next.worker := by
  rcases taken.worker_cases with ⟨step, -, stepped⟩ | ⟨same, -⟩
  · exact invariant.step (step_spec stepped)
  · rw [same]
    exact invariant

/-- Only a start makes a call. -/
theorem SpeakStep.call_idle (taken : SpeakStep state action next events)
    (notStart : ∀ now speakId, action ≠ .start now speakId) (idle : state.call = .idle) :
    next.call = .idle := by
  cases taken with
  | thread => exact idle
  | started => exact absurd rfl (notStart _ _)
  | startRejected => exact idle
  | abortFailed | waitEnded | drained | faultRepeated | faultPublished => rfl
  | dispatched here | aborted here | cancellationSent here | dispatchFailed here
  | cancellationFailed here | waitTimedOut here | drainTimedOut here | faultEntered here =>
      exact absurd (idle.symm.trans here) nofun

/-- A call ends with a result. -/
theorem SpeakStep.returned (taken : SpeakStep state action next events)
    (serving : state.call ≠ .idle) (idle : next.call = .idle) :
    ∃ result, .returned result ∈ events := by
  cases taken with
  | thread | startRejected => exact absurd idle serving
  | abortFailed | waitEnded | drained | faultRepeated | faultPublished =>
      exact ⟨_, List.mem_singleton_self _⟩
  | started | dispatched | aborted | cancellationSent | dispatchFailed | cancellationFailed
  | waitTimedOut | drainTimedOut | faultEntered => cases idle

/-- A step that starts nothing and reads nothing is such a step of the worker. -/
theorem SpeakStep.internal_worker (taken : SpeakStep state action next events)
    (internal : action.isInternal = true) {step : WorkerAction}
    (here : action.workerAction? = some step) : step.isInternal = true := by
  cases action with
  | thread inner =>
      cases here
      cases taken with
      | thread isThread =>
          cases step with
          | start | stop => cases isThread
          | audioChunk | frameAssemblyFails | controlRecord => cases internal
          | _ => rfl
  | start => cases internal
  | abortObserved | enterFaultedState | publishFault =>
      cases here
      rfl
  | _ => cases here

/-- Every step that starts nothing and reads nothing moves the request. -/
theorem SpeakStep.move (taken : SpeakStep state action next events)
    (settled : state.worker.worker.Settled) (internal : action.isInternal = true) :
    RequestMove state.context next.context := by
  rcases taken.worker_cases with ⟨step, here, stepped⟩ | ⟨same, -⟩
  · exact (step_spec stepped).move settled (taken.internal_worker internal here)
  · rw [SpeakState.context, SpeakState.context, same]
    exact .kept (.refl _)

/-- A step is a run of the worker. -/
theorem SpeakStep.worker_run {guard : WorkerState → WorkerAction → Prop}
    (taken : SpeakStep state action next events)
    (allowed : ∀ step, action.workerAction? = some step → guard state.worker step) :
    workerMachine.Run guard state.worker (workerEvents events) next.worker := by
  rcases taken.worker_cases with ⟨step, here, stepped⟩ | ⟨same, silent⟩
  · exact .single (allowed step here) stepped
  · rw [same, silent]
    exact .refl

/-- **The worker of a run runs**, and is never stopped. -/
theorem speak_reaches_worker {guard : SpeakState → SpeakAction → Prop}
    (reached : speakMachine.Reaches guard trace state) :
    workerMachine.Reaches (fun _ step => step ≠ .stop) (workerEvents trace) state.worker := by
  obtain ⟨start, ⟨blockAlign, positive, rfl⟩, run⟩ := reached
  refine ⟨_, ⟨blockAlign, positive, rfl⟩, ?_⟩
  refine run.project SpeakState.worker workerEvents rfl (fun _ _ => workerEvents_append) ?_
  intro _ _ _ _ _ _ _ taken
  have spec := speakStep_spec taken
  refine spec.worker_run fun step inner stops => ?_
  rw [stops] at inner
  exact spec.not_stop inner

end Worker

end ModernSapi
