import ModernSapi.Library.History
import ModernSapi.Worker.Bookkeeping
import ModernSapi.Worker.RequestEnd

/-!
# What `Speak` returns

The result of a request is read from a context that the worker's threads keep changing
between the wake-up and the return. `speak_result_sound` says what success still means:
since its start the request was reset at its declared end, or at the end of its drain,
and no error of it was taken in. Whatever is returned, the worker can start the next
request or is faulted.

Which steps were taken is read off the history of a run.
-/

set_option autoImplicit false

namespace ModernSapi

open Interleaving SpeechWorker SpeakState

/-- A step of a worker and its `Speak` calls, with the states around it. -/
abbrev SpeakTransition := Transition SpeakState SpeakAction SpeakObservation

/-- What is seen of the worker in a history. -/
def observedIn (history : List SpeakTransition) : List Observation :=
  workerEvents (eventsOf history)

/-! ## What the steps of a history do -/

/-- The step starts the request of the token. -/
def StartsRequest (step : SpeakTransition) (token : RequestToken) : Prop :=
  .worker (.requestStarted token) ∈ step.events

/-- An error log of the current request is applied. -/
def AppliesError (step : SpeakTransition) : Prop :=
  ∃ now event, step.action = .thread (.controlRecord now event) ∧
    IsRequestError step.before.worker.worker event

/-- The request begins to cancel. -/
def BeginsCancelling (step : SpeakTransition) : Prop :=
  step.before.context.downstreamState = .speaking ∧
    step.after.context.downstreamState = .cancelling

/-- A terminal record of the generation is applied, with its total. -/
def AppliesTerminal (step : SpeakTransition) (generation declared : ℕ) : Prop :=
  ∃ raw, .terminalReceived generation declared raw ∈ workerEvents step.events

/-- The request is reset at its declared end: as many bytes as were declared were read
for it and taken by SAPI, and none is left in a partial frame. -/
def EndsNormally (earlier request : List SpeakTransition) (step : SpeakTransition)
    (generation : ℕ) : Prop :=
  ∃ checked : SpeechWorker,
    checked.CompletesNormally step.after.worker.worker (workerEvents step.events) ∧
    (∃ terminal ∈ request ++ [step],
      AppliesTerminal terminal generation checked.context.upstreamTerminalBytes) ∧
    (readSince generation (observedIn (earlier ++ (request ++ [step])))).length =
      checked.context.upstreamTerminalBytes ∧
    acceptedOf generation (observedIn (earlier ++ (request ++ [step]))) =
      readSince generation (observedIn (earlier ++ (request ++ [step])))

/-- The request is reset at the end of its drain: a terminal record was applied after the
request began to cancel, and at least the declared bytes were read. -/
def EndsDrained (earlier request : List SpeakTransition) (step : SpeakTransition)
    (generation : ℕ) : Prop :=
  ∃ checked : SpeechWorker,
    checked.DrainsCancellation step.after.worker.worker (workerEvents step.events) ∧
    (∃ before cancels between, request = before ++ cancels :: between ∧
      BeginsCancelling cancels ∧ ∃ terminal ∈ between ++ [step],
        AppliesTerminal terminal generation checked.context.upstreamTerminalBytes) ∧
    checked.context.upstreamTerminalBytes ≤
      (readSince generation (observedIn (earlier ++ (request ++ [step])))).length

/-- The request of the generation has ended well. -/
def EndedWell (earlier request : List SpeakTransition) (generation : ℕ) : Prop :=
  ∃ before step after, request = before ++ step :: after ∧
    (EndsNormally earlier before step generation ∨ EndsDrained earlier before step generation)

/-! ## The request that is served -/

/-- What the steps since its start say of the current request. -/
structure Served (earlier request : List SpeakTransition) (state : SpeakState) : Prop where
  counted : state.context.IsOpen → state.context.rawAudioBytesRead =
    (readSince state.context.token.generation (observedIn (earlier ++ request))).length
  declared : state.context.downstreamState = .speaking →
    state.context.upstreamFinished = true → ∃ terminal ∈ request,
      AppliesTerminal terminal state.context.token.generation state.context.upstreamTerminalBytes
  cancelling : state.context.downstreamState = .cancelling →
    ∃ before cancels between, request = before ++ cancels :: between ∧
      BeginsCancelling cancels ∧
      (state.context.upstreamFinished = true → ∃ terminal ∈ between,
        AppliesTerminal terminal state.context.token.generation
          state.context.upstreamTerminalBytes)
  unfailed : state.context.completionHr = .sOk → ∀ step ∈ request, ¬AppliesError step
  ended : state.context.downstreamState = .idle → state.context.completionHr = .sOk →
    EndedWell earlier request state.context.token.generation

section Facts

variable {earlier request : List SpeakTransition} {step : SpeakTransition} {generation : ℕ}

@[simp] theorem observedIn_append (first second : List SpeakTransition) :
    observedIn (first ++ second) = observedIn first ++ observedIn second := by
  rw [observedIn, eventsOf_append, workerEvents_append]
  rfl

@[simp] theorem observedIn_singleton (step : SpeakTransition) :
    observedIn [step] = workerEvents step.events := by
  rw [observedIn, eventsOf_cons, eventsOf_nil, List.append_nil]

theorem EndedWell.later (ended : EndedWell earlier request generation) (step : SpeakTransition) :
    EndedWell earlier (request ++ [step]) generation := by
  obtain ⟨before, ends, after, rfl, well⟩ := ended
  exact ⟨before, ends, after ++ [step], by simp, well⟩

/-- A request that declared its end before a step, or in it, has declared it. -/
theorem declared_append {context after : RequestContext} {steps : List SpeakTransition}
    (declares : context.Declares after (workerEvents step.events))
    (finished : after.upstreamFinished = true)
    (before : context.upstreamFinished = true → ∃ terminal ∈ steps,
      AppliesTerminal terminal context.token.generation context.upstreamTerminalBytes) :
    ∃ terminal ∈ steps ++ [step],
      AppliesTerminal terminal context.token.generation after.upstreamTerminalBytes := by
  rcases declares with ⟨same, total⟩ | ⟨raw, received⟩
  · obtain ⟨terminal, member, applies⟩ := before (same.symm.trans finished)
    refine ⟨terminal, List.mem_append_left _ member, ?_⟩
    rw [total]
    exact applies
  · exact ⟨step, by simp, raw, received⟩

/-- A request that completes has all its bytes with SAPI. -/
theorem accepted_of_completes {trace front : List Observation} {declared : ℕ}
    (completed : Always CompletesExactly
      (trace ++ (front ++ [.terminalBoundaryReached generation declared])))
    (length : (readSince generation
      (trace ++ (front ++ [.terminalBoundaryReached generation declared]))).length = declared) :
    acceptedOf generation (trace ++ (front ++ [.terminalBoundaryReached generation declared])) =
      readSince generation
        (trace ++ (front ++ [.terminalBoundaryReached generation declared])) := by
  have exactly : acceptedOf generation (trace ++ front) =
      (readSince generation (trace ++ front)).take declared :=
    (completed (trace ++ front) _ [] (by simp) generation declared rfl).1
  have quiet : readSince generation
      (trace ++ (front ++ [.terminalBoundaryReached generation declared])) =
      readSince generation (trace ++ front) := by
    rw [← List.append_assoc]
    exact readSince_append_quiet rfl (by simp)
  rw [quiet] at length ⊢
  rw [← List.append_assoc, acceptedOf_append, exactly, ← length, List.take_length]
  exact List.append_nil _

end Facts

section Steps

variable {state next : SpeakState} {action : SpeakAction} {events : List SpeakObservation}

/-- A step that starts nothing is a step of the worker or leaves it as it is. -/
theorem SpeakStep.fate (taken : SpeakStep state action next events)
    (settled : state.worker.worker.Settled) (notStart : ∀ now speakId, action ≠ .start now speakId) :
    RequestFate state.context next.worker.worker (workerEvents events) := by
  rcases taken.worker_cases with ⟨step, inner, stepped⟩ | ⟨same, silent⟩
  · refine (step_spec stepped).fate settled (fun now speakId starts => ?_) fun stops => ?_
    · rw [starts] at inner
      exact taken.not_start notStart inner
    · rw [stops] at inner
      exact taken.not_stop inner
  · rw [same, silent]
    exact .kept (.refl _ _) rfl rfl

theorem SpeakStep.counted (taken : SpeakStep state action next events)
    (isOpen : state.context.IsOpen) (notStart : ∀ now speakId, action ≠ .start now speakId) :
    next.context.rawAudioBytesRead =
      state.context.rawAudioBytesRead + (readBytes (workerEvents events)).length := by
  rcases taken.worker_cases with ⟨step, inner, stepped⟩ | ⟨same, silent⟩
  · refine (step_spec stepped).counted isOpen fun now speakId starts => ?_
    rw [starts] at inner
    exact taken.not_start notStart inner
  · rw [SpeakState.context, same, silent]
    rfl

/-- An error log that is applied makes the request fail. -/
theorem SpeakStep.failed_of_error (taken : SpeakStep state action next events)
    (error : AppliesError ⟨state, action, next, events⟩) : next.context.completionHr = .eFail := by
  obtain ⟨now, event, rfl, log, severity, addressed, matching⟩ := error
  cases taken with
  | thread _ stepped =>
      cases step_spec stepped with
      | recordUnaddressed _ unaddressed => exact absurd unaddressed addressed
      | recordSkipped _ blank =>
          rw [blank] at log
          cases log
      | recordHandled _ _ outcome =>
          cases outcome with
          | unchanged inert => exact absurd severity (inert.log matching log).1
          | malformed _ boundary =>
              rw [ProviderControlEvent.isSpeechBoundary, log] at boundary
              cases boundary
          | fatal _ _ other => exact absurd (severity.symm.trans other) (by decide)
          | terminalFault _ terminal | terminalApplied _ terminal =>
              rw [event.not_terminal_of_log log] at terminal
              cases terminal
          | utteranceFailed => rfl

end Steps

/-- What a reset leaves of the request. -/
theorem SpeakState.of_reset {state : SpeakState} {checked : SpeechWorker}
    (reset : state.worker.worker = checked.resetToIdleLocked) :
    state.context.downstreamState = .idle ∧
      state.context.rawAudioBytesRead = checked.context.rawAudioBytesRead := by
  rw [SpeakState.context, WorkerState.context, reset]
  exact ⟨rfl, rfl⟩

namespace Served

variable {earlier request : List SpeakTransition} {state next : SpeakState} {action : SpeakAction}
  {events : List SpeakObservation}

/-- The bytes counted at the end of a step that finds the request open. -/
theorem counted_step (served : Served earlier request state)
    (taken : SpeakStep state action next events)
    (delivered : Delivered (observedIn (earlier ++ request)) state.worker.worker state.worker.audio)
    (notStart : ∀ now speakId, action ≠ .start now speakId) (isOpen : state.context.IsOpen) :
    next.context.rawAudioBytesRead = (readSince state.context.token.generation
      (observedIn (earlier ++ (request ++ [⟨state, action, next, events⟩])))).length := by
  have started : Started state.context.token.generation (observedIn (earlier ++ request)) :=
    delivered.openStarted isOpen
  have grown : observedIn (earlier ++ (request ++ [⟨state, action, next, events⟩])) =
      observedIn (earlier ++ request) ++ workerEvents events := by
    rw [← List.append_assoc, observedIn_append, observedIn_singleton]
  rw [taken.counted isOpen notStart, served.counted isOpen, grown,
    readSince_append_of_started _ started, List.length_append]

/-- **A step that starts no request keeps what is known of the one that is served.** -/
theorem step (served : Served earlier request state) (settled : state.worker.worker.Settled)
    (delivered : Delivered (observedIn (earlier ++ request)) state.worker.worker state.worker.audio)
    (completed : Always CompletesExactly
      (observedIn (earlier ++ (request ++ [⟨state, action, next, events⟩]))))
    (taken : SpeakStep state action next events)
    (notStart : ∀ now speakId, action ≠ .start now speakId) :
    Served earlier (request ++ [⟨state, action, next, events⟩]) next := by
  have fate := taken.fate settled notStart
  have token : next.context.token = state.context.token := taken.token notStart
  have raw := served.counted_step taken delivered notStart
  have kept (completion : next.context.completionHr = state.context.completionHr)
      (unfailed : next.context.completionHr = .sOk) :
      ∀ step ∈ request ++ [⟨state, action, next, events⟩], ¬AppliesError step := by
    intro step member
    rcases List.mem_append.mp member with past | now
    · exact served.unfailed (completion.symm.trans unfailed) step past
    · rw [List.mem_singleton.mp now]
      intro error
      rw [taken.failed_of_error error] at unfailed
      cases unfailed
  refine ⟨fun isOpen => ?_, fun speaking finished => ?_, fun cancelling => ?_, fun unfailed => ?_,
    fun idle unfailed => ?_⟩
  · rw [token]
    exact raw (fate.isOpen isOpen)
  · rw [token]
    cases fate with
    | kept declares downstream =>
        exact declared_append declares finished
          (served.declared (downstream.symm.trans speaking))
    | cancelled _ cancelling => cases speaking.symm.trans cancelling
    | completed _ completes => cases speaking.symm.trans (of_reset completes.reset).1
    | drained _ drains => cases speaking.symm.trans (of_reset drains.reset).1
    | failed _ closed =>
        rcases closed with closed | closed
        all_goals cases speaking.symm.trans closed
  · rw [token]
    cases fate with
    | kept declares downstream =>
        obtain ⟨before, cancels, between, rfl, begins, declared⟩ :=
          served.cancelling (downstream.symm.trans cancelling)
        exact ⟨before, cancels, between ++ [⟨state, action, next, events⟩], by simp, begins,
          fun finished => declared_append declares finished declared⟩
    | cancelled speaking _ unfinished =>
        refine ⟨request, ⟨state, action, next, events⟩, [], rfl, ⟨speaking, cancelling⟩, ?_⟩
        intro finished
        rw [SpeakState.context, WorkerState.context, unfinished] at finished
        cases finished
    | completed _ completes =>
        cases cancelling.symm.trans (of_reset completes.reset).1
    | drained _ drains => cases cancelling.symm.trans (of_reset drains.reset).1
    | failed _ closed =>
        rcases closed with closed | closed
        all_goals cases cancelling.symm.trans closed
  · cases fate with
    | kept _ _ completion => exact kept completion unfailed
    | cancelled _ _ _ completion => exact kept completion unfailed
    | completed _ _ _ _ completion => exact kept completion unfailed
    | drained _ _ _ _ completion => exact kept completion unfailed
    | failed failed => cases unfailed.symm.trans failed
  · rw [token]
    cases fate with
    | kept _ downstream completion =>
        exact (served.ended (downstream.symm.trans idle) (completion.symm.trans unfailed)).later _
    | cancelled _ cancelling => cases idle.symm.trans cancelling
    | @completed speaking checked completes declares same =>
        refine ⟨request, ⟨state, action, next, events⟩, [], rfl, .inl ⟨checked, completes, ?_, ?_⟩⟩
        · exact declared_append declares completes.finished (served.declared speaking)
        · have total := ((raw (.inl speaking)).symm.trans (of_reset completes.reset).2).trans
            completes.reached.raw
          refine ⟨total, ?_⟩
          obtain ⟨front, reported⟩ := completes.reported
          rw [← List.append_assoc, observedIn_append, observedIn_singleton, reported, same]
            at total completed ⊢
          exact accepted_of_completes completed total
    | @drained cancelling checked drains declares same =>
        refine ⟨request, ⟨state, action, next, events⟩, [], rfl, .inr ⟨checked, drains, ?_, ?_⟩⟩
        · obtain ⟨before, cancels, between, rfl, begins, declared⟩ := served.cancelling cancelling
          exact ⟨before, cancels, between, rfl, begins,
            declared_append declares drains.finished declared⟩
        · rw [← raw (.inr cancelling), (of_reset drains.reset).2]
          exact drains.enough
    | failed failed => cases unfailed.symm.trans failed

/-- The request that is started. -/
theorem started {history : List SpeakTransition} (now speakId : ℕ)
    (delivered : Delivered (observedIn history) state.worker.worker state.worker.audio)
    (context : next.context = (state.worker.worker.started now
      (state.worker.worker.nextToken speakId)).context)
    (started : workerEvents events = [.requestStarted (state.worker.worker.nextToken speakId)]) :
    Served (history ++ [⟨state, action, next, events⟩]) [] next := by
  have speaking : next.context.downstreamState = .speaking := by
    rw [context]
    rfl
  refine ⟨fun _ => ?_, fun _ finished => ?_, fun cancelling => ?_, fun _ step member => ?_,
    fun idle => ?_⟩
  · have fresh : ¬Started (state.worker.worker.generationCounter + 1) (observedIn history) := by
      rintro ⟨token, member, new⟩
      have bound := delivered.startedBound member
      omega
    rw [List.append_nil, observedIn_append, observedIn_singleton, started, context]
    change 0 = (readSince (state.worker.worker.generationCounter + 1) _).length
    rw [readSince_append_of_not_started _ fresh]
    simp [readSince, nextToken]
  · rw [context] at finished
    cases finished
  · cases speaking.symm.trans cancelling
  · cases member
  · cases speaking.symm.trans idle

end Served

/-! ## The call -/

/-- What the call knows of its request: it no longer speaks once its cancellation is on
its way, and it is over once its fault is being published. A result in hand is none of
success. -/
def SpeakState.CallSound (state : SpeakState) : Prop :=
  match state.call with
  | .idle | .dispatching _ | .waiting => True
  | .sendCancellation .. | .draining _ => state.context.downstreamState ≠ .speaking
  | .enterFaultedState result => result ≠ .sOk
  | .publishing result => result ≠ .sOk ∧ ¬state.context.IsOpen

namespace SpeakState.CallSound

variable {state next : SpeakState} {action : SpeakAction} {events : List SpeakObservation}

/-- A step of the worker opens no request. -/
theorem stays (sound : state.CallSound) (same : next.call = state.call)
    (fate : RequestFate state.context next.worker.worker (workerEvents events)) :
    next.CallSound := by
  unfold SpeakState.CallSound at sound ⊢
  rw [same]
  cases call : state.call with
  | idle | dispatching | waiting => trivial
  | sendCancellation | draining =>
      rw [call] at sound
      exact fun speaking => sound (fate.speaking speaking)
  | enterFaultedState =>
      rw [call] at sound
      exact sound
  | publishing =>
      rw [call] at sound
      exact ⟨sound.1, fun isOpen => sound.2 (fate.isOpen isOpen)⟩

/-- The first section of `EnterFaultedState` leaves no request open. -/
theorem closed_of_entered {worker after : WorkerState} {thread : Thread}
    (entered : worker.step (.enterFaultedState thread) = some (after, [])) :
    ¬after.context.IsOpen := by
  cases step_spec entered with
  | faultEntered => exact RequestContext.not_isOpen_of_faulted rfl
  | faultRepeated =>
      rw [WorkerState.context, WorkerState.leaveFaulted_worker]
      exact RequestContext.not_isOpen_of_faulted rfl

/-- **Every step keeps the call sound.** -/
theorem step (sound : state.CallSound) (settled : state.worker.worker.Settled)
    (taken : SpeakStep state action next events) : next.CallSound := by
  cases taken with
  | thread isThread stepped =>
      have fate := (SpeakStep.thread isThread stepped).fate settled nofun
      exact sound.stays rfl fate
  | startRejected => exact sound
  | started | dispatched | abortFailed | waitEnded | drained | faultRepeated | faultPublished =>
      exact True.intro
  | aborted =>
      intro speaking
      cases speaking
  | cancellationSent here =>
      unfold SpeakState.CallSound at sound
      rw [here] at sound
      exact sound
  | @dispatchFailed _ sent _ failed =>
      rintro rfl
      cases failed
  | @cancellationFailed _ _ sent _ failed =>
      change (if sent = .errorTimeout then sent else HResult.eFail) ≠ .sOk
      split
      · rintro rfl
        cases failed
      · simp
  | waitTimedOut | drainTimedOut =>
      intro ok
      cases ok
  | faultEntered here entered =>
      unfold SpeakState.CallSound at sound
      rw [here] at sound
      exact ⟨sound, closed_of_entered entered⟩

end SpeakState.CallSound

/-- What a call returns when its request was started. -/
structure ReturnsSoundly (state next : SpeakState) (result : HResult) : Prop where
  rests : next.worker.worker.CanStart ∨ next.worker.worker.isFaulted = true
  succeeds : result = .sOk →
    state.context.downstreamState = .idle ∧ state.context.completionHr = .sOk

section Returns

variable {state next : SpeakState} {action : SpeakAction} {events : List SpeakObservation}

/-- **Every return of a call whose request was started is sound.** -/
theorem SpeakStep.returnsSoundly (taken : SpeakStep state action next events)
    (sound : state.CallSound) (rested : state.worker.worker.Rested)
    (restedNext : next.worker.worker.Rested) (settled : state.worker.worker.Settled)
    {result : HResult} (returned : .returned result ∈ events) (serving : state.call ≠ .idle) :
    ReturnsSoundly state next result := by
  have succeeds (closed : ¬state.context.IsOpen) (ok : state.context.completionHr = .sOk) :
      state.context.downstreamState = .idle ∧ state.context.completionHr = .sOk := by
    refine ⟨?_, ok⟩
    cases downstream : state.context.downstreamState with
    | idle => rfl
    | speaking => exact absurd (.inl downstream) closed
    | cancelling => exact absurd (.inr downstream) closed
    | faulted => cases ok.symm.trans (rested.failed downstream)
  cases taken with
  | thread =>
      rcases List.mem_append.mp returned with seen | sent
      · obtain ⟨_, -, other⟩ := List.mem_map.mp seen
        cases other
      · obtain ⟨_, -, other⟩ := List.mem_map.mp sent
        cases other
  | startRejected ready => exact absurd ready serving
  | abortFailed _ _ upstream =>
      cases List.mem_singleton.mp returned
      exact ⟨.inr (state.worker.worker.isFaulted_eq_true.mpr (.inr (.inl upstream))), nofun⟩
  | waitEnded _ closed =>
      cases List.mem_singleton.mp returned
      have notOpen : ¬state.context.IsOpen := by
        rcases closed with idle | faulted
        · exact RequestContext.not_isOpen_of_idle idle
        · exact RequestContext.not_isOpen_of_faulted faulted
      exact ⟨restedNext.canStart_or_isFaulted notOpen, succeeds notOpen⟩
  | drained here ended =>
      cases List.mem_singleton.mp returned
      have notOpen : ¬state.context.IsOpen := by
        unfold SpeakState.CallSound at sound
        rw [here] at sound
        rintro (speaking | cancelling)
        · exact sound speaking
        · exact ended cancelling
      exact ⟨restedNext.canStart_or_isFaulted notOpen, succeeds notOpen⟩
  | faultRepeated here entered =>
      cases List.mem_singleton.mp returned
      unfold SpeakState.CallSound at sound
      rw [here] at sound
      exact ⟨restedNext.canStart_or_isFaulted (CallSound.closed_of_entered entered),
        fun ok => absurd ok sound⟩
  | faultPublished here published =>
      cases List.mem_singleton.mp returned
      have fate := (step_spec published).fate settled nofun nofun
      unfold SpeakState.CallSound at sound
      rw [here] at sound
      exact ⟨restedNext.canStart_or_isFaulted fun isOpen => sound.2 (fate.isOpen isOpen),
        fun ok => absurd ok sound.1⟩
  | _ => simp at returned

end Returns

/-! ## The result -/

/-- The latest request of a history, which is that of the token, has ended well, and no
error log was applied to it since its start. -/
def SucceededSince (history : List SpeakTransition) (token : RequestToken) : Prop :=
  ∃ earlier start request, history = earlier ++ start :: request ∧ StartsRequest start token ∧
    (∀ step ∈ request, ∀ other, ¬StartsRequest step other) ∧
    (∀ step ∈ request, ¬AppliesError step) ∧
    EndedWell (earlier ++ [start]) request token.generation

/-- The result a step returns is sound: the worker can start the next request or is
faulted, and success means that the request has succeeded. -/
def ResultSound (history : List SpeakTransition) (step : SpeakTransition) : Prop :=
  ∀ result, .returned result ∈ step.events → step.before.call ≠ .idle →
    (step.after.worker.worker.CanStart ∨ step.after.worker.worker.isFaulted = true) ∧
      (result = .sOk → SucceededSince history step.before.context.token)

/-- What holds of every history: no call has had its request started, or the latest
request is served by the steps since its start. -/
def HistoryServed (history : List SpeakTransition) (state : SpeakState) : Prop :=
  state.call = .idle ∨ ∃ earlier start request, history = earlier ++ start :: request ∧
    StartsRequest start state.context.token ∧
    (∀ step ∈ request, ∀ other, ¬StartsRequest step other) ∧
    Served (earlier ++ [start]) request state

section Run

variable {history : List SpeakTransition} {state next : SpeakState} {action : SpeakAction}
  {events : List SpeakObservation}

/-- Only a start starts a request. -/
theorem SpeakStep.noStart (taken : SpeakStep state action next events)
    (notStart : ∀ now speakId, action ≠ .start now speakId) (token : RequestToken) :
    ¬StartsRequest ⟨state, action, next, events⟩ token := by
  intro starts
  have seen : .requestStarted token ∈ workerEvents events := by
    refine List.mem_flatMap.mpr ⟨_, starts, ?_⟩
    exact List.mem_singleton_self _
  rcases taken.worker_cases with ⟨step, inner, stepped⟩ | ⟨-, silent⟩
  · refine (step_spec stepped).noStart (fun now speakId same => ?_) token seen
    rw [same] at inner
    exact taken.not_start notStart inner
  · rw [silent] at seen
    cases seen

/-- **Every step keeps the history of the request that is served.** -/
theorem HistoryServed.step (served : HistoryServed history state)
    (settled : state.worker.worker.Settled)
    (delivered : Delivered (observedIn history) state.worker.worker state.worker.audio)
    (completed : Always CompletesExactly (observedIn (history ++ [⟨state, action, next, events⟩])))
    (taken : SpeakStep state action next events) :
    HistoryServed (history ++ [⟨state, action, next, events⟩]) next := by
  by_cases starts : ∃ now speakId, action = .start now speakId
  · obtain ⟨now, speakId, rfl⟩ := starts
    cases taken with
    | started =>
        refine .inr ⟨history, _, [], rfl, List.mem_singleton_self _, ?_, ?_⟩
        · intro step member
          cases member
        · exact .started now speakId delivered rfl rfl
    | startRejected ready =>
        left
        exact ready
  · have notStart (now speakId : ℕ) (same : action = .start now speakId) : False :=
      starts ⟨now, speakId, same⟩
    rcases served with idle | ⟨earlier, start, request, rfl, started, only, served⟩
    · exact .inl (taken.call_idle notStart idle)
    · refine .inr ⟨earlier, start, request ++ [⟨state, action, next, events⟩], by simp, ?_, ?_, ?_⟩
      · rw [taken.token notStart]
        exact started
      · intro step member
        rcases List.mem_append.mp member with past | now
        · exact only step past
        · rw [List.mem_singleton.mp now]
          exact taken.noStart notStart
      · refine served.step settled ?_ ?_ taken notStart
        · rw [List.append_assoc]
          exact delivered
        · rw [List.append_assoc]
          simpa using completed

/-- **What `Speak` returns.** In every run of a worker and its calls, a call whose request
was started returns when the worker can start the next request or is faulted. It returns
success only if its request was reset at its declared end, with as many bytes declared as
read and taken by SAPI, or at the end of its drain, and no error log of it was applied. -/
theorem speak_result_sound (reached : speakMachine.recorded.Reaches Machine.anyStep history state) :
    Always ResultSound history := by
  refine (reached.induct (motive := fun history state => HistoryServed history state ∧
    state.CallSound ∧ Always ResultSound history) ?_ ?_).2.2
  · rintro _ ⟨blockAlign, positive, rfl⟩
    exact ⟨.inl rfl, True.intro, .nil⟩
  · rintro history _ state next action before ⟨served, sound, past⟩ - taken
    obtain ⟨events, stepped, rfl⟩ := Machine.recorded_step taken
    have spec := speakStep_spec stepped
    have worker := speak_reaches_worker before.forget
    have workerNext := speak_reaches_worker (before.step trivial taken).forget
    have settled := (workerInvariant worker).consistent.toSettled
    have rested := rested_of_reaches worker fun _ _ allowed => allowed
    refine ⟨served.step settled (deliveryInvariant worker).delivered
      (deliveryInvariant workerNext).delivered.completed spec, sound.step settled spec,
      past.append (.cons ?_ .nil)⟩
    rw [List.append_nil]
    intro result returned serving
    have sounds := spec.returnsSoundly sound rested
      (rested_of_reaches workerNext fun _ _ allowed => allowed) settled returned serving
    refine ⟨sounds.rests, fun ok => ?_⟩
    obtain ⟨idle, unfailed⟩ := sounds.succeeds ok
    rcases served with notServing | ⟨earlier, start, request, split, started, only, served⟩
    · exact absurd notServing serving
    · exact ⟨earlier, start, request, split, started, only, served.unfailed unfailed,
        served.ended idle unfailed⟩

end Run

/-- A request of one frame, up to its terminal record. -/
def completedRequest : List SpeakAction :=
  [.start 0 1, .dispatched .sOk, .thread (.audioChunk 1 [1, 2]), .thread .spanAdmission,
    .thread (.onAudioDataReturns true), .thread .spanAdmission, .thread (.batchOutcome 2),
    .thread (.controlRecord 3
      { type := .synthesisComplete, speakId := 1, rawEventName := "synthesis_complete"
        terminalAudioBytes := 2, hasValidTerminalBytes := true })]

/-- The call of this request returns success. -/
theorem speak_result_sound_completed :
    SucceededSince
      (speakMachine.recorded.emitted (.initial 2 (by decide)) completedRequest) ⟨1, 1⟩ := by
  have run := speakMachine.recorded.run_finalState (.initial 2 (by decide))
    (completedRequest ++ [.waitEnds]) (Machine.along_anyStep _ _) (by decide)
  have sound := speak_result_sound ⟨_, ⟨2, by decide, rfl⟩, run⟩
  exact (sound (speakMachine.recorded.emitted (.initial 2 (by decide)) completedRequest) _ [] rfl
    .sOk (List.mem_singleton_self _) (by decide)).2 rfl

end ModernSapi
