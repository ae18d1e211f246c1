import ModernSapi.Mock.HandleSpeak
import ModernSapi.Session.AskedOnce
import ModernSapi.Session.CommittedBytes
import ModernSapi.Session.CompliantProvider

/-!
# A session with the mock provider

The session's provider may send anything at any time. Here it is the mock provider: its
reader takes one command after the other, and its task sends the rest. A `sapi_speak`
starts a task, or is answered with an error when a task is still running. A `cancel`
cancels the token of the current task, whatever request it names, and the reader waits
for that task to complete.

The steps of `mockMachine` are the engine's, the reader's and the task's, one at a time.
Its events are the steps the session takes.
-/

set_option autoImplicit false

namespace ModernSapi

open Interleaving

/-- `SessionContext`, with where the reader stands. -/
structure MockProvider where
  speakTask : Option SynthesisTask := none
  /-- `HandleCancelCommandAsync` awaits the task. -/
  awaiting : Bool := false
  /-- `HandleSpeakCommandAsync` refuses a request. -/
  refusing : Option ℕ := none

namespace MockProvider

variable (runtime : ProviderRuntime) (fragments : ℕ → List Json)

/-- The reader waits for the next command. -/
def ready (provider : MockProvider) : Bool := !provider.awaiting && provider.refusing.isNone

/-- The task is running. -/
def running (provider : MockProvider) : Bool :=
  match provider.speakTask with
  | some task => !task.isCompleted
  | none => false

def handleSpeakCommand (provider : MockProvider) (speakId : ℕ) : MockProvider :=
  if provider.running then { provider with refusing := some speakId }
  else { provider with speakTask := some (.handleSpeak runtime speakId (fragments speakId)) }

def handleCancelCommand (provider : MockProvider) : MockProvider :=
  match provider.speakTask with
  | none => provider
  | some task => { provider with speakTask := some { task with cancelled := true }, awaiting := true }

def handleCommand (provider : MockProvider) : Command → MockProvider
  | .sapiSpeak speakId => provider.handleSpeakCommand runtime fragments speakId
  | .cancel _ => provider.handleCancelCommand

end MockProvider

/-- The record that refuses a request. -/
def busyLogRecord (speakId : ℕ) : Json :=
  errorLogRecord speakId "Another synthesis request is still active."

/-- The engine, the pipes and the mock provider. The session holds the books of the
provider besides. -/
structure MockSession where
  session : Session
  provider : MockProvider := {}

/-- The steps of a session with the mock provider. -/
inductive MockAction where
  | engine (action : SessionAction)
  | receive
  | cancelAwaited
  | refused
  | task (action : TaskAction)
  deriving DecidableEq

/-- The step is one of the engine. -/
def SessionAction.isEngines : SessionAction → Bool
  | .receive | .commit .. | .send _ => false
  | _ => true

/-- What handing something over is to the session. -/
def TaskOutput.action (speakId : ℕ) : TaskOutput → SessionAction
  | .record json => .send (parseControlEvent json)
  | .audio bytes => .commit speakId bytes

namespace MockSession

/-- The session takes a step, and the provider goes on as it does. -/
def steps (state : MockSession) (action : SessionAction) (provider : MockProvider) :
    Option (MockSession × List SessionTransition) :=
  match sessionMachine.recorded.step state.session action with
  | some (session, transitions) => some ({ session, provider }, transitions)
  | none => none

/-- The reader takes the next command. -/
def receive (runtime : ProviderRuntime) (fragments : ℕ → List Json) (state : MockSession) :
    Option (MockSession × List SessionTransition) :=
  match state.session.commandPipe with
  | [] => none
  | command :: _ =>
      if state.provider.ready then
        state.steps .receive (state.provider.handleCommand runtime fragments command)
      else none

/-- The task takes a step, and hands something over or not. -/
def taskStep (runtime : ProviderRuntime) (state : MockSession) (action : TaskAction) :
    Option (MockSession × List SessionTransition) :=
  match state.provider.speakTask with
  | none => none
  | some task =>
      match task.step runtime action with
      | none => none
      | some (next, none) =>
          some ({ state with provider := { state.provider with speakTask := some next } }, [])
      | some (next, some output) =>
          state.steps (output.action task.speakId) { state.provider with speakTask := some next }

def step (runtime : ProviderRuntime) (fragments : ℕ → List Json) (state : MockSession) :
    MockAction → Option (MockSession × List SessionTransition)
  | .engine action => if action.isEngines then state.steps action state.provider else none
  | .receive => state.receive runtime fragments
  | .cancelAwaited =>
      if state.provider.awaiting && !state.provider.running then
        some ({ state with provider := { state.provider with awaiting := false } }, [])
      else none
  | .refused =>
      match state.provider.refusing with
      | some speakId =>
          state.steps (.send (parseControlEvent (busyLogRecord speakId)))
            { state.provider with refusing := none }
      | none => none
  | .task action => state.taskStep runtime action

end MockSession

/-- The machine of a session with the mock provider, given the fragments of every
request. -/
def mockMachine (runtime : ProviderRuntime) (fragments : ℕ → List Json) :
    Machine MockSession MockAction SessionTransition where
  init state := ∃ session, sessionMachine.init session ∧ state = { session }
  step := MockSession.step runtime fragments

/-! ## The cases of a step -/

/-- The cases of a step of a session with the mock provider. -/
inductive MockStep (runtime : ProviderRuntime) (fragments : ℕ → List Json) (state : MockSession) :
    MockAction → MockSession → List SessionTransition → Prop where
  | engine {action : SessionAction} {session : Session} {events : List SessionObservation}
      (engines : action.isEngines = true)
      (taken : state.session.step action = some (session, events)) :
      MockStep runtime fragments state (.engine action) { state with session }
        [⟨state.session, action, session, events⟩]
  | received {command : Command} {rest : List Command} {session : Session}
      {events : List SessionObservation} (pipe : state.session.commandPipe = command :: rest)
      (ready : state.provider.ready = true)
      (taken : state.session.step .receive = some (session, events)) :
      MockStep runtime fragments state .receive
        { session, provider := state.provider.handleCommand runtime fragments command }
        [⟨state.session, .receive, session, events⟩]
  | cancelAwaited (idle : state.provider.running = false) :
      MockStep runtime fragments state .cancelAwaited
        { state with provider := { state.provider with awaiting := false } } []
  | refused {speakId : ℕ} {session : Session} {events : List SessionObservation}
      (here : state.provider.refusing = some speakId)
      (taken : state.session.step (.send (parseControlEvent (busyLogRecord speakId))) =
        some (session, events)) :
      MockStep runtime fragments state .refused
        { session, provider := { state.provider with refusing := none } }
        [⟨state.session, .send (parseControlEvent (busyLogRecord speakId)), session, events⟩]
  | silent {action : TaskAction} {task next : SynthesisTask}
      (current : state.provider.speakTask = some task)
      (stepped : task.step runtime action = some (next, none)) :
      MockStep runtime fragments state (.task action)
        { state with provider := { state.provider with speakTask := some next } } []
  | hands {action : TaskAction} {task next : SynthesisTask} {output : TaskOutput}
      {session : Session} {events : List SessionObservation}
      (current : state.provider.speakTask = some task)
      (stepped : task.step runtime action = some (next, some output))
      (taken : state.session.step (output.action task.speakId) = some (session, events)) :
      MockStep runtime fragments state (.task action)
        { session, provider := { state.provider with speakTask := some next } }
        [⟨state.session, output.action task.speakId, session, events⟩]

section Spec

variable {runtime : ProviderRuntime} {fragments : ℕ → List Json} {state next : MockSession}
  {transitions : List SessionTransition}

theorem steps_spec {action : SessionAction} {provider : MockProvider}
    (taken : state.steps action provider = some (next, transitions)) :
    ∃ session events, state.session.step action = some (session, events) ∧
      next = { session, provider } ∧ transitions = [⟨state.session, action, session, events⟩] := by
  unfold MockSession.steps at taken
  split at taken
  · next session recorded here =>
      obtain ⟨events, stepped, rfl⟩ := Machine.recorded_step here
      cases taken
      exact ⟨session, events, stepped, rfl, rfl⟩
  · cases taken

/-- **Every step is one of the listed cases.** -/
theorem mockStep_spec {action : MockAction}
    (taken : state.step runtime fragments action = some (next, transitions)) :
    MockStep runtime fragments state action next transitions := by
  cases action with
  | engine action =>
      simp only [MockSession.step] at taken
      split at taken
      · next engines =>
          obtain ⟨session, events, stepped, rfl, rfl⟩ := steps_spec taken
          exact .engine engines stepped
      · cases taken
  | receive =>
      simp only [MockSession.step, MockSession.receive] at taken
      split at taken
      · cases taken
      · next command rest pipe =>
          split at taken
          · next ready =>
              obtain ⟨session, events, stepped, rfl, rfl⟩ := steps_spec taken
              exact .received pipe ready stepped
          · cases taken
  | cancelAwaited =>
      simp only [MockSession.step, Bool.and_eq_true, Bool.not_eq_true'] at taken
      split at taken
      · next here =>
          cases taken
          exact .cancelAwaited here.2
      · cases taken
  | refused =>
      simp only [MockSession.step] at taken
      split at taken
      · next speakId here =>
          obtain ⟨session, events, stepped, rfl, rfl⟩ := steps_spec taken
          exact .refused here stepped
      · cases taken
  | task action =>
      simp only [MockSession.step, MockSession.taskStep] at taken
      split at taken
      · cases taken
      · next task current =>
          split at taken
          · cases taken
          · next after stepped =>
              cases taken
              exact .silent current stepped
          · next after output stepped =>
              obtain ⟨session, events, moved, rfl, rfl⟩ := steps_spec taken
              exact .hands current stepped moved

end Spec

/-! ## The conditions -/

/-- The synthesis of the request fits the numbers of the provider: it reads every fragment,
lasts no longer than an `int` of milliseconds, and has words of a length that is an
`int`. -/
structure Speakable (fragments : List Json) : Prop where
  readable : .refused ∉ speechItems fragments
  duration : 200 * (speechItems fragments).length < 2 ^ 31
  lengths : ∀ charOffset word, .word charOffset word ∈ speechItems fragments → word.length < 2 ^ 31

/-- Nothing disturbs the provider: no write of it fails; it is asked for a request when it
has completed the last, and told to cancel the one it serves, if any, and not in the middle
of a buffer. The counter of requests does not overflow. -/
def Undisturbed (runtime : ProviderRuntime) (state : MockSession) : MockAction → Prop
  | .engine (.speak _) => state.session.speakIdCounter + 1 < 2 ^ 64
  | .receive =>
      match state.session.commandPipe.head? with
      | some (.sapiSpeak _) => state.provider.running = false
      | some (.cancel speakId) => state.provider.running = true →
          ∀ task ∈ state.provider.speakTask, task.speakId = speakId ∧
            ¬task.PartlyWritten (generateSineWave runtime.sample)
      | none => True
  | .task action => action.Succeeds
  | _ => True

instance (runtime : ProviderRuntime) (state : MockSession) :
    DecidablePred (Undisturbed runtime state) := by
  intro action
  unfold Undisturbed
  split
  · infer_instance
  · split <;> infer_instance
  · infer_instance
  · infer_instance

end ModernSapi
