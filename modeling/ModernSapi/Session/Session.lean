import ModernSapi.Session.Provider

/-!
# A session

A session is a worker with its `Speak` calls, a provider, and the pipes between
them: one for commands, one for control records and one for audio, each first in,
first out and independent of the others. A byte in the audio pipe carries the
request it was written for, which neither side can see.

One step is taken at a time, by any thread of the engine or by the provider. The
provider may send any record and write any byte at any time; what it is held to is
said by a condition on its steps. `Stop` is not among the steps.
-/

set_option autoImplicit false

namespace ModernSapi

open Interleaving PcmDeliveryPolicy

/-- The engine's worker, the provider's requests and the pipes. -/
structure Session where
  speak : SpeakState
  speakIdCounter : ℕ := 0
  commandPipe : List Command := []
  controlPipe : List ProviderControlEvent := []
  audioPipe : List (ℕ × UInt8) := []
  provider : ℕ → RequestSession := fun _ => {}

/-- What is seen of a session. A chunk is seen again when the worker counts its
bytes into the request of the token. -/
inductive SessionObservation where
  | engine (event : SpeakObservation)
  | counted (token : RequestToken) (bytes : List (ℕ × UInt8))
  deriving DecidableEq, Repr

/-- The steps of a session. The last three are the provider's. -/
inductive SessionAction where
  | speak (now : ℕ)
  | engine (action : SpeakAction)
  | readAudio (now length : ℕ)
  | failAssembly (now length : ℕ)
  | readControl (now : ℕ)
  | receive
  | commit (speakId : ℕ) (bytes : List UInt8)
  | send (event : ProviderControlEvent)
  deriving DecidableEq

/-- The commands sent in a step. -/
def sentCommands (events : List SpeakObservation) : List Command :=
  events.flatMap fun
    | .sent command => [command]
    | _ => []

/-- The bytes of a stretch of the audio pipe. -/
def payload (bytes : List (ℕ × UInt8)) : List UInt8 := bytes.map Prod.snd

/-- One entry of the provider's books changes. -/
def updateRequest (provider : ℕ → RequestSession) (speakId : ℕ)
    (update : RequestSession → RequestSession) : ℕ → RequestSession :=
  Function.update provider speakId (update (provider speakId))

namespace Session

def initial (blockAlign : ℕ) (positive : 0 < blockAlign) : Session where
  speak := .initial blockAlign positive

abbrev worker (session : Session) : SpeechWorker := session.speak.worker.worker

abbrev context (session : Session) : RequestContext := session.speak.context

/-- The provider's books of the request the worker serves. -/
abbrev request (session : Session) : RequestSession :=
  session.provider session.context.token.speakId

/-- A step of the engine, with the commands it sends. -/
def engine (session : Session) (action : SpeakAction) :
    Option (Session × List SessionObservation) :=
  match session.speak.step action with
  | some (speak, events) =>
      some ({ session with
        speak
        commandPipe := session.commandPipe ++ sentCommands events }, events.map .engine)
  | none => none

/-- The worker counts the bytes it takes in from the audio pipe, or does not. -/
def countedIn (session : Session) (bytes : List (ℕ × UInt8)) : List SessionObservation :=
  if (evaluateChunkIngest session.context bytes.length).countRawBytes then
    [.counted session.context.token bytes]
  else []

/-- A read takes some of the bytes that are in the audio pipe. -/
def readAudio (session : Session) (length : ℕ) (action : List UInt8 → WorkerAction) :
    Option (Session × List SessionObservation) :=
  if 0 < length ∧ length ≤ session.audioPipe.length then
    match session.speak.step (.thread (action (payload (session.audioPipe.take length)))) with
    | some (speak, events) =>
        some ({ session with speak, audioPipe := session.audioPipe.drop length },
          session.countedIn (session.audioPipe.take length) ++ events.map .engine)
    | none => none
  else none

def readControl (session : Session) (now : ℕ) : Option (Session × List SessionObservation) :=
  match session.controlPipe with
  | [] => none
  | event :: rest =>
      match session.speak.step (.thread (.controlRecord now event)) with
      | some (speak, events) =>
          some ({ session with speak, controlPipe := rest }, events.map .engine)
      | none => none

/-- The provider takes the next command. -/
def receive (session : Session) : Option (Session × List SessionObservation) :=
  match session.commandPipe with
  | [] => none
  | .sapiSpeak speakId :: rest =>
      some ({ session with
        commandPipe := rest
        provider := updateRequest session.provider speakId .receiveSpeak }, [])
  | .cancel speakId :: rest =>
      some ({ session with
        commandPipe := rest
        provider := updateRequest session.provider speakId .receiveCancel }, [])

/-- The provider commits bytes of a request to the audio pipe. -/
def commit (session : Session) (speakId : ℕ) (bytes : List UInt8) : Session :=
  { session with
    audioPipe := session.audioPipe ++ bytes.map (speakId, ·)
    provider := updateRequest session.provider speakId (·.commit bytes.length) }

/-- The provider sends a record. -/
def send (session : Session) (event : ProviderControlEvent) : Session :=
  { session with
    controlPipe := session.controlPipe ++ [event]
    provider :=
      if event.isTerminal then updateRequest session.provider event.speakId (·.declare event)
      else session.provider }

def step (session : Session) : SessionAction → Option (Session × List SessionObservation)
  | .speak now =>
      { session with speakIdCounter := session.speakIdCounter + 1 }.engine
        (.start now (session.speakIdCounter + 1))
  | .engine action => if action.isInternal then session.engine action else none
  | .readAudio now length => session.readAudio length (.audioChunk now)
  | .failAssembly now length => session.readAudio length (.frameAssemblyFails now)
  | .readControl now => session.readControl now
  | .receive => session.receive
  | .commit speakId bytes => some (session.commit speakId bytes, [])
  | .send event => some (session.send event, [])

end Session

/-- The machine of one session. -/
def sessionMachine : Machine Session SessionAction SessionObservation where
  init session := ∃ blockAlign positive, session = .initial blockAlign positive
  step := Session.step

@[simp] theorem payload_length (bytes : List (ℕ × UInt8)) :
    (payload bytes).length = bytes.length := List.length_map _

@[simp] theorem sentCommands_thread (observed : List Observation) (commands : List Command) :
    sentCommands (observed.map .worker ++ commands.map .sent) = commands := by
  have silent : sentCommands (observed.map .worker) = [] := by
    refine List.flatMap_eq_nil_iff.mpr fun event member => ?_
    obtain ⟨_, -, rfl⟩ := List.mem_map.mp member
    rfl
  have all : sentCommands (commands.map .sent) = commands := by
    induction commands with
    | nil => rfl
    | cons first rest ih => exact congrArg (first :: ·) ih
  rw [sentCommands, List.flatMap_append]
  exact (congrArg₂ (· ++ ·) silent all).trans (List.nil_append _)

section Update

variable {provider : ℕ → RequestSession} {update : RequestSession → RequestSession}
  {speakId other : ℕ}

@[simp] theorem updateRequest_same :
    updateRequest provider speakId update speakId = update (provider speakId) :=
  Function.update_self _ _ _

theorem updateRequest_other (different : other ≠ speakId) :
    updateRequest provider speakId update other = provider other :=
  Function.update_of_ne different _ _

/-- A property of every entry is kept when the update keeps it. -/
theorem updateRequest_forall {motive : ℕ → RequestSession → Prop}
    (holds : ∀ id, motive id (provider id))
    (updated : motive speakId (update (provider speakId))) (id : ℕ) :
    motive id (updateRequest provider speakId update id) := by
  by_cases same : id = speakId
  · subst same
    rw [updateRequest_same]
    exact updated
  · rw [updateRequest_other same]
    exact holds id

/-- A property of one entry is kept when the update keeps it. -/
theorem updateRequest_imp {motive : RequestSession → Prop} (id : ℕ)
    (updated : ∀ request, motive request → motive (update request))
    (holds : motive (provider id)) : motive (updateRequest provider speakId update id) := by
  by_cases same : id = speakId
  · subst same
    rw [updateRequest_same]
    exact updated _ holds
  · rw [updateRequest_other same]
    exact holds

end Update

/-! ## The cases of a step -/

/-- The cases of a step of a session. -/
inductive SessionStep (session : Session) :
    SessionAction → Session → List SessionObservation → Prop where
  | spoken {now : ℕ} {speak : SpeakState} {events : List SpeakObservation}
      (taken : SpeakStep session.speak (.start now (session.speakIdCounter + 1)) speak events) :
      SessionStep session (.speak now)
        { session with speak, speakIdCounter := session.speakIdCounter + 1 }
        (events.map .engine)
  | moved {action : SpeakAction} {speak : SpeakState} {events : List SpeakObservation}
      (internal : action.isInternal = true) (taken : SpeakStep session.speak action speak events) :
      SessionStep session (.engine action)
        { session with speak, commandPipe := session.commandPipe ++ sentCommands events }
        (events.map .engine)
  | audioRead {action : SessionAction} {read : WorkerAction} {bytes rest : List (ℕ × UInt8)}
      {worker : WorkerState} {events : List Observation}
      (reads : ∃ now, (action = .readAudio now bytes.length ∧
          read = .audioChunk now (payload bytes)) ∨
        (action = .failAssembly now bytes.length ∧
          read = .frameAssemblyFails now (payload bytes)))
      (nonempty : bytes ≠ []) (pipe : session.audioPipe = bytes ++ rest)
      (taken : session.speak.worker.step read = some (worker, events)) :
      SessionStep session action
        { session with speak := { session.speak with worker }, audioPipe := rest }
        (session.countedIn bytes ++ events.map (.engine ∘ .worker))
  | recordRead {now : ℕ} {event : ProviderControlEvent} {rest : List ProviderControlEvent}
      {worker : WorkerState} {events : List Observation}
      (pipe : session.controlPipe = event :: rest)
      (taken : session.speak.worker.step (.controlRecord now event) = some (worker, events)) :
      SessionStep session (.readControl now)
        { session with speak := { session.speak with worker }, controlPipe := rest }
        (events.map (.engine ∘ .worker))
  | received {command : Command} {rest : List Command} {speakId : ℕ}
      {update : RequestSession → RequestSession}
      (pipe : session.commandPipe = command :: rest)
      (receives : (command = .sapiSpeak speakId ∧ update = .receiveSpeak) ∨
        (command = .cancel speakId ∧ update = .receiveCancel)) :
      SessionStep session .receive
        { session with
          commandPipe := rest
          provider := updateRequest session.provider speakId update } []
  | committed {speakId : ℕ} {bytes : List UInt8} :
      SessionStep session (.commit speakId bytes) (session.commit speakId bytes) []
  | sent {event : ProviderControlEvent} :
      SessionStep session (.send event) (session.send event) []

section Spec

variable {session next : Session} {action : SessionAction} {events : List SessionObservation}

/-- A thread step that is not the sending of a cancellation sends nothing. -/
theorem thread_taken {speak next : SpeakState} {action : WorkerAction}
    {events : List SpeakObservation} (quiet : ∀ state : WorkerState, state.sentBy action = [])
    (taken : speak.step (.thread action) = some (next, events)) :
    ∃ worker observed, speak.worker.step action = some (worker, observed) ∧
      next = { speak with worker } ∧ events = observed.map .worker := by
  cases speakStep_spec taken with
  | thread _ stepped =>
      refine ⟨_, _, stepped, rfl, ?_⟩
      rw [quiet, List.map_nil, List.append_nil]

theorem readAudio_spec {length : ℕ} {read : List UInt8 → WorkerAction}
    (reads : ∃ now, (action = .readAudio now length ∧ read = .audioChunk now) ∨
      (action = .failAssembly now length ∧ read = .frameAssemblyFails now))
    (taken : session.readAudio length read = some (next, events)) :
    SessionStep session action next events := by
  unfold Session.readAudio at taken
  split at taken
  · next available =>
      split at taken
      · next stepped =>
          have quiet (bytes : List UInt8) (state : WorkerState) : state.sentBy (read bytes) = [] := by
            obtain ⟨now, ⟨-, rfl⟩ | ⟨-, rfl⟩⟩ := reads
            · rfl
            · rfl
          obtain ⟨worker, observed, step, rfl, rfl⟩ := thread_taken (quiet _) stepped
          have long : (session.audioPipe.take length).length = length :=
            List.length_take_of_le available.2
          cases taken
          rw [List.map_map]
          refine .audioRead ?_ ?_ (List.take_append_drop length session.audioPipe).symm step
          · obtain ⟨now, here⟩ := reads
            rw [long]
            refine ⟨now, here.imp ?_ ?_⟩
            · rintro ⟨rfl, rfl⟩
              exact ⟨rfl, rfl⟩
            · rintro ⟨rfl, rfl⟩
              exact ⟨rfl, rfl⟩
          · intro empty
            rw [empty, List.length_nil] at long
            exact absurd available.1 (by omega)
      · cases taken
  · cases taken

/-- **Every step is one of the listed cases.** -/
theorem sessionStep_spec (taken : session.step action = some (next, events)) :
    SessionStep session action next events := by
  cases action with
  | speak now =>
      simp only [Session.step, Session.engine] at taken
      split at taken
      · next speak observed stepped =>
          have silent : sentCommands observed = [] := by
            cases speakStep_spec stepped with
            | started | startRejected => rfl
          cases taken
          rw [silent, List.append_nil]
          exact .spoken (speakStep_spec stepped)
      · cases taken
  | engine action =>
      simp only [Session.step, Session.engine] at taken
      split at taken
      · next internal =>
          split at taken
          · next stepped =>
              cases taken
              exact .moved internal (speakStep_spec stepped)
          · cases taken
      · cases taken
  | readAudio now length => exact readAudio_spec ⟨now, .inl ⟨rfl, rfl⟩⟩ taken
  | failAssembly now length => exact readAudio_spec ⟨now, .inr ⟨rfl, rfl⟩⟩ taken
  | readControl now =>
      simp only [Session.step, Session.readControl] at taken
      split at taken
      · cases taken
      · next event rest pipe =>
          split at taken
          · next stepped =>
              obtain ⟨worker, observed, step, rfl, rfl⟩ := thread_taken (fun _ => rfl) stepped
              cases taken
              rw [List.map_map]
              exact .recordRead pipe step
          · cases taken
  | receive =>
      simp only [Session.step, Session.receive] at taken
      split at taken
      · cases taken
      · next speakId rest pipe =>
          cases taken
          exact .received pipe (.inl ⟨rfl, rfl⟩)
      · next speakId rest pipe =>
          cases taken
          exact .received pipe (.inr ⟨rfl, rfl⟩)
  | commit speakId bytes =>
      cases taken
      exact .committed
  | send event =>
      cases taken
      exact .sent

/-- The commands a step of the engine sends: `sapi_speak` for the call that dispatches
it, or a cancellation. -/
theorem SpeakStep.sent {speak next : SpeakState} {action : SpeakAction}
    {events : List SpeakObservation} (taken : SpeakStep speak action next events) {command : Command}
    (member : command ∈ sentCommands events) :
    (∃ speakId, command = .sapiSpeak speakId ∧ speak.call = .dispatching speakId) ∨
      ∃ speakId, command = .cancel speakId ∧
        (speak.worker.audio = .sendCancellation speakId ∨
          ∃ deadline, speak.call = .sendCancellation speakId deadline) := by
  cases taken with
  | @thread action =>
      rw [sentCommands_thread] at member
      cases action with
      | cancellationSent sent =>
          simp only [WorkerState.sentBy] at member
          split at member
          · next speakId here =>
              split at member
              · cases member
              · rw [List.mem_singleton] at member
                exact .inr ⟨speakId, member, .inl here⟩
          · cases member
      | _ => cases member
  | dispatched here =>
      rw [sentCommands, List.flatMap_singleton, List.mem_singleton] at member
      exact .inl ⟨_, member, here⟩
  | cancellationSent here =>
      rw [sentCommands, List.flatMap_singleton, List.mem_singleton] at member
      exact .inr ⟨_, member, .inr ⟨_, here⟩⟩
  | _ => cases member

/-- Only a start leads to a dispatch. -/
theorem SpeakStep.dispatching {speak next : SpeakState} {action : SpeakAction}
    {events : List SpeakObservation} (taken : SpeakStep speak action next events)
    (internal : action.isInternal = true) {speakId : ℕ} (here : next.call = .dispatching speakId) :
    speak.call = .dispatching speakId := by
  cases taken with
  | started => cases internal
  | startRejected => cases internal
  | thread => exact here
  | _ => cases here

end Spec

/-! ## The worker of a session -/

/-- The events of the worker of a session. -/
def sessionEvents (trace : List SessionObservation) : List Observation :=
  trace.flatMap fun
    | .engine (.worker event) => [event]
    | _ => []

section Worker

variable {session next : Session} {action : SessionAction}
  {trace events : List SessionObservation}

@[simp] theorem sessionEvents_nil : sessionEvents [] = [] := rfl

@[simp] theorem sessionEvents_append :
    sessionEvents (trace ++ events) = sessionEvents trace ++ sessionEvents events :=
  List.flatMap_append

@[simp] theorem sessionEvents_map_engine (observed : List SpeakObservation) :
    sessionEvents (observed.map .engine) = workerEvents observed := by
  induction observed with
  | nil => rfl
  | cons first rest ih =>
      cases first with
      | worker event => exact congrArg (event :: ·) ih
      | sent | returned => exact ih

@[simp] theorem sessionEvents_map_worker (observed : List Observation) :
    sessionEvents (observed.map (.engine ∘ .worker)) = observed := by
  induction observed with
  | nil => rfl
  | cons first rest ih => exact congrArg (first :: ·) ih

@[simp] theorem sessionEvents_countedIn (bytes : List (ℕ × UInt8)) :
    sessionEvents (session.countedIn bytes) = [] := by
  unfold Session.countedIn
  split
  · rfl
  · rfl

/-- An action of the worker that a step of the session may take. -/
def Session.Offers (session : Session) (action : WorkerAction) : Prop :=
  action ≠ .stop ∧ ∀ now event, action = .controlRecord now event → event ∈ session.controlPipe

/-- A step is a step of the worker, or leaves the worker as it is. -/
theorem SessionStep.worker_cases (taken : SessionStep session action next events) :
    (∃ step, session.Offers step ∧
      session.speak.worker.step step = some (next.speak.worker, sessionEvents events)) ∨
    (next.speak.worker = session.speak.worker ∧ sessionEvents events = []) := by
  cases taken with
  | spoken taken =>
      rw [sessionEvents_map_engine]
      refine taken.worker_cases.imp ?_ id
      rintro ⟨step, here, stepped⟩
      cases here
      exact ⟨_, ⟨by simp, by simp⟩, stepped⟩
  | @moved action _ _ internal taken =>
      rw [sessionEvents_map_engine]
      refine taken.worker_cases.imp ?_ id
      rintro ⟨step, here, stepped⟩
      refine ⟨step, ⟨?_, ?_⟩, stepped⟩
      · rintro rfl
        exact taken.not_stop here
      · rintro now event rfl
        cases action with
        | thread worker =>
            cases here
            cases internal
        | _ => cases here
  | audioRead reads _ _ stepped =>
      refine .inl ⟨_, ⟨?_, ?_⟩, by simpa using stepped⟩
      · rintro rfl
        obtain ⟨now, ⟨-, other⟩ | ⟨-, other⟩⟩ := reads
        · cases other
        · cases other
      · rintro now event rfl
        obtain ⟨now, ⟨-, other⟩ | ⟨-, other⟩⟩ := reads
        · cases other
        · cases other
  | recordRead pipe stepped =>
      refine .inl ⟨_, ⟨?_, ?_⟩, by simpa using stepped⟩
      · simp
      · rintro _ _ same
        cases same
        rw [pipe]
        exact List.mem_cons_self
  | received | committed | sent => exact .inr ⟨rfl, rfl⟩

/-- **The worker of a run of a session runs**, under any condition that the steps
offered in the reached states meet. -/
theorem reaches_worker {guard : Session → SessionAction → Prop}
    {condition : WorkerState → WorkerAction → Prop}
    (reached : sessionMachine.Reaches guard trace session)
    (meets : ∀ {trace session step}, sessionMachine.Reaches guard trace session →
      session.Offers step → condition session.speak.worker step) :
    workerMachine.Reaches condition (sessionEvents trace) session.speak.worker := by
  obtain ⟨start, ⟨blockAlign, positive, rfl⟩, run⟩ := reached
  refine ⟨_, ⟨blockAlign, positive, rfl⟩, ?_⟩
  refine run.project (fun session => session.speak.worker) sessionEvents rfl
    (fun _ _ => sessionEvents_append) ?_
  intro _ _ _ _ _ before _ taken
  rcases (sessionStep_spec taken).worker_cases with ⟨step, offered, stepped⟩ | ⟨same, silent⟩
  · exact .single (meets ⟨_, ⟨blockAlign, positive, rfl⟩, before⟩ offered) stepped
  · rw [same, silent]
    exact .refl

end Worker

end ModernSapi
