import ModernSapi.Mock.RequestBooks

/-!
# The mock provider keeps to the protocol

The books of the session are those of a provider that may do anything. The mock provider
is one: `mockProvider_keepsProtocol` says that a session with it, when nothing disturbs
it, is a session whose provider follows the lifecycle and sends well-formed records. What
holds of such a session holds of this one.

`mockProvider_speaks` is what comes out of it: SAPI is handed the sound of the words of a
request, and all of it once the request has reached its declared end.
-/

set_option autoImplicit false

namespace ModernSapi

open Interleaving

/-- The provider follows the lifecycle, and its records are well formed. -/
def KeepsProtocol (session : Session) (action : SessionAction) : Prop :=
  FollowsLifecycle session action ∧ SendsWellFormed 2 action

section Refinement

variable {runtime : ProviderRuntime} {fragments : ℕ → List Json}

/-- What a request sends when it is left alone. -/
abbrev speechOf (runtime : ProviderRuntime) (fragments : ℕ → List Json) (speakId : ℕ) :
    List Output :=
  transcript runtime.fragmentMessage (generateSineWave runtime.sample) speakId 0
    (speechItems (fragments speakId))

/-- The bytes the completion of a request declares. -/
abbrev totalOf (runtime : ProviderRuntime) (fragments : ℕ → List Json) (speakId : ℕ) : ℕ :=
  spokenWords (speechItems (fragments speakId)) * (generateSineWave runtime.sample).length

/-- A running task and what the session knows of its request. -/
structure Serves (runtime : ProviderRuntime) (fragments : ℕ → List Json)
    (history : List SessionTransition) (session : Session) (task : SynthesisTask) : Prop where
  bounds : WithinBounds (generateSineWave runtime.sample) (speechItems (fragments task.speakId))
    task.speakId
  books : ∃ sent, audioOf sent = committedBytes task.speakId history ∧
    KeepsBooks runtime.fragmentMessage (generateSineWave runtime.sample)
      (speechItems (fragments task.speakId)) (session.provider task.speakId) sent task

/-- What holds in every state of a session with the mock provider that nothing disturbs. -/
structure MockInvariant (runtime : ProviderRuntime) (fragments : ℕ → List Json)
    (history : List SessionTransition) (state : MockSession) : Prop where
  recorded : sessionMachine.recorded.Reaches KeepsProtocol history state.session
  counter : state.session.speakIdCounter < 2 ^ 64
  accepting : state.provider.refusing = none
  serves : ∀ task ∈ state.provider.speakTask, task.isCompleted = false →
    Serves runtime fragments history state.session task
  rests : ∀ task ∈ state.provider.speakTask, task.isCompleted = true → task.pending = .nothing
  sounds : ∀ speakId, committedBytes speakId history <+: audioOf (speechOf runtime fragments speakId)
  completions : ∀ speakId, ∀ event ∈ (state.session.provider speakId).terminals,
    event.type = .synthesisComplete →
      event.terminalAudioBytes = totalOf runtime fragments speakId

/-! ## The parts -/

section Parts

variable {message : String} {wave : List UInt8} {items : List SpeechItem}
  {request : RequestSession} {sent : List Output} {task next : SynthesisTask}
  {history : List SessionTransition} {session after : Session} {action : SessionAction}
  {events : List SessionObservation}

/-- What a request is bound by. -/
theorem Speakable.withinBounds {speakId : ℕ} (speakable : Speakable (fragments speakId))
    (bounded : speakId < 2 ^ 64) (positive : speakId ≠ 0) :
    WithinBounds (generateSineWave runtime.sample) (speechItems (fragments speakId)) speakId where
  bounded := bounded
  positive := positive
  readable := speakable.readable
  duration := speakable.duration
  lengths := speakable.lengths
  bytes := by
    have duration := speakable.duration
    rw [generateSineWave_length]
    omega
  sounds := by
    intro none
    have length := generateSineWave_length runtime.sample
    rw [none] at length
    cases length
  frames := by
    rw [generateSineWave_length]
    decide

/-- What a task has sent of sound is a first part of the sound of its speech. -/
theorem KeepsBooks.sound (books : KeepsBooks message wave items request sent task) :
    audioOf sent <+: audioOf (transcript message wave task.speakId 0 items) := by
  cases books with
  | speaking _ parts =>
      rw [← parts, audioOf_append]
      exact List.prefix_append _ _
  | @caught first late rest _ _ parts cut records =>
      have quiet : audioOf late = [] := by
        have all : audioOf (late ++ rest) = [] := by
          rw [records]
          rfl
        rw [audioOf_append] at all
        exact (List.append_eq_nil_iff.mp all).1
      obtain ⟨left, whole⟩ := cut
      rw [parts, audioOf_append, quiet, List.append_nil, ← whole, audioOf_append]
      exact List.prefix_append _ _

/-- A completed task has nothing in flight. -/
theorem KeepsBooks.rests (books : KeepsBooks message wave items request sent task)
    (completed : task.isCompleted = true) : task.pending = .nothing := by
  have place := SynthesisTask.place_of_isCompleted completed
  cases books with
  | speaking sends =>
      cases sends with
      | completed _ pending => exact pending
      | refused other | bufferedAudio other | stalled _ other | wordBoundary _ other
      | wordDelay _ other | firstAudio _ other | bookmark _ _ other | completing _ other
      | completion _ other =>
          rw [place] at other
          cases other
  | caught caught =>
      cases caught with
      | acknowledged _ pending => exact pending
      | delay other | boundary other | acknowledging other =>
          rw [place] at other
          cases other

/-- A completed task takes no step. -/
theorem SynthesisTask.step_of_isCompleted {action : TaskAction}
    (completed : task.isCompleted = true) (rests : task.pending = .nothing) :
    task.step runtime action = none := by
  have place := SynthesisTask.place_of_isCompleted completed
  cases action with
  | transferRecord | transferAudio => simp [SynthesisTask.step, rests]
  | resume => simp [SynthesisTask.step, place]
  | resumeCancelled => simp [SynthesisTask.step, place, SynthesisPlace.usesToken]
  | resumeFailed => simp [SynthesisTask.step, completed]

/-- A step of the engine is none of the provider's. -/
theorem SessionStep.engines (engines : action.isEngines = true)
    (taken : SessionStep session action after events) :
    KeepsProtocol session action ∧ after.provider = session.provider ∧
      (∀ speakId, action.commits speakId = []) := by
  cases taken with
  | spoken | moved | recordRead => exact ⟨⟨trivial, trivial⟩, rfl, fun _ => rfl⟩
  | audioRead reads =>
      obtain ⟨now, ⟨rfl, -⟩ | ⟨rfl, -⟩⟩ := reads
      · exact ⟨⟨trivial, trivial⟩, rfl, fun _ => rfl⟩
      · exact ⟨⟨trivial, trivial⟩, rfl, fun _ => rfl⟩
  | received | committed | sent => cases engines

/-- What the session makes of something a task hands over. -/
structure HandedOver (session after : Session) (speakId : ℕ) (output : TaskOutput) : Prop where
  keeps : KeepsProtocol session (output.action speakId)
  books : after.provider speakId = (session.provider speakId).take output
  others : ∀ other, other ≠ speakId → after.provider other = session.provider other
  commits : (output.action speakId).commits speakId = audioOf (handedOver (some output))
  silent : ∀ other, other ≠ speakId → (output.action speakId).commits other = []
  counter : after.speakIdCounter = session.speakIdCounter

/-- The session takes what the lifecycle allows. -/
theorem handedOver_spec {speakId total : ℕ} {output : TaskOutput}
    (allowed : (session.provider speakId).Allows speakId total output)
    (taken : session.step (output.action speakId) = some (after, events)) :
    HandedOver session after speakId output := by
  cases output with
  | record json =>
      cases taken
      obtain ⟨same, noLog, wellFormed, completes, acknowledges⟩ := allowed
      refine ⟨⟨⟨fun log => absurd log noLog, fun complete => ?_, fun cancelled => ?_⟩, wellFormed⟩,
        ?_, fun other different => ?_, rfl, fun _ _ => rfl, rfl⟩
      · rw [same]
        exact ⟨(completes complete).1, (completes complete).2.1⟩
      · rw [same]
        exact acknowledges cancelled
      · simp only [Session.send, RequestSession.take]
        split
        · rw [same, updateRequest_same]
        · rfl
      · simp only [Session.send]
        split
        · exact updateRequest_other (same.symm ▸ different)
        · rfl
  | audio bytes =>
      cases taken
      refine ⟨⟨allowed, trivial⟩, ?_, fun other different => ?_, ?_, fun other different => ?_, rfl⟩
      · simp only [Session.commit]
        exact updateRequest_same
      · simp only [Session.commit]
        exact updateRequest_other different
      · change (if speakId = speakId then bytes else []) = _
        rw [if_pos rfl]
        exact (audioOf_audioOutputs bytes).symm
      · change (if speakId = other then bytes else []) = []
        exact if_neg different.symm

/-- The completions in the books declare the total that is allowed. -/
theorem RequestSession.Allows.completions {speakId total : ℕ} {output : TaskOutput}
    (allowed : request.Allows speakId total output)
    (before : ∀ event ∈ request.terminals, event.type = .synthesisComplete →
      event.terminalAudioBytes = total) :
    ∀ event ∈ (request.take output).terminals, event.type = .synthesisComplete →
      event.terminalAudioBytes = total := by
  intro event member complete
  cases output with
  | audio bytes => exact before event member complete
  | record json =>
      simp only [RequestSession.take] at member
      split at member
      · rcases List.mem_append.mp member with old | new
        · exact before event old complete
        · rw [List.mem_singleton.mp new] at complete ⊢
          exact (allowed.2.2.2.1 complete).2.2
      · exact before event member complete

/-- The books and the bytes of a task's request are as they were. -/
theorem Serves.transfer {task : SynthesisTask} {after : Session}
    {later : List SessionTransition} (serves : Serves runtime fragments history session task)
    (books : after.provider task.speakId = session.provider task.speakId)
    (committed : committedBytes task.speakId later = committedBytes task.speakId history) :
    Serves runtime fragments later after task where
  bounds := serves.bounds
  books := by
    rw [books, committed]
    exact serves.books

end Parts

/-! ## The steps -/

namespace MockInvariant

variable {history : List SessionTransition} {state : MockSession} {action : SessionAction}
  {session : Session} {events : List SessionObservation} {provider : MockProvider}

theorem initial {session : Session} (start : sessionMachine.init session) :
    MockInvariant runtime fragments [] { session } where
  recorded := ⟨session, start, .refl⟩
  counter := by
    obtain ⟨_, _, rfl⟩ := start
    exact Nat.two_pow_pos 64
  accepting := rfl
  serves _ member := by cases member
  rests _ member := by cases member
  sounds _ := List.nil_prefix
  completions _ _ member := by
    obtain ⟨_, _, rfl⟩ := start
    cases member

/-- The session takes a step that commits nothing and adds no terminal record. -/
theorem silent (invariant : MockInvariant runtime fragments history state)
    (keeps : KeepsProtocol state.session action)
    (taken : state.session.step action = some (session, events))
    (counter : session.speakIdCounter < 2 ^ 64)
    (uncommitted : ∀ speakId, action.commits speakId = [])
    (terminals : ∀ speakId, (session.provider speakId).terminals =
      (state.session.provider speakId).terminals)
    (accepting : provider.refusing = none)
    (serves : ∀ task ∈ provider.speakTask, task.isCompleted = false →
      Serves runtime fragments (history ++ [⟨state.session, action, session, events⟩]) session task)
    (rests : ∀ task ∈ provider.speakTask, task.isCompleted = true → task.pending = .nothing) :
    MockInvariant runtime fragments (history ++ [⟨state.session, action, session, events⟩])
      { session, provider } where
  recorded := invariant.recorded.step keeps (Machine.step_recorded taken)
  counter := counter
  accepting := accepting
  serves := serves
  rests := rests
  sounds speakId := by
    rw [committedBytes_append, committedBytes_singleton, uncommitted, List.append_nil]
    exact invariant.sounds speakId
  completions speakId event member := by
    rw [terminals] at member
    exact invariant.completions speakId event member

/-- A step of the engine. -/
theorem engines (invariant : MockInvariant runtime fragments history state)
    (engines : action.isEngines = true)
    (allowed : Undisturbed runtime state (.engine action))
    (taken : state.session.step action = some (session, events)) :
    MockInvariant runtime fragments (history ++ [⟨state.session, action, session, events⟩])
      { state with session } := by
  have spec := sessionStep_spec taken
  obtain ⟨keeps, books, uncommitted⟩ := spec.engines engines
  have counter : session.speakIdCounter < 2 ^ 64 := by
    cases spec with
    | spoken => exact allowed
    | moved | audioRead | recordRead | received | committed | sent => exact invariant.counter
  refine invariant.silent keeps taken counter uncommitted (fun speakId => by rw [books])
    invariant.accepting (fun task member running => ?_) invariant.rests
  refine (invariant.serves task member running).transfer (congrFun books _) ?_
  rw [committedBytes_append, committedBytes_singleton, uncommitted, List.append_nil]

/-- A request the provider is asked for is new to it. -/
theorem fresh {speakId : ℕ} {rest : List Command}
    (invariant : MockInvariant runtime fragments history state)
    (pipe : state.session.commandPipe = .sapiSpeak speakId :: rest) :
    (state.session.provider speakId).phase = .unknown ∧
      (state.session.provider speakId).committed = 0 ∧
      (state.session.provider speakId).terminals = [] ∧
      committedBytes speakId history = [] ∧ speakId < 2 ^ 64 ∧ speakId ≠ 0 := by
  have lifecycle : AttributionInvariant state.session ∧ LifecycleInvariant state.session := by
    refine lifecycleInvariant ?_ invariant.recorded.forget
    exact fun _ _ allowed => allowed.1
  have committed : CommittedInvariant history state.session := by
    refine committedInvariant ?_ invariant.recorded
    exact fun _ _ allowed => allowed.1.keepsByteContract
  have once := askedOnce invariant.recorded.forget
  have asked : speakId ∈ state.session.asked := by
    rw [Session.asked, pipe]
    exact List.mem_append_left _ List.mem_cons_self
  have unknown := once.unknown speakId asked
  have silent := lifecycle.1.silent speakId unknown
  refine ⟨unknown, silent, (lifecycle.2.lived speakId).none_of_unknown unknown, ?_,
    (once.known speakId (.inl asked)).trans_lt invariant.counter, once.positive speakId asked⟩
  rw [← List.length_eq_zero_iff, committed.books, silent]

/-- The provider takes a request it is asked for. -/
theorem asked {speakId : ℕ} {rest : List Command}
    (invariant : MockInvariant runtime fragments history state)
    (speakable : Speakable (fragments speakId))
    (pipe : state.session.commandPipe = .sapiSpeak speakId :: rest)
    (idle : state.provider.running = false)
    (taken : state.session.step .receive = some (session, events)) :
    MockInvariant runtime fragments (history ++ [⟨state.session, .receive, session, events⟩])
      { session, provider := state.provider.handleSpeakCommand runtime fragments speakId } := by
  obtain ⟨unknown, silent, none, nothing, bounded, positive⟩ := invariant.fresh pipe
  have after : session = { state.session with
      commandPipe := rest
      provider := updateRequest state.session.provider speakId .receiveSpeak } := by
    simp only [Session.step, Session.receive, pipe, Option.some.injEq, Prod.mk.injEq] at taken
    exact taken.1.symm
  have task : (state.provider.handleSpeakCommand runtime fragments speakId).speakTask =
      some (.handleSpeak runtime speakId (fragments speakId)) := by
    rw [MockProvider.handleSpeakCommand, idle]
    rfl
  have same : (SynthesisTask.handleSpeak runtime speakId (fragments speakId)).speakId = speakId :=
    (SameCount.synthesizeFragments ..).speakId
  have begun : KeepsBooks runtime.fragmentMessage (generateSineWave runtime.sample)
      (speechItems (fragments speakId)) (session.provider speakId) []
      (.handleSpeak runtime speakId (fragments speakId)) := by
    rw [after]
    simp only [updateRequest_same]
    exact KeepsBooks.begin speakId (fragments speakId) unknown silent none
  refine invariant.silent ⟨trivial, trivial⟩ taken (after ▸ invariant.counter) (fun _ => rfl)
    (fun other => ?_) ?_ (fun started member _ => ?_) fun started member completed => ?_
  · rw [after]
    exact updateRequest_imp (motive := fun request =>
      request.terminals = (state.session.provider other).terminals) other (fun _ same => same) rfl
  · rw [MockProvider.handleSpeakCommand, idle]
    exact invariant.accepting
  · rw [task, Option.mem_some_iff] at member
    subst member
    refine ⟨?_, [], ?_, ?_⟩
    · rw [same]
      exact speakable.withinBounds bounded positive
    · rw [same, committedBytes_append, nothing]
      rfl
    · rw [same]
      exact begun
  · rw [task, Option.mem_some_iff] at member
    subst member
    exact begun.rests completed

/-- The provider takes a cancel. -/
theorem cancelled {speakId : ℕ} {rest : List Command}
    (invariant : MockInvariant runtime fragments history state)
    (pipe : state.session.commandPipe = .cancel speakId :: rest)
    (whole : state.provider.running = true → ∀ task ∈ state.provider.speakTask,
      task.speakId = speakId ∧ ¬task.PartlyWritten (generateSineWave runtime.sample))
    (taken : state.session.step .receive = some (session, events)) :
    MockInvariant runtime fragments (history ++ [⟨state.session, .receive, session, events⟩])
      { session, provider := state.provider.handleCancelCommand } := by
  have after : session = { state.session with
      commandPipe := rest
      provider := updateRequest state.session.provider speakId .receiveCancel } := by
    simp only [Session.step, Session.receive, pipe, Option.some.injEq, Prod.mk.injEq] at taken
    exact taken.1.symm
  have accepting : state.provider.handleCancelCommand.refusing = none := by
    unfold MockProvider.handleCancelCommand
    split
    · exact invariant.accepting
    · exact invariant.accepting
  have token {task : SynthesisTask} (member : task ∈ state.provider.handleCancelCommand.speakTask) :
      ∃ before ∈ state.provider.speakTask, task = { before with cancelled := true } := by
    unfold MockProvider.handleCancelCommand at member
    split at member
    · next none =>
        rw [none] at member
        cases member
    · next before current =>
        cases member
        exact ⟨before, current, rfl⟩
  refine invariant.silent ⟨trivial, trivial⟩ taken (after ▸ invariant.counter) (fun _ => rfl)
    (fun other => ?_) accepting (fun task member running => ?_) fun task member completed => ?_
  · rw [after]
    exact updateRequest_imp (motive := fun request =>
      request.terminals = (state.session.provider other).terminals) other (fun _ same => same) rfl
  · obtain ⟨before, current, rfl⟩ := token member
    have still : state.provider.running = true := by
      rw [MockProvider.running, Option.mem_def.mp current]
      simpa [SynthesisTask.isCompleted] using running
    obtain ⟨same, notPartly⟩ := whole still before current
    obtain ⟨bounds, sent, bytes, books⟩ := invariant.serves before current running
    refine ⟨bounds, sent, ?_, ?_⟩
    · rw [bytes, committedBytes_append]
      exact (List.append_nil _).symm
    · have cancelled := books.cancel notPartly
      rw [after, same]
      simp only [updateRequest_same]
      rw [same] at cancelled
      exact cancelled
  · obtain ⟨before, current, rfl⟩ := token member
    exact invariant.rests before current completed

/-- The task takes a step. -/
theorem worked {task next : SynthesisTask} {output : Option TaskOutput} {step : TaskAction}
    (invariant : MockInvariant runtime fragments history state)
    (current : state.provider.speakTask = some task) (succeeds : step.Succeeds)
    (stepped : task.step runtime step = some (next, output)) :
    ∃ sent, audioOf sent = committedBytes task.speakId history ∧
      WithinBounds (generateSineWave runtime.sample) (speechItems (fragments task.speakId))
        task.speakId ∧ next.speakId = task.speakId ∧
      (∀ some ∈ output, (state.session.provider task.speakId).Allows task.speakId
        (totalOf runtime fragments task.speakId) some) ∧
      KeepsBooks runtime.fragmentMessage (generateSineWave runtime.sample)
        (speechItems (fragments task.speakId))
        (output.elim (state.session.provider task.speakId)
          (state.session.provider task.speakId).take) (sent ++ handedOver output) next := by
  cases completed : task.isCompleted with
  | true =>
      rw [SynthesisTask.step_of_isCompleted completed (invariant.rests task current completed)]
        at stepped
      cases stepped
  | false =>
      obtain ⟨bounds, sent, bytes, books⟩ := invariant.serves task current completed
      obtain ⟨allowed, after⟩ := books.step bounds succeeds stepped
      exact ⟨sent, bytes, bounds, (SynthesisTask.step_sameTask stepped).1.speakId, allowed, after⟩

/-- The session takes what the task hands over. -/
theorem handed {task next : SynthesisTask} {output : TaskOutput} {sent : List Output}
    (invariant : MockInvariant runtime fragments history state)
    (taken : state.session.step (output.action task.speakId) = some (session, events))
    (bytes : audioOf sent = committedBytes task.speakId history)
    (bounds : WithinBounds (generateSineWave runtime.sample)
      (speechItems (fragments task.speakId)) task.speakId)
    (same : next.speakId = task.speakId)
    (permitted : (state.session.provider task.speakId).Allows task.speakId
      (totalOf runtime fragments task.speakId) output)
    (books : KeepsBooks runtime.fragmentMessage (generateSineWave runtime.sample)
      (speechItems (fragments task.speakId)) ((state.session.provider task.speakId).take output)
      (sent ++ handedOver (some output)) next) :
    MockInvariant runtime fragments
      (history ++ [⟨state.session, output.action task.speakId, session, events⟩])
      { session, provider := { state.provider with speakTask := some next } } := by
  have handed := handedOver_spec permitted taken
  have committed : committedBytes task.speakId
      (history ++ [⟨state.session, output.action task.speakId, session, events⟩]) =
      audioOf (sent ++ handedOver (some output)) := by
    rw [committedBytes_append, committedBytes_singleton, audioOf_append, bytes]
    exact congrArg _ handed.commits
  refine ⟨invariant.recorded.step handed.keeps (Machine.step_recorded taken),
    handed.counter ▸ invariant.counter, invariant.accepting, fun other member _ => ?_,
    fun other member completed => ?_, fun speakId => ?_, fun speakId => ?_⟩
  · cases member
    refine ⟨same ▸ bounds, sent ++ handedOver (some output), ?_, ?_⟩
    · rw [same, committed]
    · rw [same, handed.books]
      exact books
  · cases member
    exact books.rests completed
  · by_cases here : speakId = task.speakId
    · subst here
      have sound := books.sound
      rw [same] at sound
      exact committed ▸ sound
    · rw [committedBytes_append, committedBytes_singleton]
      change committedBytes speakId history ++ (output.action task.speakId).commits speakId <+: _
      rw [handed.silent speakId here, List.append_nil]
      exact invariant.sounds speakId
  · by_cases here : speakId = task.speakId
    · subst here
      change ∀ event ∈ (session.provider task.speakId).terminals, _
      rw [handed.books]
      exact permitted.completions (invariant.completions task.speakId)
    · change ∀ event ∈ (session.provider speakId).terminals, _
      rw [handed.others speakId here]
      exact invariant.completions speakId

/-- **Every step keeps the invariant.** -/
theorem step {action : MockAction} {next : MockSession} {transitions : List SessionTransition}
    (invariant : MockInvariant runtime fragments history state)
    (speakable : ∀ speakId, Speakable (fragments speakId))
    (allowed : Undisturbed runtime state action)
    (taken : MockStep runtime fragments state action next transitions) :
    MockInvariant runtime fragments (history ++ transitions) next := by
  cases taken with
  | engine engines taken => exact invariant.engines engines allowed taken
  | @received command rest session events pipe ready taken =>
      rw [Undisturbed, pipe] at allowed
      cases command with
      | sapiSpeak speakId => exact invariant.asked (speakable speakId) pipe allowed taken
      | cancel speakId => exact invariant.cancelled pipe allowed taken
  | cancelAwaited =>
      rw [List.append_nil]
      exact ⟨invariant.recorded, invariant.counter, invariant.accepting, invariant.serves,
        invariant.rests, invariant.sounds, invariant.completions⟩
  | refused here =>
      rw [invariant.accepting] at here
      cases here
  | @silent _ task after current stepped =>
      obtain ⟨sent, bytes, bounds, same, -, books⟩ := invariant.worked current allowed stepped
      rw [List.append_nil]
      refine ⟨invariant.recorded, invariant.counter, invariant.accepting, fun other member _ => ?_,
        fun other member completed => ?_, invariant.sounds, invariant.completions⟩
      · cases member
        refine ⟨same ▸ bounds, sent, same ▸ bytes, ?_⟩
        rw [same]
        exact List.append_nil sent ▸ books
      · cases member
        exact books.rests completed
  | @hands _ task after output session events current stepped taken =>
      obtain ⟨sent, bytes, bounds, same, permitted, books⟩ :=
        invariant.worked current allowed stepped
      exact invariant.handed taken bytes bounds same (permitted output rfl) books

end MockInvariant

/-! ## A run of one word -/

/-- No call fails in the step, and no acknowledgement of a cancel is processed while the
completion of the same request stands as its terminal. -/
def GoesWell (session : Session) (action : SessionAction) : Prop :=
  CallsSucceed action ∧ AcknowledgesUnfinished session action

instance (session : Session) : DecidablePred (GoesWell session) :=
  fun _ => inferInstanceAs (Decidable (_ ∧ _))

/-- The word of a request is spoken to its end, and its sound written in two parts. -/
def oneWordSpoken : List MockAction :=
  [.engine (.speak 0), .engine (.engine (.dispatched .sOk)), .receive, .task .transferRecord,
    .task .resume, .task .resume, .task (.transferAudio 4001), .engine (.readControl 1),
    .engine (.engine (.thread .finalAdmission)),
    .engine (.engine (.thread .onSpeechEventReturns)), .engine (.readAudio 2 4001),
    .engine (.engine (.thread .spanAdmission)),
    .engine (.engine (.thread (.onAudioDataReturns true))),
    .engine (.engine (.thread .spanAdmission)), .engine (.engine (.thread (.batchOutcome 3))),
    .task (.transferAudio 5599), .task .resume, .task .transferRecord, .task .resume,
    .engine (.readControl 4), .engine (.readAudio 5 5599),
    .engine (.engine (.thread .spanAdmission)),
    .engine (.engine (.thread (.onAudioDataReturns true))),
    .engine (.engine (.thread .spanAdmission)),
    .engine (.engine (.thread (.onAudioDataReturns true))),
    .engine (.engine (.thread .spanAdmission)), .engine (.engine (.thread (.batchOutcome 6))),
    .engine (.engine .waitEnds), .engine (.engine (.thread .finalAdmission))]

/-- The session with the provider that is asked for one word every time. -/
def wordSession : Machine MockSession MockAction SessionTransition :=
  mockMachine silentRuntime fun _ => oneWord

def wordStart : MockSession := { session := .initial 2 Nat.two_pos }

def wordHistory : List SessionTransition := wordSession.emitted wordStart oneWordSpoken

def wordEnd : MockSession := wordSession.finalState wordStart oneWordSpoken

theorem oneWord_speakable : Speakable oneWord := by
  have items : speechItems oneWord = [.word 0 [0x61]] := by decide +kernel
  exact ⟨by simp [items], by simp [items], by simp [items]⟩

/-- What the run shows, evaluated once. -/
theorem oneWordSpoken_possible :
    wordSession.Along (fun state action _ => Undisturbed silentRuntime state action) wordStart
      oneWordSpoken ∧
    (wordSession.exec wordStart oneWordSpoken).isSome = true ∧
    wordEnd.session.worker.frameAssembler.blockAlign = 2 ∧
    (∀ step ∈ wordHistory, GoesWell step.before step.action) ∧
    .requestStarted ⟨1, 1⟩ ∈ workerEventsOf wordHistory ∧
    .terminalBoundaryReached 1 9600 ∈ workerEventsOf wordHistory := by
  decide +kernel

theorem oneWordSpoken_reached :
    wordSession.Reaches (Undisturbed silentRuntime) wordHistory wordEnd := by
  obtain ⟨undisturbed, possible, -⟩ := oneWordSpoken_possible
  exact ⟨_, ⟨_, ⟨2, Nat.two_pos, rfl⟩, rfl⟩,
    wordSession.run_finalState wordStart oneWordSpoken undisturbed possible⟩

/-! ## The results -/

variable {history : List SessionTransition} {state : MockSession}

theorem mockInvariant (speakable : ∀ speakId, Speakable (fragments speakId))
    (reached : (mockMachine runtime fragments).Reaches (Undisturbed runtime) history state) :
    MockInvariant runtime fragments history state := by
  refine reached.induct (motive := MockInvariant runtime fragments) ?_ ?_
  · rintro _ ⟨session, start, rfl⟩
    exact .initial start
  · intro _ _ _ _ _ _ invariant allowed taken
    exact invariant.step speakable allowed (mockStep_spec taken)

/-- **The mock provider keeps to the protocol.** A session with it, in which nothing
disturbs it, is a session whose provider follows the lifecycle and sends well-formed
records, whatever its requests ask it to speak and however its steps fall between those of
the engine. -/
theorem mockProvider_keepsProtocol (speakable : ∀ speakId, Speakable (fragments speakId))
    (reached : (mockMachine runtime fragments).Reaches (Undisturbed runtime) history state) :
    sessionMachine.recorded.Reaches KeepsProtocol history state.session :=
  (mockInvariant speakable reached).recorded

theorem mockProvider_keepsProtocol_word :
    sessionMachine.recorded.Reaches KeepsProtocol wordHistory wordEnd.session :=
  mockProvider_keepsProtocol (fun _ => oneWord_speakable) oneWordSpoken_reached

/-- A request that was not cancelled has sent no terminal record but its completion. -/
theorem RequestSession.Lived.complete {request : RequestSession} {event : ProviderControlEvent}
    (lived : request.Lived) (unconsumed : request.cancelConsumed ≠ true)
    (member : event ∈ request.terminals) : event.type = .synthesisComplete := by
  cases lived with
  | unknown _ none | active _ none =>
      rw [none] at member
      cases member
  | declared _ complete one =>
      rw [one, List.mem_singleton] at member
      rw [member]
      exact complete
  | cancelling _ consumed | cancelled _ consumed => exact absurd consumed unconsumed

namespace MockInvariant

variable {token : RequestToken}

theorem keepsByteContract (session : Session) (action : SessionAction)
    (allowed : KeepsProtocol session action) : KeepsByteContract session action :=
  allowed.1.keepsByteContract

/-- What was handed over of a request is a first part of the sound of its words. -/
theorem handed_prefix (invariant : MockInvariant runtime fragments history state)
    (started : .requestStarted token ∈ workerEventsOf history) :
    handedOf token.generation (workerEventsOf history) <+:
      soundOf (generateSineWave runtime.sample)
        (spokenWords (speechItems (fragments token.speakId))) := by
  have committed := committedInvariant keepsByteContract invariant.recorded
  have counted := countedInvariant keepsByteContract invariant.recorded.forget
  have speech := (invariant.sounds token.speakId).trans (transcript_sound ..)
  exact (committed.handed counted (recorded_delivered invariant.recorded) started).trans speech

/-- At the declared end of a request all of its sound was taken. -/
theorem accepted_eq (invariant : MockInvariant runtime fragments history state)
    (started : .requestStarted token ∈ workerEventsOf history) {declared : ℕ}
    (reported : .terminalBoundaryReached token.generation declared ∈ workerEventsOf history) :
    acceptedOf token.generation (workerEventsOf history) =
      soundOf (generateSineWave runtime.sample)
        (spokenWords (speechItems (fragments token.speakId))) := by
  have committed := committedInvariant keepsByteContract invariant.recorded
  obtain ⟨owner, owns, same, enough, event, record, -, bytes, step, member, speaking, spoken, books⟩ :=
    endReached keepsByteContract invariant.recorded reported
  have here : owner = token := committed.unique owner token owns started same
  subst here
  -- The record was sent while the request was speaking, so it is the completion.
  obtain ⟨before, _, -, earlier, -⟩ := invariant.recorded.of_mem member
  have lifecycle : AttributionInvariant step.before ∧ LifecycleInvariant step.before := by
    refine lifecycleInvariant ?_ earlier.forget
    intro session action allowed
    exact allowed.1
  have complete : event.type = .synthesisComplete := by
    refine (lifecycle.2.lived owner.speakId).complete ?_ books
    intro consumed
    exact lifecycle.2.uncancelled speaking (.inr (.inr (.inr (spoken ▸ consumed))))
  have total := invariant.completions owner.speakId event record complete
  have length := (soundOf_length ..).trans (total.symm.trans bytes)
  have whole := ((recorded_delivered invariant.recorded).acceptedHanded owner.generation).trans
    (invariant.handed_prefix started)
  exact whole.eq_of_length (Nat.le_antisymm whole.length_le (length ▸ enough))

end MockInvariant

/-- **What SAPI is handed of a request of the mock provider is the sound of its words.** In
every state of a session with it that nothing disturbs, it is a first part of that sound,
and once the request has reached its declared end SAPI has taken all of it. -/
theorem mockProvider_speaks (speakable : ∀ speakId, Speakable (fragments speakId))
    (reached : (mockMachine runtime fragments).Reaches (Undisturbed runtime) history state)
    {token : RequestToken} (started : .requestStarted token ∈ workerEventsOf history) :
    let sound := soundOf (generateSineWave runtime.sample)
      (spokenWords (speechItems (fragments token.speakId)))
    handedOf token.generation (workerEventsOf history) <+: sound ∧
      ∀ declared, .terminalBoundaryReached token.generation declared ∈ workerEventsOf history →
        acceptedOf token.generation (workerEventsOf history) = sound := by
  intro sound
  have invariant := mockInvariant speakable reached
  exact ⟨invariant.handed_prefix started, fun _ => invariant.accepted_eq started⟩

theorem mockProvider_speaks_word :
    acceptedOf 1 (workerEventsOf wordHistory) = soundOf (generateSineWave fun _ => 0) 1 ∧
      (acceptedOf 1 (workerEventsOf wordHistory)).length = 9600 := by
  obtain ⟨-, -, -, -, started, reported⟩ := oneWordSpoken_possible
  have one : spokenWords (speechItems oneWord) = 1 := by decide +kernel
  obtain ⟨-, whole⟩ := mockProvider_speaks (fun _ => oneWord_speakable) oneWordSpoken_reached started
  have accepted := whole 9600 reported
  rw [one] at accepted
  refine ⟨accepted, ?_⟩
  rw [accepted, soundOf_length, generateSineWave_length]

end Refinement

end ModernSapi
