import ModernSapi.V1.PoolInvariant

/-!
# The syntheses of the pool

An aborted call leaves its synthesis behind, and the SDK goes on with it until a thread has
stopped it. The synthesizer is not given to another call before that.

`PoolEffect` says once what a step of an orderly run can do (`step_effect`).
`SynthesisInvariant` is what it keeps: a synthesis that goes on belongs to a call that speaks,
or to one that has seen the abort flag, and the handler of a call that speaks points at the
parameters of that call.
-/

set_option autoImplicit false

namespace ModernSapi

open Interleaving SynthesizerPool

/-! ## What a step can do -/

/-- What becomes of the entry of a call, apart from its attaching and detaching. -/
inductive CallStep : ProviderCall → ProviderCall → Prop where
  | enter {entry : ProviderCall} (params : ProviderSpeakParams) (uncalled : entry.phase = .uncalled) :
      CallStep entry { entry with params, phase := .entered }
  | acquire {entry : ProviderCall} {phase : SpeakPhase}
      (before : entry.phase = .entered ∨ entry.phase = .waiting)
      (after : phase = .waiting ∨ (∃ engine, phase = .acquired engine) ∨
        ∃ result, phase = .returned result) :
      CallStep entry { entry with phase }
  | speak {entry : ProviderCall} {engine : ℕ} (attached : entry.phase = .attached engine) :
      CallStep entry { entry with phase := .synthesizing engine, synthesis := some engine }
  | speakFails {entry : ProviderCall} {engine : ℕ} (attached : entry.phase = .attached engine) :
      CallStep entry { entry with phase := .ending engine false }
  | abort (entry : ProviderCall) : CallStep entry { entry with abortFlag := true }
  | abortSeen {entry : ProviderCall} {engine : ℕ} (synthesizing : entry.phase = .synthesizing engine)
      (aborted : entry.isAborted = true) : CallStep entry { entry with phase := .aborting engine }
  | futureReady {entry : ProviderCall} {engine : ℕ} {result : Bool}
      (synthesizing : entry.phase = .synthesizing engine) (ended : entry.synthesis = none) :
      CallStep entry { entry with phase := .ending engine result }
  | release {entry : ProviderCall} {engine : ℕ} {result : Bool}
      (releasing : entry.phase = .releasing engine result) :
      CallStep entry { entry with phase := .returned result }
  | synthesisEnds (entry : ProviderCall) : CallStep entry { entry with synthesis := none }

namespace SynthesizerPool

variable {needAddingSpace : List UInt16 → List UInt16 → Bool} {state next : SynthesizerPool}
  {call other engine place : ℕ} {events : List PoolObservation} {action : PoolAction}

/-- Nothing is seen of a step but calls that enter and return, and the bookmarks of a call that
returns since it has nothing to speak. -/
def Quiet (needAddingSpace : List UInt16 → List UInt16 → Bool) (next : SynthesizerPool)
    (observation : PoolObservation) : Prop :=
  match observation with
  | .entered _ | .returned _ _ => True
  | .metaCallback call _ =>
      (parsed needAddingSpace (next.calls call).params).hasSpeakableText = false ∧
        next.phase call = .returned true
  | .wrote _ _ | .reported _ _ | .audioCallback _ _ => False

/-- What an orderly step does. -/
inductive PoolEffect (needAddingSpace : List UInt16 → List UInt16 → Bool)
    (state : SynthesizerPool) : SynthesizerPool → List PoolObservation → Prop where
  | moved {next : SynthesizerPool} {events : List PoolObservation} {call : ℕ} {entry : ProviderCall}
      (step : CallStep (state.calls call) entry)
      (calls : next.calls = Function.update state.calls call entry)
      (handlers : ∀ engine, next.handler engine = state.handler engine ∨
        ((next.handler engine).params = none ∧ (state.handler engine).params = none))
      (stops : next.stops = state.stops)
      (quiet : ∀ event ∈ events, Quiet needAddingSpace next event) :
      PoolEffect needAddingSpace state next events
  | attached {call engine : ℕ} (acquired : state.phase call = .acquired engine) :
      PoolEffect needAddingSpace state
        ((state.attachContext needAddingSpace engine call).moves call (.attached engine)) []
  | detached {call engine : ℕ} {phase : SpeakPhase}
      (before : (state.phase call = .aborting engine ∧ phase = .stopping engine) ∨
        ∃ result, state.phase call = .ending engine result ∧ phase = .releasing engine result) :
      PoolEffect needAddingSpace state ((state.detachContext engine).moves call phase) []
  | left {call engine : ℕ} (stopping : state.phase call = .stopping engine) :
      PoolEffect needAddingSpace state
        ({ state with stops := (engine, call) :: state.stops }.moves call (.returned true))
        [.returned call true]
  | stopped {call engine : ℕ} (ended : (state.calls call).synthesis = none) :
      PoolEffect needAddingSpace state
        { state.releaseSynthesizer engine with stops := state.stops.erase (engine, call) } []
  | wrote {engine source : ℕ} {dataBuffer : List UInt8}
      (synthesizes : (state.calls source).synthesis = some engine) (whole : 2 ∣ dataBuffer.length) :
      PoolEffect needAddingSpace state (state.write engine dataBuffer).1
        (.wrote source dataBuffer :: (state.write engine dataBuffer).2)
  | reported {engine source : ℕ} {event : SdkEvent}
      (synthesizes : (state.calls source).synthesis = some engine) :
      PoolEffect needAddingSpace state (state.report engine event).1
        (.reported source event :: (state.report engine event).2)
  | callbackReturned (engine : ℕ) : PoolEffect needAddingSpace state (state.runs engine none) []

/-- A handler that points at the parameters of a call is that of a synthesizer the call has. -/
theorem PoolInvariant.holds (invariant : PoolInvariant state)
    (found : (state.handler engine).params = some call) : state.Holds call engine :=
  .inl (SpeakPhase.engine?_of_attachedTo? (invariant.attached found))

theorem PoolInvariant.unmade (invariant : PoolInvariant state) (large : state.created ≤ engine) :
    (state.handler engine).params = none := by
  by_contra found
  obtain ⟨call, found⟩ := Option.ne_none_iff_exists'.mp found
  exact absurd (invariant.holds_lt (invariant.holds found)) (not_lt.mpr large)

/-- A call without a synthesizer moves on, or is given one. -/
structure RoundEffect (state : SynthesizerPool) (call : ℕ) (next : SynthesizerPool)
    (events : List PoolObservation) (phase : SpeakPhase) : Prop where
  moved : phase = .waiting ∨ (∃ engine, phase = .acquired engine) ∨
    ∃ result, phase = .returned result
  calls : next.calls = Function.update state.calls call { state.calls call with phase }
  handlers : ∀ engine, next.handler engine = state.handler engine ∨
    ((next.handler engine).params = none ∧ (state.handler engine).params = none)
  stops : next.stops = state.stops
  quiet : ∀ event ∈ events, ∃ result, event = .returned call result

theorem RoundEffect.effect {phase : SpeakPhase} (effect : RoundEffect state call next events phase)
    (before : state.phase call = .entered ∨ state.phase call = .waiting) :
    PoolEffect needAddingSpace state next events := by
  refine .moved (.acquire before effect.moved) effect.calls effect.handlers effect.stops
    fun event member => ?_
  obtain ⟨result, rfl⟩ := effect.quiet event member
  trivial

theorem acquireRound_effect (invariant : PoolInvariant state) (call : ℕ) (creates : Bool) :
    ∃ phase, RoundEffect state call (state.acquireRound call creates).1
      (state.acquireRound call creates).2 phase := by
  simp only [acquireRound]
  split
  · next engine found =>
      refine ⟨_, .inr (.inl ⟨engine, rfl⟩), rfl, fun place => .inl ?_, rfl, by simp⟩
      rw [handler_moves, handler_setBusy]
  · split
    · split
      · refine ⟨_, .inr (.inl ⟨state.created, rfl⟩), rfl, fun place => ?_, rfl, by simp⟩
        have made : ((state.create (state.calls call).voiceName).moves call
            (.acquired state.created)).handler place =
              if place = state.created then {} else state.handler place := handler_setEngine _ _
        rw [made]
        split
        · next new => exact .inr ⟨rfl, invariant.unmade new.ge⟩
        · exact .inl rfl
      · exact ⟨_, .inr (.inr ⟨false, rfl⟩), rfl, fun _ => .inl rfl, rfl, by simp [returns]⟩
    · exact ⟨_, .inl rfl, rfl, fun _ => .inl rfl, rfl, by simp⟩

theorem speak_effect (needAddingSpace : List UInt16 → List UInt16 → Bool)
    (invariant : PoolInvariant state) (creates : Bool)
    (entered : state.phase call = .entered) :
    PoolEffect needAddingSpace state (state.speak needAddingSpace call creates).1
      (state.speak needAddingSpace call creates).2 := by
  have returning : ∀ result, CallStep (state.calls call)
      { state.calls call with phase := .returned result } :=
    fun result => .acquire (.inl entered) (.inr (.inr ⟨result, rfl⟩))
  simp only [speak]
  split
  · exact .moved (returning false) rfl (fun _ => .inl rfl) rfl (by simp [returns, Quiet])
  · next voiceName _ =>
      split
      · obtain ⟨phase, effect⟩ :=
          acquireRound_effect (invariant.purge voiceName) call creates
        have ofState : RoundEffect state call _ _ phase :=
          ⟨effect.moved, effect.calls, effect.handlers, effect.stops, effect.quiet⟩
        exact ofState.effect (.inl entered)
      · next unspeakable =>
          refine .moved (returning true) rfl (fun _ => .inl rfl) rfl fun event member => ?_
          rcases List.mem_append.mp member with bookmark | returned
          · obtain ⟨bookmark, -, rfl⟩ := List.mem_map.mp bookmark
            rw [Quiet, returns, phase_moves, if_pos rfl, moves, calls_setCall, if_pos rfl]
            exact ⟨Bool.eq_false_iff.mpr unspeakable, rfl⟩
          · rw [List.mem_singleton.mp returned]
            trivial

/-- **What an orderly step does.** -/
theorem step_effect (invariant : PoolInvariant state) (orderly : Orderly state action)
    (taken : state.step needAddingSpace action = some (next, events)) :
    PoolEffect needAddingSpace state next events := by
  cases action with
  | enter call params =>
      simp only [step, Option.ite_none_right_eq_some, Option.some.injEq, Prod.mk.injEq] at taken
      obtain ⟨uncalled, rfl, rfl⟩ := taken
      exact .moved (.enter params uncalled) rfl (fun _ => .inl rfl) rfl (by simp [Quiet])
  | acquire call creates =>
      simp only [step, Option.ite_none_right_eq_some, Option.some.injEq] at taken
      obtain ⟨entered, same⟩ := taken
      have effect := speak_effect needAddingSpace invariant creates entered
      rwa [same] at effect
  | notified call creates =>
      simp only [step, Option.ite_none_right_eq_some, Option.some.injEq] at taken
      obtain ⟨waiting, same⟩ := taken
      obtain ⟨phase, effect⟩ := acquireRound_effect invariant call creates
      rw [same] at effect
      exact effect.effect (.inr waiting)
  | timesOut call creates =>
      simp only [step, Option.ite_none_right_eq_some, Option.some.injEq] at taken
      obtain ⟨waiting, same⟩ := taken
      split at same
      · cases same
        exact .moved (.acquire (.inr waiting) (.inr (.inr ⟨true, rfl⟩))) rfl (fun _ => .inl rfl) rfl
          (by simp [Quiet])
      · obtain ⟨phase, effect⟩ := acquireRound_effect invariant call creates
        rw [same] at effect
        exact effect.effect (.inr waiting)
  | attach call =>
      simp only [step] at taken
      split at taken
      · next engine acquired =>
          split at taken
          · cases taken
            exact .attached acquired
          · cases taken
      · cases taken
  | speakSsml call starts =>
      simp only [step] at taken
      split at taken
      · next engine attached =>
          split at taken
          · cases taken
            refine .moved (.speak attached) ?_ (fun _ => .inl rfl) rfl (by simp)
            simp [moves, setSynthesis, setCall]
          · cases taken
            exact .moved (.speakFails attached) rfl (fun _ => .inl rfl) rfl (by simp)
      · cases taken
  | abort call =>
      simp only [step, Option.ite_none_right_eq_some, Option.some.injEq, Prod.mk.injEq] at taken
      obtain ⟨-, rfl, rfl⟩ := taken
      exact .moved (.abort _) rfl (fun _ => .inl rfl) rfl (by simp)
  | abortSeen call =>
      simp only [step] at taken
      split at taken
      · next engine synthesizing =>
          split at taken
          · next aborted =>
              cases taken
              exact .moved (.abortSeen synthesizing aborted) rfl (fun _ => .inl rfl) rfl (by simp)
          · cases taken
      · cases taken
  | futureReady call succeeds =>
      simp only [step] at taken
      split at taken
      · next engine synthesizing =>
          cases taken
          exact .moved (.futureReady synthesizing orderly) rfl (fun _ => .inl rfl) rfl (by simp)
      · cases taken
  | detach call =>
      simp only [step, detach] at taken
      split at taken
      · next engine aborting =>
          split at taken
          · cases taken
            exact .detached (.inl ⟨aborting, rfl⟩)
          · cases taken
      · next engine result ending =>
          split at taken
          · cases taken
            exact .detached (.inr ⟨result, ending, rfl⟩)
          · cases taken
      · cases taken
  | startStop call starts =>
      have started : starts = true := orderly
      simp only [step, startStop, started, if_true] at taken
      split at taken
      · next engine stopping =>
          cases taken
          exact .left stopping
      · cases taken
  | release call =>
      simp only [step] at taken
      split at taken
      · next engine result releasing =>
          cases taken
          refine .moved (.release releasing) rfl (fun place => .inl ?_) rfl (by simp [Quiet])
          rw [handler_moves, releaseSynthesizer, handler_setBusy]
      · cases taken
  | stopped engine call =>
      simp only [step, Option.ite_none_right_eq_some, Option.some.injEq, Prod.mk.injEq] at taken
      obtain ⟨-, rfl, rfl⟩ := taken
      exact .stopped orderly
  | write engine source dataBuffer =>
      simp only [step, Option.ite_none_right_eq_some, Option.some.injEq, Prod.mk.injEq] at taken
      obtain ⟨-, rfl, rfl⟩ := taken
      exact .wrote orderly.1 orderly.2
  | report engine source event =>
      simp only [step, Option.ite_none_right_eq_some, Option.some.injEq, Prod.mk.injEq] at taken
      obtain ⟨-, rfl, rfl⟩ := taken
      exact .reported orderly
  | callbackReturns engine =>
      simp only [step, Option.ite_none_right_eq_some, Option.some.injEq, Prod.mk.injEq] at taken
      obtain ⟨-, rfl, rfl⟩ := taken
      exact .callbackReturned engine
  | synthesisEnds source =>
      simp only [step, Option.ite_none_right_eq_some, Option.some.injEq, Prod.mk.injEq] at taken
      obtain ⟨-, rfl, rfl⟩ := taken
      exact .moved (.synthesisEnds _) rfl (fun _ => .inl rfl) rfl (by simp)

end SynthesizerPool

/-! ## The syntheses -/

/-- The synthesizer whose handler points at the parameters of the call. -/
def SpeakPhase.speaksAt? : SpeakPhase → Option ℕ
  | .attached engine | .synthesizing engine | .aborting engine => some engine
  | _ => none

namespace SynthesizerPool

variable {needAddingSpace : List UInt16 → List UInt16 → Bool} {state next : SynthesizerPool}
  {call other engine place : ℕ} {events : List PoolObservation} {action : PoolAction}

/-- A call in this phase has seen the abort flag, or left its synthesis to a thread. -/
def SeesAbort (state : SynthesizerPool) (call engine : ℕ) (phase : SpeakPhase) : Prop :=
  phase = .aborting engine ∨ phase = .stopping engine ∨ (engine, call) ∈ state.stops

/-- How the syntheses that go on stand to the calls and the handlers. -/
structure SynthesisInvariant (needAddingSpace : List UInt16 → List UInt16 → Bool)
    (state : SynthesizerPool) : Prop where
  synthesis : ∀ {call engine}, (state.calls call).synthesis = some engine →
    state.phase call = .synthesizing engine ∨ state.SeesAbort call engine (state.phase call)
  attached : ∀ {call engine}, (state.phase call).speaksAt? = some engine →
    (state.handler engine).params = some call
  aborted : ∀ {call engine}, state.SeesAbort call engine (state.phase call) →
    (state.calls call).isAborted = true
  offsets : ∀ {call engine}, (state.handler engine).params = some call →
    (state.handler engine).offsetMap = (parsed needAddingSpace (state.calls call).params).offsetMap

/-- The handlers point at what they pointed at. -/
structure KeepsParams (state next : SynthesizerPool) : Prop where
  calls : next.calls = state.calls
  stops : next.stops = state.stops
  params : ∀ engine, (next.handler engine).params = (state.handler engine).params
  offsetMap : ∀ engine, (next.handler engine).offsetMap = (state.handler engine).offsetMap

namespace KeepsParams

theorem refl (state : SynthesizerPool) : KeepsParams state state :=
  ⟨rfl, rfl, fun _ => rfl, fun _ => rfl⟩

theorem setHandler {streamHandler : AudioStreamHandler}
    (params : streamHandler.params = (state.handler engine).params)
    (offsetMap : streamHandler.offsetMap = (state.handler engine).offsetMap) :
    KeepsParams state (state.setHandler engine streamHandler) where
  calls := rfl
  stops := rfl
  params place := by
    rw [handler_setHandler]
    split
    · next here => rw [here, params]
    · rfl
  offsetMap place := by
    rw [handler_setHandler]
    split
    · next here => rw [here, offsetMap]
    · rfl

theorem trans {middle : SynthesizerPool} (first : KeepsParams state middle)
    (second : KeepsParams middle next) : KeepsParams state next where
  calls := second.calls.trans first.calls
  stops := second.stops.trans first.stops
  params engine := (second.params engine).trans (first.params engine)
  offsetMap engine := (second.offsetMap engine).trans (first.offsetMap engine)

end KeepsParams

theorem keeps_runs (running : Option ℕ) : KeepsParams state (state.runs engine running) :=
  .setHandler rfl rfl

theorem keeps_write (state : SynthesizerPool) (engine : ℕ) (dataBuffer : List UInt8) :
    KeepsParams state (state.write engine dataBuffer).1 := by
  simp only [write]
  split
  · exact .refl state
  · split
    · exact .refl state
    · have kept : KeepsParams state (state.setHandler engine
          { state.handler engine with
            audio := ((state.handler engine).audio.write dataBuffer).1 }) := .setHandler rfl rfl
      split
      · exact kept.trans (keeps_runs _)
      · exact kept

theorem keeps_report (state : SynthesizerPool) (engine : ℕ) (event : SdkEvent) :
    KeepsParams state (state.report engine event).1 := by
  simp only [report]
  split
  · exact .refl state
  · split
    · exact keeps_runs _
    · exact .refl state

namespace SynthesisInvariant

theorem initial : SynthesisInvariant needAddingSpace {} where
  synthesis found := by cases found
  attached found := by cases found
  aborted := by rintro call engine (found | found | found) <;> cases found
  offsets found := by cases found

/-- The entry of one call changes. -/
theorem moved (invariant : SynthesisInvariant needAddingSpace state) {entry : ProviderCall}
    (calls : next.calls = Function.update state.calls call entry)
    (handlers : ∀ engine, next.handler engine = state.handler engine ∨
      ((next.handler engine).params = none ∧ (state.handler engine).params = none))
    (stops : next.stops = state.stops)
    (synthesis : ∀ engine, entry.synthesis = some engine →
      entry.phase = .synthesizing engine ∨ state.SeesAbort call engine entry.phase)
    (attached : ∀ engine, entry.phase.speaksAt? = some engine →
      (state.phase call).speaksAt? = some engine)
    (aborted : ∀ engine, state.SeesAbort call engine entry.phase → entry.isAborted = true)
    (params : ∀ engine, (state.handler engine).params = some call →
      entry.params = (state.calls call).params) : SynthesisInvariant needAddingSpace next := by
  have phases : ∀ other, next.phase other =
      if other = call then entry.phase else state.phase other := by
    intro other
    rw [SynthesizerPool.phase, calls, Function.update_apply]
    split <;> rfl
  have seesAbort : ∀ other engine phase, next.SeesAbort other engine phase ↔
      state.SeesAbort other engine phase := by
    intro other engine phase
    rw [SeesAbort, SeesAbort, stops]
  constructor
  · intro other engine found
    rw [phases, seesAbort]
    rw [calls, Function.update_apply] at found
    split at found
    · next here =>
        subst here
        rw [if_pos rfl]
        exact synthesis engine found
    · next elsewhere =>
        rw [if_neg elsewhere]
        exact invariant.synthesis found
  · intro other engine found
    have before : (state.handler engine).params = some other := by
      rw [phases] at found
      split at found
      · next here =>
          subst here
          exact invariant.attached (attached engine found)
      · exact invariant.attached found
    rcases handlers engine with same | ⟨-, none_⟩
    · rw [same]
      exact before
    · rw [none_] at before
      cases before
  · intro other engine found
    rw [phases, seesAbort] at found
    rw [calls, Function.update_apply]
    split at found
    · next here =>
        subst here
        rw [if_pos rfl]
        exact aborted engine found
    · next elsewhere =>
        rw [if_neg elsewhere]
        exact invariant.aborted found
  · intro other engine found
    rcases handlers engine with same | ⟨none_, -⟩
    · rw [same] at found ⊢
      rw [invariant.offsets found, calls, Function.update_apply]
      split
      · next here =>
          subst here
          rw [params engine found]
      · rfl
    · rw [none_] at found
      cases found

theorem sameParams (invariant : SynthesisInvariant needAddingSpace state)
    (keeps : KeepsParams state next) : SynthesisInvariant needAddingSpace next := by
  have phases : next.phase = state.phase := by
    unfold SynthesizerPool.phase
    rw [keeps.calls]
  constructor
  · intro call engine found
    rw [keeps.calls] at found
    rw [phases, SeesAbort, keeps.stops]
    exact invariant.synthesis found
  · intro call engine found
    rw [phases] at found
    rw [keeps.params]
    exact invariant.attached found
  · intro call engine found
    rw [phases, SeesAbort, keeps.stops] at found
    rw [keeps.calls]
    exact invariant.aborted found
  · intro call engine found
    rw [keeps.params] at found
    rw [keeps.offsetMap, keeps.calls]
    exact invariant.offsets found

theorem callStep (invariant : SynthesisInvariant needAddingSpace state)
    (pool : PoolInvariant state) {entry : ProviderCall} (step : CallStep (state.calls call) entry)
    (calls : next.calls = Function.update state.calls call entry)
    (handlers : ∀ engine, next.handler engine = state.handler engine ∨
      ((next.handler engine).params = none ∧ (state.handler engine).params = none))
    (stops : next.stops = state.stops) : SynthesisInvariant needAddingSpace next := by
  have synthesis := fun engine => @invariant.synthesis call engine
  have attached := fun engine => @invariant.attached call engine
  have aborted := fun engine => @invariant.aborted call engine
  have stopped := fun engine => @pool.stopped engine call
  have attachedTo := fun engine => @pool.attached engine call
  simp only [SynthesizerPool.phase, SeesAbort] at synthesis attached aborted stopped attachedTo
  cases step <;> refine invariant.moved calls handlers stops ?_ ?_ ?_ ?_ <;>
    simp only [SeesAbort, SynthesizerPool.phase] <;>
    grind [SpeakPhase.speaksAt?, SpeakPhase.attachedTo?, ProviderCall.isAborted]

/-- A call moves on and the handler of its synthesizer changes. -/
theorem atEngine (invariant : SynthesisInvariant needAddingSpace state) (pool : PoolInvariant state)
    {phase : SpeakPhase} {streamHandler : AudioStreamHandler}
    (has : (state.phase call).engine? = some engine)
    (synthesis : ∀ place, (state.calls call).synthesis = some place →
      phase = .synthesizing place ∨ state.SeesAbort call place phase)
    (attached : ∀ place, phase.speaksAt? = some place →
      place = engine ∧ streamHandler.params = some call)
    (aborted : ∀ place, state.SeesAbort call place phase → (state.calls call).isAborted = true)
    (params : ∀ other, streamHandler.params = some other → other = call)
    (offsets : streamHandler.params = some call →
      streamHandler.offsetMap = (parsed needAddingSpace (state.calls call).params).offsetMap) :
    SynthesisInvariant needAddingSpace ((state.setHandler engine streamHandler).moves call phase) := by
  have entries : ∀ other, (((state.setHandler engine streamHandler).moves call phase).calls
      other).synthesis = (state.calls other).synthesis ∧
      (((state.setHandler engine streamHandler).moves call phase).calls other).isAborted =
        (state.calls other).isAborted ∧
      (((state.setHandler engine streamHandler).moves call phase).calls other).params =
        (state.calls other).params := by
    intro other
    simp only [moves, calls_setCall]
    split
    · next here =>
        rw [here]
        exact ⟨rfl, rfl, rfl⟩
    · exact ⟨rfl, rfl, rfl⟩
  constructor
  · intro other place found
    rw [(entries other).1] at found
    rw [phase_moves]
    split
    · next here =>
        subst here
        exact synthesis place found
    · exact invariant.synthesis found
  · intro other place found
    rw [phase_moves] at found
    rw [handler_moves, handler_setHandler]
    split at found
    · next here =>
        subst here
        obtain ⟨rfl, points⟩ := attached place found
        rw [if_pos rfl]
        exact points
    · next elsewhere =>
        have before := invariant.attached found
        have away : place ≠ engine := by
          rintro rfl
          have also := SpeakPhase.engine?_of_attachedTo? (pool.attached before)
          exact elsewhere (pool.leased.exclusive (.inl also) (.inl has))
        rw [if_neg away]
        exact before
  · intro other place found
    rw [(entries other).2.1]
    rw [phase_moves] at found
    split at found
    · next here =>
        subst here
        exact aborted place found
    · exact invariant.aborted found
  · intro other place found
    rw [(entries other).2.2]
    rw [handler_moves, handler_setHandler] at found ⊢
    split at found
    · next here =>
        obtain rfl := params other found
        rw [if_pos here]
        exact offsets found
    · next away =>
        rw [if_neg away]
        exact invariant.offsets found

theorem attaches (invariant : SynthesisInvariant needAddingSpace state)
    (pool : PoolInvariant state) (acquired : state.phase call = .acquired engine) :
    SynthesisInvariant needAddingSpace
      ((state.attachContext needAddingSpace engine call).moves call (.attached engine)) := by
  refine invariant.atEngine pool (by rw [acquired]; rfl) (fun place found => ?_)
    (fun place same => ⟨(Option.some.inj same).symm, rfl⟩) (fun place found => ?_)
    (fun other same => (Option.some.inj same).symm) fun _ => rfl
  · have before := invariant.synthesis found
    rw [acquired] at before
    rcases before with impossible | impossible | impossible | left
    · cases impossible
    · cases impossible
    · cases impossible
    · exact .inr (.inr (.inr left))
  · rcases found with impossible | impossible | left
    · cases impossible
    · cases impossible
    · exact invariant.aborted (.inr (.inr left))

theorem detaches (invariant : SynthesisInvariant needAddingSpace state)
    (pool : PoolInvariant state) {phase : SpeakPhase}
    (before : (state.phase call = .aborting engine ∧ phase = .stopping engine) ∨
      ∃ result, state.phase call = .ending engine result ∧ phase = .releasing engine result) :
    SynthesisInvariant needAddingSpace ((state.detachContext engine).moves call phase) := by
  have has : (state.phase call).engine? = some engine := by
    rcases before with ⟨aborting, -⟩ | ⟨result, ending, -⟩
    · rw [aborting]
      rfl
    · rw [ending]
      rfl
  refine invariant.atEngine pool has (fun place found => ?_) (fun place same => ?_)
    (fun place found => ?_) (fun other same => by cases same) fun same => by cases same
  · have going := invariant.synthesis found
    rcases before with ⟨aborting, rfl⟩ | ⟨result, ending, rfl⟩
    · rw [aborting] at going
      rcases going with impossible | same | impossible | left
      · cases impossible
      · cases same
        exact .inr (.inr (.inl rfl))
      · cases impossible
      · exact .inr (.inr (.inr left))
    · rw [ending] at going
      rcases going with impossible | impossible | impossible | left
      · cases impossible
      · cases impossible
      · cases impossible
      · exact .inr (.inr (.inr left))
  · rcases before with ⟨-, rfl⟩ | ⟨result, -, rfl⟩ <;> cases same
  · rcases before with ⟨aborting, rfl⟩ | ⟨result, ending, rfl⟩
    · have seen : state.SeesAbort call engine (state.phase call) := .inl aborting
      exact invariant.aborted seen
    · rcases found with impossible | impossible | left
      · cases impossible
      · cases impossible
      · exact invariant.aborted (.inr (.inr left))

/-- The calls keep their entries, up to a phase that speaks no more, and a thread has started
or ended. -/
theorem threads (invariant : SynthesisInvariant needAddingSpace state)
    (handlers : next.handler = state.handler)
    (entries : ∀ other, (next.calls other).synthesis = (state.calls other).synthesis ∧
      (next.calls other).isAborted = (state.calls other).isAborted ∧
      (next.calls other).params = (state.calls other).params)
    (synthesis : ∀ {other place}, (state.calls other).synthesis = some place →
      next.phase other = .synthesizing place ∨ next.SeesAbort other place (next.phase other))
    (attached : ∀ {other place}, (next.phase other).speaksAt? = some place →
      (state.phase other).speaksAt? = some place)
    (aborted : ∀ {other place}, next.SeesAbort other place (next.phase other) →
      ∃ place, state.SeesAbort other place (state.phase other)) :
    SynthesisInvariant needAddingSpace next where
  synthesis := by
    intro other place found
    rw [(entries other).1] at found
    exact synthesis found
  attached := by
    intro other place found
    rw [handlers]
    exact invariant.attached (attached found)
  aborted := by
    intro other place found
    obtain ⟨before, sees⟩ := aborted found
    rw [(entries other).2.1]
    exact invariant.aborted sees
  offsets := by
    intro other place found
    rw [handlers] at found ⊢
    rw [(entries other).2.2]
    exact invariant.offsets found

theorem leaves (invariant : SynthesisInvariant needAddingSpace state)
    (stopping : state.phase call = .stopping engine) :
    SynthesisInvariant needAddingSpace ({ state with stops := (engine, call) :: state.stops }.moves
      call (.returned true)) := by
  have phases : ∀ other, ({ state with stops := (engine, call) :: state.stops }.moves call
      (.returned true)).phase other = if other = call then .returned true else state.phase other :=
    phase_moves _
  refine invariant.threads rfl (fun other => ?_) (fun {other place} found => ?_)
    (fun {other place} found => ?_) (fun {other place} found => ?_)
  · simp only [moves, calls_setCall]
    split
    · next here =>
        rw [here]
        exact ⟨rfl, rfl, rfl⟩
    · exact ⟨rfl, rfl, rfl⟩
  · rw [phases, SeesAbort, stops_moves, List.mem_cons]
    have going := invariant.synthesis found
    split
    · next here =>
        subst here
        rw [stopping] at going
        rcases going with impossible | impossible | same | left
        · cases impossible
        · cases impossible
        · cases same
          exact .inr (.inr (.inr (.inl rfl)))
        · exact .inr (.inr (.inr (.inr left)))
    · rcases going with going | going | going | left
      · exact .inl going
      · exact .inr (.inl going)
      · exact .inr (.inr (.inl going))
      · exact .inr (.inr (.inr (.inr left)))
  · rw [phases] at found
    split at found
    · cases found
    · exact found
  · rw [phases, SeesAbort, stops_moves, List.mem_cons, Prod.mk.injEq] at found
    split at found
    · next here =>
        subst here
        exact ⟨engine, .inr (.inl stopping)⟩
    · next elsewhere =>
        rcases found with going | going | ⟨-, here⟩ | left
        · exact ⟨place, .inl going⟩
        · exact ⟨place, .inr (.inl going)⟩
        · exact absurd here elsewhere
        · exact ⟨place, .inr (.inr left)⟩

theorem stops (invariant : SynthesisInvariant needAddingSpace state)
    (ended : (state.calls call).synthesis = none) :
    SynthesisInvariant needAddingSpace
      { state.releaseSynthesizer engine with stops := state.stops.erase (engine, call) } := by
  refine invariant.threads (handler_setBusy false) (fun other => ⟨rfl, rfl, rfl⟩)
    (fun {other place} found => ?_) (fun {other place} found => found)
    (fun {other place} found => ?_)
  · rcases invariant.synthesis found with going | going | going | left
    · exact .inl going
    · exact .inr (.inl going)
    · exact .inr (.inr (.inl going))
    · refine .inr (.inr (.inr ((List.mem_erase_of_ne ?_).mpr left)))
      rintro ⟨⟩
      rw [ended] at found
      cases found
  · rcases found with going | going | left
    · exact ⟨place, .inl going⟩
    · exact ⟨place, .inr (.inl going)⟩
    · exact ⟨place, .inr (.inr (List.mem_of_mem_erase left))⟩

/-- **Every orderly step keeps the syntheses in order.** -/
theorem effect (invariant : SynthesisInvariant needAddingSpace state) (pool : PoolInvariant state)
    (effect : PoolEffect needAddingSpace state next events) :
    SynthesisInvariant needAddingSpace next := by
  cases effect with
  | moved step calls handlers stops quiet =>
      exact invariant.callStep pool step calls handlers stops
  | attached acquired => exact invariant.attaches pool acquired
  | detached before => exact invariant.detaches pool before
  | left stopping => exact invariant.leaves stopping
  | stopped ended => exact invariant.stops ended
  | wrote synthesizes whole =>
      exact invariant.sameParams (keeps_write _ _ _)
  | reported synthesizes =>
      exact invariant.sameParams (keeps_report _ _ _)
  | callbackReturned engine =>
      exact invariant.sameParams (keeps_runs none)

end SynthesisInvariant

end SynthesizerPool

end ModernSapi
