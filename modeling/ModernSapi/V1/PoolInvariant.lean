import ModernSapi.Library.Leases
import ModernSapi.V1.SynthesizerPool

/-!
# Who has a synthesizer

Whatever the SDK does, and in whatever order the calls take their steps, a synthesizer has at
most one holder: the call it was given to, or the thread that stops its synthesis. The flag of
the pool says whether it has one. A handler points at the parameters of a call only while that
call is inside `ProviderSpeak`.

* `synthesizers_exclusive`: what holds of the pool in every state.
* `callbacks_inside`: no callback outside of the call it is for.
-/

set_option autoImplicit false

namespace ModernSapi

open Interleaving SynthesizerPool Xml

/-- The synthesizer whose handler may point at the parameters of the call. -/
def SpeakPhase.attachedTo? : SpeakPhase → Option ℕ
  | .attached engine | .synthesizing engine | .aborting engine | .ending engine _ => some engine
  | _ => none

theorem SpeakPhase.engine?_of_attachedTo? {phase : SpeakPhase} {engine : ℕ}
    (attached : phase.attachedTo? = some engine) : phase.engine? = some engine := by
  cases phase <;> first | exact attached | cases attached

theorem SpeakPhase.isInside_of_engine? {phase : SpeakPhase} {engine : ℕ}
    (has : phase.engine? = some engine) : phase.isInside = true := by
  cases phase <;> first | rfl | cases has

namespace SynthesizerPool

variable {state : SynthesizerPool} {call other engine place : ℕ}

/-- The call has the synthesizer, or left it to the thread that stops it. -/
def Holds (state : SynthesizerPool) (call engine : ℕ) : Prop :=
  (state.phase call).engine? = some engine ∨ (engine, call) ∈ state.stops

def isBusy (state : SynthesizerPool) (engine : ℕ) : Bool := (state.engines engine).isBusy

/-! ## Fields -/

@[simp] theorem engines_moves (phase : SpeakPhase) :
    (state.moves call phase).engines = state.engines := rfl

@[simp] theorem handler_moves (phase : SpeakPhase) :
    (state.moves call phase).handler = state.handler := rfl

@[simp] theorem isBusy_moves (phase : SpeakPhase) :
    (state.moves call phase).isBusy = state.isBusy := rfl

@[simp] theorem pool_moves (phase : SpeakPhase) : (state.moves call phase).pool = state.pool := rfl

@[simp] theorem stops_moves (phase : SpeakPhase) : (state.moves call phase).stops = state.stops := rfl

@[simp] theorem calls_setCall (entry : ProviderCall) (other : ℕ) :
    (state.setCall call entry).calls other = if other = call then entry else state.calls other :=
  Function.update_apply ..

@[simp] theorem isOf_setCall (entry : ProviderCall) :
    (state.setCall call entry).isOf = state.isOf := rfl

@[simp] theorem phase_setCall (entry : ProviderCall) (other : ℕ) :
    (state.setCall call entry).phase other =
      if other = call then entry.phase else state.phase other := by
  simp only [SynthesizerPool.phase, setCall, Function.update_apply]
  split <;> rfl

@[simp] theorem phase_moves (phase : SpeakPhase) (other : ℕ) :
    (state.moves call phase).phase other = if other = call then phase else state.phase other :=
  phase_setCall _ _

@[simp] theorem voiceName_moves (phase : SpeakPhase) (other : ℕ) :
    ((state.moves call phase).calls other).voiceName = (state.calls other).voiceName := by
  simp only [moves, setCall, Function.update_apply]
  split
  · next same => rw [same]; rfl
  · rfl

@[simp] theorem phase_setEngine (pooled : PooledSynthesizer) :
    (state.setEngine engine pooled).phase = state.phase := rfl

@[simp] theorem handler_setEngine (pooled : PooledSynthesizer) (place : ℕ) :
    (state.setEngine engine pooled).handler place =
      if place = engine then pooled.streamHandler else state.handler place := by
  simp only [handler, setEngine, Function.update_apply]
  split <;> rfl

@[simp] theorem handler_setHandler (streamHandler : AudioStreamHandler) (place : ℕ) :
    (state.setHandler engine streamHandler).handler place =
      if place = engine then streamHandler else state.handler place :=
  handler_setEngine _ _

@[simp] theorem isBusy_setHandler (streamHandler : AudioStreamHandler) :
    (state.setHandler engine streamHandler).isBusy = state.isBusy := by
  funext place
  simp only [isBusy, setHandler, setEngine, Function.update_apply]
  split
  · next same => rw [same]
  · rfl

@[simp] theorem isBusy_setEngine (pooled : PooledSynthesizer) :
    (state.setEngine engine pooled).isBusy = Function.update state.isBusy engine pooled.isBusy := by
  funext place
  simp only [isBusy, setEngine, Function.update_apply]
  split <;> rfl

@[simp] theorem isBusy_setBusy (busy : Bool) :
    (state.setBusy engine busy).isBusy = Function.update state.isBusy engine busy :=
  isBusy_setEngine _

@[simp] theorem handler_setBusy (busy : Bool) : (state.setBusy engine busy).handler = state.handler := by
  funext place
  simp only [handler, setBusy, setEngine, Function.update_apply]
  split
  · next same => rw [same]
  · rfl

theorem isOf_setHandler (streamHandler : AudioStreamHandler) :
    (state.setHandler engine streamHandler).isOf = state.isOf := by
  funext voiceName place
  simp only [isOf, setHandler, setEngine, Function.update_apply]
  split
  · next same => rw [same]
  · rfl

theorem isOf_setBusy (busy : Bool) : (state.setBusy engine busy).isOf = state.isOf := by
  funext voiceName place
  simp only [isOf, setBusy, setEngine, Function.update_apply]
  split
  · next same => rw [same]
  · rfl

/-! ## The invariant -/

/-- What holds of the pool and of its callers in every state. -/
structure PoolInvariant (state : SynthesizerPool) : Prop where
  leased : Leased state.Holds state.isBusy
  attached : ∀ {engine call}, (state.handler engine).params = some call →
    (state.phase call).attachedTo? = some engine
  running : ∀ {engine call}, (state.handler engine).running = some call →
    (state.handler engine).params = some call
  stopped : ∀ {engine call}, (engine, call) ∈ state.stops → state.phase call = .returned true
  stopsNodup : state.stops.Nodup
  voice : ∀ {call engine}, state.Holds call engine →
    state.isOf (state.calls call).voiceName engine = true
  fresh : ∀ engine, state.created ≤ engine → state.isBusy engine = false
  made : ∀ engine ∈ state.pool, engine < state.created
  poolNodup : state.pool.Nodup
  bounded : ∀ voiceName, state.voiceCount voiceName ≤ 2

namespace PoolInvariant

theorem initial : PoolInvariant {} where
  leased :=
    { exclusive := by rintro first second engine (held | held) <;> cases held
      busy_iff := by
        intro engine
        constructor
        · intro busy
          cases busy
        · rintro ⟨call, held | held⟩ <;> cases held }
  attached found := by cases found
  running found := by cases found
  stopped found := by cases found
  stopsNodup := List.nodup_nil
  voice held := by rcases held with held | held <;> cases held
  fresh _ _ := rfl
  made _ member := by cases member
  poolNodup := List.nodup_nil
  bounded _ := Nat.zero_le _

theorem isInside (invariant : PoolInvariant state)
    (found : (state.handler engine).params = some call) : (state.phase call).isInside = true :=
  SpeakPhase.isInside_of_engine? (SpeakPhase.engine?_of_attachedTo? (invariant.attached found))

theorem holds_lt (invariant : PoolInvariant state) (held : state.Holds call engine) :
    engine < state.created := by
  by_contra large
  have idle := invariant.fresh engine (not_lt.mp large)
  exact invariant.leased.idle idle call held

/-- A call changes, and stays with the synthesizer it has. -/
theorem setCall (invariant : PoolInvariant state) {entry : ProviderCall}
    (same : entry.phase.engine? = (state.phase call).engine?)
    (attached : ∀ engine, (state.phase call).attachedTo? = some engine →
      (state.handler engine).params = some call → entry.phase.attachedTo? = some engine)
    (stays : state.phase call = .returned true → entry.phase = .returned true)
    (voice : state.phase call ≠ .uncalled → entry.voiceName = (state.calls call).voiceName) :
    PoolInvariant (state.setCall call entry) := by
  have holds : ∀ other engine, (state.setCall call entry).Holds other engine ↔
      state.Holds other engine := by
    intro other engine
    unfold Holds
    rw [phase_setCall]
    split
    · next here => rw [here, same]; exact Iff.rfl
    · exact Iff.rfl
  exact
    { leased := invariant.leased.congr holds
      attached := by
        intro engine other found
        rw [phase_setCall]
        split
        · next here =>
            subst here
            exact attached engine (invariant.attached found) found
        · exact invariant.attached found
      running := invariant.running
      stopped := by
        intro engine other member
        have before := invariant.stopped member
        rw [phase_setCall]
        split
        · next here => exact stays (here ▸ before)
        · exact before
      stopsNodup := invariant.stopsNodup
      voice := by
        intro other engine held
        have before := invariant.voice ((holds other engine).mp held)
        by_cases here : other = call
        · subst here
          have called : state.phase other ≠ .uncalled := by
            intro uncalled
            rcases (holds other engine).mp held with has | left
            · rw [uncalled] at has
              cases has
            · have returned := invariant.stopped left
              rw [uncalled] at returned
              cases returned
          rw [isOf_setCall, calls_setCall, if_pos rfl, voice called]
          exact before
        · rw [isOf_setCall, calls_setCall, if_neg here]
          exact before
      fresh := invariant.fresh
      made := invariant.made
      poolNodup := invariant.poolNodup
      bounded := invariant.bounded }

theorem moves (invariant : PoolInvariant state) {phase : SpeakPhase}
    (same : phase.engine? = (state.phase call).engine?)
    (attached : ∀ engine, (state.phase call).attachedTo? = some engine →
      (state.handler engine).params = some call → phase.attachedTo? = some engine)
    (stays : state.phase call ≠ .returned true) : PoolInvariant (state.moves call phase) :=
  invariant.setCall same attached (fun returned => absurd returned stays) fun _ => rfl

/-- The handler of a synthesizer changes. -/
theorem setHandler (invariant : PoolInvariant state) {streamHandler : AudioStreamHandler}
    (attached : ∀ call, streamHandler.params = some call →
      (state.phase call).attachedTo? = some engine)
    (running : ∀ call, streamHandler.running = some call → streamHandler.params = some call) :
    PoolInvariant (state.setHandler engine streamHandler) where
  leased := by
    rw [isBusy_setHandler]
    exact invariant.leased
  attached := by
    intro place call found
    rw [handler_setHandler] at found
    split at found
    · next here =>
        rw [here]
        exact attached call found
    · exact invariant.attached found
  running := by
    intro place call found
    rw [handler_setHandler] at found ⊢
    split at found
    · next here =>
        rw [if_pos here]
        exact running call found
    · next elsewhere =>
        rw [if_neg elsewhere]
        exact invariant.running found
  stopped := invariant.stopped
  stopsNodup := invariant.stopsNodup
  voice := by
    rw [isOf_setHandler]
    exact invariant.voice
  fresh := by
    rw [isBusy_setHandler]
    exact invariant.fresh
  made := invariant.made
  poolNodup := invariant.poolNodup
  bounded voiceName := by
    rw [voiceCount, isOf_setHandler]
    exact invariant.bounded voiceName

theorem purge (invariant : PoolInvariant state) (voiceName : List UInt16) :
    PoolInvariant (state.purge voiceName) where
  leased := invariant.leased
  attached := invariant.attached
  running := invariant.running
  stopped := invariant.stopped
  stopsNodup := invariant.stopsNodup
  voice := invariant.voice
  fresh := invariant.fresh
  made engine member := invariant.made engine (List.mem_of_mem_filter member)
  poolNodup := invariant.poolNodup.filter _
  bounded other :=
    (List.filter_sublist.countP_le).trans (invariant.bounded other)

/-- A call with no synthesizer is given one that is idle. -/
theorem gives (invariant : PoolInvariant state) {given : SynthesizerPool}
    (none_ : (state.phase call).engine? = none) (live : state.phase call ≠ .returned true)
    (idle : state.isBusy engine = false) (calls : given.calls = state.calls)
    (stops : given.stops = state.stops)
    (busy : given.isBusy = Function.update state.isBusy engine true)
    (handlers : ∀ place, given.handler place = state.handler place ∨ given.handler place = {})
    (voices : ∀ voiceName place, place ≠ engine →
      given.isOf voiceName place = state.isOf voiceName place)
    (voice : given.isOf (state.calls call).voiceName engine = true)
    (fresh : ∀ engine, given.created ≤ engine → given.isBusy engine = false)
    (made : ∀ engine ∈ given.pool, engine < given.created) (poolNodup : given.pool.Nodup)
    (bounded : ∀ voiceName, given.voiceCount voiceName ≤ 2) :
    PoolInvariant (given.moves call (.acquired engine)) := by
  have phases : given.phase = state.phase := by
    unfold SynthesizerPool.phase
    rw [calls]
  have params : ∀ {place other}, (given.handler place).params = some other →
      (state.handler place).params = some other := by
    intro place other found
    rcases handlers place with same | empty
    · rwa [same] at found
    · rw [empty] at found
      cases found
  have holds : ∀ other place, (given.moves call (.acquired engine)).Holds other place ↔
      state.Holds other place ∨ (other = call ∧ place = engine) := by
    intro other place
    unfold Holds
    rw [phase_moves, stops_moves, stops, phases]
    by_cases here : other = call
    · subst here
      rw [if_pos rfl, none_]
      simp only [SpeakPhase.engine?, reduceCtorEq, false_or, Option.some.injEq, true_and]
      rw [or_comm, eq_comm]
    · rw [if_neg here]
      simp only [here, false_and, or_false]
  exact
    { leased := by
        rw [isBusy_moves, busy]
        exact invariant.leased.take idle holds
      attached := by
        intro place other found
        have before := invariant.attached (params found)
        have elsewhere : other ≠ call := by
          rintro rfl
          rw [SpeakPhase.engine?_of_attachedTo? before] at none_
          cases none_
        rw [phase_moves, if_neg elsewhere, phases]
        exact before
      running := by
        intro place other found
        rw [handler_moves] at found ⊢
        rcases handlers place with same | empty
        · rw [same] at found ⊢
          exact invariant.running found
        · rw [empty] at found
          cases found
      stopped := by
        intro place other member
        rw [stops_moves, stops] at member
        have before := invariant.stopped member
        have elsewhere : other ≠ call := by
          rintro rfl
          exact live before
        rw [phase_moves, if_neg elsewhere, phases]
        exact before
      stopsNodup := by
        rw [stops_moves, stops]
        exact invariant.stopsNodup
      voice := by
        intro other place held
        rw [voiceName_moves, calls]
        rcases (holds other place).mp held with before | ⟨rfl, rfl⟩
        · have elsewhere : place ≠ engine := by
            rintro rfl
            exact invariant.leased.idle idle other before
          exact (voices _ place elsewhere).trans (invariant.voice before)
        · exact voice
      fresh := fresh
      made := made
      poolNodup := poolNodup
      bounded := bounded }

theorem takes (invariant : PoolInvariant state) (none_ : (state.phase call).engine? = none)
    (live : state.phase call ≠ .returned true)
    (found : state.idle (state.calls call).voiceName = some engine) :
    PoolInvariant ((state.setBusy engine true).moves call (.acquired engine)) := by
  have member := List.mem_of_find?_eq_some found
  have found := List.find?_some found
  simp only [Bool.and_eq_true, Bool.not_eq_true'] at found
  refine invariant.gives none_ live found.2 rfl rfl (isBusy_setBusy true) (fun place => .inl ?_)
    (fun voiceName place _ => ?_) ?_ ?_ invariant.made invariant.poolNodup ?_
  · rw [handler_setBusy]
  · rw [isOf_setBusy]
  · rw [isOf_setBusy]
    exact found.1
  · intro place large
    have elsewhere : place ≠ engine := by
      rintro rfl
      exact absurd (invariant.made _ member) (not_lt.mpr large)
    rw [isBusy_setBusy, Function.update_of_ne elsewhere]
    exact invariant.fresh place large
  · intro voiceName
    rw [voiceCount, isOf_setBusy]
    exact invariant.bounded voiceName

theorem creates (invariant : PoolInvariant state) (none_ : (state.phase call).engine? = none)
    (live : state.phase call ≠ .returned true)
    (few : state.voiceCount (state.calls call).voiceName < 2) :
    PoolInvariant
      ((state.create (state.calls call).voiceName).moves call (.acquired state.created)) := by
  have idle := invariant.fresh state.created le_rfl
  have busy : (state.create (state.calls call).voiceName).isBusy =
      Function.update state.isBusy state.created true := isBusy_setEngine _
  have handlers : ∀ place, (state.create (state.calls call).voiceName).handler place =
      if place = state.created then {} else state.handler place := handler_setEngine _
  have voices : ∀ voiceName place, (state.create (state.calls call).voiceName).isOf voiceName place =
      if place = state.created then decide ((state.calls call).voiceName = voiceName)
      else state.isOf voiceName place := by
    intro voiceName place
    simp only [isOf, create, setEngine, Function.update_apply]
    split <;> rfl
  refine invariant.gives none_ live idle rfl rfl busy (fun place => ?_)
    (fun voiceName place elsewhere => ?_) ?_ ?_ ?_ ?_ ?_
  · rw [handlers]
    split
    · exact .inr rfl
    · exact .inl rfl
  · rw [voices, if_neg elsewhere]
  · rw [voices, if_pos rfl, decide_eq_true rfl]
  · intro place large
    have elsewhere : place ≠ state.created := by
      rintro rfl
      exact absurd large (Nat.not_succ_le_self _)
    rw [busy, Function.update_of_ne elsewhere]
    exact invariant.fresh place (Nat.le_of_succ_le large)
  · intro place member
    rcases List.mem_append.mp member with old | new
    · exact (invariant.made place old).trans (Nat.lt_succ_self _)
    · rw [List.mem_singleton.mp new]
      exact Nat.lt_succ_self _
  · refine List.nodup_append.mpr ⟨invariant.poolNodup, List.nodup_singleton _, ?_⟩
    intro old member new isNew same
    rw [List.mem_singleton.mp isNew] at same
    exact absurd (invariant.made old member) (same ▸ lt_irrefl _)
  · intro voiceName
    have old : state.pool.countP ((state.create (state.calls call).voiceName).isOf voiceName) =
        state.voiceCount voiceName := by
      refine List.countP_congr fun place member => ?_
      rw [voices, if_neg (invariant.made place member).ne]
    have new : (state.create (state.calls call).voiceName).voiceCount voiceName =
        state.voiceCount voiceName +
          if (state.calls call).voiceName = voiceName then 1 else 0 := by
      rw [voiceCount, ← old]
      simp only [create, List.countP_append, List.countP_singleton]
      congr 1
      simp [isOf, setEngine]
    rw [new]
    split
    · next same =>
        rw [same] at few
        exact few
    · exact invariant.bounded voiceName

/-- A call leaves its synthesizer to a thread. -/
theorem leaves (invariant : PoolInvariant state) (stopping : state.phase call = .stopping engine) :
    PoolInvariant ({ state with stops := (engine, call) :: state.stops }.moves call
      (.returned true)) := by
  have running : (state.phase call) ≠ .returned true := by
    rw [stopping]
    exact SpeakPhase.noConfusion
  have absent : ∀ place, (place, call) ∉ state.stops :=
    fun place member => running (invariant.stopped member)
  have phases : ∀ other, ({ state with stops := (engine, call) :: state.stops }.moves call
      (.returned true)).phase other = if other = call then .returned true else state.phase other :=
    phase_moves _
  have holds : ∀ other place, ({ state with stops := (engine, call) :: state.stops }.moves call
      (.returned true)).Holds other place ↔ state.Holds other place := by
    intro other place
    unfold Holds
    rw [phases, stops_moves, List.mem_cons, Prod.mk.injEq]
    by_cases here : other = call
    · subst here
      rw [if_pos rfl, stopping]
      simp only [SpeakPhase.engine?, absent, or_false, false_or, and_true, reduceCtorEq,
        Option.some.injEq]
      exact eq_comm
    · rw [if_neg here]
      simp only [here, and_false, false_or]
  exact
    { leased := invariant.leased.congr holds
      attached := by
        intro place other found
        have before := invariant.attached found
        have elsewhere : other ≠ call := by
          rintro rfl
          rw [stopping] at before
          cases before
        rw [phases, if_neg elsewhere]
        exact before
      running := invariant.running
      stopped := by
        intro place other member
        rw [phases]
        split
        · rfl
        · next elsewhere =>
            rw [stops_moves, List.mem_cons, Prod.mk.injEq] at member
            exact invariant.stopped (member.resolve_left fun same => elsewhere same.2)
      stopsNodup := List.nodup_cons.mpr ⟨absent engine, invariant.stopsNodup⟩
      voice := by
        intro other place held
        rw [voiceName_moves]
        exact invariant.voice ((holds other place).mp held)
      fresh := invariant.fresh
      made := invariant.made
      poolNodup := invariant.poolNodup
      bounded := invariant.bounded }

/-- A synthesizer is given back. -/
theorem givesBack (invariant : PoolInvariant state) {after : SynthesizerPool}
    (held : state.Holds call engine)
    (holds : ∀ other place, after.Holds other place ↔
      state.Holds other place ∧ ¬(other = call ∧ place = engine))
    (engines : after.engines = (state.setBusy engine false).engines)
    (voices : ∀ other, (after.calls other).voiceName = (state.calls other).voiceName)
    (phases : ∀ other, other ≠ call → after.phase other = state.phase other)
    (detached : ∀ place, (state.phase call).attachedTo? ≠ some place)
    (stopped : ∀ {place other}, (place, other) ∈ after.stops → after.phase other = .returned true)
    (stopsNodup : after.stops.Nodup) (pool : after.pool = state.pool)
    (created : after.created = state.created) : PoolInvariant after := by
  have busy : after.isBusy = Function.update state.isBusy engine false := by
    rw [← isBusy_setBusy]
    funext place
    rw [isBusy, isBusy, engines]
  have handlers : after.handler = state.handler := by
    have same : (state.setBusy engine false).handler = state.handler := handler_setBusy false
    rw [← same]
    funext place
    rw [handler, handler, engines]
  have isOfs : after.isOf = state.isOf := by
    have same : (state.setBusy engine false).isOf = state.isOf := isOf_setBusy false
    rw [← same]
    funext voiceName place
    rw [isOf, isOf, engines]
  exact
    { leased := by
        rw [busy]
        exact invariant.leased.giveBack held holds
      attached := by
        intro place other found
        rw [handlers] at found
        have before := invariant.attached found
        rw [phases other]
        · exact before
        · rintro rfl
          exact detached place before
      running := by
        rw [handlers]
        exact invariant.running
      stopped := stopped
      stopsNodup := stopsNodup
      voice := by
        intro other place still
        rw [isOfs, voices]
        exact invariant.voice ((holds other place).mp still).1
      fresh := by
        intro place large
        rw [busy, Function.update_apply]
        split
        · rfl
        · rw [created] at large
          exact invariant.fresh place large
      made := by
        rw [pool, created]
        exact invariant.made
      poolNodup := by
        rw [pool]
        exact invariant.poolNodup
      bounded voiceName := by
        rw [voiceCount, pool, isOfs]
        exact invariant.bounded voiceName }

theorem release (invariant : PoolInvariant state) {result : Bool}
    (releasing : state.phase call = .releasing engine result) :
    PoolInvariant ((state.releaseSynthesizer engine).moves call (.returned result)) := by
  have live : state.phase call ≠ .returned true := by
    rw [releasing]
    exact SpeakPhase.noConfusion
  have absent : ∀ place, (place, call) ∉ state.stops :=
    fun place member => live (invariant.stopped member)
  have held : state.Holds call engine := by
    refine .inl ?_
    rw [releasing]
    rfl
  have phases : ∀ other, ((state.releaseSynthesizer engine).moves call (.returned result)).phase
      other = if other = call then .returned result else state.phase other := phase_moves _
  refine invariant.givesBack held (fun other place => ?_) rfl (voiceName_moves _) ?_ ?_ ?_
    invariant.stopsNodup rfl rfl
  · unfold Holds
    rw [phases]
    by_cases here : other = call
    · subst here
      rw [if_pos rfl, releasing]
      have gone : ¬((place, other) ∈ state.stops) := absent place
      simp only [SpeakPhase.engine?, reduceCtorEq, false_or, Option.some.injEq, true_and]
      exact ⟨fun member => absurd member gone,
        fun held => (held.1.resolve_right gone |> fun same => absurd same.symm held.2)⟩
    · rw [if_neg here]
      simp only [here, false_and, not_false_eq_true, and_true]
      exact Iff.rfl
  · intro other elsewhere
    rw [phases, if_neg elsewhere]
  · intro place
    rw [releasing]
    simp [SpeakPhase.attachedTo?]
  · intro place other member
    have before := invariant.stopped member
    have elsewhere : other ≠ call := by
      rintro rfl
      exact live before
    rw [phases, if_neg elsewhere]
    exact before

theorem stopDone (invariant : PoolInvariant state) (member : (engine, call) ∈ state.stops) :
    PoolInvariant
      { state.releaseSynthesizer engine with stops := state.stops.erase (engine, call) } := by
  have returned := invariant.stopped member
  have unheld : ∀ place, (state.phase call).engine? ≠ some place := by
    intro place
    rw [returned]
    simp [SpeakPhase.engine?]
  refine invariant.givesBack (.inr member) (fun other place => ?_) rfl (fun other => rfl)
    (fun other elsewhere => rfl) ?_ ?_ (invariant.stopsNodup.erase _) rfl rfl
  · have erased : (place, other) ∈ state.stops.erase (engine, call) ↔
        (place, other) ∈ state.stops ∧ ¬(other = call ∧ place = engine) := by
      rw [invariant.stopsNodup.mem_erase_iff, and_comm, Ne, Prod.mk.injEq, and_comm (a := place = _)]
    have parted : (state.phase other).engine? = some place → ¬(other = call ∧ place = engine) := by
      rintro has ⟨rfl, rfl⟩
      exact unheld _ has
    change _ ∨ (place, other) ∈ state.stops.erase (engine, call) ↔ _
    rw [erased]
    unfold Holds
    rw [or_and_right]
    exact or_congr ⟨fun has => ⟨has, parted has⟩, And.left⟩ Iff.rfl
  · intro place
    rw [returned]
    simp [SpeakPhase.attachedTo?]
  · intro place other still
    exact invariant.stopped (List.mem_of_mem_erase still)

/-! ## The operations -/

/-- A call with no synthesizer moves on without one. -/
theorem movesFree (invariant : PoolInvariant state) {phase : SpeakPhase}
    (none_ : (state.phase call).engine? = none) (live : state.phase call ≠ .returned true)
    (free : phase.engine? = none) : PoolInvariant (state.moves call phase) := by
  refine invariant.moves (free.trans none_.symm) (fun engine attached _ => ?_) live
  rw [SpeakPhase.engine?_of_attachedTo? attached] at none_
  cases none_

theorem acquireRound (invariant : PoolInvariant state) (call : ℕ) (creates : Bool)
    (none_ : (state.phase call).engine? = none) (live : state.phase call ≠ .returned true) :
    PoolInvariant (state.acquireRound call creates).1 := by
  simp only [SynthesizerPool.acquireRound]
  split
  · next engine found => exact invariant.takes none_ live found
  · split
    · next few =>
        split
        · exact invariant.creates none_ live few
        · exact invariant.movesFree none_ live rfl
    · exact invariant.movesFree none_ live rfl

theorem speak (invariant : PoolInvariant state)
    (needAddingSpace : List UInt16 → List UInt16 → Bool) (creates : Bool)
    (entered : state.phase call = .entered) :
    PoolInvariant (state.speak needAddingSpace call creates).1 := by
  have none_ : (state.phase call).engine? = none := by rw [entered]; rfl
  have live : state.phase call ≠ .returned true := by
    rw [entered]
    exact SpeakPhase.noConfusion
  simp only [SynthesizerPool.speak]
  split
  · exact invariant.movesFree none_ live rfl
  · next voiceName _ =>
      split
      · exact (invariant.purge voiceName).acquireRound call creates none_ live
      · exact invariant.movesFree none_ live rfl

/-- A callback runs, of the call the handler points at, or none any more. -/
theorem setRunning (invariant : PoolInvariant state) {streamHandler : AudioStreamHandler}
    (params : streamHandler.params = (state.handler engine).params)
    (running : ∀ call, streamHandler.running = some call → streamHandler.params = some call) :
    PoolInvariant (state.setHandler engine streamHandler) := by
  refine invariant.setHandler (fun call found => ?_) running
  rw [params] at found
  exact invariant.attached found

theorem write (invariant : PoolInvariant state) (dataBuffer : List UInt8)
    (free : (state.handler engine).running = none) :
    PoolInvariant (state.write engine dataBuffer).1 := by
  simp only [SynthesizerPool.write]
  split
  · exact invariant
  · next call attached =>
      split
      · exact invariant
      · have kept : PoolInvariant (state.setHandler engine
            { state.handler engine with
              audio := ((state.handler engine).audio.write dataBuffer).1 }) := by
          refine invariant.setRunning rfl fun other found => ?_
          rw [free] at found
          cases found
        split
        · refine kept.setRunning rfl fun other found => ?_
          rw [handler_setHandler, if_pos rfl]
          rw [← Option.some.inj found]
          exact attached
        · exact kept

theorem report (invariant : PoolInvariant state) (event : SdkEvent) :
    PoolInvariant (state.report engine event).1 := by
  simp only [SynthesizerPool.report]
  split
  · exact invariant
  · next call attached =>
      split
      · refine invariant.setRunning rfl fun other found => ?_
        rw [← Option.some.inj found]
        exact attached
      · exact invariant

/-- The handler of a synthesizer is detached, and the call it was attached to moves on. -/
theorem detaches (invariant : PoolInvariant state) {phase : SpeakPhase}
    (attached : (state.phase call).attachedTo? = some engine) (same : phase.engine? = some engine)
    (free : (state.handler engine).running = none) :
    PoolInvariant ((state.detachContext engine).moves call phase) := by
  have has := SpeakPhase.engine?_of_attachedTo? attached
  have detached : PoolInvariant (state.detachContext engine) := by
    refine invariant.setHandler (fun other found => by cases found) fun other found => ?_
    rw [free] at found
    cases found
  refine detached.moves (same.trans has.symm) (fun place here found => ?_) ?_
  · have where_ : place = engine := Option.some.inj (here.symm.trans attached)
    rw [where_, detachContext, handler_setHandler, if_pos rfl] at found
    cases found
  · intro returned
    have before : state.phase call = .returned true := returned
    rw [before] at has
    cases has

theorem attaches {needAddingSpace : List UInt16 → List UInt16 → Bool}
    (invariant : PoolInvariant state) (acquired : state.phase call = .acquired engine) :
    PoolInvariant ((state.attachContext needAddingSpace engine call).moves call
      (.attached engine)) := by
  have moved : PoolInvariant (state.moves call (.attached engine)) := by
    refine invariant.moves (by rw [acquired]; rfl) (fun place attached => ?_) ?_
    · rw [acquired] at attached
      cases attached
    · rw [acquired]
      exact SpeakPhase.noConfusion
  refine moved.setHandler (fun other found => ?_) fun other found => by cases found
  rw [phase_moves, if_pos (Option.some.inj found).symm]
  rfl

theorem detach (invariant : PoolInvariant state) {next : SynthesizerPool}
    {events : List PoolObservation} (taken : state.detach call = some (next, events)) :
    PoolInvariant next := by
  unfold SynthesizerPool.detach at taken
  split at taken
  · next engine aborting =>
      split at taken
      · next free =>
          cases taken
          exact invariant.detaches (by rw [aborting]; rfl) rfl free
      · cases taken
  · next engine result ending =>
      split at taken
      · next free =>
          cases taken
          exact invariant.detaches (by rw [ending]; rfl) rfl free
      · cases taken
  · cases taken

/-- A call that is attached moves on and stays attached. -/
theorem movesAttached (invariant : PoolInvariant state) {phase : SpeakPhase}
    (attached : (state.phase call).attachedTo? = some engine)
    (still : phase.attachedTo? = some engine) : PoolInvariant (state.moves call phase) := by
  have has := SpeakPhase.engine?_of_attachedTo? attached
  refine invariant.moves ((SpeakPhase.engine?_of_attachedTo? still).trans has.symm)
    (fun place here _ => ?_) ?_
  · rw [still, ← attached, here]
  · intro returned
    rw [returned] at has
    cases has

/-- The call stays where it is. -/
theorem keepsPhase (invariant : PoolInvariant state) {entry : ProviderCall}
    (phase : entry.phase = state.phase call)
    (voice : entry.voiceName = (state.calls call).voiceName) :
    PoolInvariant (state.setCall call entry) :=
  invariant.setCall (by rw [phase]) (fun _ attached _ => by rw [phase]; exact attached)
    (fun returned => phase.trans returned) fun _ => voice

/-- **Every step keeps the pool in order.** -/
theorem step {needAddingSpace : List UInt16 → List UInt16 → Bool} {next : SynthesizerPool}
    {events : List PoolObservation} {action : PoolAction} (invariant : PoolInvariant state)
    (taken : state.step needAddingSpace action = some (next, events)) : PoolInvariant next := by
  cases action with
  | enter call params =>
      simp only [SynthesizerPool.step, Option.ite_none_right_eq_some, Option.some.injEq,
        Prod.mk.injEq] at taken
      obtain ⟨uncalled, rfl, -⟩ := taken
      refine invariant.setCall ?_ ?_ ?_ fun called => absurd uncalled called
      · rw [uncalled]
        rfl
      · intro engine attached
        rw [uncalled] at attached
        cases attached
      · intro returned
        rw [uncalled] at returned
        cases returned
  | acquire call creates =>
      simp only [SynthesizerPool.step, Option.ite_none_right_eq_some, Option.some.injEq] at taken
      obtain ⟨entered, same⟩ := taken
      have kept := invariant.speak needAddingSpace creates entered
      rwa [same] at kept
  | notified call creates =>
      simp only [SynthesizerPool.step, Option.ite_none_right_eq_some, Option.some.injEq] at taken
      obtain ⟨waiting, same⟩ := taken
      have kept := invariant.acquireRound call creates (by rw [waiting]; rfl)
        (by rw [waiting]; exact SpeakPhase.noConfusion)
      rwa [same] at kept
  | timesOut call creates =>
      simp only [SynthesizerPool.step, Option.ite_none_right_eq_some, Option.some.injEq] at taken
      obtain ⟨waiting, same⟩ := taken
      have none_ : (state.phase call).engine? = none := by rw [waiting]; rfl
      have live : state.phase call ≠ .returned true := by
        rw [waiting]
        exact SpeakPhase.noConfusion
      split at same
      · cases same
        exact invariant.movesFree none_ live rfl
      · have kept := invariant.acquireRound call creates none_ live
        rwa [same] at kept
  | attach call =>
      simp only [SynthesizerPool.step] at taken
      split at taken
      · next engine acquired =>
          split at taken
          · next free =>
              cases taken
              exact invariant.attaches acquired
          · cases taken
      · cases taken
  | speakSsml call starts =>
      simp only [SynthesizerPool.step] at taken
      split at taken
      · next engine attached =>
          have here : (state.phase call).attachedTo? = some engine := by rw [attached]; rfl
          split at taken
          · cases taken
            have synthesizes : PoolInvariant (state.setSynthesis call (some engine)) :=
              invariant.keepsPhase rfl rfl
            have still : ((state.setSynthesis call (some engine)).phase call).attachedTo? =
                some engine := by
              rw [setSynthesis, phase_setCall, if_pos rfl]
              exact here
            exact synthesizes.movesAttached still rfl
          · cases taken
            exact invariant.movesAttached here rfl
      · cases taken
  | abort call =>
      simp only [SynthesizerPool.step, Option.ite_none_right_eq_some, Option.some.injEq,
        Prod.mk.injEq] at taken
      obtain ⟨-, rfl, -⟩ := taken
      exact invariant.keepsPhase rfl rfl
  | abortSeen call =>
      simp only [SynthesizerPool.step] at taken
      split at taken
      · next engine synthesizing =>
          split at taken
          · cases taken
            have here : (state.phase call).attachedTo? = some engine := by
              rw [synthesizing]
              rfl
            exact invariant.movesAttached here rfl
          · cases taken
      · cases taken
  | futureReady call succeeds =>
      simp only [SynthesizerPool.step] at taken
      split at taken
      · next engine synthesizing =>
          cases taken
          have here : (state.phase call).attachedTo? = some engine := by
            rw [synthesizing]
            rfl
          exact invariant.movesAttached here rfl
      · cases taken
  | detach call => exact invariant.detach taken
  | startStop call starts =>
      simp only [SynthesizerPool.step] at taken
      split at taken
      · next engine stopping =>
          simp only [SynthesizerPool.startStop] at taken
          split at taken
          · cases taken
            exact invariant.leaves stopping
          · cases taken
            refine invariant.moves (by rw [stopping]; rfl) (fun place attached => ?_) ?_
            · rw [stopping] at attached
              cases attached
            · rw [stopping]
              exact SpeakPhase.noConfusion
      · cases taken
  | release call =>
      simp only [SynthesizerPool.step] at taken
      split at taken
      · next engine result releasing =>
          cases taken
          exact invariant.release releasing
      · cases taken
  | stopped engine call =>
      simp only [SynthesizerPool.step, Option.ite_none_right_eq_some, Option.some.injEq,
        Prod.mk.injEq] at taken
      obtain ⟨member, rfl, -⟩ := taken
      exact invariant.stopDone member
  | write engine source dataBuffer =>
      simp only [SynthesizerPool.step, Option.ite_none_right_eq_some, Option.some.injEq,
        Prod.mk.injEq] at taken
      obtain ⟨free, rfl, -⟩ := taken
      exact invariant.write dataBuffer free
  | report engine source event =>
      simp only [SynthesizerPool.step, Option.ite_none_right_eq_some, Option.some.injEq,
        Prod.mk.injEq] at taken
      obtain ⟨-, rfl, -⟩ := taken
      exact invariant.report event
  | callbackReturns engine =>
      simp only [SynthesizerPool.step, Option.ite_none_right_eq_some, Option.some.injEq,
        Prod.mk.injEq] at taken
      obtain ⟨-, rfl, -⟩ := taken
      exact invariant.setRunning rfl fun call found => by cases found
  | synthesisEnds source =>
      simp only [SynthesizerPool.step, Option.ite_none_right_eq_some, Option.some.injEq,
        Prod.mk.injEq] at taken
      obtain ⟨-, rfl, -⟩ := taken
      exact invariant.keepsPhase rfl rfl

end PoolInvariant

/-! ## Over a run -/

section Run

variable {needAddingSpace : List UInt16 → List UInt16 → Bool}
  {guard : SynthesizerPool → PoolAction → Prop} {trace : List PoolObservation}

theorem poolInvariant (reached : (poolMachine needAddingSpace).Reaches guard trace state) :
    PoolInvariant state := by
  refine reached.induct (motive := fun _ state => PoolInvariant state) ?_ ?_
  · rintro start rfl
    exact .initial
  · intro _ _ _ _ _ _ invariant _ taken
    exact invariant.step taken

/-- **A synthesizer has one holder at a time, and is idle when it has none.** In every state
the synthesizers of the pool are different ones, at most two of each voice, a call has a
synthesizer of its own voice, and a synthesizer is busy exactly when a call has it or a thread
still stops what a call has left. -/
theorem synthesizers_exclusive
    (reached : (poolMachine needAddingSpace).Reaches Machine.anyStep trace state) :
    (∀ {first second engine}, state.Holds first engine → state.Holds second engine →
      first = second) ∧
    (∀ engine, (state.engines engine).isBusy = true ↔ ∃ call, state.Holds call engine) ∧
    (∀ {call engine}, state.Holds call engine →
      (state.engines engine).voiceName = (state.calls call).voiceName) ∧
    state.pool.Nodup ∧ ∀ voiceName, state.voiceCount voiceName ≤ 2 := by
  have invariant := poolInvariant reached
  exact ⟨invariant.leased.exclusive, fun _ => invariant.leased.busy_iff,
    fun held => of_decide_eq_true (invariant.voice held), invariant.poolNodup, invariant.bounded⟩

/-- A call is aborted, and another one takes a synthesizer of its own while the first is still
stopped. The SDK goes on with the first for a while. -/
def abortedThenServed : List PoolAction :=
  let params : ProviderSpeakParams :=
    { fragments := [{ text := units "Hi" }], voiceModel := some (units "Aria") }
  [.enter 0 params, .acquire 0 true, .attach 0, .speakSsml 0 true, .write 0 0 [0, 0, 200, 0],
    .callbackReturns 0, .abort 0, .abortSeen 0, .detach 0, .startStop 0 true,
    .enter 1 params, .acquire 1 true, .attach 1, .speakSsml 1 true, .write 0 0 [9, 9],
    .write 1 1 [0, 0, 0, 1, 5, 5], .callbackReturns 1,
    .report 1 1 (.wordBoundary 140 2 5000)]

theorem synthesizers_exclusive_aborted :
    let final := (poolMachine fun _ _ => true).finalState {} abortedThenServed
    final.Holds 0 0 ∧ final.Holds 1 1 ∧ ¬final.Holds 1 0 := by
  have reached : (poolMachine fun _ _ => true).Reaches Machine.anyStep
      ((poolMachine fun _ _ => true).emitted {} abortedThenServed)
      ((poolMachine fun _ _ => true).finalState {} abortedThenServed) :=
    ⟨{}, rfl, (poolMachine fun _ _ => true).run_finalState _ _ (Machine.along_anyStep _ _)
      (by decide +kernel)⟩
  have first : ((poolMachine fun _ _ => true).finalState {} abortedThenServed).Holds 0 0 :=
    .inr (by decide +kernel)
  refine ⟨first, .inl (by decide +kernel), fun other => ?_⟩
  cases (synthesizers_exclusive reached).1 first other

end Run

/-! ## The callbacks -/

/-- The events call the call back. -/
def CallsBack (call : ℕ) (events : List PoolObservation) : Prop :=
  (∃ bytes, .audioCallback call bytes ∈ events) ∨ ∃ event, .metaCallback call event ∈ events

section Callbacks

variable {needAddingSpace : List UInt16 → List UInt16 → Bool} {next : SynthesizerPool}
  {events : List PoolObservation}

theorem callsBack_append (first : List PoolObservation) {second : List PoolObservation}
    (callsBack : CallsBack call (first ++ second)) :
    CallsBack call first ∨ CallsBack call second := by
  simp only [CallsBack, List.mem_append, exists_or] at callsBack
  rcases callsBack with (here | there) | here | there
  · exact .inl (.inl here)
  · exact .inr (.inl there)
  · exact .inl (.inr here)
  · exact .inr (.inr there)

theorem not_callsBack_nil : ¬CallsBack call [] := by simp [CallsBack]

theorem not_callsBack_returned {result : Bool} : ¬CallsBack call [.returned other result] := by
  simp [CallsBack]

theorem not_callsBack_acquireRound {creates : Bool} :
    ¬CallsBack call (state.acquireRound other creates).2 := by
  simp only [SynthesizerPool.acquireRound]
  split
  · exact not_callsBack_nil
  · split
    · split
      · exact not_callsBack_nil
      · exact not_callsBack_returned
    · exact not_callsBack_nil

theorem callsBack_write {dataBuffer : List UInt8}
    (callsBack : CallsBack call (state.write engine dataBuffer).2) :
    (state.handler engine).params = some call := by
  simp only [SynthesizerPool.write] at callsBack
  split at callsBack
  · simp [CallsBack] at callsBack
  · next other attached =>
      rw [attached]
      split at callsBack
      · simp [CallsBack] at callsBack
      · split at callsBack
        · simp [CallsBack] at callsBack
          rw [callsBack]
        · simp [CallsBack] at callsBack

theorem callsBack_report {event : SdkEvent}
    (callsBack : CallsBack call (state.report engine event).2) :
    (state.handler engine).params = some call := by
  simp only [SynthesizerPool.report] at callsBack
  split at callsBack
  · simp [CallsBack] at callsBack
  · next other attached =>
      rw [attached]
      split at callsBack
      · simp [CallsBack] at callsBack
        rw [callsBack]
      · simp [CallsBack] at callsBack

/-- The call that `Speak` itself calls back is the one it runs for. -/
theorem callsBack_speak {creates : Bool}
    (callsBack : CallsBack call (state.speak needAddingSpace other creates).2) : call = other := by
  simp only [SynthesizerPool.speak] at callsBack
  split at callsBack
  · exact absurd callsBack not_callsBack_returned
  · split at callsBack
    · exact absurd callsBack not_callsBack_acquireRound
    · rcases callsBack_append _ callsBack with bookmarks | returned
      · rcases bookmarks with ⟨bytes, member⟩ | ⟨event, member⟩
        · obtain ⟨event, -, impossible⟩ := List.mem_map.mp member
          cases impossible
        · obtain ⟨event, -, same⟩ := List.mem_map.mp member
          cases same
          rfl
      · exact absurd returned not_callsBack_returned

/-- **A step calls back only a call that is inside.** -/
theorem callsBack_step {action : PoolAction} (invariant : PoolInvariant state)
    (taken : state.step needAddingSpace action = some (next, events))
    (callsBack : CallsBack call events) : (state.phase call).isInside = true := by
  cases action with
  | acquire other creates =>
      simp only [SynthesizerPool.step, Option.ite_none_right_eq_some, Option.some.injEq] at taken
      obtain ⟨entered, same⟩ := taken
      obtain rfl : _ = events := congrArg Prod.snd same
      rw [callsBack_speak callsBack, entered]
      rfl
  | notified other creates =>
      simp only [SynthesizerPool.step, Option.ite_none_right_eq_some, Option.some.injEq] at taken
      obtain ⟨-, same⟩ := taken
      obtain rfl : _ = events := congrArg Prod.snd same
      exact absurd callsBack not_callsBack_acquireRound
  | timesOut other creates =>
      simp only [SynthesizerPool.step, Option.ite_none_right_eq_some, Option.some.injEq] at taken
      obtain ⟨-, same⟩ := taken
      obtain rfl : _ = events := congrArg Prod.snd same
      split at callsBack
      · exact absurd callsBack not_callsBack_returned
      · exact absurd callsBack not_callsBack_acquireRound
  | write engine source dataBuffer =>
      simp only [SynthesizerPool.step, Option.ite_none_right_eq_some, Option.some.injEq,
        Prod.mk.injEq] at taken
      obtain ⟨-, -, rfl⟩ := taken
      rcases callsBack_append [_] callsBack with wrote | written
      · simp [CallsBack] at wrote
      · exact invariant.isInside (callsBack_write written)
  | report engine source event =>
      simp only [SynthesizerPool.step, Option.ite_none_right_eq_some, Option.some.injEq,
        Prod.mk.injEq] at taken
      obtain ⟨-, -, rfl⟩ := taken
      rcases callsBack_append [_] callsBack with noted | reported
      · simp [CallsBack] at noted
      · exact invariant.isInside (callsBack_report reported)
  | _ =>
      -- The other steps return from a call at most.
      refine absurd callsBack ?_
      simp only [SynthesizerPool.step, SynthesizerPool.detach, startStop, returns] at taken
      repeat' split at taken
      all_goals
        cases taken <;> simp [CallsBack]

/-- The steps of the run with the aborted call. -/
def abortedHistory : List (Transition SynthesizerPool PoolAction PoolObservation) :=
  (poolMachine fun _ _ => true).recorded.emitted {} abortedThenServed

end Callbacks

end SynthesizerPool

end ModernSapi
