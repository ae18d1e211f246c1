import ModernSapi.V1.Syntheses

/-!
# What a call gets

When the SDK is orderly, a call of `ProviderSpeak` gets the audio and the events of its own
synthesis and of no other one, however many calls share the pool and whatever aborted calls
have left behind in it.

* `call_audio`: the audio is what the SDK synthesized for the call without the silence at its
  start, up to the abort.
* `call_events`: the events are what the SDK reported for the call, with the offsets taken back
  to the source, up to the abort.
-/

set_option autoImplicit false

namespace ModernSapi

open Interleaving SynthesizerPool

/-! ## What is seen of a call -/

/-- The chunks the SDK has handed over for the call. -/
def chunksOf (call : ℕ) (trace : List PoolObservation) : List (List UInt8) :=
  trace.filterMap fun
    | .wrote source chunk => if source = call then some chunk else none
    | _ => none

/-- The events the SDK has reported for the call. -/
def reportsOf (call : ℕ) (trace : List PoolObservation) : List SdkEvent :=
  trace.filterMap fun
    | .reported source event => if source = call then some event else none
    | _ => none

/-- The bytes the audio callback of the call has got. -/
def callbackAudio (call : ℕ) (trace : List PoolObservation) : List UInt8 :=
  trace.flatMap fun
    | .audioCallback other bytes => if other = call then bytes else []
    | _ => []

/-- The events the meta callback of the call has got. -/
def callbackEvents (call : ℕ) (trace : List PoolObservation) : List ProviderSpeechEvent :=
  trace.filterMap fun
    | .metaCallback other event => if other = call then some event else none
    | _ => none

section Observers

variable {call : ℕ} (first second : List PoolObservation)

@[simp] theorem chunksOf_append :
    chunksOf call (first ++ second) = chunksOf call first ++ chunksOf call second :=
  List.filterMap_append

@[simp] theorem reportsOf_append :
    reportsOf call (first ++ second) = reportsOf call first ++ reportsOf call second :=
  List.filterMap_append

@[simp] theorem callbackAudio_append :
    callbackAudio call (first ++ second) = callbackAudio call first ++ callbackAudio call second :=
  List.flatMap_append

@[simp] theorem callbackEvents_append :
    callbackEvents call (first ++ second) = callbackEvents call first ++ callbackEvents call second :=
  List.filterMap_append

end Observers

/-- The chunks of a synthesis, in two parts. -/
theorem LeadingAudio.writes_append (audio : LeadingAudio) (first second : List (List UInt8)) :
    audio.writes (first ++ second) =
      (((audio.writes first).1.writes second).1,
        (audio.writes first).2 ++ ((audio.writes first).1.writes second).2) := by
  induction first generalizing audio with
  | nil => rfl
  | cons chunk chunks ih =>
      rw [List.cons_append, LeadingAudio.writes, ih]
      simp only [LeadingAudio.writes, List.append_assoc]

/-- The call has not taken a synthesizer's handler yet. -/
def SpeakPhase.isEarly : SpeakPhase → Bool
  | .uncalled | .entered | .waiting | .acquired _ => true
  | _ => false

/-- What a step of a call keeps of its entry, once the call has entered. -/
theorem CallStep.keeps {before after : ProviderCall} (step : CallStep before after) :
    (before.phase = .uncalled ∧ after.phase = .entered) ∨
      (after.params = before.params ∧ (before.isAborted = true → after.isAborted = true) ∧
        (after.phase.isEarly = true → before.phase.isEarly = true)) := by
  cases step with
  | enter params uncalled => exact .inl ⟨uncalled, rfl⟩
  | acquire entered after =>
      refine .inr ⟨rfl, id, fun _ => ?_⟩
      rcases entered with entered | waiting
      · rw [entered]
        rfl
      · rw [waiting]
        rfl
  | abort =>
      refine .inr ⟨rfl, fun aborted => ?_, id⟩
      rw [ProviderCall.isAborted, Bool.and_eq_true] at aborted ⊢
      exact ⟨aborted.1, rfl⟩
  | synthesisEnds => exact .inr ⟨rfl, id, id⟩
  | speak | speakFails | abortSeen | futureReady | release =>
      exact .inr ⟨rfl, id, fun early => by cases early⟩

namespace SynthesizerPool

variable {needAddingSpace : List UInt16 → List UInt16 → Bool} {state next : SynthesizerPool}
  {call other engine place : ℕ} {trace events : List PoolObservation} {action : PoolAction}

/-! ## Whose callbacks they are -/

/-- A synthesizer that synthesizes for a call is held by it. -/
theorem SynthesisInvariant.holds (invariant : SynthesisInvariant needAddingSpace state)
    (synthesizes : (state.calls call).synthesis = some engine) : state.Holds call engine := by
  rcases invariant.synthesis synthesizes with going | going | going | left
  · exact .inl (by rw [going]; rfl)
  · exact .inl (by rw [going]; rfl)
  · exact .inl (by rw [going]; rfl)
  · exact .inr left

/-- What the SDK hands over goes to the call it is for, if to any. -/
theorem SynthesisInvariant.own (invariant : SynthesisInvariant needAddingSpace state)
    (pool : PoolInvariant state) (synthesizes : (state.calls call).synthesis = some engine)
    (found : (state.handler engine).params = some other) : other = call :=
  pool.leased.exclusive (pool.holds found) (invariant.holds synthesizes)

theorem SynthesisInvariant.late (invariant : SynthesisInvariant needAddingSpace state)
    (pool : PoolInvariant state) (synthesizes : (state.calls call).synthesis = some engine) :
    (state.phase call).isEarly = false := by
  rcases invariant.synthesis synthesizes with going | going | going | left
  · rw [going]
    rfl
  · rw [going]
    rfl
  · rw [going]
    rfl
  · rw [pool.stopped left]
    rfl

/-- The handler has left a synthesis only when its call is aborted. -/
theorem SynthesisInvariant.aborted_of_detached (invariant : SynthesisInvariant needAddingSpace state)
    (synthesizes : (state.calls call).synthesis = some engine)
    (detached : (state.handler engine).params = none) : (state.calls call).isAborted = true := by
  rcases invariant.synthesis synthesizes with going | seen
  · have attached : (state.handler engine).params = some call :=
      invariant.attached (by rw [going]; rfl)
    rw [detached] at attached
    cases attached
  · exact invariant.aborted seen

/-- No other handler points at the parameters of the call either. -/
theorem SynthesisInvariant.unattached (invariant : SynthesisInvariant needAddingSpace state)
    (pool : PoolInvariant state) (synthesizes : (state.calls call).synthesis = some engine)
    (detached : (state.handler engine).params = none) :
    (state.handler place).params ≠ some call := by
  intro found
  have attached := pool.attached found
  rcases invariant.synthesis synthesizes with going | going | going | left
  · rw [invariant.attached (by rw [going]; rfl)] at detached
    cases detached
  · rw [invariant.attached (by rw [going]; rfl)] at detached
    cases detached
  · rw [going] at attached
    cases attached
  · rw [pool.stopped left] at attached
    cases attached

/-! ## What the call has got -/

/-- The audio of a call: what the SDK has handed over for it, or the first part of it when the
call is aborted. -/
def AudioDelivered (state : SynthesizerPool) (call : ℕ) (trace : List PoolObservation) : Prop :=
  ∃ taken rest, chunksOf call trace = taken ++ rest ∧
    callbackAudio call trace = (({} : LeadingAudio).writes taken).2 ∧
    ((state.calls call).isAborted = false → rest = [] ∧
      ∀ engine, (state.handler engine).params = some call →
        (state.handler engine).audio = (({} : LeadingAudio).writes taken).1)

def EventsDelivered (needAddingSpace : List UInt16 → List UInt16 → Bool) (state : SynthesizerPool)
    (call : ℕ) (trace : List PoolObservation) : Prop :=
  ∃ taken rest, reportsOf call trace = taken ++ rest ∧
    callbackEvents call trace = taken.map
      (SdkEvent.toProvider (parsed needAddingSpace (state.calls call).params).offsetMap) ∧
    (rest ≠ [] → (state.calls call).isAborted = true ∧
      ∀ engine, (state.handler engine).params ≠ some call)

/-- What the call has got of its synthesis. -/
structure Delivered (needAddingSpace : List UInt16 → List UInt16 → Bool) (call : ℕ)
    (trace : List PoolObservation) (state : SynthesizerPool) : Prop where
  early : (state.phase call).isEarly = true → chunksOf call trace = [] ∧
    reportsOf call trace = [] ∧ callbackAudio call trace = [] ∧ callbackEvents call trace = []
  whole : ∀ chunk ∈ chunksOf call trace, 2 ∣ chunk.length
  audio : (state.calls call).params.hasAudioCallback = true → AudioDelivered state call trace
  events : (state.calls call).params.hasMetaCallback = true →
    (parsed needAddingSpace (state.calls call).params).hasSpeakableText = true →
    EventsDelivered needAddingSpace state call trace

/-! ## The callbacks of a handler -/

theorem write_unheard {dataBuffer : List UInt8}
    (unheard : ∀ call, (state.handler engine).params = some call →
      (state.calls call).isAborted = true) : state.write engine dataBuffer = (state, []) := by
  simp only [write]
  split
  · rfl
  · next call found => exact if_pos (unheard call found)

/-- A chunk is passed on to the call of the handler, as far as there is something audible. -/
theorem write_heard (dataBuffer : List UInt8) (found : (state.handler engine).params = some call)
    (live : (state.calls call).isAborted = false) :
    ((state.write engine dataBuffer).1.handler engine).audio =
        ((state.handler engine).audio.write dataBuffer).1 ∧
      (∀ place, place ≠ engine →
        (state.write engine dataBuffer).1.handler place = state.handler place) ∧
      ((state.write engine dataBuffer).2 = [] ∨ (state.write engine dataBuffer).2 =
        [.audioCallback call ((state.handler engine).audio.write dataBuffer).2]) ∧
      ((state.calls call).params.hasAudioCallback = true →
        callbackAudio call (state.write engine dataBuffer).2 =
          ((state.handler engine).audio.write dataBuffer).2) := by
  simp only [write, found, live, Bool.false_eq_true, if_false]
  split
  · next passed =>
      refine ⟨?_, fun place elsewhere => ?_, .inr rfl, fun _ => ?_⟩
      · simp [runs]
      · simp [runs, elsewhere]
      · simp [callbackAudio]
  · next kept =>
      refine ⟨?_, fun place elsewhere => ?_, .inl rfl, fun has => ?_⟩
      · simp
      · simp [elsewhere]
      · have empty : ((state.handler engine).audio.write dataBuffer).2 = [] := by
          by_contra some_
          exact kept ⟨some_, has⟩
        rw [empty]
        rfl

/-- An event is passed on to the call of the handler, if it has a callback for it. -/
theorem report_events (event : SdkEvent) (found : (state.handler engine).params = some call)
    (has : (state.calls call).params.hasMetaCallback = true) :
    (state.report engine event).2 =
      [.metaCallback call (event.toProvider (state.handler engine).offsetMap)] := by
  simp only [report, found, has]
  rfl

theorem report_unheard {event : SdkEvent}
    (unheard : ∀ call, (state.handler engine).params = some call →
      (state.calls call).params.hasMetaCallback = false) :
    state.report engine event = (state, []) := by
  simp only [report]
  split
  · rfl
  · next call found =>
      refine if_neg ?_
      rw [unheard call found]
      exact Bool.false_ne_true

theorem report_audio (event : SdkEvent) (place : ℕ) :
    ((state.report engine event).1.handler place).audio = (state.handler place).audio := by
  simp only [report]
  split
  · rfl
  · split
    · rw [runs, handler_setHandler]
      split
      · next here => rw [here]
      · rfl
    · rfl

theorem AudioDelivered.silent (delivered : AudioDelivered state call trace)
    (chunks : chunksOf call events = []) (audio : callbackAudio call events = [])
    (aborted : (state.calls call).isAborted = true → (next.calls call).isAborted = true)
    (handlers : ∀ engine, (next.handler engine).params = some call →
      (state.handler engine).params = some call ∧
        (next.handler engine).audio = (state.handler engine).audio) :
    AudioDelivered next call (trace ++ events) := by
  obtain ⟨taken, rest, split, got, live⟩ := delivered
  refine ⟨taken, rest, ?_, ?_, fun notAborted => ?_⟩
  · rw [chunksOf_append, chunks, List.append_nil, split]
  · rw [callbackAudio_append, audio, List.append_nil, got]
  · have before : (state.calls call).isAborted = false := by
      rw [← Bool.not_eq_true]
      intro isAborted
      rw [aborted isAborted] at notAborted
      cases notAborted
    refine ⟨(live before).1, fun engine found => ?_⟩
    obtain ⟨attached, same⟩ := handlers engine found
    rw [same]
    exact (live before).2 engine attached

theorem EventsDelivered.silent (delivered : EventsDelivered needAddingSpace state call trace)
    (reports : reportsOf call events = []) (quiet : callbackEvents call events = [])
    (params : (next.calls call).params = (state.calls call).params)
    (aborted : (state.calls call).isAborted = true → (next.calls call).isAborted = true)
    (handlers : ∀ engine, (next.handler engine).params = some call →
      (state.handler engine).params = some call) :
    EventsDelivered needAddingSpace next call (trace ++ events) := by
  obtain ⟨taken, rest, split, got, left⟩ := delivered
  refine ⟨taken, rest, ?_, ?_, fun some_ => ⟨aborted (left some_).1, fun engine found => ?_⟩⟩
  · rw [reportsOf_append, reports, List.append_nil, split]
  · rw [callbackEvents_append, quiet, List.append_nil, got, params]
  · exact (left some_).2 engine (handlers engine found)

/-- A chunk that the handler does not pass on to the aborted call. -/
theorem AudioDelivered.rests (delivered : AudioDelivered state call trace) (chunk : List UInt8)
    (chunks : chunksOf call events = [chunk]) (audio : callbackAudio call events = [])
    (aborted : (next.calls call).isAborted = true) : AudioDelivered next call (trace ++ events) := by
  obtain ⟨taken, rest, split, got, -⟩ := delivered
  refine ⟨taken, rest ++ [chunk], ?_, ?_, fun notAborted => ?_⟩
  · rw [chunksOf_append, chunks, split, List.append_assoc]
  · rw [callbackAudio_append, audio, List.append_nil, got]
  · rw [aborted] at notAborted
    cases notAborted

/-- A chunk that the handler of the call writes. -/
theorem AudioDelivered.grows (delivered : AudioDelivered state call trace) {chunk : List UInt8}
    (live : (state.calls call).isAborted = false)
    (found : (state.handler engine).params = some call)
    (chunks : chunksOf call events = [chunk])
    (audio : callbackAudio call events = ((state.handler engine).audio.write chunk).2)
    (handlers : ∀ place, (next.handler place).params = some call →
      (next.handler place).audio = ((state.handler engine).audio.write chunk).1) :
    AudioDelivered next call (trace ++ events) := by
  obtain ⟨taken, rest, split, got, kept⟩ := delivered
  obtain ⟨rfl, same⟩ := kept live
  have written : ({} : LeadingAudio).writes (taken ++ [chunk]) =
      (((state.handler engine).audio.write chunk).1,
        (({} : LeadingAudio).writes taken).2 ++ ((state.handler engine).audio.write chunk).2) := by
    rw [LeadingAudio.writes_append, ← same engine found]
    simp [LeadingAudio.writes]
  refine ⟨taken ++ [chunk], [], ?_, ?_, fun _ => ⟨rfl, fun place attached => ?_⟩⟩
  · rw [chunksOf_append, chunks, split, List.append_nil, List.append_nil]
  · rw [callbackAudio_append, audio, got, written]
  · rw [handlers place attached, written]

/-- An event that the handler of the call passes on. -/
theorem EventsDelivered.grows (delivered : EventsDelivered needAddingSpace state call trace)
    {event : SdkEvent} (found : (state.handler engine).params = some call)
    (reports : reportsOf call events = [event])
    (got : callbackEvents call events = [event.toProvider
      (parsed needAddingSpace (state.calls call).params).offsetMap])
    (params : (next.calls call).params = (state.calls call).params) :
    EventsDelivered needAddingSpace next call (trace ++ events) := by
  obtain ⟨taken, rest, split, before, left⟩ := delivered
  have none_ : rest = [] := by
    by_contra some_
    exact (left some_).2 engine found
  refine ⟨taken ++ [event], [], ?_, ?_, fun some_ => absurd rfl some_⟩
  · rw [reportsOf_append, reports, split, none_, List.append_nil, List.append_nil]
  · rw [callbackEvents_append, got, before, params, List.map_append, List.map_singleton]

/-- An event that reaches no handler of the aborted call. -/
theorem EventsDelivered.rests (delivered : EventsDelivered needAddingSpace state call trace)
    (event : SdkEvent) (reports : reportsOf call events = [event])
    (quiet : callbackEvents call events = []) (aborted : (state.calls call).isAborted = true)
    (detached : ∀ engine, (state.handler engine).params ≠ some call) :
    EventsDelivered needAddingSpace state call (trace ++ events) := by
  obtain ⟨taken, rest, split, before, -⟩ := delivered
  refine ⟨taken, rest ++ [event], ?_, ?_, fun _ => ⟨aborted, detached⟩⟩
  · rw [reportsOf_append, reports, split, List.append_assoc]
  · rw [callbackEvents_append, quiet, List.append_nil, before]

namespace Delivered

/-- Nothing is seen of the call so far. -/
theorem of_empty (chunks : chunksOf call trace = []) (reports : reportsOf call trace = [])
    (audio : callbackAudio call trace = []) (events : callbackEvents call trace = [])
    (fresh : ∀ engine, (state.handler engine).params = some call →
      (state.handler engine).audio = {}) : Delivered needAddingSpace call trace state where
  early _ := ⟨chunks, reports, audio, events⟩
  whole chunk member := by
    rw [chunks] at member
    cases member
  audio _ := ⟨[], [], chunks, audio, fun _ => ⟨rfl, fresh⟩⟩
  events _ _ := ⟨[], [], reports, events, fun some_ => absurd rfl some_⟩

/-- A step of which the call gets nothing. -/
theorem silent (delivered : Delivered needAddingSpace call trace state)
    (chunks : chunksOf call events = []) (reports : reportsOf call events = [])
    (audio : callbackAudio call events = [])
    (bookmarks : callbackEvents call events = [] ∨ ((next.phase call).isEarly = false ∧
      (parsed needAddingSpace (next.calls call).params).hasSpeakableText = false))
    (params : (next.calls call).params = (state.calls call).params)
    (aborted : (state.calls call).isAborted = true → (next.calls call).isAborted = true)
    (early : (next.phase call).isEarly = true → (state.phase call).isEarly = true)
    (handlers : ∀ engine, (next.handler engine).params = some call →
      (state.handler engine).params = some call ∧
        (next.handler engine).audio = (state.handler engine).audio) :
    Delivered needAddingSpace call (trace ++ events) next where
  early isEarly := by
    obtain ⟨noChunks, noReports, noAudio, noEvents⟩ := delivered.early (early isEarly)
    have quiet : callbackEvents call events = [] := by
      refine bookmarks.resolve_right fun late => ?_
      rw [late.1] at isEarly
      cases isEarly
    simp [noChunks, noReports, noAudio, noEvents, chunks, reports, audio, quiet]
  whole chunk member := by
    rw [chunksOf_append, chunks, List.append_nil] at member
    exact delivered.whole chunk member
  audio has := by
    rw [params] at has
    exact (delivered.audio has).silent chunks audio aborted handlers
  events has speakable := by
    have quiet : callbackEvents call events = [] := by
      refine bookmarks.resolve_right fun unspeakable => ?_
      rw [unspeakable.2] at speakable
      cases speakable
    rw [params] at has speakable
    exact (delivered.events has speakable).silent reports quiet params aborted
      fun engine found => (handlers engine found).1

/-- Nothing is handed over in a quiet step, and what bookmarks there are belong to a call that
has nothing to speak. -/
theorem quiet_events (call : ℕ) (quiet : ∀ event ∈ events, Quiet needAddingSpace next event) :
    chunksOf call events = [] ∧ reportsOf call events = [] ∧ callbackAudio call events = [] ∧
      (callbackEvents call events = [] ∨ ((next.phase call).isEarly = false ∧
        (parsed needAddingSpace (next.calls call).params).hasSpeakableText = false)) := by
  refine ⟨?_, ?_, ?_, ?_⟩
  · refine List.filterMap_eq_nil_iff.mpr fun event member => ?_
    have silent := quiet event member
    cases event <;> first | rfl | cases silent
  · refine List.filterMap_eq_nil_iff.mpr fun event member => ?_
    have silent := quiet event member
    cases event <;> first | rfl | cases silent
  · refine List.flatMap_eq_nil_iff.mpr fun event member => ?_
    have silent := quiet event member
    cases event <;> first | rfl | cases silent
  · by_cases bookmark : ∃ event, .metaCallback call event ∈ events
    · obtain ⟨event, member⟩ := bookmark
      obtain ⟨unspeakable, returned⟩ := quiet _ member
      refine .inr ⟨?_, unspeakable⟩
      rw [returned]
      rfl
    · refine .inl (List.filterMap_eq_nil_iff.mpr fun event member => ?_)
      cases event with
      | metaCallback other event =>
          refine if_neg ?_
          rintro rfl
          exact bookmark ⟨event, member⟩
      | _ => rfl

theorem moved (delivered : Delivered needAddingSpace call trace state)
    (pool : PoolInvariant state) {entry : ProviderCall}
    (step : CallStep (state.calls other) entry)
    (calls : next.calls = Function.update state.calls other entry)
    (handlers : ∀ engine, next.handler engine = state.handler engine ∨
      ((next.handler engine).params = none ∧ (state.handler engine).params = none))
    (quiet : ∀ event ∈ events, Quiet needAddingSpace next event) :
    Delivered needAddingSpace call (trace ++ events) next := by
  obtain ⟨chunks, reports, audio, bookmarks⟩ := quiet_events call quiet
  have same : ∀ engine, (next.handler engine).params = some call →
      (state.handler engine).params = some call ∧
        (next.handler engine).audio = (state.handler engine).audio := by
    intro engine found
    have kept : next.handler engine = state.handler engine := by
      refine (handlers engine).resolve_right fun none_ => ?_
      rw [none_.1] at found
      cases found
    exact ⟨kept ▸ found, congrArg AudioStreamHandler.audio kept⟩
  by_cases here : call = other
  · subst here
    have entry_ : next.calls call = entry := by rw [calls, Function.update_self]
    have phase : next.phase call = entry.phase := by rw [SynthesizerPool.phase, entry_]
    rcases step.keeps with ⟨uncalled, entered⟩ | ⟨params, aborted, early⟩
    · have before : state.phase call = .uncalled := uncalled
      obtain ⟨noChunks, noReports, noAudio, noEvents⟩ := delivered.early (by rw [before]; rfl)
      have none_ : callbackEvents call events = [] := by
        refine bookmarks.resolve_right fun late => ?_
        rw [phase, entered] at late
        cases late.1
      refine of_empty (by simp [noChunks, chunks]) (by simp [noReports, reports])
        (by simp [noAudio, audio]) (by simp [noEvents, none_]) fun engine found => ?_
      have attached := pool.attached (same engine found).1
      rw [before] at attached
      cases attached
    · refine delivered.silent chunks reports audio bookmarks (by rw [entry_, params])
        (fun isAborted => ?_) (fun isEarly => ?_) same
      · rw [entry_]
        exact aborted isAborted
      · rw [phase] at isEarly
        exact early isEarly
  · have entry_ : next.calls call = state.calls call := by rw [calls, Function.update_of_ne here]
    have phase : next.phase call = state.phase call := by rw [SynthesizerPool.phase, entry_]; rfl
    refine delivered.silent chunks reports audio bookmarks (by rw [entry_])
      (fun aborted => ?_) (fun early => ?_) same
    · rw [entry_]
      exact aborted
    · rw [phase] at early
      exact early

section Sdk

variable {source : ℕ} {dataBuffer : List UInt8} {event : SdkEvent}

/-- The chunk goes to the call. -/
theorem wrote_heard (delivered : Delivered needAddingSpace call trace state)
    (pool : PoolInvariant state) (late : (state.phase call).isEarly = false)
    (whole : 2 ∣ dataBuffer.length) (found : (state.handler engine).params = some call)
    (live : (state.calls call).isAborted = false) :
    Delivered needAddingSpace call
      (trace ++ .wrote call dataBuffer :: (state.write engine dataBuffer).2)
      (state.write engine dataBuffer).1 := by
  have kept := keeps_write state engine dataBuffer
  obtain ⟨audio, -, passed, got⟩ := write_heard dataBuffer found live
  have chunks : chunksOf call (.wrote call dataBuffer :: (state.write engine dataBuffer).2) =
      [dataBuffer] := by
    rcases passed with passed | passed <;> rw [passed] <;> simp [chunksOf]
  refine ⟨fun early => ?_, fun chunk member => ?_, fun has => ?_, fun has speakable => ?_⟩
  · rw [SynthesizerPool.phase, kept.calls] at early
    rw [SynthesizerPool.phase, early] at late
    cases late
  · rw [chunksOf_append, chunks] at member
    rcases List.mem_append.mp member with old | new
    · exact delivered.whole chunk old
    · rw [List.mem_singleton.mp new]
      exact whole
  · rw [kept.calls] at has
    refine (delivered.audio has).grows live found chunks (got has) fun place points => ?_
    rw [kept.params] at points
    have same : place = engine :=
      Option.some.inj ((pool.attached points).symm.trans (pool.attached found))
    rw [same]
    exact audio
  · rw [kept.calls] at has speakable
    refine (delivered.events has speakable).silent ?_ ?_ (by rw [kept.calls])
      (fun aborted => by rw [kept.calls]; exact aborted) fun place points => ?_
    · rcases passed with passed | passed <;> rw [passed] <;> simp [reportsOf]
    · rcases passed with passed | passed <;> rw [passed] <;> simp [callbackEvents]
    · rw [kept.params] at points
      exact points

/-- The chunk of an aborted call goes to nobody. -/
theorem wrote_unheard (delivered : Delivered needAddingSpace call trace state)
    (late : (state.phase call).isEarly = false) (whole : 2 ∣ dataBuffer.length)
    (aborted : (state.calls call).isAborted = true) :
    Delivered needAddingSpace call (trace ++ [.wrote call dataBuffer]) state where
  early early := by
    rw [late] at early
    cases early
  whole chunk member := by
    rw [chunksOf_append] at member
    rcases List.mem_append.mp member with old | new
    · exact delivered.whole chunk old
    · have same : chunk = dataBuffer := by simpa [chunksOf] using new
      rw [same]
      exact whole
  audio has := (delivered.audio has).rests dataBuffer (by simp [chunksOf])
    (by simp [callbackAudio]) aborted
  events has speakable := (delivered.events has speakable).silent (by simp [reportsOf])
    (by simp [callbackEvents]) rfl id fun _ points => points

/-- The chunk is of another call. -/
theorem wrote_other (delivered : Delivered needAddingSpace call trace state)
    (other : source ≠ call) (found : (state.handler engine).params = some source)
    (live : (state.calls source).isAborted = false) :
    Delivered needAddingSpace call
      (trace ++ .wrote source dataBuffer :: (state.write engine dataBuffer).2)
      (state.write engine dataBuffer).1 := by
  have kept := keeps_write state engine dataBuffer
  obtain ⟨-, others, passed, -⟩ := write_heard dataBuffer found live
  refine delivered.silent ?_ ?_ ?_ (.inl ?_) (by rw [kept.calls])
    (fun aborted => by rw [kept.calls]; exact aborted) (fun early => ?_) fun place points => ?_
  · rcases passed with passed | passed <;> rw [passed] <;> simp [chunksOf, other]
  · rcases passed with passed | passed <;> rw [passed] <;> simp [reportsOf]
  · rcases passed with passed | passed <;> rw [passed] <;> simp [callbackAudio, other]
  · rcases passed with passed | passed <;> rw [passed] <;> simp [callbackEvents]
  · rw [SynthesizerPool.phase, kept.calls] at early
    exact early
  · rw [kept.params] at points
    have elsewhere : place ≠ engine := by
      rintro rfl
      exact other (Option.some.inj (found.symm.trans points))
    exact ⟨points, congrArg AudioStreamHandler.audio (others place elsewhere)⟩

/-- The SDK hands a chunk over. -/
theorem wrote (delivered : Delivered needAddingSpace call trace state) (pool : PoolInvariant state)
    (syntheses : SynthesisInvariant needAddingSpace state)
    (synthesizes : (state.calls source).synthesis = some engine) (whole : 2 ∣ dataBuffer.length) :
    Delivered needAddingSpace call
      (trace ++ .wrote source dataBuffer :: (state.write engine dataBuffer).2)
      (state.write engine dataBuffer).1 := by
  have late := syntheses.late pool synthesizes
  by_cases heard : (state.handler engine).params = some source ∧
      (state.calls source).isAborted = false
  · obtain ⟨found, live⟩ := heard
    by_cases own : source = call
    · subst own
      exact delivered.wrote_heard pool late whole found live
    · exact delivered.wrote_other own found live
  · have aborted : (state.calls source).isAborted = true := by
      cases found : (state.handler engine).params with
      | none => exact syntheses.aborted_of_detached synthesizes found
      | some other =>
          rw [← Bool.not_eq_false]
          intro live
          obtain rfl := syntheses.own pool synthesizes found
          exact heard ⟨found, live⟩
    have unheard : state.write engine dataBuffer = (state, []) := by
      refine write_unheard fun other found => ?_
      rw [syntheses.own pool synthesizes found]
      exact aborted
    rw [unheard]
    by_cases own : source = call
    · subst own
      exact delivered.wrote_unheard late whole aborted
    · refine delivered.silent ?_ ?_ ?_ (.inl ?_) rfl id id fun _ points => ⟨points, rfl⟩
      · simp [chunksOf, own]
      · simp [reportsOf]
      · simp [callbackAudio]
      · simp [callbackEvents]

/-- The SDK reports an event. -/
theorem reported (delivered : Delivered needAddingSpace call trace state)
    (pool : PoolInvariant state) (syntheses : SynthesisInvariant needAddingSpace state)
    (synthesizes : (state.calls source).synthesis = some engine) :
    Delivered needAddingSpace call
      (trace ++ .reported source event :: (state.report engine event).2)
      (state.report engine event).1 := by
  have late := syntheses.late pool synthesizes
  have kept := keeps_report state engine event
  have passed : (state.report engine event).2 = [] ∨ ∃ reported,
      (state.report engine event).2 = [.metaCallback source reported] := by
    by_cases heard : (state.handler engine).params = some source ∧
        (state.calls source).params.hasMetaCallback = true
    · exact .inr ⟨_, report_events event heard.1 heard.2⟩
    · refine .inl (congrArg Prod.snd (report_unheard fun other found => ?_))
      obtain rfl := syntheses.own pool synthesizes found
      rw [← Bool.not_eq_true]
      exact fun has => heard ⟨found, has⟩
  have noChunks : chunksOf call (.reported source event :: (state.report engine event).2) = [] := by
    rcases passed with passed | ⟨_, passed⟩ <;> rw [passed] <;> simp [chunksOf]
  have noAudio : callbackAudio call (.reported source event :: (state.report engine event).2) =
      [] := by
    rcases passed with passed | ⟨_, passed⟩ <;> rw [passed] <;> simp [callbackAudio]
  by_cases own : source = call
  · subst own
    have reports : reportsOf source (.reported source event :: (state.report engine event).2) =
        [event] := by
      rcases passed with passed | ⟨_, passed⟩ <;> rw [passed] <;> simp [reportsOf]
    refine ⟨fun early => ?_, fun chunk member => ?_, fun has => ?_, fun has speakable => ?_⟩
    · rw [SynthesizerPool.phase, kept.calls] at early
      rw [SynthesizerPool.phase, early] at late
      cases late
    · rw [chunksOf_append, noChunks, List.append_nil] at member
      exact delivered.whole chunk member
    · rw [kept.calls] at has
      refine (delivered.audio has).silent noChunks noAudio
        (fun aborted => by rw [kept.calls]; exact aborted) fun place points => ?_
      rw [kept.params] at points
      exact ⟨points, report_audio event place⟩
    · rw [kept.calls] at has speakable
      cases found : (state.handler engine).params with
      | none =>
          have unheard : state.report engine event = (state, []) := by
            refine report_unheard fun other points => ?_
            rw [found] at points
            cases points
          rw [unheard]
          refine (delivered.events has speakable).rests event (by simp [reportsOf])
            (by simp [callbackEvents]) (syntheses.aborted_of_detached synthesizes found)
            fun place => syntheses.unattached pool synthesizes found
      | some other =>
          obtain rfl := syntheses.own pool synthesizes found
          refine (delivered.events has speakable).grows found reports ?_ (by rw [kept.calls])
          rw [report_events event found has, syntheses.offsets found]
          simp [callbackEvents]
  · refine delivered.silent noChunks ?_ noAudio (.inl ?_) (by rw [kept.calls])
      (fun aborted => by rw [kept.calls]; exact aborted) (fun early => ?_) fun place points => ?_
    · rcases passed with passed | ⟨_, passed⟩ <;> rw [passed] <;> simp [reportsOf, own]
    · rcases passed with passed | ⟨_, passed⟩ <;> rw [passed] <;> simp [callbackEvents, own]
    · rw [SynthesizerPool.phase, kept.calls] at early
      exact early
    · rw [kept.params] at points
      exact ⟨points, report_audio event place⟩

end Sdk

/-- A call moves on, and with it its handler. -/
theorem atEngine (delivered : Delivered needAddingSpace call trace state) {phase : SpeakPhase}
    {streamHandler : AudioStreamHandler} (late : phase.isEarly = false)
    (points : streamHandler.params = some call →
      streamHandler = state.handler engine) :
    Delivered needAddingSpace call trace
      ((state.setHandler engine streamHandler).moves other phase) := by
  have entry : ∀ entry : ProviderCall, (if call = other then
      { state.calls other with phase } else state.calls call) = entry →
      entry.params = (state.calls call).params ∧ entry.isAborted = (state.calls call).isAborted := by
    rintro entry rfl
    split
    · next here =>
        rw [here]
        exact ⟨rfl, rfl⟩
    · exact ⟨rfl, rfl⟩
  obtain ⟨params, aborted⟩ := entry _ rfl
  rw [← List.append_nil trace]
  refine delivered.silent rfl rfl rfl (.inl rfl) ?_ (fun before => ?_) (fun early => ?_)
    fun place found => ?_
  · rw [moves, calls_setCall]
    exact params
  · rw [moves, calls_setCall]
    exact aborted.trans before
  · rw [phase_moves] at early
    split at early
    · rw [late] at early
      cases early
    · exact early
  · rw [handler_moves, handler_setHandler] at found ⊢
    split at found
    · next here =>
        rw [if_pos here, here]
        exact points found ▸ ⟨found, rfl⟩
    · next away =>
        rw [if_neg away]
        exact ⟨found, rfl⟩

theorem attaches (delivered : Delivered needAddingSpace call trace state)
    (pool : PoolInvariant state) (acquired : state.phase other = .acquired engine) :
    Delivered needAddingSpace call trace
      ((state.attachContext needAddingSpace engine other).moves other (.attached engine)) := by
  by_cases here : call = other
  · subst here
    obtain ⟨chunks, reports, audio, events⟩ := delivered.early (by rw [acquired]; rfl)
    refine of_empty chunks reports audio events fun place found => ?_
    rw [handler_moves, attachContext, handler_setHandler] at found ⊢
    split at found
    · next same => rw [if_pos same]
    · have attached := pool.attached found
      rw [acquired] at attached
      cases attached
  · refine delivered.atEngine rfl fun points => ?_
    exact absurd (Option.some.inj points).symm here

theorem effect (delivered : Delivered needAddingSpace call trace state) (pool : PoolInvariant state)
    (syntheses : SynthesisInvariant needAddingSpace state)
    (effect : PoolEffect needAddingSpace state next events) :
    Delivered needAddingSpace call (trace ++ events) next := by
  cases effect with
  | moved step calls handlers stops quiet => exact delivered.moved pool step calls handlers quiet
  | attached acquired =>
      rw [List.append_nil]
      exact delivered.attaches pool acquired
  | detached before =>
      rw [List.append_nil]
      refine delivered.atEngine ?_ fun points => by cases points
      rcases before with ⟨-, rfl⟩ | ⟨result, -, rfl⟩ <;> rfl
  | @left other engine stopping =>
      refine delivered.silent rfl rfl rfl (.inl rfl) ?_ (fun aborted => ?_) (fun early => ?_)
        fun _ found => ⟨found, rfl⟩
      · simp only [moves, calls_setCall]
        split
        · next here => rw [here]
        · rfl
      · simp only [moves, calls_setCall]
        split
        · next here =>
            rw [here] at aborted
            exact aborted
        · exact aborted
      · rw [phase_moves] at early
        split at early
        · cases early
        · exact early
  | @stopped other engine ended =>
      have same : ∀ place, ({ state.releaseSynthesizer engine with
          stops := state.stops.erase (engine, other) } : SynthesizerPool).handler place =
            state.handler place := congrFun (handler_setBusy false)
      refine delivered.silent rfl rfl rfl (.inl rfl) rfl id id fun place found => ?_
      rw [same] at found ⊢
      exact ⟨found, rfl⟩
  | wrote synthesizes whole => exact delivered.wrote pool syntheses synthesizes whole
  | reported synthesizes => exact delivered.reported pool syntheses synthesizes
  | callbackReturned engine =>
      refine delivered.silent rfl rfl rfl (.inl rfl) rfl id id fun place found => ?_
      rw [runs, handler_setHandler] at found ⊢
      split at found
      · next here =>
          rw [if_pos here, here]
          exact ⟨found, rfl⟩
      · next away =>
          rw [if_neg away]
          exact ⟨found, rfl⟩

end Delivered

/-! ## Over a run -/

section Run

theorem delivered
    (reached : (poolMachine needAddingSpace).Reaches Orderly trace state) (call : ℕ) :
    SynthesisInvariant needAddingSpace state ∧ Delivered needAddingSpace call trace state := by
  refine reached.induct (motive := fun trace state =>
    SynthesisInvariant needAddingSpace state ∧ Delivered needAddingSpace call trace state) ?_ ?_
  · rintro start rfl
    exact ⟨.initial, .of_empty rfl rfl rfl rfl fun _ _ => rfl⟩
  · intro _ _ _ _ _ before holds orderly taken
    have pool := poolInvariant before
    have effect := step_effect pool orderly taken
    exact ⟨holds.1.effect pool effect, holds.2.effect pool holds.1 effect⟩

/-- **A call hears what was synthesized for it.** In an orderly run the audio that a call gets
is the one the SDK has synthesized for it, in order and without the silence at its start, and
of no other call. Only of an aborted call the last chunks may be missing. -/
theorem call_audio (reached : (poolMachine needAddingSpace).Reaches Orderly trace state)
    (has : (state.calls call).params.hasAudioCallback = true) :
    ∃ taken rest, chunksOf call trace = taken ++ rest ∧
      callbackAudio call trace = trimLeading 50 taken.flatten ∧
      ((state.calls call).isAborted = false → rest = []) := by
  have holds := (delivered reached call).2
  obtain ⟨taken, rest, split, got, live⟩ := holds.audio has
  refine ⟨taken, rest, split, ?_, fun notAborted => (live notAborted).1⟩
  rw [got]
  refine write_chunks rfl fun chunk member => holds.whole chunk ?_
  rw [split]
  exact List.mem_append_left _ member

/-- **A call sees the events of its own synthesis.** In an orderly run the events that a call
with something to speak gets are those the SDK has reported for it, in order, with the offsets
taken back through the map of its own fragments. Only of an aborted call the last ones may be
missing. -/
theorem call_events (reached : (poolMachine needAddingSpace).Reaches Orderly trace state)
    (has : (state.calls call).params.hasMetaCallback = true)
    (speakable : (parsed needAddingSpace (state.calls call).params).hasSpeakableText = true) :
    ∃ taken rest, reportsOf call trace = taken ++ rest ∧
      callbackEvents call trace = taken.map
        (SdkEvent.toProvider (parsed needAddingSpace (state.calls call).params).offsetMap) ∧
      ((state.calls call).isAborted = false → rest = []) := by
  obtain ⟨taken, rest, split, got, left⟩ := (delivered reached call).2.events has speakable
  refine ⟨taken, rest, split, got, fun notAborted => ?_⟩
  by_contra some_
  rw [(left some_).1] at notAborted
  cases notAborted

/-- What the callbacks of the second call get, whose synthesis the first one does not disturb. -/
theorem call_audio_aborted :
    callbackAudio 1 ((poolMachine fun _ _ => true).emitted {} abortedThenServed) = [0, 1, 5, 5] := by
  have reached : (poolMachine fun _ _ => true).Reaches Orderly
      ((poolMachine fun _ _ => true).emitted {} abortedThenServed)
      ((poolMachine fun _ _ => true).finalState {} abortedThenServed) :=
    ⟨{}, rfl, (poolMachine fun _ _ => true).run_finalState _ _ (by decide +kernel)
      (by decide +kernel)⟩
  have has : (((poolMachine fun _ _ => true).finalState {} abortedThenServed).calls
      1).params.hasAudioCallback = true := by decide +kernel
  obtain ⟨taken, rest, split, got, live⟩ := call_audio reached has
  obtain rfl := live (by decide +kernel)
  have chunks : chunksOf 1 ((poolMachine fun _ _ => true).emitted {} abortedThenServed) =
      [[0, 0, 0, 1, 5, 5]] := by decide +kernel
  rw [List.append_nil] at split
  rw [got, ← split, chunks]
  decide +kernel

theorem call_events_aborted :
    (callbackEvents 1 ((poolMachine fun _ _ => true).emitted {} abortedThenServed)).length = 1 := by
  have reached : (poolMachine fun _ _ => true).Reaches Orderly
      ((poolMachine fun _ _ => true).emitted {} abortedThenServed)
      ((poolMachine fun _ _ => true).finalState {} abortedThenServed) :=
    ⟨{}, rfl, (poolMachine fun _ _ => true).run_finalState _ _ (by decide +kernel)
      (by decide +kernel)⟩
  have has : (((poolMachine fun _ _ => true).finalState {} abortedThenServed).calls
      1).params.hasMetaCallback = true := by decide +kernel
  obtain ⟨taken, rest, split, got, live⟩ := call_events reached has (by decide +kernel)
  obtain rfl := live (by decide +kernel)
  have reports : (reportsOf 1 ((poolMachine fun _ _ => true).emitted {} abortedThenServed)).length =
      1 := by decide +kernel
  rw [List.append_nil] at split
  rw [got, List.length_map, ← split, reports]

end Run

end SynthesizerPool

end ModernSapi
