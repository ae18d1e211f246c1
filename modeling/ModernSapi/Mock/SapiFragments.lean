import ModernSapi.Engine.FragmentSerializer
import ModernSapi.Mock.Refinement

/-!
# From the text of SAPI to its sound

The engine makes JSON values of the fragments of SAPI, and the mock provider makes words and
bookmarks of the values. What comes out is the speech of the fragments themselves, as long as
the protocol has a form for each of them and UTF-8 one for their texts.

* `sapi_speech_arrives`: SAPI gets the sound of the words of its own fragments.
* `sapi_bookmark_arrives`: which names of bookmarks SAPI gets back as they were.
-/

set_option autoImplicit false

namespace ModernSapi

open Interleaving Unicode

/-! ## The speech of a fragment -/

/-- The units of the text, which a null pointer has none of. -/
def SpvTextFrag.units (fragment : SpvTextFrag) : List UInt16 := fragment.text.getD []

/-- What a fragment is to be spoken as. -/
def SpvTextFrag.speech (fragment : SpvTextFrag) : List SpeechItem :=
  match fragment.state.eAction with
  | .bookmark => [.bookmark fragment.units]
  | .silence | .other _ => []
  | .speak | .pronounce | .spellOut | .sectionStart | .parseUnknownTag =>
      wordItems (.ofNat fragment.ulTextSrcOffset) (splitWords fragment.units)

/-- The fragment has a form in the protocol, and its text one in UTF-8. The text does not ask
the provider to stall. -/
structure SpvTextFrag.Arrives (fragment : SpvTextFrag) : Prop where
  expressible : fragment.IsExpressible
  wellFormed : WellFormed fragment.units
  convertible : StringUtils.Convertible fragment.units
  offset : fragment.ulTextSrcOffset < 2 ^ 32
  goesOn : (encode "[stall-synthesis]".toList).isPrefixOf fragment.units = false

/-- Every fragment arrives, and the speech lasts no longer than an `int` of milliseconds. -/
structure SpeechArrives (fragments : List SpvTextFrag) : Prop where
  arrives : ∀ fragment ∈ fragments, fragment.Arrives
  duration : 200 * (fragments.flatMap SpvTextFrag.speech).length < 2 ^ 31

section Words

/-- The units that some parts take, each with a separator behind it. -/
def extent : List (List UInt16) → ℕ
  | [] => 0
  | part :: parts => part.length + 1 + extent parts

variable {text word part : List UInt16} {parts : List (List UInt16)}

theorem lt_extent_of_mem (member : part ∈ parts) : part.length < extent parts := by
  induction parts with
  | nil => cases member
  | cons first parts ih =>
      rw [extent]
      rcases List.mem_cons.mp member with rfl | later
      · omega
      · have := ih later
        omega

/-- Splitting a text leaves out its separators and nothing else. -/
theorem extent_splitOnP (separates : UInt16 → Bool) :
    extent (text.splitOnP separates) = text.length + 1 := by
  induction text with
  | nil => rfl
  | cons unit text ih =>
      rw [List.splitOnP_cons_eq_if_modifyHead, List.length_cons]
      split
      · rw [extent, ih, List.length_nil]
        omega
      · cases split : text.splitOnP separates with
        | nil => exact absurd split (List.splitOnP_ne_nil _ text)
        | cons first rest =>
            rw [split, extent] at ih
            rw [List.modifyHead_cons, extent, List.length_cons]
            omega

theorem length_le_of_mem_splitWords (member : word ∈ splitWords text) :
    word.length ≤ text.length := by
  have short := lt_extent_of_mem (List.mem_of_mem_filter member)
  rw [extent_splitOnP] at short
  omega

/-- The parts of a text are its words. -/
theorem mem_wordItems {charOffset : UInt32} {words : List (List UInt16)} {item : SpeechItem}
    (member : item ∈ wordItems charOffset words) :
    ∃ offset, ∃ word ∈ words, item = .word offset word := by
  induction words generalizing charOffset with
  | nil => cases member
  | cons word words ih =>
      rcases List.mem_cons.mp member with rfl | later
      · exact ⟨charOffset, word, List.mem_cons_self, rfl⟩
      · obtain ⟨offset, other, known, same⟩ := ih later
        exact ⟨offset, other, List.mem_cons_of_mem _ known, same⟩

end Words

namespace SpvTextFrag

variable {fragment : SpvTextFrag}

theorem fragmentUtf8Text_units (convertible : StringUtils.Convertible fragment.units) :
    SapiFragmentSerializer.fragmentUtf8Text fragment = String.ofList (decode fragment.units) := by
  unfold units at convertible ⊢
  cases here : fragment.text with
  | none =>
      rw [SapiFragmentSerializer.fragmentUtf8Text, here]
      rfl
  | some text =>
      rw [here] at convertible
      exact SapiFragmentSerializer.fragmentUtf8Text_eq here convertible

theorem fragmentUtf8Text_isEmpty (convertible : StringUtils.Convertible fragment.units) :
    (SapiFragmentSerializer.fragmentUtf8Text fragment).isEmpty = true ↔ fragment.units = [] := by
  rw [fragmentUtf8Text_units convertible, String.isEmpty_iff, ← String.toList_eq_nil_iff,
    String.toList_ofList, decode_eq_nil]

/-- The provider reads the units of the text, as far as they are well formed. -/
theorem getString_fragmentUtf8Text (convertible : StringUtils.Convertible fragment.units) :
    getString (.string (SapiFragmentSerializer.fragmentUtf8Text fragment)) =
      some (encode (decode fragment.units)) := by
  rw [fragmentUtf8Text_units convertible, getString, String.toList_ofList]

/-- A bookmark is read with the name it was sent with. -/
theorem readFragment_bookmark (bookmark : fragment.state.eAction = .bookmark)
    (convertible : StringUtils.Convertible fragment.units) (named : fragment.units ≠ []) :
    readFragment (SapiFragmentSerializer.serializeFragment fragment) =
      some (.bookmark (encode (decode fragment.units))) := by
  have spelled := mt (fragmentUtf8Text_isEmpty convertible).mp named
  have name := getString_fragmentUtf8Text convertible
  rw [SapiFragmentSerializer.serializeFragment, bookmark]
  simp [spelled, readFragment, name, List.lookup]

/-- A text is read with its words and its place. -/
theorem readFragment_spoken (spoken : fragment.state.eAction.isSpoken = true)
    (arrives : fragment.Arrives) :
    fragmentItems (readFragment (SapiFragmentSerializer.serializeFragment fragment)) =
      wordItems (.ofNat fragment.ulTextSrcOffset) (splitWords fragment.units) := by
  have text := getString_fragmentUtf8Text arrives.convertible
  rw [encode_decode arrives.wellFormed] at text
  have form : SapiFragmentSerializer.serializeFragment fragment =
      if (SapiFragmentSerializer.fragmentUtf8Text fragment).isEmpty then
        .object (SapiFragmentSerializer.tuning fragment.state ++
          [("volume", .numberUnsigned fragment.state.volume)])
      else
        .object (SapiFragmentSerializer.tuning fragment.state ++
          [("source_offset", .numberUnsigned fragment.ulTextSrcOffset),
            ("text", .string (SapiFragmentSerializer.fragmentUtf8Text fragment)),
            ("volume", .numberUnsigned fragment.state.volume)]) := by
    unfold SapiFragmentSerializer.serializeFragment
    cases action : fragment.state.eAction with
    | silence | bookmark | other =>
        rw [action] at spoken
        cases spoken
    | speak | pronounce | spellOut | sectionStart | parseUnknownTag => rfl
  by_cases empty : fragment.units = []
  · rw [form, if_pos ((fragmentUtf8Text_isEmpty arrives.convertible).mpr empty), empty]
    rfl
  · rw [form, if_neg (mt (fragmentUtf8Text_isEmpty arrives.convertible).mp empty)]
    have offset : getUInt32 (.numberUnsigned fragment.ulTextSrcOffset) =
        some (.ofNat fragment.ulTextSrcOffset) := if_pos arrives.offset
    simp only [readFragment, SapiFragmentSerializer.tuning, List.cons_append, List.nil_append,
      List.lookup, String.reduceBEq, text, arrives.goesOn, Bool.false_eq_true, if_false, offset,
      Option.map_some, fragmentItems]

/-- **The provider speaks what the fragment says.** -/
theorem fragmentItems_serializeFragment (arrives : fragment.Arrives) :
    fragmentItems (readFragment (SapiFragmentSerializer.serializeFragment fragment)) =
      fragment.speech := by
  have expressible := arrives.expressible
  unfold IsExpressible at expressible
  cases action : fragment.state.eAction with
  | bookmark =>
      rw [action] at expressible
      have named : fragment.units ≠ [] := by
        intro empty
        apply expressible
        rw [fragmentUtf8Text_units arrives.convertible, empty]
        rfl
      rw [readFragment_bookmark action arrives.convertible named, speech, action,
        encode_decode arrives.wellFormed]
      rfl
  | other =>
      rw [action] at expressible
      exact expressible.elim
  | silence =>
      rw [SapiFragmentSerializer.serializeFragment, speech, action]
      rfl
  | speak | pronounce | spellOut | sectionStart | parseUnknownTag =>
      rw [readFragment_spoken (by rw [action]; rfl) arrives, speech, action]

/-- The parts of a speech are bookmarks and words no longer than the text. -/
theorem mem_speech {item : SpeechItem} (member : item ∈ fragment.speech) :
    (∃ name, item = .bookmark name) ∨
      ∃ offset word, item = .word offset word ∧ word.length ≤ fragment.units.length := by
  unfold speech at member
  split at member
  · exact .inl ⟨_, List.mem_singleton.mp member⟩
  · cases member
  · cases member
  all_goals
    obtain ⟨offset, word, known, same⟩ := mem_wordItems member
    exact .inr ⟨offset, word, same, length_le_of_mem_splitWords known⟩

end SpvTextFrag

/-! ## The speech of a request -/

namespace SpeechArrives

variable {fragments : List SpvTextFrag}

theorem speechItems_serialize (spoken : SpeechArrives fragments) :
    speechItems (SapiFragmentSerializer.serialize fragments) =
      fragments.flatMap SpvTextFrag.speech := by
  rw [speechItems, SapiFragmentSerializer.serialize, List.flatMap_map]
  apply List.flatMap_congr
  intro fragment member
  exact SpvTextFrag.fragmentItems_serializeFragment (spoken.arrives fragment member)

/-- The provider can speak it. -/
theorem speakable (spoken : SpeechArrives fragments) :
    Speakable (SapiFragmentSerializer.serialize fragments) := by
  have items := spoken.speechItems_serialize
  refine ⟨?_, items ▸ spoken.duration, ?_⟩
  · intro refused
    rw [items] at refused
    obtain ⟨fragment, -, member⟩ := List.mem_flatMap.mp refused
    rcases SpvTextFrag.mem_speech member with ⟨_, same⟩ | ⟨_, _, same, -⟩ <;> cases same
  · intro charOffset word spelled
    rw [items] at spelled
    obtain ⟨fragment, known, member⟩ := List.mem_flatMap.mp spelled
    have units := (spoken.arrives fragment known).convertible.units
    rcases SpvTextFrag.mem_speech member with ⟨_, same⟩ | ⟨_, _, same, short⟩
    · cases same
    · cases same
      unfold maxInt at units
      omega

end SpeechArrives

/-- **What SAPI hands to the engine is what it gets the sound of.** The engine serializes the
fragments of every request, and the mock provider speaks what it is sent. In every state that
nothing has disturbed, the bytes handed over for a request are a first part of the sound of the
words of its fragments, and once it has reached its declared end SAPI has taken all of it. -/
theorem sapi_speech_arrives {runtime : ProviderRuntime} {texts : ℕ → List SpvTextFrag}
    {history : List SessionTransition} {state : MockSession}
    (arrives : ∀ speakId, SpeechArrives (texts speakId))
    (reached : (mockMachine runtime fun speakId =>
      SapiFragmentSerializer.serialize (texts speakId)).Reaches (Undisturbed runtime) history state)
    {token : RequestToken} (started : .requestStarted token ∈ workerEventsOf history) :
    let sound := soundOf (generateSineWave runtime.sample)
      (spokenWords ((texts token.speakId).flatMap SpvTextFrag.speech))
    handedOf token.generation (workerEventsOf history) <+: sound ∧
      ∀ declared, .terminalBoundaryReached token.generation declared ∈ workerEventsOf history →
        acceptedOf token.generation (workerEventsOf history) = sound := by
  intro sound
  have invariant := mockInvariant (fun speakId => (arrives speakId).speakable) reached
  have handed := invariant.handed_prefix started
  have items := (arrives token.speakId).speechItems_serialize
  rw [items] at handed
  refine ⟨handed, ?_⟩
  intro declared reported
  have accepted := invariant.accepted_eq started reported
  rwa [items] at accepted

/-- A text of one word. -/
def writtenWord : SpvTextFrag where
  state := { eAction := .speak }
  text := some [0x61]

theorem writtenWord_arrives : SpeechArrives [writtenWord] where
  arrives fragment member := by
    rw [List.mem_singleton] at member
    subst member
    exact ⟨trivial, by decide, ⟨by decide, by decide +kernel⟩, by decide, by decide +kernel⟩
  duration := by decide +kernel

theorem serialize_writtenWord : SapiFragmentSerializer.serialize [writtenWord] = oneWord := by
  have text : SapiFragmentSerializer.fragmentUtf8Text writtenWord = "a" := by decide +kernel
  rw [SapiFragmentSerializer.serialize, List.map_singleton,
    SapiFragmentSerializer.serializeFragment, text]
  rfl

theorem sapi_speech_arrives_word :
    acceptedOf 1 (workerEventsOf wordHistory) = soundOf (generateSineWave fun _ => 0) 1 ∧
      (acceptedOf 1 (workerEventsOf wordHistory)).length = 9600 := by
  obtain ⟨-, -, -, -, started, reported⟩ := oneWordSpoken_possible
  have reached := oneWordSpoken_reached
  rw [wordSession, ← serialize_writtenWord] at reached
  have one : spokenWords ([writtenWord].flatMap SpvTextFrag.speech) = 1 := by decide +kernel
  obtain ⟨-, whole⟩ := sapi_speech_arrives (fun _ => writtenWord_arrives) reached started
  have accepted := whole 9600 reported
  rw [one] at accepted
  refine ⟨accepted, ?_⟩
  rw [accepted, soundOf_length, generateSineWave_length]

/-! ## The name of a bookmark -/

section Bookmark

variable {fragment : SpvTextFrag} {name : List UInt16}

theorem wideToUtf8_units (convertible : StringUtils.Convertible name) :
    String.ofList (decode (encode (decode name))) = StringUtils.wideToUtf8 (some name) := by
  rw [decode_encode, StringUtils.wideToUtf8_eq convertible]

/-- **The name of a bookmark comes back exactly when it is well formed and has no NUL.** The
provider reads the fragment of a bookmark with a name, and the event that the engine makes of the
record for that name has the offset of the record and a string. -/
theorem sapi_bookmark_arrives (wtol : List UInt16 → ℤ) (format : WaveFormat)
    (bookmark : fragment.state.eAction = .bookmark) (here : fragment.text = some name)
    (named : name ≠ []) (convertible : StringUtils.Convertible name) {sizeMax speakId ms : ℕ}
    (allocated : name.length + 1 ≤ sizeMax / 2) (bounded : speakId < 2 ^ 64)
    (fits : ms < 2 ^ 31) :
    ∃ mark units,
      readFragment (SapiFragmentSerializer.serializeFragment fragment) = some (.bookmark mark) ∧
      dispatchBookmarkEvent wtol sizeMax true format
          (parseControlEvent (bookmarkReachedRecord speakId mark (.ofNat ms))) =
        some { ullAudioStreamOffset := audioOffsetMillisecondsToBytes ms format
               wParam := wtol (terminated units)
               lParam := some units } ∧
      (terminated units = name ↔ WellFormed name ∧ 0 ∉ name) := by
  have own : fragment.units = name := by rw [SpvTextFrag.units, here]; rfl
  subst own
  have large : (encode (decode fragment.units)).length + 1 ≤ sizeMax / 2 := by
    rwa [length_encode_decode]
  have spelled : (StringUtils.wideToUtf8 (some fragment.units)).isEmpty = false := by
    rw [Bool.eq_false_iff, Ne, String.isEmpty_iff, StringUtils.wideToUtf8_eq_empty convertible]
    exact named
  refine ⟨encode (decode fragment.units), encode (decode fragment.units) ++ [0],
    SpvTextFrag.readFragment_bookmark bookmark convertible named, ?_, ?_⟩
  · rw [read_bookmarkReached bounded fits, wideToUtf8_units convertible, dispatchBookmarkEvent,
      if_pos rfl]
    simp only [spelled, Bool.false_eq_true, if_false,
      StringUtils.utf8ToCoTaskMemWide_wideToUtf8 convertible named large]
  · rw [terminated_append_nul]
    constructor
    · intro same
      have start : terminated (encode (decode fragment.units)) <+: encode (decode fragment.units) :=
        List.takeWhile_prefix _
      rw [same] at start
      have whole := start.eq_of_length (length_encode_decode _).symm
      have wellFormed := encode_decode_iff.mp whole.symm
      rw [encode_decode wellFormed] at same
      exact ⟨wellFormed, terminated_eq_self.mp same⟩
    · rintro ⟨wellFormed, none⟩
      rw [encode_decode wellFormed]
      exact terminated_eq_self.mpr none

/-- A bookmark with the name "b". -/
def namedBookmark : SpvTextFrag where
  state := { eAction := .bookmark }
  text := some [0x62]

theorem sapi_bookmark_arrives_named : ∃ mark units,
    readFragment (SapiFragmentSerializer.serializeFragment namedBookmark) =
      some (.bookmark mark) ∧
    dispatchBookmarkEvent (fun _ => 0) (2 ^ 64 - 1) true monoFormat
        (parseControlEvent (bookmarkReachedRecord 1 mark (.ofNat 200))) =
      some { ullAudioStreamOffset := audioOffsetMillisecondsToBytes 200 monoFormat
             lParam := some units } ∧
    terminated units = [0x62] := by
  have convertible : StringUtils.Convertible namedBookmark.units := ⟨by decide, by decide +kernel⟩
  obtain ⟨mark, units, read, event, same⟩ := sapi_bookmark_arrives (fun _ => 0) monoFormat
    (show namedBookmark.state.eAction = .bookmark from rfl)
    (show namedBookmark.text = some [0x62] from rfl) (by decide) convertible
    (show _ + 1 ≤ (2 ^ 64 - 1) / 2 by decide) (show 1 < 2 ^ 64 by decide)
    (show 200 < 2 ^ 31 by decide)
  exact ⟨mark, units, read, event, same.mpr (by decide)⟩

end Bookmark

end ModernSapi
