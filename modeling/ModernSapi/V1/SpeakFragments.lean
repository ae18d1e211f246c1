import ModernSapi.Engine.FragmentSerializer
import ModernSapi.V1.BookmarkMarks

/-!
# What the first engine hands to its provider

`Speak` copies the texts of all fragments into one buffer, each with a NUL behind it, and only
then makes pointers of the places where they start. The provider finds the text of a fragment
by its pointer and its length, and the name of a bookmark by its pointer and the NUL.

* `texts_arrive_iff`: the provider finds the texts of SAPI unless a fragment has a length and no
  text.
* `bookmark_round_trip`: what SAPI is told at a bookmark.
-/

set_option autoImplicit false

namespace ModernSapi

open Unicode Xml

/-- The value of an action. -/
def SpvAction.value : SpvAction → UInt32
  | .speak => 0
  | .silence => 1
  | .pronounce => 2
  | .bookmark => 3
  | .spellOut => 4
  | .sectionStart => 5
  | .parseUnknownTag => 6
  | .other value => value.toUInt32

/-- What the first engine reads of `SPVTEXTFRAG`. The text is what `pTextStart` points at. -/
structure TextFragment where
  state : SpvState
  pTextStart : Option (List UInt16) := none
  ulTextLen : UInt32 := 0
  ulTextSrcOffset : UInt32 := 0
  length : ∀ text ∈ pTextStart, text.length = ulTextLen.toNat

/-- A `ProviderSpeechFragment` in memory. `Text` points into the buffer. -/
structure FragmentRecord where
  text : UInt32
  textLength : UInt32
  originalOffset : UInt32
  action : UInt32
  volume : Float32
  rate : Float32
  pitch : Float32

namespace TextFragment

/-- The actions of SAPI that the provider has a value for are translated, all others are passed
on. -/
def providerAction (fragment : TextFragment) : UInt32 :=
  match fragment.state.eAction with
  | .speak => ProviderAction.speak
  | .bookmark => ProviderAction.bookmark
  | .spellOut => ProviderAction.spellOut
  | .pronounce => ProviderAction.pronounce
  | action => action.value

/-- What is copied of a fragment. -/
def copied (fragment : TextFragment) : List UInt16 :=
  match fragment.pTextStart with
  | some text => if 0 < fragment.ulTextLen then text else []
  | none => []

/-- The text that SAPI means. -/
def meant (fragment : TextFragment) : List UInt16 := fragment.pTextStart.getD []

/-- The pointer is assigned once the buffer does not grow any more. -/
def record (fragment : TextFragment) (currentOffset : UInt32) : FragmentRecord where
  text := currentOffset
  textLength := fragment.ulTextLen
  originalOffset := fragment.ulTextSrcOffset
  action := fragment.providerAction
  volume := Float32.ofNat fragment.state.volume
  rate := Float32.ofInt fragment.state.rateAdj
  pitch := Float32.ofInt fragment.state.middleAdj

end TextFragment

/-- One round of the loop of `Speak` over the fragments. -/
def packFragment (packed : List UInt16 × List FragmentRecord) (fragment : TextFragment) :
    List UInt16 × List FragmentRecord :=
  (packed.1 ++ (fragment.copied ++ [0]), packed.2 ++ [fragment.record packed.1.length.toUInt32])

/-- The buffer and the fragments that `Speak` starts the worker with. -/
def packFragments (fragments : List TextFragment) : List UInt16 × List FragmentRecord :=
  fragments.foldl packFragment ([], [])

/-- What the provider reads at the pointer of a fragment. -/
def FragmentRecord.read (buffer : List UInt16) (record : FragmentRecord) : List UInt16 :=
  (buffer.drop record.text.toNat).take record.textLength.toNat

/-- The string that the provider finds at the pointer of a fragment: it ends at the first NUL. -/
def FragmentRecord.string (buffer : List UInt16) (record : FragmentRecord) : List UInt16 :=
  (buffer.drop record.text.toNat).takeWhile (· != 0)

/-- A fragment as the provider sees it. -/
def FragmentRecord.seen (buffer : List UInt16) (record : FragmentRecord) :
    ProviderSpeechFragment where
  text := record.read buffer
  originalOffset := record.originalOffset
  action := record.action
  volume := record.volume
  rate := record.rate
  pitch := record.pitch
  textLength := (List.length_take_le ..).trans_lt record.textLength.toNat_lt

section Packing

variable {fragment : TextFragment} {fragments before after : List TextFragment}
  {buffer : List UInt16}

/-- The units that the buffer gets. -/
def packedUnits (fragments : List TextFragment) : List UInt16 :=
  fragments.flatMap fun fragment => fragment.copied ++ [0]

/-- The records of fragments whose texts are copied behind `start` units. -/
def recordsFrom (start : ℕ) : List TextFragment → List FragmentRecord
  | [] => []
  | fragment :: rest =>
      fragment.record start.toUInt32 :: recordsFrom (start + (fragment.copied ++ [0]).length) rest

/-- The texts fit into the buffer, whose offsets are 32 bits wide. -/
def FitsBuffer (fragments : List TextFragment) : Prop := (packedUnits fragments).length < 2 ^ 32

theorem packedUnits_cons : packedUnits (fragment :: fragments) =
    (fragment.copied ++ [0]) ++ packedUnits fragments := List.flatMap_cons

theorem foldl_packFragment (fragments : List TextFragment)
    (packed : List UInt16 × List FragmentRecord) :
    fragments.foldl packFragment packed =
      (packed.1 ++ packedUnits fragments, packed.2 ++ recordsFrom packed.1.length fragments) := by
  induction fragments generalizing packed with
  | nil =>
      rw [packedUnits, recordsFrom, List.flatMap_nil, List.append_nil, List.append_nil]
      rfl
  | cons fragment fragments ih =>
      rw [List.foldl_cons, ih, packFragment, packedUnits_cons, recordsFrom, List.length_append,
        List.append_assoc, List.append_assoc packed.2]
      rfl

theorem packFragments_eq :
    packFragments fragments = (packedUnits fragments, recordsFrom 0 fragments) :=
  foldl_packFragment fragments ([], [])

theorem copied_of_some {text : List UInt16} (here : fragment.pTextStart = some text) :
    fragment.copied = text := by
  simp only [TextFragment.copied, here]
  split
  · rfl
  · next empty =>
      have length := fragment.length text here
      rw [UInt32.lt_iff_toNat_lt, UInt32.toNat_zero] at empty
      exact (List.eq_nil_of_length_eq_zero (by omega)).symm

/-- The provider finds the text of a fragment where it was copied, unless there was none. -/
theorem read_record_iff (front back : List UInt16) (fits : front.length < 2 ^ 32) :
    (fragment.record front.length.toUInt32).read (front ++ ((fragment.copied ++ [0]) ++ back)) =
        fragment.meant ↔
      (fragment.pTextStart = none → fragment.ulTextLen = 0) := by
  have start : front.length.toUInt32.toNat = front.length := UInt32.toNat_ofNat_of_lt' fits
  rw [FragmentRecord.read, TextFragment.record, start, List.drop_left]
  cases here : fragment.pTextStart with
  | some text =>
      rw [copied_of_some here, TextFragment.meant, here, ← fragment.length text here,
        List.append_assoc, List.take_left]
      exact iff_of_true rfl fun none => by cases none
  | none =>
      rw [TextFragment.copied, TextFragment.meant, here]
      simp [UInt32.ext_iff]

/-- The texts behind `front`, by induction on the fragments. -/
theorem reads_iff (fragments : List TextFragment) (front : List UInt16)
    (fits : (front ++ packedUnits fragments).length < 2 ^ 32) :
    (recordsFrom front.length fragments).map
        (FragmentRecord.read (front ++ packedUnits fragments)) =
      fragments.map TextFragment.meant ↔
        ∀ fragment ∈ fragments, fragment.pTextStart = none → fragment.ulTextLen = 0 := by
  induction fragments generalizing front with
  | nil => exact iff_of_true rfl fun _ member => by cases member
  | cons fragment fragments ih =>
      have short : front.length < 2 ^ 32 := by
        rw [List.length_append] at fits
        omega
      have rest := ih (front ++ (fragment.copied ++ [0])) (by rwa [List.append_assoc])
      rw [List.length_append, List.append_assoc] at rest
      rw [recordsFrom, packedUnits_cons, List.map_cons, List.map_cons, List.cons.injEq, rest,
        List.forall_mem_cons, read_record_iff _ _ short]

/-- A NUL stands behind the text. -/
theorem string_record (front back : List UInt16) (fits : front.length < 2 ^ 32)
    (whole : fragment.pTextStart = none → fragment.ulTextLen = 0) :
    (fragment.record front.length.toUInt32).string
        (front ++ ((fragment.copied ++ [0]) ++ back)) =
      ((fragment.record front.length.toUInt32).read
        (front ++ ((fragment.copied ++ [0]) ++ back))).takeWhile (· != 0) := by
  have start : front.length.toUInt32.toNat = front.length := UInt32.toNat_ofNat_of_lt' fits
  have copied : fragment.copied = fragment.meant := by
    cases here : fragment.pTextStart with
    | some text => rw [copied_of_some here, TextFragment.meant, here, Option.getD_some]
    | none =>
        rw [TextFragment.copied, TextFragment.meant, here]
        rfl
  rw [(read_record_iff front back fits).mpr whole, FragmentRecord.string, TextFragment.record, start,
    List.drop_left, copied, List.append_assoc]
  generalize fragment.meant = text
  induction text with
  | nil => rfl
  | cons unit text ih =>
      rw [List.cons_append, List.takeWhile_cons, List.takeWhile_cons, ih]

theorem strings_eq (fragments : List TextFragment) (front : List UInt16)
    (fits : (front ++ packedUnits fragments).length < 2 ^ 32)
    (whole : ∀ fragment ∈ fragments, fragment.pTextStart = none → fragment.ulTextLen = 0) :
    ∀ record ∈ recordsFrom front.length fragments,
      record.string (front ++ packedUnits fragments) =
        (record.read (front ++ packedUnits fragments)).takeWhile (· != 0) := by
  induction fragments generalizing front with
  | nil =>
      intro record member
      cases member
  | cons fragment fragments ih =>
      have short : front.length < 2 ^ 32 := by
        rw [List.length_append] at fits
        omega
      have rest := ih (front ++ (fragment.copied ++ [0])) (by rwa [List.append_assoc])
        fun other member => whole other (List.mem_cons_of_mem _ member)
      rw [List.length_append, List.append_assoc] at rest
      rw [recordsFrom, packedUnits_cons, List.forall_mem_cons]
      exact ⟨string_record _ _ short (whole fragment List.mem_cons_self), rest⟩

end Packing

/-- **The provider finds the texts that SAPI means, as long as they fit into the buffer, if and
only if no fragment has a length and no text.** Then a string that it reads at the pointer of a
fragment ends where the text does, or at a NUL of the text. -/
theorem texts_arrive_iff {fragments : List TextFragment} (fits : FitsBuffer fragments) :
    let packed := packFragments fragments
    (packed.2.map (FragmentRecord.read packed.1) = fragments.map TextFragment.meant ↔
        ∀ fragment ∈ fragments, fragment.pTextStart = none → fragment.ulTextLen = 0) ∧
      ((∀ fragment ∈ fragments, fragment.pTextStart = none → fragment.ulTextLen = 0) →
        ∀ record ∈ packed.2,
          record.string packed.1 = (record.read packed.1).takeWhile (· != 0)) := by
  simp only [packFragments_eq]
  exact ⟨reads_iff fragments [] fits, strings_eq fragments [] fits⟩

/-- Two units to speak. -/
def spokenFragment : TextFragment where
  state := { eAction := .speak }
  pTextStart := some [72, 105]
  ulTextLen := 2
  length := fun _ same => Option.some.inj same ▸ rfl

/-- A bookmark behind them. -/
def markFragment : TextFragment where
  state := { eAction := .bookmark }
  pTextStart := some [109]
  ulTextLen := 1
  ulTextSrcOffset := 2
  length := fun _ same => Option.some.inj same ▸ rfl

theorem texts_arrive_iff_marked :
    (packFragments [spokenFragment, markFragment]).2.map
        (FragmentRecord.read (packFragments [spokenFragment, markFragment]).1) =
      [[72, 105], [109]] := by
  have fits : FitsBuffer [spokenFragment, markFragment] := by
    show [(72 : UInt16), 105, 0, 109, 0].length < 2 ^ 32
    decide
  refine (texts_arrive_iff fits).1.mpr fun fragment member none => ?_
  rcases List.mem_cons.mp member with rfl | last
  · cases none
  · rw [List.mem_singleton.mp last] at none
    cases none

/-! ## Events -/

inductive SapiEventId where
  | wordBoundary
  | sentenceBoundary
  | ttsBookmark
  deriving DecidableEq

/-- `lParam` with its `elParamType`. A string is a copy on the task heap, and null when its
allocation fails. -/
inductive SapiParam where
  | undefined (value : UInt64)
  | string (copy : Option (List UInt16))
  deriving DecidableEq

/-- `SPEVENT`. -/
structure SapiEvent where
  eEventId : SapiEventId
  ullAudioStreamOffset : UInt64
  wParam : UInt64
  lParam : SapiParam
  deriving DecidableEq

def ProviderEvent.sentenceBoundary : UInt32 := 2

section Events

variable (wtol : List UInt16 → Int32)

/-- The event of a bookmark with a name, which is empty when there is none. The number of the
name is that of `_wtol`. -/
def bookmarkEvent (allocates : Bool) (audioByteOffset : UInt64) (textOffset textLength : UInt32)
    (name : List UInt16) : SapiEvent where
  eEventId := .ttsBookmark
  ullAudioStreamOffset := audioByteOffset
  wParam := if name = [] then textOffset.toUInt64 else (wtol name).toInt64.toUInt64
  lParam :=
    if name = [] then .undefined textLength.toUInt64
    else .string (if allocates then some name else none)

/-- The event that `OnSpeechEvent` adds at the site, if it is one that SAPI knows. -/
def sapiEvent (allocates : Bool) (event : ProviderSpeechEvent) : Option SapiEvent :=
  let boundary (eEventId : SapiEventId) : SapiEvent :=
    { eEventId
      ullAudioStreamOffset := event.audioByteOffset
      wParam := event.textLength.toUInt64
      lParam := .undefined event.textOffset.toUInt64 }
  if event.eventType = ProviderEvent.wordBoundary then some (boundary .wordBoundary)
  else if event.eventType = ProviderEvent.sentenceBoundary then some (boundary .sentenceBoundary)
  else if event.eventType = ProviderEvent.bookmark then
    some (bookmarkEvent wtol allocates event.audioByteOffset event.textOffset event.textLength
      event.string)
  else none

/-- The record of a fragment in the middle. -/
theorem recordsFrom_append (start : ℕ) (before after : List TextFragment)
    (fragment : TextFragment) :
    (recordsFrom start (before ++ fragment :: after))[before.length]? =
      some (fragment.record (start + (packedUnits before).length).toUInt32) := by
  induction before generalizing start with
  | nil => rfl
  | cons first before ih =>
      have total : start + (first.copied ++ [0]).length + (packedUnits before).length =
          start + (packedUnits (first :: before)).length := by
        simp only [packedUnits_cons, List.length_append]
        omega
      rw [List.cons_append, recordsFrom, List.length_cons, List.getElem?_cons_succ, ih, total]

/-- **What SAPI is told at a bookmark.** The name that SAPI gave goes through the buffer, the
SSML, the SDK and the handler. When a mark keeps what is left of it without its NULs, the event
of the handler has the offset that SAPI gave and that string, and the event of SAPI has a copy of
the string and its number, or the offset where nothing is left. Whatever the SDK reports, a name
that has a NUL or is not well-formed UTF-16 does not come back. -/
theorem bookmark_round_trip {reported : List UInt16 → List Char} (reports : ReportsMarks reported)
    (allocates : Bool) (audioOffset : UInt64) {before after : List TextFragment}
    {fragment : TextFragment} {name : List UInt16} (fits : FitsBuffer (before ++ fragment :: after))
    (bookmark : fragment.state.eAction = .bookmark) (here : fragment.pTextStart = some name) :
    let packed := packFragments (before ++ fragment :: after)
    let spoken := name.filter (· != 0)
    ∃ record, packed.2[before.length]? = some record ∧
      (record.seen packed.1).isBookmark = true ∧
      let event := bookmarkReachedEvent (reported (bookmarkName (record.seen packed.1))) audioOffset
      (KeptByMarks spoken →
        event.textOffset = fragment.ulTextSrcOffset ∧ event.string = spoken ∧
          sapiEvent wtol allocates event =
            some (bookmarkEvent wtol allocates (audioByteOffset audioOffset)
              fragment.ulTextSrcOffset 0 spoken)) ∧
      (event.string = name → WellFormed name ∧ 0 ∉ name) := by
  rw [packFragments_eq]
  dsimp only
  have units : packedUnits (before ++ fragment :: after) =
      packedUnits before ++ ((fragment.copied ++ [0]) ++ packedUnits after) := by
    rw [packedUnits, List.flatMap_append, List.flatMap_cons]
    rfl
  have short : (packedUnits before).length < 2 ^ 32 := by
    rw [FitsBuffer, units, List.length_append] at fits
    omega
  have read := (read_record_iff (packedUnits before) (packedUnits after) short).mpr
    fun none => by rw [here] at none; cases none
  rw [TextFragment.meant, here, Option.getD_some, ← units] at read
  have found := recordsFrom_append 0 before after fragment
  rw [Nat.zero_add] at found
  obtain ⟨type, kept, never⟩ := bookmark_comes_back reports
    ((fragment.record (packedUnits before).length.toUInt32).seen
      (packedUnits (before ++ fragment :: after))) audioOffset
  have text : ((fragment.record (packedUnits before).length.toUInt32).seen
      (packedUnits (before ++ fragment :: after))).text = name := read
  rw [ProviderSpeechFragment.spoken, text] at kept
  rw [text] at never
  refine ⟨_, found, ?_, fun keeps => ?_, never⟩
  · have action : fragment.providerAction = ProviderAction.bookmark := by
      rw [TextFragment.providerAction, bookmark]
    rw [ProviderSpeechFragment.isBookmark, beq_iff_eq]
    exact action
  · obtain ⟨offset, string⟩ := kept keeps
    refine ⟨offset, string, ?_⟩
    rw [sapiEvent, type, offset, string]
    rfl

end Events

theorem reportsMarks_decode : ReportsMarks decode := ⟨fun mark _ => decode_encode mark⟩

theorem bookmark_round_trip_marked :
    let packed := packFragments ([spokenFragment] ++ markFragment :: [])
    ∃ record, packed.2[1]? = some record ∧ (record.seen packed.1).isBookmark = true ∧
      let event := bookmarkReachedEvent (decode (bookmarkName (record.seen packed.1))) 10000
      event.textOffset = 2 ∧ event.string = [109] ∧
        sapiEvent (fun _ => 0) true event =
          some { eEventId := .ttsBookmark
                 ullAudioStreamOffset := audioByteOffset 10000
                 wParam := 0
                 lParam := .string (some [109]) } := by
  have fits : FitsBuffer ([spokenFragment] ++ markFragment :: []) := by
    show [(72 : UInt16), 105, 0, 109, 0].length < 2 ^ 32
    decide
  have keeps : KeptByMarks ([109].filter (· != 0)) := by
    refine ⟨by decide, fun char member => ?_⟩
    rw [show decode ([109].filter (· != 0)) = ['m'] by decide, List.mem_singleton] at member
    subst member
    decide
  obtain ⟨record, found, mark, kept, -⟩ := bookmark_round_trip (fun _ => 0) reportsMarks_decode
    true 10000 fits rfl rfl
  exact ⟨record, found, mark, kept keeps⟩

end ModernSapi
