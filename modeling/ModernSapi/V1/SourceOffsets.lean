import ModernSapi.V1.SsmlParser

/-!
# From positions in the SSML back to the source

The offset map has one entry for each fragment. `ReverseMapOffset` takes the last entry at or
before a position and counts on from it, as if every unit of the text took one unit of the SSML.

`source_offset_iff` says when that is right: when the text before the unit is as long in the SSML
as it was in the source.
-/

set_option autoImplicit false

namespace ModernSapi

open Xml

/-- `std::upper_bound` on the positions of the map: the entries up to the first one after the
offset. -/
def upToOffset (ssmlOffset : UInt32) (offsetMap : List (UInt32 × UInt32)) :
    List (UInt32 × UInt32) :=
  offsetMap.takeWhile fun item => !decide (ssmlOffset < item.1)

def reverseMapOffset (ssmlOffset : UInt32) (offsetMap : List (UInt32 × UInt32)) : UInt32 :=
  match (upToOffset ssmlOffset offsetMap).getLast? with
  | some item => item.2 + (ssmlOffset - item.1)
  | none => 0

/-- The position at which the text of a fragment starts. -/
def textStart (needAddingSpace : List UInt16 → List UInt16 → Bool) (localeName : List UInt16)
    (before : List ProviderSpeechFragment) (fragment : ProviderSpeechFragment) : ℕ :=
  ((SsmlParser.parseAll needAddingSpace localeName before).beforeText needAddingSpace
    fragment).ssmlString.length

/-- The position at which a unit of the text starts. -/
def unitPosition (needAddingSpace : List UInt16 → List UInt16 → Bool) (localeName : List UInt16)
    (before : List ProviderSpeechFragment) (fragment : ProviderSpeechFragment) (index : ℕ) : ℕ :=
  textStart needAddingSpace localeName before fragment +
    (escapedXml (fragment.text.take index)).length

/-! ## What the parser adds -/

namespace SsmlParser

/-- The parser has gone on: what it has written stays, and the new entries of the map are
positions in what is new. -/
structure Extends (first second : SsmlParser) : Prop where
  written : ∃ more, second.ssmlString = first.ssmlString ++ more
  mapped : ∃ entries, second.offsetMap = first.offsetMap ++ entries ∧
    ∀ entry ∈ entries, ∃ position, entry.1 = position.toUInt32 ∧
      first.ssmlString.length ≤ position ∧ position ≤ second.ssmlString.length

namespace Extends

variable {first second third parser : SsmlParser}

theorem length_le (extends_ : first.Extends second) :
    first.ssmlString.length ≤ second.ssmlString.length := by
  obtain ⟨more, written⟩ := extends_.written
  rw [written, List.length_append]
  exact Nat.le_add_right _ _

/-- Only the string has grown. -/
theorem of_written {more : List UInt16} (written : second.ssmlString = first.ssmlString ++ more)
    (same : second.offsetMap = first.offsetMap) : first.Extends second where
  written := ⟨more, written⟩
  mapped := ⟨[], by rw [same, List.append_nil], fun _ member => by cases member⟩

theorem refl (parser : SsmlParser) : parser.Extends parser :=
  of_written (List.append_nil _).symm rfl

theorem trans (former : first.Extends second) (latter : second.Extends third) :
    first.Extends third where
  written := by
    obtain ⟨more, written⟩ := former.written
    obtain ⟨more', written'⟩ := latter.written
    exact ⟨more ++ more', by rw [written', written, List.append_assoc]⟩
  mapped := by
    obtain ⟨entries, mapped, positions⟩ := former.mapped
    obtain ⟨entries', mapped', positions'⟩ := latter.mapped
    refine ⟨entries ++ entries', by rw [mapped', mapped, List.append_assoc], ?_⟩
    intro entry member
    have lower := former.length_le
    have upper := latter.length_le
    rcases List.mem_append.mp member with here | there
    · obtain ⟨position, same, low, high⟩ := positions entry here
      exact ⟨position, same, low, by omega⟩
    · obtain ⟨position, same, low, high⟩ := positions' entry there
      exact ⟨position, same, by omega, high⟩

theorem append (text : List UInt16) : parser.Extends (parser.append text) :=
  of_written rfl rfl

theorem appendText (fragment : ProviderSpeechFragment) :
    parser.Extends (parser.appendText fragment) where
  written := ⟨escapedXml fragment.text, rfl⟩
  mapped := by
    refine ⟨[(parser.ssmlString.length.toUInt32, fragment.originalOffset)], rfl, ?_⟩
    intro entry member
    rw [List.mem_singleton] at member
    subst member
    refine ⟨parser.ssmlString.length, rfl, Nat.le_refl _, ?_⟩
    rw [SsmlParser.appendText, SsmlParser.append, List.length_append]
    exact Nat.le_add_right _ _

theorem beforeText (needAddingSpace : List UInt16 → List UInt16 → Bool)
    (fragment : ProviderSpeechFragment) :
    parser.Extends (parser.beforeText needAddingSpace fragment) := by
  have noted : parser.Extends (parser.noteText fragment) := by
    rw [noteText]
    split
    · exact of_written (List.append_nil _).symm rfl
    · exact refl parser
  have closed : ∀ parser : SsmlParser, parser.Extends (parser.closeProsody fragment) := by
    intro parser
    rw [closeProsody]
    split
    · exact of_written rfl rfl
    · exact refl parser
  have separated : ∀ parser : SsmlParser,
      parser.Extends (parser.separate needAddingSpace fragment) := by
    intro parser
    rw [separate]
    split
    · exact append _
    · exact refl parser
  have opened : ∀ parser : SsmlParser, parser.Extends (parser.openProsody fragment) := by
    intro parser
    rw [openProsody]
    split
    · exact of_written rfl rfl
    · exact refl parser
  exact ((noted.trans (closed _)).trans (separated _)).trans (opened _)

theorem updateLastGrapheme (fragment : ProviderSpeechFragment) :
    parser.Extends (parser.updateLastGrapheme fragment) := by
  rw [SsmlParser.updateLastGrapheme]
  split
  · exact of_written (List.append_nil _).symm rfl
  · exact refl parser

theorem parseFragment (needAddingSpace : List UInt16 → List UInt16 → Bool)
    (fragment : ProviderSpeechFragment) :
    parser.Extends (parser.parseFragment needAddingSpace fragment) := by
  rw [SsmlParser.parseFragment]
  split
  · exact ((append _).trans (appendText fragment)).trans (append _)
  · split
    · exact ((beforeText needAddingSpace fragment).trans (appendText fragment)).trans
        (updateLastGrapheme fragment)
    · exact refl parser

theorem foldl (needAddingSpace : List UInt16 → List UInt16 → Bool)
    (fragments : List ProviderSpeechFragment) :
    parser.Extends (fragments.foldl (SsmlParser.parseFragment needAddingSpace) parser) := by
  induction fragments generalizing parser with
  | nil => exact refl parser
  | cons fragment fragments ih => exact (parseFragment needAddingSpace fragment).trans ih

theorem finish : parser.Extends parser.finish := by
  rw [SsmlParser.finish]
  split
  · exact (append _).trans (append _)
  · exact append _

end Extends

end SsmlParser

/-! ## The entry of a fragment -/

section Positions

variable {before entries : List (UInt32 × UInt32)} {start original : UInt32} {position : UInt32}

/-- The entry that is taken: all entries up to it are at or before the position, and those after
it are beyond. -/
theorem reverseMapOffset_eq (earlier : ∀ entry ∈ before, entry.1 ≤ position)
    (here : start ≤ position) (later : ∀ entry ∈ entries, position < entry.1) :
    reverseMapOffset position (before ++ (start, original) :: entries) =
      original + (position - start) := by
  have taken : upToOffset position (before ++ (start, original) :: entries) =
      before ++ [(start, original)] := by
    have beyond : entries.takeWhile (fun item => !decide (position < item.1)) = [] := by
      cases entries with
      | nil => rfl
      | cons entry entries =>
          rw [List.takeWhile_cons_of_neg]
          simpa using later entry List.mem_cons_self
    rw [upToOffset, List.takeWhile_append_of_pos, List.takeWhile_cons_of_pos, beyond]
    · simpa using here
    · intro entry member
      simpa using earlier entry member
  rw [reverseMapOffset, taken, List.getLast?_concat]

end Positions

section Offsets

variable {needAddingSpace : List UInt16 → List UInt16 → Bool} {localeName : List UInt16}
  {fragment : ProviderSpeechFragment} {index : ℕ} {unit : UInt16}

theorem escapedXml_append (first second : List UInt16) :
    escapedXml (first ++ second) = escapedXml first ++ escapedXml second := List.flatMap_append

/-- A unit that is no NUL takes room in the SSML. -/
theorem escapedForm_ne_nil (notNul : unit ≠ 0) : escapedForm unit ≠ [] := by
  rw [escapedForm, if_neg notNul, escapeUnit]
  split_ifs <;> simp [units]

/-- The escaped text around one unit. -/
theorem escapedXml_split {text : List UInt16} (here : text[index]? = some unit) :
    escapedXml text = escapedXml (text.take index) ++
      (escapedForm unit ++ escapedXml (text.drop (index + 1))) := by
  obtain ⟨inside, same⟩ := List.getElem?_eq_some_iff.mp here
  have split : text = text.take index ++ unit :: text.drop (index + 1) := by
    rw [← same, ← List.drop_eq_getElem_cons inside, List.take_append_drop]
  conv_lhs => rw [split]
  rw [escapedXml_append]
  rfl

theorem toUInt32_le_iff {first second : ℕ} (short : first < 2 ^ 32) (short' : second < 2 ^ 32) :
    first.toUInt32 ≤ second.toUInt32 ↔ first ≤ second :=
  UInt32.ofNat_le_iff_le short short'

theorem toUInt32_inj {first second : ℕ} (short : first < 2 ^ 32) (short' : second < 2 ^ 32) :
    first.toUInt32 = second.toUInt32 ↔ first = second := by
  constructor
  · intro same
    have values := congrArg UInt32.toNat same
    rwa [Nat.toUInt32_eq, Nat.toUInt32_eq, UInt32.toNat_ofNat_of_lt' short,
      UInt32.toNat_ofNat_of_lt' short'] at values
  · rintro rfl
    rfl

/-- The parser before the text of a speakable fragment, and at the end. -/
theorem exists_final (before after : List ProviderSpeechFragment)
    (speakable : fragment.isSpeakable = true) :
    ∃ started final : SsmlParser,
      started.ssmlString.length = textStart needAddingSpace localeName before fragment ∧
      parse needAddingSpace localeName (before ++ fragment :: after) =
        ⟨final.ssmlString, final.offsetMap, final.hasSpeakableText⟩ ∧
      (SsmlParser.start localeName).Extends started ∧
      (started.appendText fragment).Extends final := by
  have noBookmark : fragment.isBookmark = false := by
    cases isBookmark : fragment.isBookmark with
    | false => rfl
    | true =>
        rw [ProviderSpeechFragment.isSpeakable_of_isBookmark isBookmark] at speakable
        cases speakable
  refine ⟨_, (SsmlParser.parseAll needAddingSpace localeName
    (before ++ fragment :: after)).finish, rfl, rfl,
    (SsmlParser.Extends.foldl needAddingSpace before).trans (.beforeText _ _), ?_⟩
  rw [SsmlParser.parseAll, SsmlParser.parseAll, List.foldl_append, List.foldl_cons,
    SsmlParser.parseFragment, noBookmark, if_neg Bool.false_ne_true, if_pos speakable]
  refine (SsmlParser.Extends.updateLastGrapheme fragment).trans ?_
  exact (SsmlParser.Extends.foldl needAddingSpace after).trans .finish

section Text

variable {started final : SsmlParser}

/-- The SSML at the end, split at a unit of the fragment. -/
theorem SsmlParser.Extends.split_at (late : (started.appendText fragment).Extends final)
    (here : fragment.text[index]? = some unit) :
    ∃ more, final.ssmlString = (started.ssmlString ++ escapedXml (fragment.text.take index)) ++
      (escapedForm unit ++ more) := by
  obtain ⟨more, written⟩ := late.written
  refine ⟨escapedXml (fragment.text.drop (index + 1)) ++ more, ?_⟩
  have appended : (started.appendText fragment).ssmlString =
      started.ssmlString ++ escapedXml fragment.text := rfl
  rw [written, appended, escapedXml_split here]
  simp only [List.append_assoc]

/-- The entry of the fragment is taken at the positions of its units. -/
theorem SsmlParser.Extends.reverseMapOffset_eq
    (early : (SsmlParser.start localeName).Extends started)
    (late : (started.appendText fragment).Extends final)
    (here : fragment.text[index]? = some unit) (notNul : unit ≠ 0)
    (short : final.ssmlString.length < 2 ^ 32) :
    reverseMapOffset (started.ssmlString.length +
        (escapedXml (fragment.text.take index)).length).toUInt32 final.offsetMap =
      fragment.originalOffset + (escapedXml (fragment.text.take index)).length.toUInt32 := by
  obtain ⟨entries, mapped, beyond⟩ := late.mapped
  obtain ⟨earlier, mapped', until_⟩ := early.mapped
  have room := List.length_pos_of_ne_nil (escapedForm_ne_nil notNul)
  have total := late.length_le
  have appended : (started.appendText fragment).ssmlString =
      started.ssmlString ++ escapedXml fragment.text := rfl
  have noted : (started.appendText fragment).offsetMap = started.offsetMap ++
      [(started.ssmlString.length.toUInt32, fragment.originalOffset)] := rfl
  rw [appended, escapedXml_split here] at total beyond
  rw [noted] at mapped
  simp only [List.length_append] at total beyond
  have counted : (started.ssmlString.length +
      (escapedXml (fragment.text.take index)).length).toUInt32 -
        started.ssmlString.length.toUInt32 =
          (escapedXml (fragment.text.take index)).length.toUInt32 := by
    have difference := UInt32.ofNat_sub (Nat.le_add_right started.ssmlString.length
      (escapedXml (fragment.text.take index)).length)
    rw [Nat.add_sub_cancel_left] at difference
    exact difference.symm
  rw [mapped, List.append_assoc, List.singleton_append, ← counted]
  apply ModernSapi.reverseMapOffset_eq
  · intro item member
    have given : item ∈ earlier := by
      rw [mapped'] at member
      exact member
    obtain ⟨position, same, -, high⟩ := until_ item given
    rw [same, toUInt32_le_iff (by omega) (by omega)]
    omega
  · rw [toUInt32_le_iff (by omega) (by omega)]
    omega
  · intro item member
    obtain ⟨position, same, low, high⟩ := beyond item member
    rw [same, ← UInt32.not_le, toUInt32_le_iff (by omega) (by omega)]
    omega

end Text

/-- Text without NULs and without characters of XML is written as it is, so it is as long in the
SSML as in the source. -/
theorem length_escapedXml_of_plain {text : List UInt16}
    (plain : ∀ unit ∈ text, unit ≠ 0 ∧ isMarkup unit = false) :
    (escapedXml text).length = text.length := by
  induction text with
  | nil => rfl
  | cons unit text ih =>
      obtain ⟨⟨notNul, notMarkup⟩, rest⟩ := List.forall_mem_cons.mp plain
      rw [escapedXml, List.flatMap_cons, escapedForm, if_neg notNul, escapeUnit_of_plain notMarkup,
        List.singleton_append, List.length_cons, List.length_cons, ← ih rest, escapedXml]

/-- **When the offset of a unit survives.** For every list of fragments whose SSML has positions
of 32 bits, every speakable fragment in it and every unit of its text that is no NUL: the SSML
has the escaped unit at its position, and `ReverseMapOffset` leads from there to the unit in the
source if and only if the text before it is escaped to as many units as it has. -/
theorem source_offset_iff (before after : List ProviderSpeechFragment)
    (speakable : fragment.isSpeakable = true) (here : fragment.text[index]? = some unit)
    (notNul : unit ≠ 0)
    (short : (parse needAddingSpace localeName (before ++ fragment :: after)).ssmlString.length <
      2 ^ 32) :
    escapedForm unit <+: (parse needAddingSpace localeName
        (before ++ fragment :: after)).ssmlString.drop
          (unitPosition needAddingSpace localeName before fragment index) ∧
      (reverseMapOffset (unitPosition needAddingSpace localeName before fragment index).toUInt32
          (parse needAddingSpace localeName (before ++ fragment :: after)).offsetMap =
            fragment.originalOffset + index.toUInt32 ↔
        (escapedXml (fragment.text.take index)).length = index) := by
  obtain ⟨started, final, starts, result, early, late⟩ := exists_final before after speakable
  rw [result] at short ⊢
  dsimp only at short ⊢
  rw [unitPosition, ← starts]
  obtain ⟨more, written⟩ := late.split_at here
  constructor
  · rw [written, ← List.length_append, List.drop_left]
    exact List.prefix_append _ _
  · have indexShort : index < 2 ^ 32 :=
      Nat.lt_trans (List.getElem?_eq_some_iff.mp here).choose fragment.textLength
    have escapedShort : (escapedXml (fragment.text.take index)).length < 2 ^ 32 := by
      rw [written] at short
      simp only [List.length_append] at short
      omega
    rw [early.reverseMapOffset_eq late here notNul short, UInt32.add_right_inj,
      toUInt32_inj escapedShort indexShort]

end Offsets

/-- Two plain units, the second of which follows one that is written as it is. -/
def plainFragment : ProviderSpeechFragment := { text := units "ab", originalOffset := 7 }

theorem source_offset_iff_plain :
    reverseMapOffset (unitPosition (fun _ _ => true) (units "en-US") [] plainFragment 1).toUInt32
      (parse (fun _ _ => true) (units "en-US") [plainFragment]).offsetMap = 7 + 1 := by
  have plain : ∀ unit ∈ plainFragment.text.take 1, unit ≠ 0 ∧ isMarkup unit = false :=
    List.forall_mem_singleton.mpr ⟨by decide, by decide⟩
  have before := length_escapedXml_of_plain plain
  exact (source_offset_iff [] [] (by decide) (show plainFragment.text[1]? = some 98 by decide)
    (by decide) (by decide +kernel)).2.mpr before

/-- A unit that is written as an entity of four. -/
def escapedFragment : ProviderSpeechFragment := { text := units "<a", originalOffset := 7 }

/-- The unit after it, at index 1 of the text, is taken for the one at index 4. -/
theorem source_offset_lost :
    reverseMapOffset
        (unitPosition (fun _ _ => true) (units "en-US") [] escapedFragment 1).toUInt32
        (parse (fun _ _ => true) (units "en-US") [escapedFragment]).offsetMap = 7 + 4 ∧
      escapedFragment.originalOffset + 1 ≠ 7 + 4 := by
  decide +kernel

end ModernSapi
