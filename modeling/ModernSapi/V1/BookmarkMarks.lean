import ModernSapi.V1.SsmlDocument
import ModernSapi.V1.SynthesizerPool

/-!
# Bookmarks there and back

A bookmark goes to the SDK as a mark of the SSML, with its offset in the source before its name.
The SDK reports the mark as UTF-8 when it gets there, and the handler takes it apart again.

`bookmark_comes_back`: the offset and the name are the ones SAPI gave, as long as XML has a form
for the name. A name that has a NUL or is not well-formed UTF-16 never comes back.
-/

set_option autoImplicit false

namespace ModernSapi

open Unicode Xml

/-! ## Numbers -/

section Numbers

variable {number : ℕ} {char : Char}

theorem isDigit_of_toDigits (member : char ∈ Nat.toDigits 10 number) : char.isDigit = true :=
  Nat.isDigit_of_mem_toDigits (by decide) (by decide) member

/-- A digit is none of the characters that end or start a number otherwise. -/
theorem digit_cases (digit : char.isDigit = true) :
    isSpace char = false ∧ char ≠ '-' ∧ char ≠ '+' ∧ char ≠ '_' ∧ 0x20 ≤ char.toNat ∧
      char.toNat < 0x80 := by
  simp only [Char.isDigit, Bool.and_eq_true, decide_eq_true_eq] at digit
  have low : 48 ≤ char.toNat := UInt32.le_iff_toNat_le.mp digit.1
  have high : char.toNat ≤ 57 := UInt32.le_iff_toNat_le.mp digit.2
  have differs : ∀ other : Char, other.toNat < 48 ∨ 57 < other.toNat → char ≠ other := by
    rintro other outside rfl
    omega
  refine ⟨?_, differs _ (.inl (by decide)), differs _ (.inl (by decide)),
    differs _ (.inr (by decide)), by omega, by omega⟩
  have space := differs ' ' (.inl (by decide))
  simp only [isSpace, space, decide_false, Bool.false_or, Bool.and_eq_false_iff,
    decide_eq_false_iff_not]
  omega

/-- A number is read back. -/
theorem stoul_toDigits (number : UInt32) :
    stoul (Nat.toDigits 10 number.toNat) = some number := by
  have all : ∀ char ∈ Nat.toDigits 10 number.toNat, char.isDigit = true :=
    fun char member => isDigit_of_toDigits member
  have value : Nat.ofDigitChars 10 (Nat.toDigits 10 number.toNat) 0 = number.toNat :=
    Nat.ofDigitChars_ten_toDigits
  have small : ¬2 ^ 32 ≤ number.toNat := not_le.mpr number.toNat_lt
  have some_ : Nat.toDigits 10 number.toNat ≠ [] := Nat.toDigits_ne_nil
  generalize Nat.toDigits 10 number.toNat = digits at all value some_
  cases digits with
  | nil => exact absurd rfl some_
  | cons first rest =>
      have digit := digit_cases (all first List.mem_cons_self)
      have signed : (first :: rest).dropWhile isSpace = first :: rest :=
        List.dropWhile_cons_of_neg (by rw [digit.1]; exact Bool.false_ne_true)
      have taken : (first :: rest).takeWhile Char.isDigit = first :: rest :=
        List.takeWhile_eq_self_iff.mpr all
      have positive : (first :: rest).head? ≠ some '-' := by
        rw [List.head?_cons, Ne, Option.some.injEq]
        exact digit.2.1
      simp only [stoul, signed]
      split
      · next same => exact absurd (List.cons.inj same).1 digit.2.1
      · next same => exact absurd (List.cons.inj same).1 digit.2.2.1
      · rw [taken, value, if_neg (List.cons_ne_nil _ _), if_neg small, if_neg positive]
        simp

end Numbers

/-! ## Marks -/

/-- The character may stand in an attribute of XML, and its reader keeps it. Of a tab or a line
end it makes a blank. -/
def IsAttributeChar (char : Char) : Prop :=
  0x20 ≤ char.toNat ∧ char.toNat ≠ 0xFFFE ∧ char.toNat ≠ 0xFFFF

instance (char : Char) : Decidable (IsAttributeChar char) :=
  inferInstanceAs (Decidable (_ ∧ _))

/-- A mark keeps the text. -/
structure KeptByMarks (text : List UInt16) : Prop where
  wellFormed : WellFormed text
  kept : ∀ char ∈ decode text, IsAttributeChar char

/-- The SDK reports a bookmark with the value of its mark attribute. Nothing is said of a value
that an attribute does not keep. -/
structure ReportsMarks (reported : List UInt16 → List Char) : Prop where
  value : ∀ mark, (∀ char ∈ mark, IsAttributeChar char) → reported (encode mark) = mark

section Marks

variable {reported : List UInt16 → List Char} {fragment : ProviderSpeechFragment}

/-- The characters of the mark of a bookmark. -/
def markChars (fragment : ProviderSpeechFragment) : List Char :=
  "OFFSET_".toList ++ (Nat.toDigits 10 fragment.originalOffset.toNat ++
    '_' :: decode fragment.spoken)

theorem encode_markChars (wellFormed : WellFormed fragment.spoken) :
    encode (markChars fragment) = bookmarkName fragment := by
  have start : units "OFFSET_" = encode "OFFSET_".toList := by decide
  have offset : decimal fragment.originalOffset.toNat =
      encode (Nat.toDigits 10 fragment.originalOffset.toNat) := by
    refine (encode_eq_map fun char member => ?_).symm
    have small := (digit_cases (isDigit_of_toDigits member)).2.2.2.2.2
    omega
  have underscore : units "_" = encode ['_'] := by decide
  unfold markChars
  rw [bookmarkName, start, offset, underscore, ← List.singleton_append, encode_append,
    encode_append, encode_append, encode_decode wellFormed, List.append_assoc, List.append_assoc]

theorem isAttributeChar_markChars (kept : KeptByMarks fragment.spoken) :
    ∀ char ∈ markChars fragment, IsAttributeChar char := by
  intro char member
  unfold markChars at member
  rw [List.mem_append, List.mem_append, List.mem_cons] at member
  rcases member with start | digit | rfl | name
  · have all : "OFFSET_".toList.all (decide <| IsAttributeChar ·) = true := by decide
    exact of_decide_eq_true (List.all_eq_true.mp all char start)
  · obtain ⟨-, -, -, -, low, high⟩ := digit_cases (isDigit_of_toDigits digit)
    exact ⟨low, by omega, by omega⟩
  · decide
  · exact kept.kept char name

theorem reported_bookmarkName (reports : ReportsMarks reported)
    (kept : KeptByMarks fragment.spoken) :
    reported (bookmarkName fragment) = markChars fragment := by
  rw [← encode_markChars kept.wellFormed]
  exact reports.value _ (isAttributeChar_markChars kept)

theorem nul_notMem_decode_spoken (fragment : ProviderSpeechFragment) :
    '\x00' ∉ decode fragment.spoken := by
  intro nul
  have member := nul_mem_decode nul
  rw [ProviderSpeechFragment.spoken, List.mem_filter] at member
  exact absurd member.2 (by simp)

/-- What the handler reads in the mark of a bookmark. -/
theorem readMark_markChars (fragment : ProviderSpeechFragment) :
    readMark (markChars fragment) =
      (fragment.originalOffset, encode (decode fragment.spoken)) := by
  have digits : ∀ char ∈ Nat.toDigits 10 fragment.originalOffset.toNat, (char != '_') = true := by
    intro char member
    rw [bne_iff_ne]
    exact (digit_cases (isDigit_of_toDigits member)).2.2.2.1
  have prefix_ : "OFFSET_".toList.isPrefixOf (markChars fragment) = true := by
    unfold markChars
    rw [List.isPrefixOf_iff_prefix]
    exact List.prefix_append _ _
  have rest : (markChars fragment).drop 7 =
      Nat.toDigits 10 fragment.originalOffset.toNat ++ '_' :: decode fragment.spoken := by
    unfold markChars
    exact List.drop_left' (by decide)
  have taken : ((markChars fragment).drop 7).takeWhile (· != '_') =
      Nat.toDigits 10 fragment.originalOffset.toNat := by
    rw [rest, List.takeWhile_append_of_pos digits]
    simp
  have name : ((markChars fragment).drop 7).drop
      ((Nat.toDigits 10 fragment.originalOffset.toNat).length + 1) = decode fragment.spoken := by
    rw [rest, ← List.drop_drop, List.drop_left]
    rfl
  have whole : (decode fragment.spoken).takeWhile (· != '\x00') = decode fragment.spoken := by
    refine List.takeWhile_eq_self_iff.mpr fun char member => ?_
    rw [bne_iff_ne]
    rintro rfl
    exact nul_notMem_decode_spoken fragment member
  rw [readMark, if_pos prefix_]
  simp only [taken, name, whole, stoul_toDigits, Option.getD_some]
  rw [if_pos]
  rw [rest]
  exact List.mem_append_right _ List.mem_cons_self

/-- The name found in a mark has no NUL. -/
theorem readMark_name (mark : List Char) :
    ∃ name, '\x00' ∉ name ∧ (readMark mark).2 = encode name := by
  unfold readMark
  split
  · dsimp only
    split
    · refine ⟨_, fun nul => ?_, rfl⟩
      have other := List.mem_takeWhile_imp nul
      exact absurd other (by decide)
    · exact ⟨[], List.not_mem_nil, rfl⟩
  · exact ⟨[], List.not_mem_nil, rfl⟩

/-- The string of the event is the name in the mark. -/
theorem string_bookmarkReachedEvent (mark : List Char) (audioOffset : UInt64) :
    (bookmarkReachedEvent mark audioOffset).string = (readMark mark).2 := by
  rw [ProviderSpeechEvent.string, bookmarkReachedEvent]
  by_cases empty : (readMark mark).2 = []
  · rw [if_pos empty, empty]
  · rw [if_neg empty]
    obtain ⟨name, noNul, same⟩ := readMark_name mark
    rw [same]
    exact units_cStr fun nul => noNul (nul_mem_encode nul)

end Marks

/-- **A bookmark comes back with its offset and its name.** When a mark keeps the name without
its NULs, the event of the handler has the offset that SAPI gave, and that name is at
`StringData`. Whatever the SDK reports, what is there is never a name that has a NUL or is not
well-formed UTF-16. -/
theorem bookmark_comes_back {reported : List UInt16 → List Char} (reports : ReportsMarks reported)
    (fragment : ProviderSpeechFragment) (audioOffset : UInt64) :
    let event := bookmarkReachedEvent (reported (bookmarkName fragment)) audioOffset
    event.eventType = ProviderEvent.bookmark ∧
      (KeptByMarks fragment.spoken →
        event.textOffset = fragment.originalOffset ∧ event.string = fragment.spoken) ∧
      (event.string = fragment.text → WellFormed fragment.text ∧ 0 ∉ fragment.text) := by
  intro event
  refine ⟨rfl, ?_, ?_⟩
  · intro kept
    have read := readMark_markChars fragment
    rw [← reported_bookmarkName reports kept, encode_decode kept.wellFormed] at read
    refine ⟨congrArg Prod.fst read, ?_⟩
    rw [string_bookmarkReachedEvent, read]
  · intro same
    obtain ⟨name, noNul, read⟩ := readMark_name (reported (bookmarkName fragment))
    rw [← same, string_bookmarkReachedEvent, read]
    exact ⟨wellFormed_encode name, fun nul => noNul (nul_mem_encode nul)⟩

end ModernSapi
