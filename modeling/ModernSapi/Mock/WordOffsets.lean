import ModernSapi.Mock.SapiFragments

/-!
# Where the mock provider says that a word is

The provider announces each word of a text with its place in the source. It counts on from the
word before, with one separator in between, and starts at the place of the text. So it is right
as long as one separator is all that ever stands before a word.

`word_offsets_iff` says so for the words of every text.
-/

set_option autoImplicit false

namespace ModernSapi

/-! ## The places of the parts -/

/-- The parts of a text that begins at `start`, each with the place it begins at. -/
def placedFrom (start : ℕ) : List (List UInt16) → List (ℕ × List UInt16)
  | [] => []
  | part :: parts => (start, part) :: placedFrom (start + part.length + 1) parts

/-- The words of a text that begins at `start`, each with the place it begins at. -/
def sourceWords (start : ℕ) (text : List UInt16) : List (ℕ × List UInt16) :=
  (placedFrom start (text.splitOnP isWordSeparator)).filter (·.2 ≠ [])

/-- No word stands behind an empty part. -/
def SingleSpaced : List (List UInt16) → Prop
  | [] => True
  | part :: parts => if part = [] then ∀ other ∈ parts, other = [] else SingleSpaced parts

instance decidableSingleSpaced : DecidablePred SingleSpaced
  | [] => .isTrue trivial
  | part :: parts =>
      have : Decidable (SingleSpaced parts) := decidableSingleSpaced parts
      inferInstanceAs (Decidable (if part = [] then _ else _))

/-- A word as it is announced. -/
def announcedWord (place : ℕ × List UInt16) : SpeechItem := .word (.ofNat place.1) place.2

section Places

variable {text : List UInt16} {parts : List (List UInt16)} {start : ℕ}

/-- The places are where the text has the parts. -/
theorem placedFrom_spec {place : ℕ × List UInt16}
    (member : place ∈ placedFrom start (text.splitOnP isWordSeparator)) :
    start ≤ place.1 ∧ (text.drop (place.1 - start)).take place.2.length = place.2 := by
  -- A separator ends an empty part, and any other unit makes the first part longer. Both move
  -- the parts behind them by one unit.
  induction text generalizing start place with
  | nil =>
      rw [List.splitOnP_nil, placedFrom, placedFrom, List.mem_singleton] at member
      rw [member]
      exact ⟨Nat.le_refl _, by simp⟩
  | cons unit text ih =>
      rw [List.splitOnP_cons_eq_if_modifyHead] at member
      split at member
      · rw [placedFrom, List.length_nil, Nat.add_zero] at member
        rcases List.mem_cons.mp member with rfl | later
        · exact ⟨Nat.le_refl _, by simp⟩
        · obtain ⟨behind, same⟩ := ih later
          refine ⟨by omega, ?_⟩
          rw [show place.1 - start = (place.1 - (start + 1)) + 1 by omega, List.drop_succ_cons]
          exact same
      · cases split : text.splitOnP isWordSeparator with
        | nil => exact absurd split (List.splitOnP_ne_nil _ text)
        | cons first rest =>
            rw [split, List.modifyHead_cons, placedFrom] at member
            rw [split] at ih
            rcases List.mem_cons.mp member with rfl | later
            · have here := (ih (List.mem_cons_self : (start, first) ∈ placedFrom start _)).2
              refine ⟨Nat.le_refl _, ?_⟩
              rw [Nat.sub_self, List.drop_zero] at here ⊢
              rw [List.length_cons, List.take_succ_cons, here]
            · rw [List.length_cons,
                show start + (first.length + 1) + 1 = start + 1 + first.length + 1 by omega] at later
              obtain ⟨behind, same⟩ :=
                ih (List.mem_cons_of_mem _ later : place ∈ placedFrom (start + 1) (first :: rest))
              refine ⟨by omega, ?_⟩
              rw [show place.1 - start = (place.1 - (start + 1)) + 1 by omega, List.drop_succ_cons]
              exact same

/-- What is announced of some words is that each stands one separator behind the last. -/
theorem wordItems_eq (words : List (List UInt16)) :
    wordItems (.ofNat start) words = (placedFrom start words).map announcedWord := by
  induction words generalizing start with
  | nil => rfl
  | cons word words ih =>
      rw [wordItems, placedFrom, List.map_cons, ← UInt32.ofNat_add, ih, Nat.add_assoc]
      rfl

/-- The places lie within the extent of the parts. -/
theorem placedFrom_behind {place : ℕ × List UInt16} (member : place ∈ placedFrom start parts) :
    start ≤ place.1 ∧ place.1 < start + extent parts := by
  induction parts generalizing start with
  | nil => cases member
  | cons part parts ih =>
      rw [extent]
      rcases List.mem_cons.mp member with rfl | later
      · exact ⟨Nat.le_refl _, by omega⟩
      · obtain ⟨behind, inside⟩ := ih later
        omega

theorem mem_of_mem_placedFrom {place : ℕ × List UInt16}
    (member : place ∈ placedFrom start parts) : place.2 ∈ parts := by
  induction parts generalizing start with
  | nil => cases member
  | cons part parts ih =>
      rcases List.mem_cons.mp member with rfl | later
      · exact List.mem_cons_self
      · exact List.mem_cons_of_mem _ (ih later)

/-- The words are announced at their places exactly when no word stands behind an empty part. -/
theorem announced_iff (fits : start + extent parts ≤ 2 ^ 32) :
    (placedFrom start (parts.filter (· ≠ []))).map announcedWord =
        ((placedFrom start parts).filter (·.2 ≠ [])).map announcedWord ↔
      SingleSpaced parts := by
  induction parts generalizing start with
  | nil => exact ⟨fun _ => trivial, fun _ => rfl⟩
  | cons part parts ih =>
      rw [extent] at fits
      rw [SingleSpaced, placedFrom]
      by_cases blank : part = []
      · subst blank
        rw [if_pos rfl, List.filter_cons_of_neg (by simp), List.filter_cons_of_neg (by simp)]
        constructor
        · intro same other known
          by_contra spoken
          obtain ⟨first, rest, words⟩ : ∃ first rest, parts.filter (· ≠ []) = first :: rest := by
            apply List.exists_cons_of_ne_nil
            exact List.ne_nil_of_mem (List.mem_filter.mpr ⟨known, by simpa using spoken⟩)
          -- The first word is announced at the start, and stands behind it.
          rw [words, placedFrom, List.map_cons] at same
          have listed := same ▸ List.mem_cons_self
          obtain ⟨place, member, shown⟩ := List.mem_map.mp listed
          obtain ⟨behind, inside⟩ := placedFrom_behind (List.mem_of_mem_filter member)
          have number := congrArg UInt32.toNat (SpeechItem.word.inj shown).1
          rw [UInt32.toNat_ofNat_of_lt' (show _ < 2 ^ 32 by omega),
            UInt32.toNat_ofNat_of_lt' (show _ < 2 ^ 32 by omega)] at number
          omega
        · intro blanks
          have none : parts.filter (· ≠ []) = [] := by
            rw [List.filter_eq_nil_iff]
            intro other known
            simpa using blanks other known
          have noPlace : (placedFrom (start + ([] : List UInt16).length + 1) parts).filter
              (·.2 ≠ []) = [] := by
            rw [List.filter_eq_nil_iff]
            intro place known
            simpa using blanks place.2 (mem_of_mem_placedFrom known)
          rw [none, noPlace]
          rfl
      · rw [if_neg blank, List.filter_cons_of_pos (by simpa using blank),
          List.filter_cons_of_pos (by simpa using blank), placedFrom, List.map_cons, List.map_cons,
          List.cons.injEq,
          ← ih (show start + part.length + 1 + extent parts ≤ 2 ^ 32 by omega)]
        exact and_iff_right rfl

end Places

/-! ## The words of a fragment -/

/-- **Where a word is announced.** The provider announces the words of a fragment at their places
in the source of SAPI exactly when one separator is all that stands before each of them but the
first, which nothing stands before. The places are those at which the text has the words. -/
theorem word_offsets_iff {fragment : SpvTextFrag}
    (spoken : fragment.state.eAction.isSpoken = true) (arrives : fragment.Arrives)
    (fits : fragment.ulTextSrcOffset + fragment.units.length < 2 ^ 32) :
    (∀ place ∈ sourceWords fragment.ulTextSrcOffset fragment.units,
      fragment.ulTextSrcOffset ≤ place.1 ∧
        (fragment.units.drop (place.1 - fragment.ulTextSrcOffset)).take place.2.length = place.2) ∧
    (fragmentItems (readFragment (SapiFragmentSerializer.serializeFragment fragment)) =
        (sourceWords fragment.ulTextSrcOffset fragment.units).map announcedWord ↔
      SingleSpaced (fragment.units.splitOnP isWordSeparator)) := by
  constructor
  · intro place member
    exact placedFrom_spec (List.mem_of_mem_filter member)
  · rw [SpvTextFrag.readFragment_spoken spoken arrives, wordItems_eq, splitWords, sourceWords]
    apply announced_iff
    rw [extent_splitOnP]
    omega

/-- Two words with two blanks in between. -/
def twoBlanks : SpvTextFrag where
  state := { eAction := .speak }
  text := some [0x61, 0x20, 0x20, 0x62]
  ulTextSrcOffset := 7

theorem word_offsets_twoBlanks :
    sourceWords 7 twoBlanks.units = [(7, [0x61]), (10, [0x62])] ∧
      fragmentItems (readFragment (SapiFragmentSerializer.serializeFragment twoBlanks)) ≠
        (sourceWords 7 twoBlanks.units).map announcedWord := by
  have arrives : twoBlanks.Arrives :=
    ⟨trivial, by decide, ⟨by decide, by decide +kernel⟩, by decide, by decide +kernel⟩
  refine ⟨by decide, ?_⟩
  intro same
  have single := (word_offsets_iff rfl arrives (by decide)).2.mp same
  exact absurd single (by decide)

end ModernSapi
