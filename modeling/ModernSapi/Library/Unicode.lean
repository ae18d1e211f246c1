import Mathlib

/-!
# Text in UTF-16

A text is a list of scalar values. Its UTF-16 form spells a value above the basic plane
as a pair of surrogates. Units that come from elsewhere may hold a surrogate without its
partner; a decoder puts U+FFFD in its place.

`decode_encode` and `encode_decode_iff` say which of the two directions loses nothing:
every text comes back, and units come back exactly when they are well formed.
-/

set_option autoImplicit false

namespace Unicode

/-! ## Surrogates -/

def isHighSurrogate (unit : UInt16) : Bool := 0xD800 ≤ unit.toNat && unit.toNat < 0xDC00

def isLowSurrogate (unit : UInt16) : Bool := 0xDC00 ≤ unit.toNat && unit.toNat < 0xE000

def isSurrogate (unit : UInt16) : Bool := isHighSurrogate unit || isLowSurrogate unit

/-- What a decoder puts in the place of a surrogate without its partner. -/
def replacementCharacter : Char := Char.ofNat 0xFFFD

/-- The scalar value of a pair of surrogates. -/
def pairValue (high low : UInt16) : Char :=
  Char.ofNat (0x10000 + (high.toNat - 0xD800) * 0x400 + (low.toNat - 0xDC00))

/-- The scalar value of a unit that is not one of a pair. -/
def unitValue (unit : UInt16) : Char :=
  if isSurrogate unit then replacementCharacter else Char.ofNat unit.toNat

/-! ## The two directions -/

def encodeChar (value : Char) : List UInt16 :=
  if value.toNat < 0x10000 then [.ofNat value.toNat]
  else
    [.ofNat (0xD800 + (value.toNat - 0x10000) / 0x400),
      .ofNat (0xDC00 + (value.toNat - 0x10000) % 0x400)]

def encode (text : List Char) : List UInt16 := text.flatMap encodeChar

def decode : List UInt16 → List Char
  | [] => []
  | [unit] => [unitValue unit]
  | first :: second :: rest =>
      if isHighSurrogate first && isLowSurrogate second then pairValue first second :: decode rest
      else unitValue first :: decode (second :: rest)

/-- Every surrogate of the units stands in a pair. -/
def WellFormed : List UInt16 → Prop
  | [] => True
  | [unit] => isSurrogate unit = false
  | first :: second :: rest =>
      if isHighSurrogate first && isLowSurrogate second then WellFormed rest
      else isSurrogate first = false ∧ WellFormed (second :: rest)

instance decidableWellFormed : DecidablePred WellFormed
  | [] => .isTrue trivial
  | [unit] => inferInstanceAs (Decidable (isSurrogate unit = false))
  | first :: second :: rest =>
      have : Decidable (WellFormed rest) := decidableWellFormed rest
      have : Decidable (WellFormed (second :: rest)) := decidableWellFormed (second :: rest)
      inferInstanceAs (Decidable (if isHighSurrogate first && isLowSurrogate second then _ else _))

section Scalars

variable {value : Char} {high low unit : UInt16}

/-- A scalar value is not a surrogate. -/
theorem char_cases (value : Char) :
    value.toNat < 0xD800 ∨ (0xDFFF < value.toNat ∧ value.toNat < 0x110000) := value.valid

theorem toNat_ofNat {number : ℕ} (valid : number.isValidChar) : (Char.ofNat number).toNat = number := by
  rw [Char.ofNat, dif_pos valid]
  rfl

theorem pairValue_toNat (first : isHighSurrogate high = true) (second : isLowSurrogate low = true) :
    (pairValue high low).toNat =
      0x10000 + (high.toNat - 0xD800) * 0x400 + (low.toNat - 0xDC00) := by
  simp only [isHighSurrogate, isLowSurrogate, Bool.and_eq_true, decide_eq_true_eq] at first second
  refine toNat_ofNat (.inr ⟨?_, ?_⟩)
  · omega
  · omega

theorem unitValue_toNat (single : isSurrogate unit = false) : (unitValue unit).toNat = unit.toNat := by
  have bound : unit.toNat < 2 ^ 16 := unit.toNat_lt
  rw [unitValue, if_neg (by simp [single])]
  refine toNat_ofNat ?_
  simp only [isSurrogate, isHighSurrogate, isLowSurrogate, Bool.or_eq_false_iff, Bool.and_eq_false_iff,
    decide_eq_false_iff_not] at single
  simp only [Nat.isValidChar]
  omega

/-- A value of the basic plane is one unit, which is not a surrogate. -/
theorem encodeChar_unit (basic : value.toNat < 0x10000) :
    ∃ unit : UInt16, encodeChar value = [unit] ∧ isSurrogate unit = false ∧
      unitValue unit = value := by
  have cases := char_cases value
  have same : (UInt16.ofNat value.toNat).toNat = value.toNat := UInt16.toNat_ofNat_of_lt' basic
  have single : isSurrogate (.ofNat value.toNat) = false := by
    simp only [isSurrogate, isHighSurrogate, isLowSurrogate, Bool.or_eq_false_iff,
      Bool.and_eq_false_iff, decide_eq_false_iff_not, same]
    omega
  refine ⟨.ofNat value.toNat, by rw [encodeChar, if_pos basic], single, ?_⟩
  apply Char.toNat_inj.mp
  rw [unitValue_toNat single, same]

/-- A value above the basic plane is a pair of surrogates. -/
theorem encodeChar_pair (above : 0x10000 ≤ value.toNat) :
    ∃ high low : UInt16, encodeChar value = [high, low] ∧ isHighSurrogate high = true ∧
      isLowSurrogate low = true ∧ pairValue high low = value := by
  have cases := char_cases value
  have highSame : (UInt16.ofNat (0xD800 + (value.toNat - 0x10000) / 0x400)).toNat =
      0xD800 + (value.toNat - 0x10000) / 0x400 :=
    UInt16.toNat_ofNat_of_lt' (show _ < 65536 by omega)
  have lowSame : (UInt16.ofNat (0xDC00 + (value.toNat - 0x10000) % 0x400)).toNat =
      0xDC00 + (value.toNat - 0x10000) % 0x400 :=
    UInt16.toNat_ofNat_of_lt' (show _ < 65536 by omega)
  have first : isHighSurrogate (.ofNat (0xD800 + (value.toNat - 0x10000) / 0x400)) = true := by
    simp only [isHighSurrogate, highSame, Bool.and_eq_true, decide_eq_true_eq]
    omega
  have second : isLowSurrogate (.ofNat (0xDC00 + (value.toNat - 0x10000) % 0x400)) = true := by
    simp only [isLowSurrogate, lowSame, Bool.and_eq_true, decide_eq_true_eq]
    omega
  refine ⟨_, _, by rw [encodeChar, if_neg (by omega)], first, second, ?_⟩
  apply Char.toNat_inj.mp
  rw [pairValue_toNat first second, highSame, lowSame]
  omega

theorem encodeChar_unitValue (single : isSurrogate unit = false) : encodeChar (unitValue unit) = [unit] := by
  have bound : unit.toNat < 2 ^ 16 := unit.toNat_lt
  rw [encodeChar, unitValue_toNat single, if_pos (by omega), UInt16.ofNat_toNat]

theorem encodeChar_pairValue (first : isHighSurrogate high = true) (second : isLowSurrogate low = true) :
    encodeChar (pairValue high low) = [high, low] := by
  have value := pairValue_toNat first second
  simp only [isHighSurrogate, isLowSurrogate, Bool.and_eq_true, decide_eq_true_eq] at first second
  have highSame : UInt16.ofNat (0xD800 + ((pairValue high low).toNat - 0x10000) / 0x400) = high := by
    apply UInt16.toNat_inj.mp
    rw [value, UInt16.toNat_ofNat_of_lt' (show _ < 65536 by omega)]
    omega
  have lowSame : UInt16.ofNat (0xDC00 + ((pairValue high low).toNat - 0x10000) % 0x400) = low := by
    apply UInt16.toNat_inj.mp
    rw [value, UInt16.toNat_ofNat_of_lt' (show _ < 65536 by omega)]
    omega
  rw [encodeChar, if_neg (by omega), highSame, lowSame]

theorem isSurrogate_eq_false_iff :
    isSurrogate unit = false ↔ isHighSurrogate unit = false ∧ isLowSurrogate unit = false :=
  Bool.or_eq_false_iff

end Scalars

section Texts

variable {text : List Char} {units : List UInt16}

@[simp] theorem encode_nil : encode [] = [] := rfl

@[simp] theorem encode_cons (value : Char) (text : List Char) :
    encode (value :: text) = encodeChar value ++ encode text := rfl

@[simp] theorem encode_append (first second : List Char) :
    encode (first ++ second) = encode first ++ encode second := List.flatMap_append

@[simp] theorem decode_nil : decode [] = [] := rfl

theorem decode_pair {high low : UInt16} (first : isHighSurrogate high = true)
    (second : isLowSurrogate low = true) (rest : List UInt16) :
    decode (high :: low :: rest) = pairValue high low :: decode rest := by
  rw [decode, if_pos (by rw [first, second]; rfl)]

/-- A unit that is no surrogate is decoded alone. -/
theorem decode_single {unit : UInt16} (single : isSurrogate unit = false) (rest : List UInt16) :
    decode (unit :: rest) = unitValue unit :: decode rest := by
  cases rest with
  | nil => rfl
  | cons second rest =>
      rw [decode, if_neg (by simp [(isSurrogate_eq_false_iff.mp single).1])]

/-- A text in front is decoded on its own. -/
theorem decode_encode_append (text : List Char) (rest : List UInt16) :
    decode (encode text ++ rest) = text ++ decode rest := by
  induction text with
  | nil => rfl
  | cons value text ih =>
      rw [encode_cons, List.append_assoc, List.cons_append]
      by_cases basic : value.toNat < 0x10000
      · obtain ⟨unit, spelled, single, same⟩ := encodeChar_unit basic
        rw [spelled, List.singleton_append, decode_single single, same, ih]
      · obtain ⟨high, low, spelled, first, second, same⟩ := encodeChar_pair (not_lt.mp basic)
        rw [spelled, List.cons_append, List.singleton_append, decode_pair first second, same, ih]

/-- **A text survives its UTF-16 form.** -/
@[simp] theorem decode_encode (text : List Char) : decode (encode text) = text := by
  have whole := decode_encode_append text []
  rwa [List.append_nil, decode_nil, List.append_nil] at whole

/-- **Well-formed units survive decoding.** -/
theorem encode_decode (wellFormed : WellFormed units) : encode (decode units) = units := by
  induction units using decode.induct with
  | case1 => rfl
  | case2 unit =>
      simpa [decode] using encodeChar_unitValue wellFormed
  | case3 first second rest pairs ih =>
      rw [WellFormed, if_pos pairs] at wellFormed
      rw [Bool.and_eq_true] at pairs
      rw [decode_pair pairs.1 pairs.2, encode_cons, encodeChar_pairValue pairs.1 pairs.2,
        ih wellFormed]
      rfl
  | case4 first second rest pairs ih =>
      rw [WellFormed, if_neg pairs] at wellFormed
      rw [decode_single wellFormed.1, encode_cons, encodeChar_unitValue wellFormed.1,
        ih wellFormed.2]
      rfl

theorem wellFormed_single {unit : UInt16} (single : isSurrogate unit = false) (rest : List UInt16) :
    WellFormed (unit :: rest) ↔ WellFormed rest := by
  cases rest with
  | nil => exact ⟨fun _ => trivial, fun _ => single⟩
  | cons second rest =>
      rw [WellFormed, if_neg (by simp [(isSurrogate_eq_false_iff.mp single).1])]
      exact ⟨And.right, fun wellFormed => ⟨single, wellFormed⟩⟩

/-- The UTF-16 form of a text is well formed. -/
theorem wellFormed_encode (text : List Char) : WellFormed (encode text) := by
  induction text with
  | nil => trivial
  | cons value text ih =>
      rw [encode_cons]
      by_cases basic : value.toNat < 0x10000
      · obtain ⟨unit, spelled, single, -⟩ := encodeChar_unit basic
        rw [spelled, List.singleton_append, wellFormed_single single]
        exact ih
      · obtain ⟨high, low, spelled, first, second, -⟩ := encodeChar_pair (not_lt.mp basic)
        rw [spelled, List.cons_append, List.singleton_append, WellFormed,
          if_pos (by rw [first, second]; rfl)]
        exact ih

/-- A surrogate without its partner is replaced by one unit. -/
theorem length_encode_decode (units : List UInt16) : (encode (decode units)).length = units.length := by
  have single (unit : UInt16) : (encodeChar (unitValue unit)).length = 1 := by
    by_cases surrogate : isSurrogate unit = true
    · rw [unitValue, if_pos surrogate]
      rfl
    · rw [encodeChar_unitValue (Bool.eq_false_iff.mpr surrogate)]
      rfl
  induction units using decode.induct with
  | case1 => rfl
  | case2 unit =>
      rw [decode, encode_cons, List.length_append, single]
      rfl
  | case3 first second rest pairs ih =>
      rw [Bool.and_eq_true] at pairs
      rw [decode_pair pairs.1 pairs.2, encode_cons, List.length_append, ih,
        encodeChar_pairValue pairs.1 pairs.2]
      simp only [List.length_cons, List.length_nil]
      omega
  | case4 first second rest pairs ih =>
      rw [decode, if_neg pairs, encode_cons, List.length_append, single, ih]
      simp only [List.length_cons]
      omega

/-- **Units come back from decoding exactly when they are well formed.** -/
theorem encode_decode_iff : encode (decode units) = units ↔ WellFormed units := by
  refine ⟨fun same => ?_, encode_decode⟩
  rw [← same]
  exact wellFormed_encode _

@[simp] theorem encodeChar_ne_nil (value : Char) : encodeChar value ≠ [] := by
  unfold encodeChar
  split <;> simp

@[simp] theorem encode_eq_nil : encode text = [] ↔ text = [] := by
  cases text with
  | nil => simp
  | cons value text => simp

@[simp] theorem decode_eq_nil : decode units = [] ↔ units = [] := by
  cases units using decode.induct with
  | case1 => simp
  | case2 unit => simp [decode]
  | case3 first second rest pairs => simp [decode, pairs]
  | case4 first second rest pairs => simp [decode, pairs]

/-- The units of a text of the basic plane are its scalar values. -/
theorem encode_eq_map (basic : ∀ value ∈ text, value.toNat < 0x10000) :
    encode text = text.map fun value => value.toNat.toUInt16 := by
  induction text with
  | nil => rfl
  | cons value text ih =>
      rw [encode_cons, ih fun value member => basic value (List.mem_cons_of_mem _ member),
        encodeChar, if_pos (basic value List.mem_cons_self)]
      rfl

/-- A text has no NUL that its units do not have. -/
theorem nul_mem_decode (nul : '\x00' ∈ decode units) : 0 ∈ units := by
  have unit_ : ∀ unit : UInt16, '\x00' = unitValue unit → unit = 0 := by
    intro unit same
    by_cases surrogate : isSurrogate unit = true
    · rw [unitValue, if_pos surrogate] at same
      exact absurd same (by decide)
    · have number := unitValue_toNat (Bool.eq_false_iff.mpr surrogate)
      rw [← same] at number
      exact UInt16.toNat_inj.mp number.symm
  induction units using decode.induct with
  | case1 => cases nul
  | case2 unit =>
      rw [decode, List.mem_singleton] at nul
      rw [unit_ unit nul]
      exact List.mem_singleton_self 0
  | case3 first second rest pairs ih =>
      rw [Bool.and_eq_true] at pairs
      rw [decode_pair pairs.1 pairs.2, List.mem_cons] at nul
      rcases nul with same | later
      · have number := pairValue_toNat pairs.1 pairs.2
        rw [← same] at number
        simp at number
        omega
      · exact List.mem_cons_of_mem _ (List.mem_cons_of_mem _ (ih later))
  | case4 first second rest pairs ih =>
      rw [decode, if_neg pairs, List.mem_cons] at nul
      rcases nul with same | later
      · rw [unit_ first same]
        exact List.mem_cons_self
      · exact List.mem_cons_of_mem _ (ih later)

theorem nul_mem_encode (nul : 0 ∈ encode text) : '\x00' ∈ text := by
  obtain ⟨value, member, spelled⟩ := List.mem_flatMap.mp nul
  have same : value = '\x00' := by
    by_cases basic : value.toNat < 0x10000
    · rw [encodeChar, if_pos basic, List.mem_singleton] at spelled
      have number := congrArg UInt16.toNat spelled
      rw [UInt16.toNat_ofNat_of_lt' basic] at number
      exact Char.toNat_inj.mp number.symm
    · obtain ⟨high, low, pair, first, second, -⟩ := encodeChar_pair (not_lt.mp basic)
      rw [pair] at spelled
      simp only [List.mem_cons, List.not_mem_nil, or_false] at spelled
      rcases spelled with rfl | rfl
      · cases first
      · cases second
  rwa [← same]

/-- Units as a reader of a terminated string sees them. -/
def terminated (units : List UInt16) : List UInt16 := units.takeWhile (· != 0)

theorem terminated_append_nul (units : List UInt16) :
    terminated (units ++ [0]) = terminated units := by
  induction units with
  | nil => rfl
  | cons unit units ih =>
      by_cases nul : unit = 0
      · simp [terminated, nul]
      · simpa [terminated, nul] using ih

theorem terminated_eq_self : terminated units = units ↔ 0 ∉ units := by
  rw [terminated, List.takeWhile_eq_self_iff]
  simp only [bne_iff_ne, ne_eq]
  exact ⟨fun all member => all 0 member rfl, fun none unit member same => none (same ▸ member)⟩

end Texts

end Unicode
