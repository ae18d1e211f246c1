import ModernSapi.Protocol.JsonValue

/-!
# Wire integers by value

`tryGetJsonUnsignedInteger` says which integer is read. The function of the source also has an
output that a refused value leaves as it was, and casts that are defined only in the range of
the output. Both are written out here, and `wire_integer_by_value` says when a value is read:
when the number it carries is an integer of the type, whatever the parser has made of the
number, and a double holds every integer up to it if the number came as a double.
-/

set_option autoImplicit false

namespace ModernSapi

namespace JsonValue

/-- How a call ends: it returns, with its output, or it casts a number the type does not
have. -/
inductive Outcome where
  | returned (read : Bool) (output : ℕ)
  | castOutOfRange
  deriving DecidableEq, Repr

/-- The number without its fraction, rounded toward zero. -/
def trunc (number : ℚ) : ℤ :=
  if number < 0 then ⌈number⌉ else ⌊number⌋

/-- `output = static_cast<UInt>(number)`, and success. -/
def castTo (width : UIntWidth) (number : ℚ) : Outcome :=
  if 0 ≤ trunc number ∧ trunc number ≤ width.maximum then
    .returned true (trunc number).toNat
  else .castOutOfRange

def tryGetJsonUnsignedInteger (width : UIntWidth) (value : Json) (output : ℕ) : Outcome :=
  match value with
  | .numberUnsigned number =>
      if number > width.maximum then .returned false output else castTo width number
  | .numberInteger number =>
      if number < 0 ∨ number.toNat > width.maximum then .returned false output
      else castTo width number
  | .numberFloat .nonFinite => .returned false output
  | .numberFloat (.finite number) =>
      if number < 0 ∨ number > maximumExactlyRepresentableJsonInteger ∨
          number > width.maximumAsDouble ∨ (trunc number : ℚ) ≠ number then
        .returned false output
      else castTo width number
  | _ => .returned false output

/-- A number that is a natural number is its own truncation. -/
theorem trunc_natCast (number : ℕ) : trunc (number : ℚ) = number := by
  have nonnegative : ¬(number : ℚ) < 0 := not_lt.mpr (Nat.cast_nonneg number)
  rw [trunc, if_neg nonnegative]
  exact Int.floor_natCast number

/-- A number in range is cast to itself. -/
theorem castTo_natCast {width : UIntWidth} {number : ℕ} (inRange : number ≤ width.maximum) :
    castTo width number = .returned true number := by
  have bounds : 0 ≤ trunc (number : ℚ) ∧ trunc (number : ℚ) ≤ width.maximum := by
    rw [trunc_natCast]
    exact ⟨Int.natCast_nonneg number, Int.ofNat_le.mpr inRange⟩
  rw [castTo, if_pos bounds, trunc_natCast]
  rfl

end JsonValue

/-- The largest value of a type is no larger than the double it is converted to. -/
theorem UIntWidth.le_maximumAsDouble (width : UIntWidth) {number : ℕ}
    (inRange : number ≤ width.maximum) : (number : ℚ) ≤ width.maximumAsDouble := by
  have bound : (number : ℚ) ≤ (width.maximum : ℚ) := Nat.cast_le.mpr inRange
  refine bound.trans ?_
  cases width with
  | uint32 => norm_num [maximum, maximumAsDouble]
  | uint64 => norm_num [maximum, maximumAsDouble]

/-- The number came as a double. -/
def Json.isFloat : Json → Bool
  | .numberFloat _ => true
  | _ => false

/-- The value carries an integer of the type, and one that every double near it can tell
apart if it came as a double. -/
def Json.Carries (value : Json) (width : UIntWidth) (number : ℕ) : Prop :=
  value.number? = some (number : ℚ) ∧ number ≤ width.maximum ∧
    (value.isFloat = true → number ≤ 2 ^ 53 - 1)

section Reading

open JsonValue

variable {width : UIntWidth} {output : ℕ}

/-- What a call comes to: the integer that the value carries, or none. -/
inductive ReadsByValue (width : UIntWidth) (value : Json) (output : ℕ) : Outcome → Prop where
  | read {number : ℕ} (carries : value.Carries width number) :
      ReadsByValue width value output (.returned true number)
  | refused (carriesNone : ∀ number, ¬value.Carries width number) :
      ReadsByValue width value output (.returned false output)

theorem readsByValue_unsigned (number : ℕ) :
    ReadsByValue width (.numberUnsigned number) output
      (JsonValue.tryGetJsonUnsignedInteger width (.numberUnsigned number) output) := by
  simp only [JsonValue.tryGetJsonUnsignedInteger]
  split
  · next tooLarge =>
      refine .refused ?_
      rintro other ⟨carried, inRange, -⟩
      have same : number = other := Nat.cast_injective (Option.some.inj carried)
      omega
  · next inRange =>
      rw [castTo_natCast (Nat.not_lt.mp inRange)]
      exact .read ⟨rfl, Nat.not_lt.mp inRange, nofun⟩

theorem readsByValue_signed (number : ℤ) :
    ReadsByValue width (.numberInteger number) output
      (JsonValue.tryGetJsonUnsignedInteger width (.numberInteger number) output) := by
  simp only [JsonValue.tryGetJsonUnsignedInteger]
  split
  · next outside =>
      refine .refused ?_
      rintro other ⟨carried, inRange, -⟩
      have same : number = (other : ℤ) := by
        have cast : (number : ℚ) = (other : ℚ) := Option.some.inj carried
        exact_mod_cast cast
      omega
  · next inside =>
      push Not at inside
      obtain ⟨nonnegative, inRange⟩ := inside
      have cast : (number : ℚ) = (number.toNat : ℚ) := (natCast_toNat nonnegative).symm
      rw [cast, castTo_natCast inRange]
      exact .read ⟨congrArg some cast, inRange, nofun⟩

/-- A double is read when it is a natural number that passes the two bounds. -/
theorem readsByValue_finite (number : ℚ) :
    ReadsByValue width (.numberFloat (.finite number)) output
      (JsonValue.tryGetJsonUnsignedInteger width (.numberFloat (.finite number)) output) := by
  simp only [JsonValue.tryGetJsonUnsignedInteger]
  split
  · next outside =>
      refine .refused ?_
      rintro other ⟨carried, inRange, precise⟩
      have same : number = (other : ℚ) := Option.some.inj carried
      have exactly : other ≤ maximumExactlyRepresentableJsonInteger := precise rfl
      subst same
      rcases outside with negative | tooLarge | beyond | fractional
      · exact absurd negative (not_lt.mpr (Nat.cast_nonneg other))
      · exact absurd tooLarge (not_lt.mpr (Nat.cast_le.mpr exactly))
      · refine absurd beyond (not_lt.mpr ?_)
        exact width.le_maximumAsDouble inRange
      · exact fractional (by rw [trunc_natCast]; rfl)
  · next inside =>
      push Not at inside
      obtain ⟨nonnegative, exactly, bounded, integral⟩ := inside
      have truncated : 0 ≤ trunc number := by
        have cast : (0 : ℚ) ≤ (trunc number : ℚ) := by rwa [integral]
        exact_mod_cast cast
      have same : number = ((trunc number).toNat : ℚ) := by
        rw [natCast_toNat truncated, integral]
      rw [same] at exactly bounded
      have precise : (trunc number).toNat ≤ maximumExactlyRepresentableJsonInteger := by
        exact_mod_cast exactly
      have inRange := UIntWidth.le_maximum_of_exact precise bounded
      rw [same, castTo_natCast inRange]
      exact .read ⟨rfl, inRange, fun _ => precise⟩

/-- A value without a number is refused. -/
theorem refused_of_no_number {value : Json} (none : value.number? = none) :
    ReadsByValue width value output (.returned false output) := by
  refine .refused ?_
  rintro number ⟨carried, -⟩
  rw [none] at carried
  cases carried

/-- **The function reads the integer that a value carries**, and no other. -/
theorem readsByValue (width : UIntWidth) (value : Json) (output : ℕ) :
    ReadsByValue width value output (JsonValue.tryGetJsonUnsignedInteger width value output) := by
  cases value with
  | numberUnsigned number => exact readsByValue_unsigned number
  | numberInteger number => exact readsByValue_signed number
  | numberFloat number =>
      cases number with
      | finite number => exact readsByValue_finite number
      | nonFinite => exact refused_of_no_number rfl
  | null | boolean | string | array | object => exact refused_of_no_number rfl

end Reading

/-- A value carries one number. -/
theorem Json.Carries.unique {value other : Json} {width : UIntWidth} {first second : ℕ}
    (carries : value.Carries width first) (carries' : other.Carries width second)
    (same : other.number? = value.number?) : second = first := by
  have equal : some (second : ℚ) = some (first : ℚ) :=
    carries'.1.symm.trans (same.trans carries.1)
  exact Nat.cast_injective (Option.some.inj equal)

/-- **Wire integers are read by value.** A call returns, so that no number is cast out of
range. It succeeds if and only if the value is a number that is an integer of the type, no
larger than `2 ^ 53 - 1` when it came as a double. The output is that integer then, the same
for every value of the same number, and is unchanged otherwise. -/
theorem wire_integer_by_value (width : UIntWidth) (value : Json) (output : ℕ) :
    ∃ read taken,
      JsonValue.tryGetJsonUnsignedInteger width value output = .returned read taken ∧
        (read = true ↔ ∃ number, value.Carries width number) ∧
        (read = true → value.number? = some (taken : ℚ)) ∧
        (read = false → taken = output) ∧
        ∀ other taken', other.number? = value.number? →
          JsonValue.tryGetJsonUnsignedInteger width other output = .returned true taken' →
            read = true → taken' = taken := by
  have reads := readsByValue width value output
  generalize JsonValue.tryGetJsonUnsignedInteger width value output = outcome at reads
  cases reads with
  | @read number carries =>
      refine ⟨true, number, rfl, iff_of_true rfl ⟨number, carries⟩, fun _ => carries.1, ?_, ?_⟩
      · intro failed
        cases failed
      · intro other taken' same read _
        have others := readsByValue width other output
        rw [read] at others
        cases others with
        | read carries' => exact carries.unique carries' same
  | refused carriesNone =>
      refine ⟨false, output, rfl, iff_of_false (by simp) ?_, ?_, fun _ => rfl, ?_⟩
      · rintro ⟨number, carries⟩
        exact carriesNone number carries
      · intro succeeded
        cases succeeded
      · intro _ _ _ _ succeeded
        cases succeeded

/-- The read without the output takes the same values for the same integers. -/
theorem tryGetJsonUnsignedInteger_iff {width : UIntWidth} {value : Json} {number : ℕ} :
    tryGetJsonUnsignedInteger width value = some number ↔ value.Carries width number := by
  constructor
  · intro read
    obtain ⟨inRange, carried⟩ := tryGetJsonUnsignedInteger_sound read
    refine ⟨carried, inRange, fun isFloat => ?_⟩
    cases value with
    | numberFloat float =>
        cases float with
        | finite value =>
            simp only [tryGetJsonUnsignedInteger] at read
            split at read
            · cases read
            · next inside =>
                push Not at inside
                have same : value = (number : ℚ) := Option.some.inj carried
                have exactly := inside.2.1
                rw [same] at exactly
                exact Nat.cast_le.mp exactly
        | nonFinite => cases carried
    | _ => cases isFloat
  · rintro ⟨carried, inRange, precise⟩
    cases value with
    | numberUnsigned value =>
        have same : value = number := Nat.cast_injective (Option.some.inj carried)
        rw [same, tryGetJsonUnsignedInteger, if_neg (Nat.not_lt.mpr inRange)]
    | numberInteger value =>
        have same : value = (number : ℤ) := by
          have cast : (value : ℚ) = (number : ℚ) := Option.some.inj carried
          exact_mod_cast cast
        rw [same, tryGetJsonUnsignedInteger, if_neg (by simp [inRange])]
        rfl
    | numberFloat float =>
        cases float with
        | finite value =>
            have same : value = (number : ℚ) := Option.some.inj carried
            have exactly : (number : ℚ) ≤ maximumExactlyRepresentableJsonInteger :=
              Nat.cast_le.mpr (precise rfl)
            rw [same, tryGetJsonUnsignedInteger, if_neg ?_]
            · rfl
            · push Not
              exact ⟨Nat.cast_nonneg number, exactly, width.le_maximumAsDouble inRange, rfl⟩
        | nonFinite => cases carried
    | null | boolean | string | array | object => cases carried

example :
    JsonValue.tryGetJsonUnsignedInteger .uint32 (.numberFloat (.finite 4294967295)) 123 =
      .returned true 4294967295 := by
  decide +kernel

end ModernSapi
