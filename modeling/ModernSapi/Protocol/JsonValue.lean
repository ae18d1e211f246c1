import Mathlib

/-!
# Unsigned integers in provider records

The provider writes its control records as JSON. The engine reads an unsigned
field of a record with one function for every width, which takes a JSON integer
in range and an integral JSON float that a double holds exactly.

`tryGetJsonUnsignedInteger_sound` says what a successful read means: the value is
in range and is the number the record carries.
-/

set_option autoImplicit false

namespace ModernSapi

/-- A JSON floating-point number, as the parsed double. -/
inductive JsonFloat where
  | finite (value : ℚ)
  | nonFinite

/-- A parsed JSON value, with the three kinds of number the parser tells apart. -/
inductive Json where
  | null
  | boolean (value : Bool)
  | numberUnsigned (value : Nat)
  | numberInteger (value : Int)
  | numberFloat (value : JsonFloat)
  | string (value : String)
  | array (elements : List Json)
  | object (members : List (String × Json))

namespace Json

/-- The member an object has under a key. -/
def member? : Json → String → Option Json
  | .object members, key => members.lookup key
  | _, _ => none

/-- The text of a member, when the object has it and it is a string. -/
def stringMember? (json : Json) (key : String) : Option String :=
  match json.member? key with
  | some (.string text) => some text
  | _ => none

end Json

/-- The unsigned integer types the engine reads records into. -/
inductive UIntWidth where
  | uint32
  | uint64
  deriving DecidableEq, Repr

namespace UIntWidth

/-- The largest value of the type. -/
def maximum : UIntWidth → Nat
  | .uint32 => 2 ^ 32 - 1
  | .uint64 => 2 ^ 64 - 1

/-- The largest value converted to a double, which rounds up at 64 bits. -/
def maximumAsDouble : UIntWidth → ℚ
  | .uint32 => 2 ^ 32 - 1
  | .uint64 => 2 ^ 64

end UIntWidth

/-- Every integer up to this one is a double. -/
def maximumExactlyRepresentableJsonInteger : Nat := 9007199254740991

/-- Read an unsigned integer of the given width. A value that is refused leaves
the output of the source's function as it was, so it has no result here. -/
def tryGetJsonUnsignedInteger (width : UIntWidth) : Json → Option Nat
  | .numberUnsigned number => if number > width.maximum then none else some number
  | .numberInteger number =>
      if number < 0 ∨ number.toNat > width.maximum then none else some number.toNat
  | .numberFloat .nonFinite => none
  | .numberFloat (.finite number) =>
      if number < 0 ∨ number > maximumExactlyRepresentableJsonInteger ∨
          number > width.maximumAsDouble ∨ number.den ≠ 1 then none
      else some number.num.toNat
  | _ => none

/-- The number a JSON value carries, when it is a finite one. -/
def Json.number? : Json → Option ℚ
  | .numberUnsigned number => some number
  | .numberInteger number => some number
  | .numberFloat (.finite number) => some number
  | _ => none

/-- A nonnegative integer and its natural number are the same rational. -/
theorem natCast_toNat {number : Int} (nonnegative : 0 ≤ number) :
    ((number.toNat : Nat) : ℚ) = (number : ℚ) := by
  have same : ((number.toNat : Nat) : Int) = number := Int.toNat_of_nonneg nonnegative
  exact_mod_cast congrArg (fun value : Int => (value : ℚ)) same

/-- A double that passes the checks is at most the largest value of the type. -/
theorem UIntWidth.le_maximum_of_exact {width : UIntWidth} {value : Nat}
    (exact : value ≤ maximumExactlyRepresentableJsonInteger)
    (inRange : (value : ℚ) ≤ width.maximumAsDouble) : value ≤ width.maximum := by
  cases width with
  | uint32 =>
      have bound : (value : ℚ) ≤ ((2 ^ 32 - 1 : Nat) : ℚ) := by
        norm_num [maximumAsDouble] at inRange ⊢
        exact inRange
      exact_mod_cast bound
  | uint64 =>
      simp only [maximumExactlyRepresentableJsonInteger] at exact
      simp only [maximum]
      omega

/-- **A field that is read is a nonnegative integer in range, and it is the
number the record carries.** -/
theorem tryGetJsonUnsignedInteger_sound {width : UIntWidth} {json : Json} {value : Nat}
    (read : tryGetJsonUnsignedInteger width json = some value) :
    value ≤ width.maximum ∧ json.number? = some (value : ℚ) := by
  cases json with
  | numberUnsigned number =>
      simp only [tryGetJsonUnsignedInteger] at read
      split at read
      · cases read
      · next inRange =>
          cases read
          exact ⟨Nat.not_lt.mp inRange, rfl⟩
  | numberInteger number =>
      simp only [tryGetJsonUnsignedInteger] at read
      split at read
      · cases read
      · next inRange =>
          cases read
          push Not at inRange
          exact ⟨inRange.2, congrArg some (natCast_toNat inRange.1).symm⟩
  | numberFloat number =>
      cases number with
      | nonFinite => simp [tryGetJsonUnsignedInteger] at read
      | finite number =>
          simp only [tryGetJsonUnsignedInteger] at read
          split at read
          · cases read
          · next inRange =>
              cases read
              push Not at inRange
              obtain ⟨nonnegative, exact, bounded, integral⟩ := inRange
              have whole : (number.num : ℚ) = number := Rat.coe_int_num_of_den_eq_one integral
              have cast : ((number.num.toNat : Nat) : ℚ) = number :=
                (natCast_toNat (Rat.num_nonneg.mpr nonnegative)).trans whole
              refine ⟨UIntWidth.le_maximum_of_exact ?_ (by rwa [cast]), ?_⟩
              · rw [← cast] at exact
                exact_mod_cast exact
              · simp [Json.number?, cast]
  | null => simp [tryGetJsonUnsignedInteger] at read
  | boolean => simp [tryGetJsonUnsignedInteger] at read
  | string => simp [tryGetJsonUnsignedInteger] at read
  | array => simp [tryGetJsonUnsignedInteger] at read
  | object => simp [tryGetJsonUnsignedInteger] at read

end ModernSapi
