import ModernSapi.Engine.Engine
import ModernSapi.Library.Unicode

/-!
# Strings between SAPI and the provider

SAPI speaks UTF-16 and the control pipe UTF-8. The conversions answer with an empty
string whatever they cannot do: a length that is no `int`, and a result whose length is
none. A surrogate without its partner becomes U+FFFD.

A converted string is valid UTF-8, so it is a `String` here.

* `utf8ToWide_wideToUtf8_iff`: which texts survive the way to UTF-8 and back.
* `dispatchBookmarkEvent_dispatchedEvent`: a bookmark keeps its offset, whatever becomes of its name.
-/

set_option autoImplicit false

namespace ModernSapi

open Unicode

/-- The largest `int`. -/
def maxInt : ℕ := 2 ^ 31 - 1

namespace StringUtils

/-- `WideToUtf8` of the text a pointer points at, which is none when it is null. -/
def wideToUtf8 : Option (List UInt16) → String
  | none => ""
  | some text =>
      if text.length = 0 ∨ maxInt < text.length then ""
      else
        let utf8 := String.ofList (decode text)
        -- The conversion answers zero when the size it needs is no `int`.
        if maxInt < utf8.utf8ByteSize then "" else utf8

def utf8ToWide (text : String) : List UInt16 :=
  if text.utf8ByteSize = 0 ∨ maxInt < text.utf8ByteSize then []
  else encode text.toList

/-- `Utf8ToCoTaskMemWide`: the units of the allocated string with its terminator. The
allocation may fail, and a size is at most `sizeMax`. -/
def utf8ToCoTaskMemWide (sizeMax : ℕ) (allocates : Bool) (text : String) : Option (List UInt16) :=
  if maxInt < text.utf8ByteSize then none
  else if text.utf8ByteSize = 0 then if allocates then some [0] else none
  else
    let wide := encode text.toList
    if sizeMax / 2 < wide.length + 1 then none
    else if allocates then some (wide ++ [0])
    else none

/-- A text whose UTF-16 and UTF-8 forms both have an `int` for their length. -/
structure Convertible (text : List UInt16) : Prop where
  units : text.length ≤ maxInt
  bytes : (String.ofList (decode text)).utf8ByteSize ≤ maxInt

section Lemmas

variable {text : List UInt16} {utf8 : String}

theorem wideToUtf8_eq (convertible : Convertible text) :
    wideToUtf8 (some text) = String.ofList (decode text) := by
  rw [wideToUtf8]
  by_cases empty : text.length = 0
  · rw [if_pos (.inl empty), List.eq_nil_of_length_eq_zero empty]
    rfl
  · rw [if_neg (by have := convertible.units; omega),
      if_neg (not_lt.mpr convertible.bytes)]

theorem wideToUtf8_unconvertible (unconvertible : ¬Convertible text) :
    wideToUtf8 (some text) = "" := by
  rw [wideToUtf8]
  by_cases units : text.length = 0 ∨ maxInt < text.length
  · rw [if_pos units]
  · rw [if_neg units]
    refine if_pos (not_le.mp fun bytes => unconvertible ⟨?_, bytes⟩)
    omega

theorem utf8ByteSize_eq_zero : utf8.utf8ByteSize = 0 ↔ utf8.toList = [] := by
  rw [String.utf8ByteSize_eq_zero_iff, String.toList_eq_nil_iff]

theorem utf8ToWide_eq (fits : utf8.utf8ByteSize ≤ maxInt) : utf8ToWide utf8 = encode utf8.toList := by
  rw [utf8ToWide]
  by_cases empty : utf8.utf8ByteSize = 0
  · rw [if_pos (.inl empty), utf8ByteSize_eq_zero.mp empty, encode_nil]
  · rw [if_neg (by omega)]

/-- The way to UTF-8 and back replaces the surrogates without a partner. -/
theorem utf8ToWide_wideToUtf8 (convertible : Convertible text) :
    utf8ToWide (wideToUtf8 (some text)) = encode (decode text) := by
  rw [wideToUtf8_eq convertible, utf8ToWide_eq convertible.bytes, String.toList_ofList]

theorem utf8ToWide_wideToUtf8_unconvertible (unconvertible : ¬Convertible text) :
    utf8ToWide (wideToUtf8 (some text)) = [] := by
  rw [wideToUtf8_unconvertible unconvertible]
  rfl

/-- **A text survives the way to UTF-8 and back exactly when it is well formed and short
enough**, or is empty. Of the others, those short enough come back with their surrogates
without a partner replaced, and nothing is left of the rest. -/
theorem utf8ToWide_wideToUtf8_iff :
    (utf8ToWide (wideToUtf8 (some text)) = text ↔
      text = [] ∨ (WellFormed text ∧ Convertible text)) ∧
    (Convertible text → utf8ToWide (wideToUtf8 (some text)) = encode (decode text)) ∧
    (¬Convertible text → utf8ToWide (wideToUtf8 (some text)) = []) := by
  refine ⟨?_, utf8ToWide_wideToUtf8, utf8ToWide_wideToUtf8_unconvertible⟩
  by_cases convertible : Convertible text
  · rw [utf8ToWide_wideToUtf8 convertible, encode_decode_iff]
    refine ⟨fun wellFormed => .inr ⟨wellFormed, convertible⟩, ?_⟩
    rintro (rfl | ⟨wellFormed, -⟩)
    · trivial
    · exact wellFormed
  · rw [utf8ToWide_wideToUtf8_unconvertible convertible]
    constructor
    · exact fun same => .inl same.symm
    · rintro (rfl | ⟨-, other⟩)
      · rfl
      · exact absurd other convertible

theorem wideToUtf8_eq_empty (convertible : Convertible text) :
    wideToUtf8 (some text) = "" ↔ text = [] := by
  rw [wideToUtf8_eq convertible, ← String.toList_eq_nil_iff, String.toList_ofList, decode_eq_nil]

/-- The units allocated for a converted text are its own, with the surrogates that have
no partner replaced. -/
theorem utf8ToCoTaskMemWide_wideToUtf8 {sizeMax : ℕ} (convertible : Convertible text)
    (nonempty : text ≠ []) (large : (encode (decode text)).length + 1 ≤ sizeMax / 2) :
    utf8ToCoTaskMemWide sizeMax true (wideToUtf8 (some text)) =
      some (encode (decode text) ++ [0]) := by
  have bytes := convertible.bytes
  have spelled : (String.ofList (decode text)).utf8ByteSize ≠ 0 := by
    rw [Ne, utf8ByteSize_eq_zero, String.toList_ofList, decode_eq_nil]
    exact nonempty
  rw [wideToUtf8_eq convertible, utf8ToCoTaskMemWide, if_neg (by omega), if_neg spelled,
    String.toList_ofList]
  exact if_neg (by omega)

end Lemmas

end StringUtils

/-! ## The event of a bookmark -/

/-- The event of a bookmark. Its string is what SAPI finds at `lParam`, when `elParamType`
says that a string is there. -/
structure SpBookmarkEvent where
  ullAudioStreamOffset : ℕ
  wParam : ℤ := 0
  lParam : Option (List UInt16) := none
  deriving DecidableEq

/-- The string SAPI reads at `lParam`. -/
def SpBookmarkEvent.string (event : SpBookmarkEvent) : Option (List UInt16) :=
  event.lParam.map terminated

section Bookmark

variable (wtol : List UInt16 → ℤ) (sizeMax : ℕ) (allocates : Bool)

/-- `DispatchBookmarkEvent`: a name that cannot be converted is left out. -/
def dispatchBookmarkEvent (format : WaveFormat) (event : ProviderControlEvent) :
    Option SpBookmarkEvent :=
  if event.hasValidSpeechOffsets then
    let ullAudioStreamOffset :=
      audioOffsetMillisecondsToBytes event.speechOffsets.audioOffsetMs format
    if event.bookmarkName.isEmpty then some { ullAudioStreamOffset }
    else
      match StringUtils.utf8ToCoTaskMemWide sizeMax allocates event.bookmarkName with
      | some units =>
          some { ullAudioStreamOffset, wParam := wtol (terminated units), lParam := some units }
      | none => some { ullAudioStreamOffset }
  else none

variable {wtol sizeMax allocates}

/-- The event has the offset the engine's own event has. -/
theorem dispatchBookmarkEvent_dispatchedEvent {format : WaveFormat} {event : ProviderControlEvent}
    (bookmark : event.type = .bookmark) :
    (dispatchBookmarkEvent wtol sizeMax allocates format event).map (·.ullAudioStreamOffset) =
      (dispatchedEvent format event).map fun
        | .bookmark offset _ => offset
        | .wordBoundary .. | .sentenceBoundary .. => 0 := by
  unfold dispatchBookmarkEvent dispatchedEvent
  cases event.hasValidSpeechOffsets with
  | false => rfl
  | true =>
      rw [bookmark]
      simp only [if_true]
      split
      · rfl
      · split <;> rfl

end Bookmark

end ModernSapi
