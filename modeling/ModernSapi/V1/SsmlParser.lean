import Mathlib.Algebra.Group.Nat.Defs
import Mathlib.Data.Int.Notation
import ModernSapi.Library.Xml

/-!
# The SSML parser of v1

`SapiSsmlParser::Parse` makes one SSML document of the fragments of a call and notes at which
position of it the text of each fragment starts. Whether two graphemes need a space between
them is a parameter here.

A loop over fragments builds up the document, the offset map and the prosody that is open.
`speak` is one round of it, written as the steps the source takes in order.
-/

set_option autoImplicit false

namespace ModernSapi

open Xml

/-! ## Fragments -/

namespace ProviderAction

def speak : UInt32 := 0
def spellOut : UInt32 := 1
def pronounce : UInt32 := 2
def bookmark : UInt32 := 3

end ProviderAction

structure ProviderSpeechFragment where
  text : List UInt16
  originalOffset : UInt32 := 0
  action : UInt32 := ProviderAction.speak
  volume : Float32 := 100
  rate : Float32 := 0
  pitch : Float32 := 0
  /-- The length is a `uint32_t`. -/
  textLength : text.length < 2 ^ 32 := by decide

namespace ProviderSpeechFragment

def isBookmark (fragment : ProviderSpeechFragment) : Bool :=
  fragment.action == ProviderAction.bookmark

def isSpeakable (fragment : ProviderSpeechFragment) : Bool :=
  fragment.action == ProviderAction.speak || fragment.action == ProviderAction.spellOut ||
    fragment.action == ProviderAction.pronounce

/-- A bookmark is not spoken. -/
theorem isSpeakable_of_isBookmark {fragment : ProviderSpeechFragment}
    (isBookmark : fragment.isBookmark = true) : fragment.isSpeakable = false := by
  rw [ProviderSpeechFragment.isBookmark, beq_iff_eq] at isBookmark
  rw [isSpeakable, isBookmark]
  rfl

def hasProsody (fragment : ProviderSpeechFragment) : Bool :=
  fragment.pitch != 0 || fragment.volume != 100 || fragment.rate != 0

end ProviderSpeechFragment

/-! ## Texts -/

def isHighSurrogate (unit : UInt16) : Bool := 0xD800 ≤ unit && unit ≤ 0xDBFF
def isLowSurrogate (unit : UInt16) : Bool := 0xDC00 ≤ unit && unit ≤ 0xDFFF

def firstGrapheme : List UInt16 → List UInt16
  | first :: second :: _ =>
      if isHighSurrogate first && isLowSurrogate second then [first, second] else [first]
  | text => text

/-- The last grapheme of a text that is not empty. -/
def lastGrapheme (text : List UInt16) : List UInt16 :=
  match text.reverse with
  | last :: before :: _ =>
      if isHighSurrogate before && isLowSurrogate last then [before, last] else [last]
  | last => last

/-- What one unit of a text adds to the document. NULs are left out. -/
def escapedForm (unit : UInt16) : List UInt16 :=
  if unit = 0 then [] else escapeUnit unit

/-- What `AppendEscapedXml` appends. -/
def escapedXml (text : List UInt16) : List UInt16 := text.flatMap escapedForm

/-- `std::to_string` of a number that is not negative. -/
def decimal (number : ℕ) : List UInt16 :=
  (Nat.toDigits 10 number).map fun char => char.toNat.toUInt16

/-- `static_cast<int>(std::round(value))`. A number that is no `int` becomes the least one, as
the processor's conversion has it. -/
def roundToInt (value : Float32) : ℤ :=
  let size := value.abs
  if value.isNaN || 2147483648 ≤ size then -2147483648
  else
    let whole := size.toUInt32
    let rounded := if 0.5 ≤ size - whole.toFloat32 then whole.toNat + 1 else whole.toNat
    if value < 0 then -(rounded : ℤ) else rounded

def formatProsodyValue (value : Float32) : List UInt16 :=
  let number := roundToInt value
  units (if 0 ≤ number then "+" else "-") ++ decimal number.natAbs ++ units "%"

/-! ## The loop -/

structure SsmlParser where
  ssmlString : List UInt16 := []
  offsetMap : List (UInt32 × UInt32) := []
  hasSpeakableText : Bool := false
  lastGrapheme : List UInt16 := []
  isProsodyOpen : Bool := false
  currentPitch : Float32 := 0
  currentVolume : Float32 := 100
  currentRate : Float32 := 0

namespace SsmlParser

def append (parser : SsmlParser) (text : List UInt16) : SsmlParser :=
  { parser with ssmlString := parser.ssmlString ++ text }

/-- `result.OffsetMap.push_back({ length, originalOffset })`. -/
def mapOffset (parser : SsmlParser) (originalOffset : UInt32) : SsmlParser :=
  { parser with
    offsetMap := parser.offsetMap ++ [(parser.ssmlString.length.toUInt32, originalOffset)] }

/-- The text of a fragment, with the position it starts at. -/
def appendText (parser : SsmlParser) (fragment : ProviderSpeechFragment) : SsmlParser :=
  (parser.mapOffset fragment.originalOffset).append (escapedXml fragment.text)

/-- What stands before the text in a bookmark. -/
def bookmarkStart (fragment : ProviderSpeechFragment) : List UInt16 :=
  units "<bookmark mark='OFFSET_" ++ decimal fragment.originalOffset.toNat ++ units "_"

def bookmark (parser : SsmlParser) (fragment : ProviderSpeechFragment) : SsmlParser :=
  ((parser.append (bookmarkStart fragment)).appendText fragment).append (units "'/>")

def noteText (parser : SsmlParser) (fragment : ProviderSpeechFragment) : SsmlParser :=
  if fragment.text ≠ [] then { parser with hasSpeakableText := true } else parser

/-- The open prosody is closed when the fragment has none or another one. -/
def closeProsody (parser : SsmlParser) (fragment : ProviderSpeechFragment) : SsmlParser :=
  if parser.isProsodyOpen &&
      (!fragment.hasProsody || fragment.pitch != parser.currentPitch ||
        fragment.volume != parser.currentVolume || fragment.rate != parser.currentRate) then
    { parser.append (units "</prosody>") with isProsodyOpen := false }
  else parser

/-- A space goes between two graphemes that need one. -/
def separate (needAddingSpace : List UInt16 → List UInt16 → Bool) (parser : SsmlParser)
    (fragment : ProviderSpeechFragment) : SsmlParser :=
  if fragment.text ≠ [] ∧ parser.lastGrapheme ≠ [] ∧
      needAddingSpace parser.lastGrapheme (firstGrapheme fragment.text) = true then
    parser.append (units " ")
  else parser

/-- The values that go to the attributes of a prosody, in their order. -/
def prosodyValues (fragment : ProviderSpeechFragment) : List (String × Float32) :=
  (if fragment.pitch != 0 then [("pitch", fragment.pitch * 5)] else []) ++
    (if fragment.volume != 100 then [("volume", fragment.volume - 100)] else []) ++
      if fragment.rate != 0 then
        [("rate", if 0 ≤ fragment.rate then fragment.rate * 20 else fragment.rate * 20 / 3)]
      else []

def prosodyAttribute (value : String × Float32) : List UInt16 :=
  units " " ++ units value.1 ++ units "='" ++ formatProsodyValue value.2 ++ units "'"

def openProsody (parser : SsmlParser) (fragment : ProviderSpeechFragment) : SsmlParser :=
  if fragment.hasProsody && !parser.isProsodyOpen then
    { parser.append (units "<prosody" ++ (prosodyValues fragment).flatMap prosodyAttribute ++
        units ">") with
      isProsodyOpen := true
      currentPitch := fragment.pitch
      currentVolume := fragment.volume
      currentRate := fragment.rate }
  else parser

def updateLastGrapheme (parser : SsmlParser) (fragment : ProviderSpeechFragment) : SsmlParser :=
  if fragment.text ≠ [] then
    { parser with lastGrapheme := ModernSapi.lastGrapheme fragment.text }
  else parser

/-- What a speakable fragment does before its text. -/
def beforeText (needAddingSpace : List UInt16 → List UInt16 → Bool) (parser : SsmlParser)
    (fragment : ProviderSpeechFragment) : SsmlParser :=
  ((((parser.noteText fragment).closeProsody fragment).separate needAddingSpace fragment)
    |>.openProsody fragment)

def speak (needAddingSpace : List UInt16 → List UInt16 → Bool) (parser : SsmlParser)
    (fragment : ProviderSpeechFragment) : SsmlParser :=
  ((parser.beforeText needAddingSpace fragment).appendText fragment).updateLastGrapheme fragment

/-- One round of the loop. -/
def parseFragment (needAddingSpace : List UInt16 → List UInt16 → Bool) (parser : SsmlParser)
    (fragment : ProviderSpeechFragment) : SsmlParser :=
  if fragment.isBookmark then parser.bookmark fragment
  else if fragment.isSpeakable then parser.speak needAddingSpace fragment
  else parser

/-- The root tag up to the name of the locale. -/
def rootTag : List UInt16 :=
  units "<speak version='1.0' xmlns='http://www.w3.org/2001/10/synthesis' " ++
    units "xmlns:mstts='http://www.w3.org/2001/mstts' xml:lang='"

def start (localeName : List UInt16) : SsmlParser :=
  { ssmlString := rootTag ++ localeName ++ units "'>" }

def finish (parser : SsmlParser) : SsmlParser :=
  (if parser.isProsodyOpen then parser.append (units "</prosody>") else parser).append
    (units "</speak>")

/-- The state after the loop. -/
def parseAll (needAddingSpace : List UInt16 → List UInt16 → Bool) (localeName : List UInt16)
    (fragments : List ProviderSpeechFragment) : SsmlParser :=
  fragments.foldl (parseFragment needAddingSpace) (start localeName)

end SsmlParser

structure SsmlParseResult where
  ssmlString : List UInt16
  offsetMap : List (UInt32 × UInt32)
  hasSpeakableText : Bool
  deriving DecidableEq, Repr

/-- `SapiSsmlParser::Parse`. -/
def parse (needAddingSpace : List UInt16 → List UInt16 → Bool) (localeName : List UInt16)
    (fragments : List ProviderSpeechFragment) : SsmlParseResult :=
  let parser := (SsmlParser.parseAll needAddingSpace localeName fragments).finish
  ⟨parser.ssmlString, parser.offsetMap, parser.hasSpeakableText⟩

/-- One fragment after another, each with a prosody of its own. -/
example :
    ((parse (fun _ _ => true) (units "en-US")
      [{ text := units "Fast", rate := 5 }, { text := units "Slow", rate := -5 },
        { text := units "bmk1", action := ProviderAction.bookmark, originalOffset := 4 },
        { text := units "Loud", volume := 50 }]).ssmlString.drop 125) =
      units "<prosody rate='+100%'>Fast</prosody> <prosody rate='-33%'>Slow" ++
        units "<bookmark mark='OFFSET_4_bmk1'/></prosody> <prosody volume='-50%'>Loud" ++
        units "</prosody></speak>" := by
  decide +kernel

end ModernSapi
