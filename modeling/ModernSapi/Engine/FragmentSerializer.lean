import ModernSapi.Engine.StringUtils

/-!
# What the engine sends of a text

SAPI hands `Speak` a list of fragments, each with the state it is to be spoken in.
`Serialize` makes one JSON value of each. A fragment the protocol has no form for becomes
`null`, and so does a bookmark without a name.
-/

set_option autoImplicit false

namespace ModernSapi

open Unicode

/-- `SPVACTIONS`. -/
inductive SpvAction where
  | speak
  | silence
  | pronounce
  | bookmark
  | spellOut
  | sectionStart
  | parseUnknownTag
  | other (value : ℕ)
  deriving DecidableEq, Repr

/-- What the engine reads of `SPVSTATE`. -/
structure SpvState where
  eAction : SpvAction
  volume : ℕ := 100
  middleAdj : ℤ := 0
  rateAdj : ℤ := 0
  silenceMSecs : ℕ := 0
  deriving DecidableEq, Repr

/-- What the engine reads of `SPVTEXTFRAG`. The text is what `pTextStart` points at, and
is none when it is null. -/
structure SpvTextFrag where
  state : SpvState
  text : Option (List UInt16) := none
  ulTextSrcOffset : ℕ := 0
  deriving DecidableEq

namespace SapiFragmentSerializer

def fragmentUtf8Text (fragment : SpvTextFrag) : String :=
  match fragment.text with
  | none => ""
  | some text => if text.length = 0 then "" else StringUtils.wideToUtf8 (some text)

/-- The members every spoken fragment has. -/
def tuning (state : SpvState) : List (String × Json) :=
  [("pitch", .numberInteger state.middleAdj), ("rate", .numberInteger state.rateAdj)]

/-- The value made of one fragment. The members of an object are in the order of their
keys. -/
def serializeFragment (fragment : SpvTextFrag) : Json :=
  let text := fragmentUtf8Text fragment
  let volume : String × Json := ("volume", .numberUnsigned fragment.state.volume)
  match fragment.state.eAction with
  | .bookmark => if text.isEmpty then .null else .object [("bookmark", .string text)]
  | .silence => .object [("silence_ms", .numberUnsigned fragment.state.silenceMSecs)]
  | .speak | .pronounce | .spellOut | .sectionStart | .parseUnknownTag =>
      if text.isEmpty then .object (tuning fragment.state ++ [volume])
      else
        .object (tuning fragment.state ++
          [("source_offset", .numberUnsigned fragment.ulTextSrcOffset), ("text", .string text),
            volume])
  | .other _ => .null

def serialize (fragments : List SpvTextFrag) : List Json := fragments.map serializeFragment

end SapiFragmentSerializer

/-- The `sapi_speak` command of `Speak`. -/
def speakRequest (voiceId : List UInt16) (speakId : ℕ) (fragments : List SpvTextFrag) : Json :=
  let utf8VoiceId := StringUtils.wideToUtf8 (some voiceId)
  .object ([("command", .string "sapi_speak"),
    ("fragments", .array (SapiFragmentSerializer.serialize fragments)),
    ("speak_id", .numberUnsigned speakId)] ++
    if utf8VoiceId.isEmpty then [] else [("voice_id", .string utf8VoiceId)])

/-- The actions whose text is spoken. -/
def SpvAction.isSpoken : SpvAction → Bool
  | .speak | .pronounce | .spellOut | .sectionStart | .parseUnknownTag => true
  | .silence | .bookmark | .other _ => false

/-- The protocol has a form for the fragment. -/
def SpvTextFrag.IsExpressible (fragment : SpvTextFrag) : Prop :=
  match fragment.state.eAction with
  | .bookmark => SapiFragmentSerializer.fragmentUtf8Text fragment ≠ ""
  | .other _ => False
  | _ => True

instance : DecidablePred SpvTextFrag.IsExpressible := by
  intro fragment
  unfold SpvTextFrag.IsExpressible
  split <;> infer_instance

namespace SapiFragmentSerializer

variable {fragment : SpvTextFrag} {text : List UInt16}

theorem fragmentUtf8Text_eq (here : fragment.text = some text)
    (convertible : StringUtils.Convertible text) :
    fragmentUtf8Text fragment = String.ofList (decode text) := by
  rw [fragmentUtf8Text, here]
  by_cases empty : text.length = 0
  · rw [List.eq_nil_of_length_eq_zero empty]
    rfl
  · exact (if_neg empty).trans (StringUtils.wideToUtf8_eq convertible)

/-- A fragment becomes `null` exactly when the protocol has no form for it. -/
theorem serializeFragment_eq_null : serializeFragment fragment = .null ↔ ¬fragment.IsExpressible := by
  unfold serializeFragment SpvTextFrag.IsExpressible
  cases fragment.state.eAction with
  | bookmark => simp
  | other => simp
  | silence => simp
  | speak | pronounce | spellOut | sectionStart | parseUnknownTag =>
      simp only [not_true_eq_false, iff_false]
      split <;> simp

end SapiFragmentSerializer

end ModernSapi
