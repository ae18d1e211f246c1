import ModernSapi.Protocol.JsonValue

/-!
# Control records

A record of the control pipe is read into a `ProviderControlEvent`. Reading never
fails: a field that is missing or out of range leaves its default, and the two
`hasValid` flags say whether the fields the event type needs were all read.

* `parseControlEvent_offsets`: a boundary event with valid offsets comes from a
  record whose offset fields are all in-range integers.
* `parseControlEvent_terminalBytes`: the same for the byte count of a terminal
  event.
-/

set_option autoImplicit false

namespace ModernSapi

inductive ProviderEventType where
  | wordBoundary
  | sentenceBoundary
  | bookmark
  | synthesisComplete
  | synthesisCancelled
  | log
  | legacyCompleted
  | unknown
  deriving DecidableEq, Repr

structure SpeechEventOffsets where
  audioOffsetMs : Nat := 0
  textOffset : Nat := 0
  textLength : Nat := 0
  deriving DecidableEq, Repr

structure ProviderControlEvent where
  type : ProviderEventType := .unknown
  speakId : Nat := 0
  speechOffsets : SpeechEventOffsets := {}
  terminalAudioBytes : Nat := 0
  hasValidSpeechOffsets : Bool := false
  hasValidTerminalBytes : Bool := false
  rawEventName : String := ""
  logSeverity : String := ""
  logMessage : String := ""
  bookmarkName : String := ""
  logFriendlyText : String := ""
  deriving DecidableEq, Repr

namespace ProviderEventType

/-- The three events SAPI is told about. -/
def isSpeechBoundary (type : ProviderEventType) : Bool :=
  type == .wordBoundary || type == .sentenceBoundary || type == .bookmark

/-- The two events that end what the provider sends for a request. -/
def isTerminal (type : ProviderEventType) : Bool :=
  type == .synthesisComplete || type == .synthesisCancelled

end ProviderEventType

def ProviderControlEvent.isSpeechBoundary (event : ProviderControlEvent) : Bool :=
  event.type.isSpeechBoundary

def ProviderControlEvent.isTerminal (event : ProviderControlEvent) : Bool :=
  event.type.isTerminal

/-! ## Reading a record -/

def parseProviderEventType (name : String) : ProviderEventType :=
  if name = "word_boundary" then .wordBoundary
  else if name = "sentence_boundary" then .sentenceBoundary
  else if name = "bookmark_reached" then .bookmark
  else if name = "synthesis_complete" then .synthesisComplete
  else if name = "synthesis_cancelled" then .synthesisCancelled
  else if name = "log" then .log
  else if name = "completed" then .legacyCompleted
  else .unknown

/-- An unsigned integer member of an object. -/
def Json.unsignedMember? (json : Json) (width : UIntWidth) (key : String) : Option Nat :=
  (json.member? key).bind (tryGetJsonUnsignedInteger width)

/-- Read the offsets of a boundary event. The fields read before one that is
refused are kept, as the source's out-parameter keeps them. -/
def tryParseSpeechOffsets (json : Json) (type : ProviderEventType)
    (offsets : SpeechEventOffsets) : Bool × SpeechEventOffsets :=
  match json.unsignedMember? .uint32 "audio_offset_ms" with
  | none => (false, offsets)
  | some audioOffsetMs =>
      let offsets := { offsets with audioOffsetMs }
      if type = .bookmark then (true, offsets)
      else
        match json.unsignedMember? .uint32 "text_offset" with
        | none => (false, offsets)
        | some textOffset =>
            let offsets := { offsets with textOffset }
            match json.unsignedMember? .uint32 "text_length" with
            | none => (false, offsets)
            | some textLength => (true, { offsets with textLength })

/-- The byte count field of a terminal event. -/
def terminalBytesField : ProviderEventType → Option String
  | .synthesisComplete => some "total_audio_bytes"
  | .synthesisCancelled => some "audio_bytes_written"
  | _ => none

/-- Read the byte count of a terminal event, which is zero when it is refused. -/
def tryParseTerminalBytes (json : Json) (type : ProviderEventType) : Bool × Nat :=
  match (terminalBytesField type).bind (json.unsignedMember? .uint64) with
  | none => (false, 0)
  | some bytes => (true, bytes)

/-- The fields every event type has. -/
def parseEventHeader (json : Json) : ProviderControlEvent :=
  let rawEventName := (json.stringMember? "event").getD ""
  { type := if (json.stringMember? "event").isSome then parseProviderEventType rawEventName
      else .unknown
    speakId := (json.unsignedMember? .uint64 "speak_id").getD 0
    rawEventName }

/-- The fields one event type has beyond the header. -/
def parseEventPayload (json : Json) (event : ProviderControlEvent) : ProviderControlEvent :=
  if event.isSpeechBoundary then
    let parsed := tryParseSpeechOffsets json event.type event.speechOffsets
    { event with
      hasValidSpeechOffsets := parsed.1
      speechOffsets := parsed.2
      bookmarkName :=
        if event.type = .bookmark then (json.stringMember? "bookmark_name").getD "" else "" }
  else if event.isTerminal then
    let parsed := tryParseTerminalBytes json event.type
    { event with hasValidTerminalBytes := parsed.1, terminalAudioBytes := parsed.2 }
  else if event.type = .log then
    { event with
      logSeverity := (json.stringMember? "severity").getD ""
      logMessage := (json.stringMember? "message").getD ""
      logFriendlyText := (json.stringMember? "friendly_text").getD "" }
  else event

/-- Read a control record. A value that is not an object has no member, so it
reads as the event with every default. -/
def parseControlEvent (json : Json) : ProviderControlEvent :=
  parseEventPayload json (parseEventHeader json)

/-! ## What a valid event says about its record -/

/-- The offset fields an event type needs. -/
def requiredOffsetFields : ProviderEventType → List String
  | .wordBoundary | .sentenceBoundary => ["audio_offset_ms", "text_offset", "text_length"]
  | .bookmark => ["audio_offset_ms"]
  | _ => []

/-- The record has the field, as a nonnegative integer of the width. -/
def HasUnsignedField (json : Json) (width : UIntWidth) (key : String) : Prop :=
  ∃ field value, json.member? key = some field ∧ field.number? = some ((value : Nat) : ℚ) ∧
    value ≤ width.maximum

theorem hasUnsignedField_of_read {json : Json} {width : UIntWidth} {key : String} {value : Nat}
    (read : json.unsignedMember? width key = some value) : HasUnsignedField json width key := by
  obtain ⟨field, present, parsed⟩ := Option.bind_eq_some_iff.mp read
  obtain ⟨inRange, carried⟩ := tryGetJsonUnsignedInteger_sound parsed
  exact ⟨field, value, present, carried, inRange⟩

/-- Offsets are read only when every field the event type needs is there. -/
theorem tryParseSpeechOffsets_fields {json : Json} {type : ProviderEventType}
    {offsets : SpeechEventOffsets} (valid : (tryParseSpeechOffsets json type offsets).1 = true) :
    ∀ key ∈ requiredOffsetFields type, HasUnsignedField json .uint32 key := by
  unfold tryParseSpeechOffsets at valid
  cases audio : json.unsignedMember? .uint32 "audio_offset_ms" with
  | none => simp [audio] at valid
  | some audioOffsetMs =>
      have hasAudio := hasUnsignedField_of_read audio
      by_cases isBookmark : type = .bookmark
      · subst isBookmark
        simpa [requiredOffsetFields] using hasAudio
      · cases offset : json.unsignedMember? .uint32 "text_offset" with
        | none => simp [audio, offset, isBookmark] at valid
        | some textOffset =>
            cases length : json.unsignedMember? .uint32 "text_length" with
            | none => simp [audio, offset, length, isBookmark] at valid
            | some textLength =>
                have hasOffset := hasUnsignedField_of_read offset
                have hasLength := hasUnsignedField_of_read length
                intro key member
                cases type <;> simp only [requiredOffsetFields, List.mem_cons, List.not_mem_nil,
                  or_false] at member
                all_goals
                  try rcases member with rfl | rfl | rfl
                all_goals assumption

@[simp] theorem parseControlEvent_type (json : Json) :
    (parseControlEvent json).type = (parseEventHeader json).type := by
  unfold parseControlEvent parseEventPayload
  split
  · rfl
  · split
    · rfl
    · split <;> rfl

@[simp] theorem parseControlEvent_speakId (json : Json) :
    (parseControlEvent json).speakId = (json.unsignedMember? .uint64 "speak_id").getD 0 := by
  unfold parseControlEvent parseEventPayload
  split
  · rfl
  · split
    · rfl
    · split <;> rfl

/-- **A boundary event with valid offsets comes from a record whose required
offsets are all in-range nonnegative integers.** -/
theorem parseControlEvent_offsets {json : Json}
    (boundary : (parseControlEvent json).isSpeechBoundary = true)
    (valid : (parseControlEvent json).hasValidSpeechOffsets = true) :
    ∀ key ∈ requiredOffsetFields (parseControlEvent json).type,
      HasUnsignedField json .uint32 key := by
  have headerBoundary : (parseEventHeader json).isSpeechBoundary = true := by
    simpa [ProviderControlEvent.isSpeechBoundary] using boundary
  simp only [parseControlEvent, parseEventPayload, headerBoundary, if_true] at valid
  simpa using tryParseSpeechOffsets_fields valid

/-- **A terminal event with valid bytes comes from a record whose byte count is
an in-range nonnegative integer.** -/
theorem parseControlEvent_terminalBytes {json : Json}
    (valid : (parseControlEvent json).hasValidTerminalBytes = true) :
    ∃ key, terminalBytesField (parseControlEvent json).type = some key ∧
      HasUnsignedField json .uint64 key := by
  have header : (parseEventHeader json).hasValidTerminalBytes = false := rfl
  unfold parseControlEvent parseEventPayload at valid
  split at valid
  · simp [header] at valid
  · split at valid
    · rw [parseControlEvent_type]
      unfold tryParseTerminalBytes at valid
      cases field : terminalBytesField (parseEventHeader json).type with
      | none => simp [field] at valid
      | some key =>
          cases bytes : json.unsignedMember? .uint64 key with
          | none => simp [field, bytes] at valid
          | some value => exact ⟨key, rfl, hasUnsignedField_of_read bytes⟩
    · split at valid <;> simp [header] at valid

end ModernSapi
