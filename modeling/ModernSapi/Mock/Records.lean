import ModernSapi.Mock.Transcript
import ModernSapi.Session.CompliantProvider

/-!
# What the engine reads of the mock provider's records

Within the bounds of the numbers they carry, the records of a transcript and the late
records are read as they were meant. `transcript_records` says which records a transcript
has.
-/

set_option autoImplicit false

namespace ModernSapi

/-! ## The parts of a transcript -/

section Transcript

variable {message : String} {wave : List UInt8} {speakId spoken : ℕ} {items : List SpeechItem}
  {json : Json}

/-- The records a transcript has when no fragment is refused. -/
inductive SpeechRecord (wave : List UInt8) (speakId : ℕ) (items : List SpeechItem) (words : ℕ)
    (json : Json) : Prop where
  | word {charOffset : UInt32} {word : List UInt16} {spoken : ℕ}
      (item : .word charOffset word ∈ items) (before : spoken ≤ words)
      (same : json = wordBoundaryRecord speakId charOffset word (.ofNat (200 * spoken)))
  | bookmark {name : List UInt16} {spoken : ℕ} (item : .bookmark name ∈ items)
      (before : spoken ≤ words)
      (same : json = bookmarkReachedRecord speakId name (.ofNat (200 * spoken)))
  | complete {spoken : ℕ} (before : spoken ≤ words)
      (same : json = synthesisCompleteRecord speakId (spoken * wave.length))

theorem SpeechRecord.cons {item : SpeechItem} {words more : ℕ}
    (record : SpeechRecord wave speakId items words json) (later : words ≤ more) :
    SpeechRecord wave speakId (item :: items) more json := by
  cases record with
  | word member before same => exact .word (List.mem_cons_of_mem _ member) (before.trans later) same
  | bookmark member before same =>
      exact .bookmark (List.mem_cons_of_mem _ member) (before.trans later) same
  | complete before same => exact .complete (before.trans later) same

theorem transcript_records (readable : .refused ∉ items)
    (member : .record json ∈ transcript message wave speakId spoken items) :
    SpeechRecord wave speakId items (spoken + items.length) json := by
  have notAudio (bytes : List UInt8) : .record json ∉ audioOutputs bytes := by
    intro member
    obtain ⟨_, -, other⟩ := List.mem_map.mp member
    cases other
  induction items generalizing spoken with
  | nil =>
      rcases List.mem_cons.mp member with same | audio
      · exact .complete (Nat.le_refl _) (Output.record.inj same)
      · exact absurd audio (notAudio _)
  | cons item items ih =>
      have rest : .refused ∉ items := mt (List.mem_cons_of_mem item) readable
      cases item with
      | stall => cases member
      | refused => exact absurd List.mem_cons_self readable
      | bookmark name =>
          rcases List.mem_cons.mp member with same | later
          · exact .bookmark List.mem_cons_self (Nat.le_add_right ..) (Output.record.inj same)
          · refine (ih rest later).cons ?_
            rw [List.length_cons]
            omega
      | word charOffset word =>
          rcases List.mem_cons.mp member with same | later
          · exact .word List.mem_cons_self (Nat.le_add_right ..) (Output.record.inj same)
          · rcases List.mem_append.mp later with audio | later
            · split at audio
              · exact absurd audio (notAudio _)
              · cases audio
            · refine (ih rest later).cons ?_
              rw [List.length_cons]
              omega

/-- The completion of a transcript declares the sound of every word. -/
theorem transcript_complete {bytes : ℕ}
    (member : .record (synthesisCompleteRecord speakId bytes) ∈
      transcript message wave speakId spoken items) :
    bytes = (spoken + spokenWords items) * wave.length := by
  have notAudio (bytes : ℕ) (audio : List UInt8) :
      .record (synthesisCompleteRecord speakId bytes) ∉ audioOutputs audio := by
    intro member
    obtain ⟨_, -, other⟩ := List.mem_map.mp member
    cases other
  induction items generalizing spoken with
  | nil =>
      rcases List.mem_cons.mp member with same | audio
      · simpa [synthesisCompleteRecord, mockRecord, spokenWords] using same
      · exact absurd audio (notAudio _ _)
  | cons item items ih =>
      cases item with
      | stall => cases member
      | refused =>
          rcases List.mem_cons.mp member with same | other
          · simp [synthesisCompleteRecord, errorLogRecord, mockRecord] at same
          · cases other
      | bookmark name =>
          rcases List.mem_cons.mp member with same | later
          · simp [synthesisCompleteRecord, bookmarkReachedRecord, mockRecord] at same
          · exact ih later
      | word charOffset word =>
          rcases List.mem_cons.mp member with same | later
          · simp [synthesisCompleteRecord, wordBoundaryRecord, mockRecord] at same
          · rcases List.mem_append.mp later with audio | later
            · split at audio
              · exact absurd audio (notAudio _ _)
              · cases audio
            · rw [ih later, spokenWords, Nat.add_assoc, Nat.add_comm 1]

theorem soundOf_succ (wave : List UInt8) (words : ℕ) :
    soundOf wave (words + 1) = wave ++ soundOf wave words := by
  rw [soundOf, List.replicate_succ, List.flatten_cons, soundOf]

@[simp] theorem soundOf_length (wave : List UInt8) (words : ℕ) :
    (soundOf wave words).length = words * wave.length := by
  simp [soundOf, List.length_flatten]

theorem spokenWords_le (items : List SpeechItem) : spokenWords items ≤ items.length := by
  induction items with
  | nil => exact Nat.le_refl _
  | cons item items ih =>
      cases item with
      | word => exact Nat.succ_le_succ ih
      | bookmark | stall | refused => exact Nat.le_succ_of_le ih

/-- Behind the first word a transcript has the sound of the words before it, but the
first, and of its own. -/
theorem transcript_sound_behind (message : String) (wave : List UInt8) (speakId spoken : ℕ)
    (items : List SpeechItem) :
    audioOf (transcript message wave speakId (spoken + 1) items) <+:
      soundOf wave (spoken + spokenWords items) := by
  induction items generalizing spoken with
  | nil =>
      rw [transcript, audioOf_record, audioOf_audioOutputs]
      exact List.prefix_refl _
  | cons item items ih =>
      cases item with
      | stall | refused => exact List.nil_prefix
      | bookmark name => exact ih spoken
      | word charOffset word =>
          have same : spoken + 1 + spokenWords items = spoken + (spokenWords items + 1) := by omega
          exact same ▸ ih (spoken + 1)

/-- **The sound of a transcript is a first part of the sound of its words.** -/
theorem transcript_sound (message : String) (wave : List UInt8) (speakId : ℕ)
    (items : List SpeechItem) :
    audioOf (transcript message wave speakId 0 items) <+: soundOf wave (spokenWords items) := by
  induction items with
  | nil => exact List.nil_prefix
  | cons item items ih =>
      cases item with
      | stall | refused => exact List.nil_prefix
      | bookmark name => exact ih
      | word charOffset word =>
          have behind := transcript_sound_behind message wave speakId 0 items
          rw [Nat.zero_add (spokenWords items)] at behind
          rw [spokenWords, soundOf_succ, transcript, List.cons_append, audioOf_record, audioOf_append,
            if_pos rfl, audioOf_audioOutputs]
          exact (List.prefix_append_right_inj wave).mpr behind

end Transcript

/-! ## Reading the records -/

section Reading

variable {speakId : ℕ}

/-- A number in range is read as it is. -/
theorem tryGet_numberUnsigned {width : UIntWidth} {number : ℕ} (fits : number ≤ width.maximum) :
    tryGetJsonUnsignedInteger width (.numberUnsigned number) = some number :=
  if_neg (not_lt.mpr fits)

theorem le_uint64 {number : ℕ} (bounded : number < 2 ^ 64) : number ≤ UIntWidth.uint64.maximum :=
  Nat.le_sub_one_of_lt bounded

theorem le_uint32 {number : ℕ} (bounded : number < 2 ^ 32) : number ≤ UIntWidth.uint32.maximum :=
  Nat.le_sub_one_of_lt bounded

/-- A time within an `int` is written as a nonnegative number. -/
theorem jsonInt_ofNat {ms : ℕ} (fits : ms < 2 ^ 31) : jsonInt (.ofNat ms) = .numberUnsigned ms := by
  have value : (Int32.ofNat ms).toInt = ms := Int32.toInt_ofNat_of_lt fits
  have nonnegative : ¬Int32.ofNat ms < 0 := by
    rw [Int32.lt_iff_toInt_lt, value]
    exact not_lt.mpr (Int.natCast_nonneg ms)
  rw [jsonInt, if_neg nonnegative, value, Int.toNat_natCast]

variable {charOffset : UInt32} {word name : List UInt16} {ms bytes : ℕ}

/-- A record names its event and its request. -/
theorem read_header (bounded : speakId < 2 ^ 64) (event : String) (members : List (String × Json)) :
    parseEventHeader (mockRecord speakId event members) =
      { type := parseProviderEventType event, speakId, rawEventName := event } := by
  simp [parseEventHeader, mockRecord, Json.stringMember?, Json.unsignedMember?, Json.member?,
    List.lookup, tryGet_numberUnsigned (le_uint64 bounded)]

theorem read_wordBoundary (bounded : speakId < 2 ^ 64) (short : word.length < 2 ^ 31)
    (fits : ms < 2 ^ 31) :
    parseControlEvent (wordBoundaryRecord speakId charOffset word (.ofNat ms)) =
      { type := .wordBoundary
        speakId
        speechOffsets := ⟨ms, charOffset.toNat, word.length⟩
        hasValidSpeechOffsets := true
        rawEventName := "word_boundary" } := by
  have offset := le_uint32 charOffset.toNat_lt
  have length := le_uint32 (short.trans (by decide))
  have time := le_uint32 (fits.trans (by decide))
  rw [parseControlEvent, wordBoundaryRecord, read_header bounded, jsonInt_ofNat fits]
  simp [parseEventPayload, mockRecord, Json.unsignedMember?, Json.member?, List.lookup,
    tryGet_numberUnsigned, offset, length, time, parseProviderEventType,
    ProviderControlEvent.isSpeechBoundary, ProviderEventType.isSpeechBoundary, tryParseSpeechOffsets]

theorem read_bookmarkReached (bounded : speakId < 2 ^ 64) (fits : ms < 2 ^ 31) :
    parseControlEvent (bookmarkReachedRecord speakId name (.ofNat ms)) =
      { type := .bookmark
        speakId
        speechOffsets := ⟨ms, 0, 0⟩
        hasValidSpeechOffsets := true
        rawEventName := "bookmark_reached"
        bookmarkName := String.ofList (Unicode.decode name) } := by
  have time := le_uint32 (fits.trans (by decide))
  rw [parseControlEvent, bookmarkReachedRecord, read_header bounded, jsonInt_ofNat fits]
  simp [parseEventPayload, mockRecord, Json.unsignedMember?, Json.stringMember?, Json.member?,
    List.lookup, tryGet_numberUnsigned, time, parseProviderEventType,
    ProviderControlEvent.isSpeechBoundary, ProviderEventType.isSpeechBoundary, tryParseSpeechOffsets]

theorem read_lateSentenceBoundary (bounded : speakId < 2 ^ 64) :
    parseControlEvent (lateSentenceBoundaryRecord speakId) =
      { type := .sentenceBoundary
        speakId
        speechOffsets := ⟨0, 0, 1⟩
        hasValidSpeechOffsets := true
        rawEventName := "sentence_boundary" } := by
  have one : 1 ≤ UIntWidth.uint32.maximum := le_uint32 (by decide)
  rw [parseControlEvent, lateSentenceBoundaryRecord, read_header bounded]
  simp [parseEventPayload, mockRecord, Json.unsignedMember?, Json.member?, List.lookup,
    tryGet_numberUnsigned, one, parseProviderEventType, ProviderControlEvent.isSpeechBoundary,
    ProviderEventType.isSpeechBoundary, tryParseSpeechOffsets]

/-- What the engine reads of a completion. -/
def completionEvent (speakId bytes : ℕ) : ProviderControlEvent where
  type := .synthesisComplete
  speakId
  terminalAudioBytes := bytes
  hasValidTerminalBytes := true
  rawEventName := "synthesis_complete"

/-- What the engine reads of the acknowledgement of a cancel. -/
def acknowledgementEvent (speakId bytes : ℕ) : ProviderControlEvent where
  type := .synthesisCancelled
  speakId
  terminalAudioBytes := bytes
  hasValidTerminalBytes := true
  rawEventName := "synthesis_cancelled"

/-- A terminal record whose count fits is read as it was meant. -/
theorem read_terminal {json : Json} {type : ProviderEventType} {name field : String}
    (header : parseEventHeader json = { type, speakId, rawEventName := name })
    (here : terminalBytesField type = some field)
    (member : json.member? field = some (.numberUnsigned bytes)) (fits : bytes < 2 ^ 64) :
    parseControlEvent json =
      { type, speakId, terminalAudioBytes := bytes, hasValidTerminalBytes := true,
        rawEventName := name } := by
  have read : json.unsignedMember? .uint64 field = some bytes := by
    rw [Json.unsignedMember?, member]
    exact tryGet_numberUnsigned (le_uint64 fits)
  have parsed : tryParseTerminalBytes json type = (true, bytes) := by
    unfold tryParseTerminalBytes
    rw [here, Option.bind_some, read]
  rw [parseControlEvent, header]
  cases type with
  | synthesisComplete | synthesisCancelled =>
      simp [parseEventPayload, ProviderControlEvent.isSpeechBoundary,
        ProviderEventType.isSpeechBoundary, ProviderControlEvent.isTerminal,
        ProviderEventType.isTerminal, parsed]
  | _ => cases here

theorem read_synthesisComplete (bounded : speakId < 2 ^ 64) (fits : bytes < 2 ^ 64) :
    parseControlEvent (synthesisCompleteRecord speakId bytes) = completionEvent speakId bytes :=
  read_terminal (read_header bounded ..) rfl rfl fits

theorem read_synthesisCancelled (bounded : speakId < 2 ^ 64) (fits : bytes < 2 ^ 64) :
    parseControlEvent (synthesisCancelledRecord speakId bytes) =
      acknowledgementEvent speakId bytes :=
  read_terminal (read_header bounded ..) rfl rfl fits

/-- The bounds of the numbers a request sends. -/
structure WithinBounds (wave : List UInt8) (items : List SpeechItem) (speakId : ℕ) : Prop where
  bounded : speakId < 2 ^ 64
  positive : speakId ≠ 0
  readable : .refused ∉ items
  duration : 200 * items.length < 2 ^ 31
  lengths : ∀ charOffset word, .word charOffset word ∈ items → word.length < 2 ^ 31
  bytes : items.length * wave.length < 2 ^ 64
  sounds : wave ≠ []
  frames : 2 ∣ wave.length

variable {wave : List UInt8} {items : List SpeechItem} {json : Json}

/-- A record of a transcript is a well-formed one of its request, and neither an error nor
the acknowledgement of a cancel. -/
theorem SpeechRecord.read (record : SpeechRecord wave speakId items items.length json)
    (bounds : WithinBounds wave items speakId) :
    (parseControlEvent json).speakId = speakId ∧ (parseControlEvent json).type ≠ .log ∧
      (parseControlEvent json).type ≠ .synthesisCancelled ∧
      WellFormedRecord 2 (parseControlEvent json) := by
  have duration := bounds.duration
  cases record with
  | @word charOffset word spoken item before same =>
      have fits : 200 * spoken < 2 ^ 31 := by omega
      rw [same, read_wordBoundary bounds.bounded (bounds.lengths _ _ item) fits]
      simp [WellFormedRecord, bounds.positive, ProviderControlEvent.isTerminal,
        ProviderEventType.isTerminal]
  | @bookmark name spoken item before same =>
      have fits : 200 * spoken < 2 ^ 31 := by omega
      rw [same, read_bookmarkReached bounds.bounded fits]
      simp [WellFormedRecord, bounds.positive, ProviderControlEvent.isTerminal,
        ProviderEventType.isTerminal]
  | @complete spoken before same =>
      have fits : spoken * wave.length < 2 ^ 64 :=
        (Nat.mul_le_mul_right _ before).trans_lt bounds.bytes
      rw [same, read_synthesisComplete bounds.bounded fits]
      have frames : 2 ∣ spoken * wave.length := Dvd.dvd.mul_left bounds.frames spoken
      simp [WellFormedRecord, completionEvent, bounds.positive, frames,
        ProviderControlEvent.isSpeechBoundary, ProviderEventType.isSpeechBoundary]

/-- The completion of a transcript declares a count that fits. -/
theorem SpeechRecord.complete_lt {bytes : ℕ}
    (record : SpeechRecord wave speakId items items.length (synthesisCompleteRecord speakId bytes))
    (bounds : WithinBounds wave items speakId) : bytes < 2 ^ 64 := by
  cases record with
  | word _ _ same => simp [synthesisCompleteRecord, wordBoundaryRecord, mockRecord] at same
  | bookmark _ _ same => simp [synthesisCompleteRecord, bookmarkReachedRecord, mockRecord] at same
  | @complete spoken before same =>
      simp only [synthesisCompleteRecord, mockRecord, Json.object.injEq, List.cons.injEq,
        Prod.mk.injEq, Json.numberUnsigned.injEq, true_and, and_true] at same
      rw [same]
      exact (Nat.mul_le_mul_right _ before).trans_lt bounds.bytes

end Reading

end ModernSapi
