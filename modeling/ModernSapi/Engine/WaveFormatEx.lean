import ModernSapi.Engine.AudioFormat

/-!
# The audio format in machine integers

`WAVEFORMATEX` has fields of 16 and 32 bits, the parser computes with 64, and the offset of
an event is a product of three of them. The functions here are those of `AudioFormatUtils`
in the integer types of the source, where every cast truncates and every product wraps.

Each agrees with the function over the natural numbers, where the format is one that the
parser has taken: `audio_format_exact`. What keeps the offset of an event within 64 bits is
the bound on the byte rate that the parser checks.
-/

set_option autoImplicit false

namespace ModernSapi

/-- `WAVEFORMATEX`, in its own integer types. -/
structure WaveFormatEx where
  wFormatTag : UInt16 := 0
  nChannels : UInt16 := 0
  nSamplesPerSec : UInt32 := 0
  nAvgBytesPerSec : UInt32 := 0
  nBlockAlign : UInt16 := 0
  wBitsPerSample : UInt16 := 0
  cbSize : UInt16 := 0
  deriving DecidableEq, Repr

/-- The format as natural numbers. -/
def WaveFormatEx.toWaveFormat (format : WaveFormatEx) : WaveFormat where
  wFormatTag := format.wFormatTag.toNat
  nChannels := format.nChannels.toNat
  nSamplesPerSec := format.nSamplesPerSec.toNat
  nAvgBytesPerSec := format.nAvgBytesPerSec.toNat
  nBlockAlign := format.nBlockAlign.toNat
  wBitsPerSample := format.wBitsPerSample.toNat
  cbSize := format.cbSize.toNat

namespace AudioFormatUtils

/-- The second half of `TryParseAudioFormatJson`: the checks of the three numbers, and the
assignments to the output with their casts. -/
def assignFormat (sampleRate bitsPerSample channels : UInt64) (format : WaveFormatEx) :
    Bool × WaveFormatEx :=
  let blockAlignment := channels * bitsPerSample / 8
  if blockAlignment = 0 ∨ blockAlignment > 65535 ∨
      channels * bitsPerSample ≠ blockAlignment * 8 ∨
      sampleRate > 4294967295 / blockAlignment then (false, format)
  else
    (true, {
      wFormatTag := 1
      nSamplesPerSec := sampleRate.toUInt32
      wBitsPerSample := bitsPerSample.toUInt16
      nChannels := channels.toUInt16
      nBlockAlign := blockAlignment.toUInt16
      nAvgBytesPerSec := sampleRate.toUInt32 * blockAlignment.toUInt16.toUInt32
      cbSize := 0 })

/-- Whether the JSON describes a format, and the output after the call. -/
def tryParseAudioFormatJson (formatJson : Json) (format : WaveFormatEx) : Bool × WaveFormatEx :=
  if !formatJson.isObject then (false, format)
  else
    match positiveInteger? formatJson "sample_rate" dwordMaximum,
        positiveInteger? formatJson "bits_per_sample" wordMaximum,
        positiveInteger? formatJson "channels" wordMaximum with
    | some sampleRate, some bitsPerSample, some channels =>
        assignFormat (.ofNat sampleRate) (.ofNat bitsPerSample) (.ofNat channels) format
    | _, _, _ => (false, format)

def waveFormatExToJson (format : WaveFormatEx) : Json :=
  .object [("type", .string "raw"), ("container", .string "raw"), ("encoding", .string "pcm"),
    ("sample_rate", .numberUnsigned format.nSamplesPerSec.toNat),
    ("bits_per_sample", .numberUnsigned format.wBitsPerSample.toNat),
    ("channels", .numberUnsigned format.nChannels.toNat)]

def audioOffsetMillisecondsToBytes (audioOffsetMs : UInt32) (format : WaveFormatEx) : UInt64 :=
  if format.nSamplesPerSec = 0 ∨ format.nBlockAlign = 0 then 0
  else
    let frames := audioOffsetMs.toUInt64 * format.nSamplesPerSec.toUInt64 / 1000
    frames * format.nBlockAlign.toUInt64

end AudioFormatUtils

/-! ## No cast truncates -/

theorem WaveFormatEx.toWaveFormat_injective {format other : WaveFormatEx}
    (same : format.toWaveFormat = other.toWaveFormat) : format = other := by
  obtain ⟨tag, channels, rate, bytes, align, bits, size⟩ := format
  obtain ⟨tag', channels', rate', bytes', align', bits', size'⟩ := other
  simp only [WaveFormatEx.toWaveFormat, WaveFormat.mk.injEq, UInt16.toNat_inj,
    UInt32.toNat_inj] at same
  obtain ⟨rfl, rfl, rfl, rfl, rfl, rfl, rfl⟩ := same
  rfl

section Parsing

open AudioFormatUtils

variable {formatJson : Json} {format : WaveFormatEx} {sampleRate bitsPerSample channels : ℕ}

/-- The output and the verdict for a format of natural numbers, if there is one. -/
inductive Assigned (format : WaveFormatEx) : Option WaveFormat → Bool × WaveFormatEx → Prop where
  | rejected : Assigned format none (false, format)
  | accepted {taken : WaveFormatEx} {plain : WaveFormat} (same : taken.toWaveFormat = plain) :
      Assigned format (some plain) (true, taken)

/-- The 64-bit product of two 16-bit numbers is exact, and no cast truncates what has passed
the checks. -/
theorem assignFormat_exact (rate : sampleRate ≤ dwordMaximum)
    (bits : bitsPerSample ≤ wordMaximum) (channel : channels ≤ wordMaximum) :
    Assigned format (pcmFormat sampleRate bitsPerSample channels)
      (assignFormat (.ofNat sampleRate) (.ofNat bitsPerSample) (.ofNat channels) format) := by
  rw [dwordMaximum] at rate
  rw [wordMaximum] at bits channel
  have small : channels * bitsPerSample ≤ (2 ^ 16 - 1) * (2 ^ 16 - 1) := Nat.mul_le_mul channel bits
  have rateNat : (UInt64.ofNat sampleRate).toNat = sampleRate :=
    UInt64.toNat_ofNat_of_lt' (by rw [UInt64.size]; omega)
  have bitsNat : (UInt64.ofNat bitsPerSample).toNat = bitsPerSample :=
    UInt64.toNat_ofNat_of_lt' (by rw [UInt64.size]; omega)
  have channelsNat : (UInt64.ofNat channels).toNat = channels :=
    UInt64.toNat_ofNat_of_lt' (by rw [UInt64.size]; omega)
  have product : (UInt64.ofNat channels * UInt64.ofNat bitsPerSample).toNat =
      channels * bitsPerSample := by
    rw [UInt64.toNat_mul, channelsNat, bitsNat]
    exact Nat.mod_eq_of_lt (by omega)
  have align : (UInt64.ofNat channels * UInt64.ofNat bitsPerSample / 8).toNat =
      channels * bitsPerSample / 8 := by
    rw [UInt64.toNat_div, product]
    rfl
  have wide : (UInt64.ofNat channels * UInt64.ofNat bitsPerSample / 8 * 8).toNat =
      channels * bitsPerSample / 8 * 8 := by
    rw [UInt64.toNat_mul, align]
    exact Nat.mod_eq_of_lt (by simp only [UInt64.reduceToNat]; omega)
  have limit : (4294967295 / (UInt64.ofNat channels * UInt64.ofNat bitsPerSample / 8)).toNat =
      dwordMaximum / (channels * bitsPerSample / 8) := by
    rw [UInt64.toNat_div, align]
    rfl
  have checks : (UInt64.ofNat channels * UInt64.ofNat bitsPerSample / 8 = 0 ∨
      UInt64.ofNat channels * UInt64.ofNat bitsPerSample / 8 > 65535 ∨
      UInt64.ofNat channels * UInt64.ofNat bitsPerSample ≠
        UInt64.ofNat channels * UInt64.ofNat bitsPerSample / 8 * 8 ∨
      UInt64.ofNat sampleRate >
        4294967295 / (UInt64.ofNat channels * UInt64.ofNat bitsPerSample / 8)) ↔
      (channels * bitsPerSample / 8 = 0 ∨ channels * bitsPerSample / 8 > wordMaximum ∨
        channels * bitsPerSample ≠ channels * bitsPerSample / 8 * 8 ∨
        sampleRate > dwordMaximum / (channels * bitsPerSample / 8)) := by
    rw [← UInt64.toNat_inj, align, gt_iff_lt, UInt64.lt_iff_toNat_lt, align, ne_eq,
      ← UInt64.toNat_inj, product, wide, gt_iff_lt, UInt64.lt_iff_toNat_lt, limit, rateNat]
    rfl
  unfold pcmFormat assignFormat
  dsimp only
  by_cases refused : channels * bitsPerSample / 8 = 0 ∨
      channels * bitsPerSample / 8 > wordMaximum ∨
      channels * bitsPerSample ≠ channels * bitsPerSample / 8 * 8 ∨
      sampleRate > dwordMaximum / (channels * bitsPerSample / 8)
  · rw [if_pos refused, if_pos (checks.mpr refused)]
    exact .rejected
  · rw [if_neg refused, if_neg (checks.not.mpr refused)]
    push Not at refused
    obtain ⟨-, inRange, -, -⟩ := refused
    rw [wordMaximum] at inRange
    refine .accepted ?_
    have rateFits : sampleRate % 2 ^ 32 = sampleRate := Nat.mod_eq_of_lt (by omega)
    have bitsFit : bitsPerSample % 2 ^ 16 = bitsPerSample := Nat.mod_eq_of_lt (by omega)
    have channelsFit : channels % 2 ^ 16 = channels := Nat.mod_eq_of_lt (by omega)
    have alignFits : channels * bitsPerSample / 8 % 2 ^ 16 = channels * bitsPerSample / 8 :=
      Nat.mod_eq_of_lt (by omega)
    simp only [WaveFormatEx.toWaveFormat, UInt64.toNat_toUInt32, UInt64.toNat_toUInt16,
      UInt32.toNat_mul, UInt16.toNat_toUInt32, rateNat, bitsNat, channelsNat, align, rateFits,
      bitsFit, channelsFit, alignFits]
    rfl

/-- **The parser in machine integers is the parser over the natural numbers**, and leaves the
output as it was when it rejects. -/
theorem tryParseAudioFormatJson_exact (formatJson : Json) (format : WaveFormatEx) :
    Assigned format (ModernSapi.tryParseAudioFormatJson formatJson)
      (AudioFormatUtils.tryParseAudioFormatJson formatJson format) := by
  unfold ModernSapi.tryParseAudioFormatJson AudioFormatUtils.tryParseAudioFormatJson
  split
  · exact .rejected
  · cases rate : positiveInteger? formatJson "sample_rate" dwordMaximum with
    | none => exact .rejected
    | some sampleRate =>
        cases bits : positiveInteger? formatJson "bits_per_sample" wordMaximum with
        | none => exact .rejected
        | some bitsPerSample =>
            cases channel : positiveInteger? formatJson "channels" wordMaximum with
            | none => exact .rejected
            | some channels =>
                exact assignFormat_exact (positiveInteger?_sound rate).2.1
                  (positiveInteger?_sound bits).2.1 (positiveInteger?_sound channel).2.1

/-! ## The round trip -/

theorem positiveInteger?_of_number {name : String} {maximum value : ℕ}
    (found : formatJson.member? name = some (.numberUnsigned value)) (positive : 0 < value)
    (inRange : value ≤ maximum) (fits : maximum ≤ UIntWidth.uint64.maximum) :
    positiveInteger? formatJson name maximum = some value := by
  have read : tryGetJsonUnsignedInteger .uint64 (.numberUnsigned value) = some value :=
    if_neg (Nat.not_lt.mpr (Nat.le_trans inRange fits))
  have accepted : ¬(value = 0 ∨ value > maximum) := by omega
  simp only [positiveInteger?, found, read]
  exact if_neg accepted

/-- The three numbers of a well-formed format give the format. -/
theorem pcmFormat_of_wellFormed {plain : WaveFormat} (wellFormed : plain.WellFormed) :
    pcmFormat plain.nSamplesPerSec plain.wBitsPerSample plain.nChannels = some plain := by
  have align : plain.nChannels * plain.wBitsPerSample / 8 = plain.nBlockAlign := by
    rw [wellFormed.frame]
    exact Nat.mul_div_cancel_left _ (by decide)
  have fits : plain.nSamplesPerSec * plain.nBlockAlign ≤ dwordMaximum := by
    rw [← wellFormed.byteRate]
    exact wellFormed.fits
  have slow : plain.nSamplesPerSec ≤ dwordMaximum / plain.nBlockAlign :=
    (Nat.le_div_iff_mul_le wellFormed.blockAlign.1).mpr fits
  have whole := wellFormed.frame
  have positive := wellFormed.blockAlign
  unfold pcmFormat
  dsimp only
  rw [align, if_neg (by omega)]
  have exact_ : plain.nSamplesPerSec * plain.nBlockAlign % 2 ^ 32 = plain.nAvgBytesPerSec := by
    rw [wellFormed.byteRate]
    apply Nat.mod_eq_of_lt
    rw [dwordMaximum] at fits
    omega
  rw [exact_, ← wellFormed.pcm, ← wellFormed.plain]

/-- **A well-formed format is read back from its JSON.** -/
theorem tryParseAudioFormatJson_waveFormatExToJson
    (wellFormed : format.toWaveFormat.WellFormed) (output : WaveFormatEx) :
    AudioFormatUtils.tryParseAudioFormatJson (waveFormatExToJson format) output =
      (true, format) := by
  have parsed : ModernSapi.tryParseAudioFormatJson (waveFormatExToJson format) =
      some format.toWaveFormat := by
    have rate : positiveInteger? (waveFormatExToJson format) "sample_rate" dwordMaximum =
        some format.toWaveFormat.nSamplesPerSec :=
      positiveInteger?_of_number rfl wellFormed.sampleRate.1 wellFormed.sampleRate.2 (by decide)
    have bits : positiveInteger? (waveFormatExToJson format) "bits_per_sample" wordMaximum =
        some format.toWaveFormat.wBitsPerSample :=
      positiveInteger?_of_number rfl wellFormed.bitsPerSample.1 wellFormed.bitsPerSample.2
        (by decide)
    have channel : positiveInteger? (waveFormatExToJson format) "channels" wordMaximum =
        some format.toWaveFormat.nChannels :=
      positiveInteger?_of_number rfl wellFormed.channels.1 wellFormed.channels.2 (by decide)
    simp only [ModernSapi.tryParseAudioFormatJson, rate, bits, channel,
      pcmFormat_of_wellFormed wellFormed]
    rfl
  have agrees := tryParseAudioFormatJson_exact (waveFormatExToJson format) output
  rw [parsed] at agrees
  generalize AudioFormatUtils.tryParseAudioFormatJson (waveFormatExToJson format) output =
    result at agrees ⊢
  cases agrees with
  | accepted same => rw [WaveFormatEx.toWaveFormat_injective same]

end Parsing

/-! ## The offset of an event -/

/-- The bytes before an offset, as a mathematical integer. -/
def WaveFormatEx.bytesBefore (format : WaveFormatEx) (audioOffsetMs : ℕ) : ℕ :=
  audioOffsetMs * format.nSamplesPerSec.toNat / 1000 * format.nBlockAlign.toNat

theorem WaveFormatEx.bytesBefore_mono (format : WaveFormatEx) {earlier later : ℕ}
    (before : earlier ≤ later) : format.bytesBefore earlier ≤ format.bytesBefore later := by
  apply Nat.mul_le_mul_right
  apply Nat.div_le_div_right
  exact Nat.mul_le_mul_right _ before

section Offset

variable {format : WaveFormatEx}

/-- The byte rate that fits 32 bits keeps the offset within 64. -/
theorem WaveFormatEx.bytesBefore_lt (wellFormed : format.toWaveFormat.WellFormed)
    (audioOffsetMs : UInt32) : format.bytesBefore audioOffsetMs.toNat < 2 ^ 64 := by
  have fits := wellFormed.fits
  rw [wellFormed.byteRate] at fits
  have offset : audioOffsetMs.toNat ≤ dwordMaximum := Nat.le_pred_of_lt audioOffsetMs.toNat_lt
  calc
    format.bytesBefore audioOffsetMs.toNat
        ≤ audioOffsetMs.toNat * format.nSamplesPerSec.toNat * format.nBlockAlign.toNat :=
      Nat.mul_le_mul_right _ (Nat.div_le_self _ _)
    _ = audioOffsetMs.toNat * (format.nSamplesPerSec.toNat * format.nBlockAlign.toNat) :=
      Nat.mul_assoc _ _ _
    _ ≤ dwordMaximum * dwordMaximum := Nat.mul_le_mul offset fits
    _ < 2 ^ 64 := by decide

/-- **No product of the offset wraps.** -/
theorem audioOffsetMillisecondsToBytes_exact (wellFormed : format.toWaveFormat.WellFormed)
    (audioOffsetMs : UInt32) :
    (AudioFormatUtils.audioOffsetMillisecondsToBytes audioOffsetMs format).toNat =
      format.bytesBefore audioOffsetMs.toNat := by
  have ratePositive : format.nSamplesPerSec ≠ 0 := by
    rintro zero
    have positive := wellFormed.sampleRate.1
    rw [WaveFormatEx.toWaveFormat, zero] at positive
    cases positive
  have alignPositive : format.nBlockAlign ≠ 0 := by
    rintro zero
    have positive := wellFormed.blockAlign.1
    rw [WaveFormatEx.toWaveFormat, zero] at positive
    cases positive
  have offset := audioOffsetMs.toNat_lt
  have rate := format.nSamplesPerSec.toNat_lt
  have product : audioOffsetMs.toNat * format.nSamplesPerSec.toNat % 2 ^ 64 =
      audioOffsetMs.toNat * format.nSamplesPerSec.toNat := by
    apply Nat.mod_eq_of_lt
    calc
      audioOffsetMs.toNat * format.nSamplesPerSec.toNat
          ≤ (2 ^ 32 - 1) * (2 ^ 32 - 1) := Nat.mul_le_mul (by omega) (by omega)
      _ < 2 ^ 64 := by decide
  have whole := WaveFormatEx.bytesBefore_lt wellFormed audioOffsetMs
  rw [WaveFormatEx.bytesBefore] at whole
  unfold AudioFormatUtils.audioOffsetMillisecondsToBytes
  rw [if_neg (not_or.mpr ⟨ratePositive, alignPositive⟩)]
  simp only [UInt64.toNat_mul, UInt64.toNat_div, UInt32.toNat_toUInt64, UInt16.toNat_toUInt64,
    product, UInt64.reduceToNat, Nat.mod_eq_of_lt whole]
  rfl

/-- The offset of the events is the one in machine integers. -/
theorem audioOffsetMillisecondsToBytes_toWaveFormat
    (wellFormed : format.toWaveFormat.WellFormed) (audioOffsetMs : UInt32) :
    ModernSapi.audioOffsetMillisecondsToBytes audioOffsetMs.toNat format.toWaveFormat =
      (AudioFormatUtils.audioOffsetMillisecondsToBytes audioOffsetMs format).toNat := by
  rw [audioOffsetMillisecondsToBytes_exact wellFormed, ModernSapi.audioOffsetMillisecondsToBytes,
    if_neg]
  · exact Nat.mod_eq_of_lt (WaveFormatEx.bytesBefore_lt wellFormed audioOffsetMs)
  · exact not_or.mpr ⟨Nat.ne_of_gt wellFormed.sampleRate.1, Nat.ne_of_gt wellFormed.blockAlign.1⟩

end Offset

/-! ## The result -/

/-- What a format that is taken is like, in machine integers. The equations are of natural
numbers, so that nothing has been truncated. -/
structure WaveFormatEx.Negotiated (format : WaveFormatEx) : Prop where
  pcm : format.wFormatTag = 1
  channels : 0 < format.nChannels
  sampleRate : 0 < format.nSamplesPerSec
  byteRate : 0 < format.nAvgBytesPerSec
  blockAlign : 0 < format.nBlockAlign
  bitsPerSample : 0 < format.wBitsPerSample
  frameExact : format.nBlockAlign.toNat * 8 =
    format.nChannels.toNat * format.wBitsPerSample.toNat
  byteRateExact : format.nAvgBytesPerSec.toNat =
    format.nSamplesPerSec.toNat * format.nBlockAlign.toNat
  readBack : ∀ output, AudioFormatUtils.tryParseAudioFormatJson
    (AudioFormatUtils.waveFormatExToJson format) output = (true, format)
  offsetExact : ∀ audioOffsetMs,
    (AudioFormatUtils.audioOffsetMillisecondsToBytes audioOffsetMs format).toNat =
      audioOffsetMs.toNat * format.nSamplesPerSec.toNat / 1000 * format.nBlockAlign.toNat
  offsetAligned : ∀ audioOffsetMs, format.nBlockAlign.toNat ∣
    (AudioFormatUtils.audioOffsetMillisecondsToBytes audioOffsetMs format).toNat
  offsetMono : ∀ earlier later, earlier ≤ later →
    AudioFormatUtils.audioOffsetMillisecondsToBytes earlier format ≤
      AudioFormatUtils.audioOffsetMillisecondsToBytes later format

theorem WaveFormatEx.Negotiated.of_wellFormed {format : WaveFormatEx}
    (wellFormed : format.toWaveFormat.WellFormed) : format.Negotiated where
  pcm := UInt16.toNat_inj.mp wellFormed.pcm
  channels := UInt16.lt_iff_toNat_lt.mpr wellFormed.channels.1
  sampleRate := UInt32.lt_iff_toNat_lt.mpr wellFormed.sampleRate.1
  byteRate := by
    apply UInt32.lt_iff_toNat_lt.mpr
    apply Nat.lt_of_lt_of_eq _ wellFormed.byteRate.symm
    exact Nat.mul_pos wellFormed.sampleRate.1 wellFormed.blockAlign.1
  blockAlign := UInt16.lt_iff_toNat_lt.mpr wellFormed.blockAlign.1
  bitsPerSample := UInt16.lt_iff_toNat_lt.mpr wellFormed.bitsPerSample.1
  frameExact := (Nat.mul_comm _ _).trans wellFormed.frame.symm
  byteRateExact := wellFormed.byteRate
  readBack := tryParseAudioFormatJson_waveFormatExToJson wellFormed
  offsetExact := audioOffsetMillisecondsToBytes_exact wellFormed
  offsetAligned := by
    intro audioOffsetMs
    rw [audioOffsetMillisecondsToBytes_exact wellFormed]
    exact Nat.dvd_mul_left _ _
  offsetMono := by
    intro earlier later before
    apply UInt64.le_iff_toNat_le.mpr
    rw [audioOffsetMillisecondsToBytes_exact wellFormed,
      audioOffsetMillisecondsToBytes_exact wellFormed]
    exact format.bytesBefore_mono (UInt32.le_iff_toNat_le.mp before)

/-- **The arithmetic of a negotiated format is exact.** A JSON value is rejected and the
output is left as it was, or the output is a PCM format of positive fields in which no product
has been truncated, that is read back from its own JSON, and with which no offset of an event
wraps. -/
theorem audio_format_exact (formatJson : Json) (format : WaveFormatEx) :
    let parsed := AudioFormatUtils.tryParseAudioFormatJson formatJson format
    parsed = (false, format) ∨ (parsed.1 = true ∧ parsed.2.Negotiated) := by
  have agrees := tryParseAudioFormatJson_exact formatJson format
  intro parsed
  change Assigned format _ parsed at agrees
  generalize parsed = result at agrees ⊢
  generalize plain : ModernSapi.tryParseAudioFormatJson formatJson = taken at agrees
  cases agrees with
  | rejected => exact .inl rfl
  | accepted same =>
      refine .inr ⟨rfl, .of_wellFormed ?_⟩
      rw [same]
      exact tryParseAudioFormatJson_sound plain

end ModernSapi
