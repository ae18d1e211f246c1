import ModernSapi.Engine.Engine

/-!
# The audio format of a provider

A provider announces its PCM format in JSON. `tryParseAudioFormatJson` takes it when its three
numbers are positive integers in range and a frame is a whole number of bytes; the frame size
and the byte rate follow from them.

`tryParseAudioFormatJson_sound` says what a format that is taken is like.
-/

set_option autoImplicit false

namespace ModernSapi

/-- `MAXDWORD`. -/
def dwordMaximum : ℕ := 2 ^ 32 - 1

/-- `MAXWORD`. -/
def wordMaximum : ℕ := 2 ^ 16 - 1

/-- `WAVE_FORMAT_PCM`. -/
def waveFormatPcm : ℕ := 1

def Json.isObject : Json → Bool
  | .object _ => true
  | _ => false

/-- The member is a positive integer up to the maximum. -/
def positiveInteger? (formatJson : Json) (name : String) (maximum : ℕ) : Option ℕ :=
  match formatJson.member? name with
  | none => none
  | some member =>
      match tryGetJsonUnsignedInteger .uint64 member with
      | none => none
      | some value => if value = 0 ∨ value > maximum then none else some value

/-- The format of three numbers, when a frame is a whole number of bytes and the byte rate
fits. -/
def pcmFormat (sampleRate bitsPerSample channels : ℕ) : Option WaveFormat :=
  let blockAlignment := channels * bitsPerSample / 8
  if blockAlignment = 0 ∨ blockAlignment > wordMaximum ∨
      channels * bitsPerSample ≠ blockAlignment * 8 ∨
      sampleRate > dwordMaximum / blockAlignment then none
  else
    some {
      wFormatTag := waveFormatPcm
      nSamplesPerSec := sampleRate
      wBitsPerSample := bitsPerSample
      nChannels := channels
      nBlockAlign := blockAlignment
      nAvgBytesPerSec := sampleRate * blockAlignment % 2 ^ 32
      cbSize := 0 }

def tryParseAudioFormatJson (formatJson : Json) : Option WaveFormat :=
  if !formatJson.isObject then none
  else
    match positiveInteger? formatJson "sample_rate" dwordMaximum,
        positiveInteger? formatJson "bits_per_sample" wordMaximum,
        positiveInteger? formatJson "channels" wordMaximum with
    | some sampleRate, some bitsPerSample, some channels =>
        pcmFormat sampleRate bitsPerSample channels
    | _, _, _ => none

/-- What a format that a provider may use is like: every field fits its type, frames are
whole bytes, and neither product has overflowed. -/
structure WaveFormat.WellFormed (format : WaveFormat) : Prop where
  pcm : format.wFormatTag = waveFormatPcm
  sampleRate : 0 < format.nSamplesPerSec ∧ format.nSamplesPerSec ≤ dwordMaximum
  bitsPerSample : 0 < format.wBitsPerSample ∧ format.wBitsPerSample ≤ wordMaximum
  channels : 0 < format.nChannels ∧ format.nChannels ≤ wordMaximum
  blockAlign : 0 < format.nBlockAlign ∧ format.nBlockAlign ≤ wordMaximum
  frame : format.nChannels * format.wBitsPerSample = 8 * format.nBlockAlign
  byteRate : format.nAvgBytesPerSec = format.nSamplesPerSec * format.nBlockAlign
  fits : format.nAvgBytesPerSec ≤ dwordMaximum
  plain : format.cbSize = 0

section Sound

variable {formatJson : Json} {name : String} {maximum value sampleRate bitsPerSample channels : ℕ}
  {format : WaveFormat}

/-- A number that is taken is the one the record carries. -/
theorem positiveInteger?_sound (read : positiveInteger? formatJson name maximum = some value) :
    0 < value ∧ value ≤ maximum ∧
      ∃ member, formatJson.member? name = some member ∧ member.number? = some (value : ℚ) := by
  unfold positiveInteger? at read
  split at read
  · cases read
  · next member found =>
      split at read
      · cases read
      · next number taken =>
          obtain ⟨inRange, same⟩ := Option.ite_none_left_eq_some.mp read
          cases same
          rw [not_or, Nat.not_lt] at inRange
          exact ⟨Nat.pos_of_ne_zero inRange.1, inRange.2, member, found,
            (tryGetJsonUnsignedInteger_sound taken).2⟩

/-- The byte rate of a format that is taken fits its field. -/
theorem pcmFormat_wellFormed (made : pcmFormat sampleRate bitsPerSample channels = some format)
    (rate : 0 < sampleRate ∧ sampleRate ≤ dwordMaximum)
    (bits : 0 < bitsPerSample ∧ bitsPerSample ≤ wordMaximum)
    (channel : 0 < channels ∧ channels ≤ wordMaximum) : format.WellFormed := by
  obtain ⟨accepted, same⟩ := Option.ite_none_left_eq_some.mp made
  cases same
  push Not at accepted
  obtain ⟨positive, inRange, whole, slow⟩ := accepted
  have fits : sampleRate * (channels * bitsPerSample / 8) ≤ dwordMaximum :=
    (Nat.le_div_iff_mul_le (Nat.pos_of_ne_zero positive)).mp slow
  have exact_ : sampleRate * (channels * bitsPerSample / 8) % 2 ^ 32 =
      sampleRate * (channels * bitsPerSample / 8) := by
    apply Nat.mod_eq_of_lt
    rw [dwordMaximum] at fits
    omega
  exact {
    pcm := rfl
    sampleRate := rate
    bitsPerSample := bits
    channels := channel
    blockAlign := ⟨Nat.pos_of_ne_zero positive, inRange⟩
    frame := whole.trans (Nat.mul_comm _ _)
    byteRate := exact_
    fits := exact_.trans_le fits
    plain := rfl }

/-- **A format that is taken is well formed.** -/
theorem tryParseAudioFormatJson_sound (parsed : tryParseAudioFormatJson formatJson = some format) :
    format.WellFormed := by
  obtain ⟨-, parsed⟩ := Option.ite_none_left_eq_some.mp parsed
  split at parsed
  · next rate bits channel =>
      obtain ⟨ratePositive, rateInRange, -⟩ := positiveInteger?_sound rate
      obtain ⟨bitsPositive, bitsInRange, -⟩ := positiveInteger?_sound bits
      obtain ⟨channelPositive, channelInRange, -⟩ := positiveInteger?_sound channel
      exact pcmFormat_wellFormed parsed ⟨ratePositive, rateInRange⟩ ⟨bitsPositive, bitsInRange⟩
        ⟨channelPositive, channelInRange⟩
  · cases parsed

end Sound

end ModernSapi
