import Mathlib

/-!
# The leading silence of a synthesis

An engine hands its audio over in chunks of 16-bit samples. `AudioStreamHandler::Write`
drops what stands before the first audible sample of a chunk, and once a chunk had one
passes the rest on as it is. `write_chunks`: over chunks of whole samples what is passed on
does not depend on where the chunks were cut.
-/

set_option autoImplicit false

namespace ModernSapi

namespace PcmTrimmer

/-- The sample of two bytes, the low one first. -/
def sample (low high : UInt8) : ℤ :=
  let value := low.toNat + 256 * high.toNat
  if value < 2 ^ 15 then value else (value : ℤ) - 2 ^ 16

/-- The position of the first sample above the noise floor. -/
def firstAudible (noiseFloorThreshold : ℤ) : List UInt8 → Option ℕ
  | low :: high :: rest =>
      if noiseFloorThreshold < |sample low high| then some 0
      else (firstAudible noiseFloorThreshold rest).map (· + 2)
  | _ => none

def findLeadingAudioOffset (pcmData : List UInt8) (noiseFloorThreshold : ℤ) : ℕ :=
  if pcmData.length < 2 then 0
  else (firstAudible noiseFloorThreshold pcmData).getD pcmData.length

end PcmTrimmer

open PcmTrimmer

/-- The audio of a context of `AudioStreamHandler`. -/
structure LeadingAudio where
  hasEncounteredAudio : Bool := false
  leadingOffsetBytes : ℕ := 0
  deriving DecidableEq

/-- What `Write` makes of a chunk: the bytes it passes on. -/
def LeadingAudio.write (audio : LeadingAudio) (dataBuffer : List UInt8) :
    LeadingAudio × List UInt8 :=
  if audio.hasEncounteredAudio then (audio, dataBuffer)
  else
    let leadingOffset := findLeadingAudioOffset dataBuffer 50
    (if leadingOffset < dataBuffer.length then
        { hasEncounteredAudio := true, leadingOffsetBytes := leadingOffset }
      else audio,
      dataBuffer.drop leadingOffset)

/-- The chunks of a synthesis, one after the other. -/
def LeadingAudio.writes (audio : LeadingAudio) : List (List UInt8) → LeadingAudio × List UInt8
  | [] => (audio, [])
  | chunk :: chunks =>
      let written := audio.write chunk
      let rest := written.1.writes chunks
      (rest.1, written.2 ++ rest.2)

/-! ## The audio without its leading silence -/

/-- Some audio from its first audible sample on. -/
def trimLeading (noiseFloorThreshold : ℤ) (pcm : List UInt8) : List UInt8 :=
  match firstAudible noiseFloorThreshold pcm with
  | some offset => pcm.drop offset
  | none => []

section Trim

variable {threshold : ℤ} {pcm more : List UInt8} {offset : ℕ}

theorem firstAudible_lt (found : firstAudible threshold pcm = some offset) :
    offset < pcm.length := by
  induction pcm using firstAudible.induct threshold generalizing offset with
  | case1 low high rest audible =>
      rw [firstAudible, if_pos audible, Option.some.injEq] at found
      rw [← found]
      exact Nat.zero_lt_succ _
  | case2 low high rest silent ih =>
      rw [firstAudible, if_neg silent, Option.map_eq_some_iff] at found
      obtain ⟨later, here, rfl⟩ := found
      have bound := ih here
      simp only [List.length_cons]
      omega
  | case3 pcm short =>
      rw [firstAudible] at found
      · cases found
      · exact short

/-- The first audible sample stays the first when more follows. -/
theorem firstAudible_append_of_some (found : firstAudible threshold pcm = some offset) :
    firstAudible threshold (pcm ++ more) = some offset := by
  induction pcm using firstAudible.induct threshold generalizing offset with
  | case1 low high rest audible =>
      rw [firstAudible, if_pos audible] at found
      rw [List.cons_append, List.cons_append, firstAudible, if_pos audible, found]
  | case2 low high rest silent ih =>
      rw [firstAudible, if_neg silent, Option.map_eq_some_iff] at found
      obtain ⟨later, here, rfl⟩ := found
      rw [List.cons_append, List.cons_append, firstAudible, if_neg silent, ih here]
      rfl
  | case3 pcm short =>
      rw [firstAudible] at found
      · cases found
      · exact short

/-- Behind whole silent samples the first audible sample is the one of the rest. -/
theorem firstAudible_append_of_none (silent : firstAudible threshold pcm = none)
    (whole : 2 ∣ pcm.length) :
    firstAudible threshold (pcm ++ more) =
      (firstAudible threshold more).map (· + pcm.length) := by
  induction pcm using firstAudible.induct threshold with
  | case1 low high rest audible =>
      rw [firstAudible, if_pos audible] at silent
      cases silent
  | case2 low high rest quiet ih =>
      rw [firstAudible, if_neg quiet, Option.map_eq_none_iff] at silent
      have even : 2 ∣ rest.length := by
        simp only [List.length_cons] at whole
        omega
      rw [List.cons_append, List.cons_append, firstAudible, if_neg quiet, ih silent even,
        Option.map_map]
      refine congrArg (Option.map · _) (funext fun offset => ?_)
      simp only [Function.comp_apply, List.length_cons]
      omega
  | case3 pcm short =>
      have empty : pcm = [] := by
        match pcm, short, whole with
        | [], _, _ => rfl
        | [_], _, whole => simp at whole
        | low :: high :: rest, short, _ => exact absurd rfl (short low high rest)
      rw [empty, List.nil_append, List.length_nil]
      simp

theorem trimLeading_append_of_some (found : firstAudible threshold pcm = some offset) :
    trimLeading threshold (pcm ++ more) = pcm.drop offset ++ more := by
  rw [trimLeading, firstAudible_append_of_some found]
  exact List.drop_append_of_le_length (firstAudible_lt found).le

theorem trimLeading_append_of_none (silent : firstAudible threshold pcm = none)
    (whole : 2 ∣ pcm.length) :
    trimLeading threshold (pcm ++ more) = trimLeading threshold more := by
  rw [trimLeading, firstAudible_append_of_none silent whole, trimLeading]
  cases firstAudible threshold more with
  | none => rfl
  | some offset =>
      simp only [Option.map_some]
      rw [Nat.add_comm, ← List.drop_drop, List.drop_left]

end Trim

/-! ## The chunks -/

section Chunks

variable {audio : LeadingAudio} {chunks : List (List UInt8)}

/-- Behind the first audible sample everything is passed on. -/
theorem writes_encountered (encountered : audio.hasEncounteredAudio = true)
    (chunks : List (List UInt8)) : (audio.writes chunks).2 = chunks.flatten := by
  induction chunks generalizing audio with
  | nil => rfl
  | cons chunk chunks ih =>
      have written : audio.write chunk = (audio, chunk) := if_pos encountered
      rw [LeadingAudio.writes, written, List.flatten_cons]
      exact congrArg (chunk ++ ·) (ih encountered)

/-- **Where the chunks are cut does not matter.** Of a synthesis in chunks of whole samples
the handler passes on the audio from its first audible sample on, and nothing when it has
none. -/
theorem write_chunks (unencountered : audio.hasEncounteredAudio = false)
    (whole : ∀ chunk ∈ chunks, 2 ∣ chunk.length) :
    (audio.writes chunks).2 = trimLeading 50 chunks.flatten := by
  induction chunks with
  | nil => rfl
  | cons chunk chunks ih =>
      have even := whole chunk List.mem_cons_self
      have rest := ih fun chunk member => whole chunk (List.mem_cons_of_mem _ member)
      rw [LeadingAudio.writes, List.flatten_cons]
      cases found : firstAudible 50 chunk with
      | some offset =>
          have bound := firstAudible_lt found
          have long : ¬chunk.length < 2 := by omega
          have written : audio.write chunk =
              ({ hasEncounteredAudio := true, leadingOffsetBytes := offset },
                chunk.drop offset) := by
            simp [LeadingAudio.write, unencountered, findLeadingAudioOffset, long, found, bound]
          rw [written, trimLeading_append_of_some found]
          exact congrArg (_ ++ ·) (writes_encountered rfl chunks)
      | none =>
          have written : audio.write chunk = (audio, []) := by
            by_cases short : chunk.length < 2
            · have empty : chunk = [] := List.length_eq_zero_iff.mp (by omega)
              subst empty
              simp [LeadingAudio.write, unencountered, findLeadingAudioOffset]
            · simp [LeadingAudio.write, unencountered, findLeadingAudioOffset, short, found]
          rw [written, trimLeading_append_of_none found even]
          exact rest

end Chunks

end ModernSapi
