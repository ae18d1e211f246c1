import Mathlib.Data.List.Basic

/-!
# The frame assembler

Reads of the audio pipe end anywhere in a PCM frame. The assembler keeps the
partial frame of one read and completes it with the next, so that every span it
returns is a whole number of frames. That the partial frame is shorter than a
frame is part of the type.

* `process_bytes`: no byte is lost, added or moved.
* `process_aligned`: every span is a positive whole number of frames.
* `processAll_frames`: what comes out of a stream does not depend on where the reads
  ended. It is the longest prefix that is a whole number of frames.

A span is the bytes it points at: the two buffers the source's spans point into
are written only by the audio thread, which delivers a batch before it reads on.
-/

set_option autoImplicit false

namespace ModernSapi

/-- The retained partial frame of one negotiated block alignment. -/
structure PcmFrameAssembler where
  blockAlign : ℕ
  carry : List UInt8
  blockAlign_pos : 0 < blockAlign
  carry_lt : carry.length < blockAlign
  deriving DecidableEq

/-- The bytes are a positive whole number of frames. -/
def WholeFrames (blockAlign : ℕ) (bytes : List UInt8) : Prop :=
  0 < bytes.length ∧ blockAlign ∣ bytes.length

namespace PcmFrameAssembler

/-- An assembler with nothing retained. -/
def create (blockAlign : ℕ) (positive : 0 < blockAlign) : PcmFrameAssembler where
  blockAlign := blockAlign
  carry := []
  blockAlign_pos := positive
  carry_lt := positive

def reset (assembler : PcmFrameAssembler) : PcmFrameAssembler :=
  create assembler.blockAlign assembler.blockAlign_pos

def hasCarry (assembler : PcmFrameAssembler) : Bool := !assembler.carry.isEmpty

def calculateAlignedBytes (assembler : PcmFrameAssembler) (byteCount : ℕ) : ℕ :=
  byteCount - byteCount % assembler.blockAlign

theorem length_drop_aligned (assembler : PcmFrameAssembler) (data : List UInt8) :
    (data.drop (assembler.calculateAlignedBytes data.length)).length
      = data.length % assembler.blockAlign := by
  have bounded := Nat.mod_le data.length assembler.blockAlign
  rw [List.length_drop, calculateAlignedBytes]
  omega

/-- The second and third stages of `process`, with nothing retained: the whole
frames are one span and the rest is retained. -/
def sliceAligned (assembler : PcmFrameAssembler) (data : List UInt8) :
    PcmFrameAssembler × List (List UInt8) :=
  let alignedSize := assembler.calculateAlignedBytes data.length
  ({ assembler with
      carry := data.drop alignedSize
      carry_lt := by
        rw [length_drop_aligned]
        exact Nat.mod_lt _ assembler.blockAlign_pos },
    if alignedSize > 0 then [data.take alignedSize] else [])

/-- Accept a fragment of the pipe and return the whole frames it completes. -/
def process (assembler : PcmFrameAssembler) (data : List UInt8) :
    PcmFrameAssembler × List (List UInt8) :=
  if data.isEmpty then (assembler, [])
  else if assembler.carry.isEmpty then assembler.sliceAligned data
  else
    let bytesNeeded := assembler.blockAlign - assembler.carry.length
    if short : data.length < bytesNeeded then
      ({ assembler with
          carry := assembler.carry ++ data
          carry_lt := by
            rw [List.length_append]
            omega },
        [])
    else
      let completedFrame := assembler.carry ++ data.take bytesNeeded
      let rest := assembler.sliceAligned (data.drop bytesNeeded)
      (rest.1, completedFrame :: rest.2)

@[simp] theorem reset_carry (assembler : PcmFrameAssembler) : assembler.reset.carry = [] := rfl

@[simp] theorem reset_blockAlign (assembler : PcmFrameAssembler) :
    assembler.reset.blockAlign = assembler.blockAlign := rfl

@[simp] theorem hasCarry_eq_false (assembler : PcmFrameAssembler) :
    assembler.hasCarry = false ↔ assembler.carry = [] := by
  simp [hasCarry]

@[simp] theorem hasCarry_eq_true (assembler : PcmFrameAssembler) :
    assembler.hasCarry = true ↔ assembler.carry ≠ [] := by
  simp [hasCarry]

@[simp] theorem sliceAligned_blockAlign (assembler : PcmFrameAssembler) (data : List UInt8) :
    (assembler.sliceAligned data).1.blockAlign = assembler.blockAlign := rfl

@[simp] theorem process_blockAlign (assembler : PcmFrameAssembler) (data : List UInt8) :
    (assembler.process data).1.blockAlign = assembler.blockAlign := by
  unfold process
  split
  · rfl
  · split
    · rfl
    · dsimp only
      split <;> rfl

/-! ## What is retained and what is returned -/

theorem sliceAligned_bytes (assembler : PcmFrameAssembler) (data : List UInt8) :
    (assembler.sliceAligned data).2.flatten ++ (assembler.sliceAligned data).1.carry = data := by
  unfold sliceAligned
  dsimp only
  split
  · simp
  · next none =>
      have nothing : assembler.calculateAlignedBytes data.length = 0 := Nat.eq_zero_of_not_pos none
      simp [nothing]

theorem sliceAligned_aligned (assembler : PcmFrameAssembler) (data : List UInt8) :
    ∀ span ∈ (assembler.sliceAligned data).2, WholeFrames assembler.blockAlign span := by
  intro span member
  unfold sliceAligned at member
  dsimp only at member
  split at member
  · next positive =>
      rw [List.mem_singleton] at member
      subst member
      have bounded : assembler.calculateAlignedBytes data.length ≤ data.length := Nat.sub_le _ _
      rw [WholeFrames, List.length_take, Nat.min_eq_left bounded]
      exact ⟨positive, Nat.dvd_sub_mod _⟩
  · simp at member

/-- **No byte is lost, added or moved.** -/
theorem process_bytes (assembler : PcmFrameAssembler) (data : List UInt8) :
    (assembler.process data).2.flatten ++ (assembler.process data).1.carry
      = assembler.carry ++ data := by
  unfold process
  split
  · next empty => simp_all
  · split
    · next noCarry =>
        rw [List.isEmpty_iff] at noCarry
        rw [noCarry, sliceAligned_bytes, List.nil_append]
    · dsimp only
      split
      · simp
      · rw [List.flatten_cons, List.append_assoc, sliceAligned_bytes, List.append_assoc,
          List.take_append_drop]

/-- **Every span is a positive whole number of frames.** -/
theorem process_aligned (assembler : PcmFrameAssembler) (data : List UInt8) :
    ∀ span ∈ (assembler.process data).2, WholeFrames assembler.blockAlign span := by
  unfold process
  split
  · simp
  · split
    · exact sliceAligned_aligned assembler data
    · dsimp only
      split
      · simp
      · next long =>
          have fits := assembler.carry_lt
          intro span member
          rcases List.mem_cons.mp member with rfl | later
          · have whole : (assembler.carry ++ data.take
                (assembler.blockAlign - assembler.carry.length)).length
                  = assembler.blockAlign := by
              rw [List.length_append, List.length_take]
              omega
            rw [WholeFrames, whole]
            exact ⟨assembler.blockAlign_pos, Nat.dvd_refl _⟩
          · exact sliceAligned_aligned assembler _ span later

/-- A batch has at most two spans. -/
theorem process_spans_le (assembler : PcmFrameAssembler) (data : List UInt8) :
    (assembler.process data).2.length ≤ 2 := by
  have one (bytes : List UInt8) : (assembler.sliceAligned bytes).2.length ≤ 1 := by
    unfold sliceAligned
    dsimp only
    split <;> simp
  unfold process
  split
  · simp
  · split
    · exact Nat.le_succ_of_le (one data)
    · dsimp only
      split
      · simp
      · simpa using one _

/-! ## Successive calls -/

/-- The calls for the successive fragments of a stream, with the spans of each. -/
def processAll (assembler : PcmFrameAssembler) :
    List (List UInt8) → PcmFrameAssembler × List (List (List UInt8))
  | [] => (assembler, [])
  | data :: later =>
      let called := assembler.process data
      let rest := called.1.processAll later
      (rest.1, called.2 :: rest.2)

@[simp] theorem processAll_blockAlign (assembler : PcmFrameAssembler)
    (fragments : List (List UInt8)) :
    (assembler.processAll fragments).1.blockAlign = assembler.blockAlign := by
  induction fragments generalizing assembler with
  | nil => rfl
  | cons data later ih => exact (ih _).trans (assembler.process_blockAlign data)

theorem length_processAll (assembler : PcmFrameAssembler) (fragments : List (List UInt8)) :
    (assembler.processAll fragments).2.length = fragments.length := by
  induction fragments generalizing assembler with
  | nil => rfl
  | cons data later ih => exact congrArg (· + 1) (ih _)

/-- No byte is lost, added or moved by any number of calls. -/
theorem processAll_bytes (assembler : PcmFrameAssembler) (fragments : List (List UInt8)) :
    (assembler.processAll fragments).2.flatten.flatten ++
        (assembler.processAll fragments).1.carry =
      assembler.carry ++ fragments.flatten := by
  induction fragments generalizing assembler with
  | nil => exact (List.append_nil assembler.carry).symm
  | cons data later ih =>
      rw [processAll, List.flatten_cons, List.flatten_append, List.append_assoc, ih,
        ← List.append_assoc, process_bytes, List.flatten_cons, List.append_assoc]

/-- Every call returns at most two spans, each a positive whole number of frames. -/
theorem processAll_spans (assembler : PcmFrameAssembler) (fragments : List (List UInt8)) :
    ∀ spans ∈ (assembler.processAll fragments).2,
      spans.length ≤ 2 ∧ ∀ span ∈ spans, WholeFrames assembler.blockAlign span := by
  induction fragments generalizing assembler with
  | nil => exact nofun
  | cons data later ih =>
      intro spans member
      rcases List.mem_cons.mp member with rfl | member
      · exact ⟨assembler.process_spans_le data, assembler.process_aligned data⟩
      · have sound := ih _ spans member
        rw [process_blockAlign] at sound
        exact sound

/-- The prefix is whole frames, and no longer prefix is. -/
structure LongestWholePrefix (blockAlign : ℕ) (stream whole : List UInt8) : Prop where
  start : whole <+: stream
  aligned : blockAlign ∣ whole.length
  longest : ∀ other, other <+: stream → blockAlign ∣ other.length →
    other.length ≤ whole.length

/-- What is left after whole frames is less than a frame. -/
theorem LongestWholePrefix.of_append {blockAlign : ℕ} {whole rest : List UInt8}
    (aligned : blockAlign ∣ whole.length) (short : rest.length < blockAlign) :
    LongestWholePrefix blockAlign (whole ++ rest) whole where
  start := List.prefix_append whole rest
  aligned := aligned
  longest := by
    intro other start otherAligned
    by_contra longer
    have bounded := start.length_le
    rw [List.length_append] at bounded
    have gap : blockAlign ∣ other.length - whole.length := Nat.dvd_sub otherAligned aligned
    have fits := Nat.le_of_dvd (by omega) gap
    omega

/-- Whole frames one after another are whole frames. -/
theorem dvd_length_flatten {blockAlign : ℕ} {spans : List (List UInt8)}
    (aligned : ∀ span ∈ spans, WholeFrames blockAlign span) :
    blockAlign ∣ spans.flatten.length := by
  induction spans with
  | nil => exact Nat.dvd_zero _
  | cons span later ih =>
      rw [List.flatten_cons, List.length_append]
      apply Nat.dvd_add
      · exact (aligned span List.mem_cons_self).2
      · exact ih fun other member => aligned other (List.mem_cons_of_mem _ member)

/-- **The frames do not depend on the fragmentation.** However a stream is cut into calls
after a reset, the spans together are its longest prefix of whole frames, the carry is the
rest and is shorter than a frame, and each call returns at most two spans of whole frames. -/
theorem processAll_frames (assembler : PcmFrameAssembler) (fragments : List (List UInt8)) :
    let result := assembler.reset.processAll fragments
    LongestWholePrefix assembler.blockAlign fragments.flatten result.2.flatten.flatten ∧
      result.2.flatten.flatten ++ result.1.carry = fragments.flatten ∧
      result.1.carry.length < assembler.blockAlign ∧
      result.2.length = fragments.length ∧
      ∀ spans ∈ result.2,
        spans.length ≤ 2 ∧ ∀ span ∈ spans, WholeFrames assembler.blockAlign span := by
  have bytes := assembler.reset.processAll_bytes fragments
  have spans := assembler.reset.processAll_spans fragments
  have short := (assembler.reset.processAll fragments).1.carry_lt
  rw [reset_carry, List.nil_append] at bytes
  rw [processAll_blockAlign, reset_blockAlign] at short
  rw [reset_blockAlign] at spans
  refine ⟨?_, bytes, short, assembler.reset.length_processAll fragments, spans⟩
  rw [← bytes]
  apply LongestWholePrefix.of_append _ short
  apply dvd_length_flatten
  intro span member
  obtain ⟨call, returned, inside⟩ := List.mem_flatten.mp member
  exact (spans call returned).2 span inside

example :
    ((create 4 (by decide)).processAll [[1], [2, 3], [4, 5, 6, 7, 8, 9]]).2 =
      [[], [], [[1, 2, 3, 4], [5, 6, 7, 8]]] := by
  decide

end PcmFrameAssembler

end ModernSapi
