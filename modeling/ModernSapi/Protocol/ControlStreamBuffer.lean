import Mathlib.Data.List.Basic

/-!
# The buffer of the control pipe

Reads of the control pipe end anywhere in a line. The buffer keeps what no line has been
made of yet, and remembers how far it has looked for the end of the next one.

* `tryExtractLine_spec`: a line that is extracted is the first of the unconsumed bytes, and
  when none is, these hold no line feed.
* The operations keep `WellFormed`: nothing before `searchOffset` is searched again, for no
  line feed is there.
-/

set_option autoImplicit false

namespace ModernSapi

/-- The line feed that ends a line. -/
def lineFeed : UInt8 := 10

def carriageReturn : UInt8 := 13

/-- A `string_view` of the buffer. -/
structure LineView where
  start : ℕ
  size : ℕ
  deriving DecidableEq, Repr

structure ControlStreamBuffer where
  buffer : List UInt8 := []
  readOffset : ℕ := 0
  searchOffset : ℕ := 0
  deriving DecidableEq, Repr

/-- The line without one carriage return at its end. -/
def withoutCarriageReturn (line : List UInt8) : List UInt8 :=
  if line.getLast? = some carriageReturn then line.dropLast else line

namespace ControlStreamBuffer

def maxRecordBytes : ℕ := 16 * 1024 * 1024

def append (stream : ControlStreamBuffer) (data : List UInt8) : ControlStreamBuffer :=
  { stream with buffer := stream.buffer ++ data }

/-- `buffer.find('\n', position)`. -/
def findNewline (stream : ControlStreamBuffer) (position : ℕ) : Option ℕ :=
  ((stream.buffer.drop position).idxOf? lineFeed).map (position + ·)

/-- The bytes a view points at. -/
def bytes (stream : ControlStreamBuffer) (line : LineView) : List UInt8 :=
  (stream.buffer.drop line.start).take line.size

def tryExtractLine (stream : ControlStreamBuffer) : ControlStreamBuffer × Option LineView :=
  match stream.findNewline stream.searchOffset with
  | none => ({ stream with searchOffset := stream.buffer.length }, none)
  | some newlinePos =>
      let line : LineView := ⟨stream.readOffset, newlinePos - stream.readOffset⟩
      ({ stream with readOffset := newlinePos + 1, searchOffset := newlinePos + 1 },
        some (if (stream.bytes line).getLast? = some carriageReturn
          then { line with size := line.size - 1 } else line))

def unconsumedBytes (stream : ControlStreamBuffer) : ℕ :=
  stream.buffer.length - stream.readOffset

def isOverCapacity (stream : ControlStreamBuffer) : Bool :=
  maxRecordBytes < stream.buffer.length - stream.readOffset

def compact (stream : ControlStreamBuffer) : ControlStreamBuffer :=
  if stream.readOffset = stream.buffer.length then {}
  else if 0 < stream.readOffset then { buffer := stream.buffer.drop stream.readOffset }
  else stream

/-! ## The invariant -/

/-- The offsets are in order, and no line feed has been passed over. -/
structure WellFormed (stream : ControlStreamBuffer) : Prop where
  ordered : stream.readOffset ≤ stream.searchOffset
  bounded : stream.searchOffset ≤ stream.buffer.length
  searched : ∀ index, stream.readOffset ≤ index → index < stream.searchOffset →
    stream.buffer[index]? ≠ some lineFeed

/-- The bytes no line has been made of yet. -/
def undelivered (stream : ControlStreamBuffer) : List UInt8 :=
  stream.buffer.drop stream.readOffset

@[simp] theorem length_undelivered (stream : ControlStreamBuffer) :
    stream.undelivered.length = stream.unconsumedBytes := List.length_drop

theorem WellFormed.empty : WellFormed {} where
  ordered := Nat.le_refl 0
  bounded := Nat.le_refl 0
  searched := by
    intro index _ below
    exact absurd below (Nat.not_lt_zero index)

variable {stream : ControlStreamBuffer}

theorem WellFormed.append (wellFormed : stream.WellFormed) (data : List UInt8) :
    (stream.append data).WellFormed := by
  obtain ⟨ordered, bounded, searched⟩ := wellFormed
  refine ⟨ordered, ?_, ?_⟩
  · apply Nat.le_trans bounded
    rw [ControlStreamBuffer.append, List.length_append]
    exact Nat.le_add_right _ _
  · intro index from_ below
    have inside : index < stream.buffer.length := Nat.lt_of_lt_of_le below bounded
    rw [ControlStreamBuffer.append, List.getElem?_append_left inside]
    exact searched index from_ below

/-- What is appended is delivered last. -/
theorem undelivered_append (wellFormed : stream.WellFormed) (data : List UInt8) :
    (stream.append data).undelivered = stream.undelivered ++ data :=
  List.drop_append_of_le_length (Nat.le_trans wellFormed.ordered wellFormed.bounded)

/-! ## Compaction -/

theorem WellFormed.compact (wellFormed : stream.WellFormed) : stream.compact.WellFormed := by
  unfold ControlStreamBuffer.compact
  split
  · exact .empty
  · split
    · refine ⟨Nat.le_refl 0, Nat.zero_le _, ?_⟩
      intro index _ below
      exact absurd below (Nat.not_lt_zero index)
    · exact wellFormed

/-- **Compaction keeps the bytes that are not delivered.** -/
theorem undelivered_compact (stream : ControlStreamBuffer) :
    stream.compact.undelivered = stream.undelivered := by
  unfold ControlStreamBuffer.compact
  split
  · next consumed =>
      rw [undelivered, undelivered, consumed, List.drop_length]
      rfl
  · split
    · rfl
    · rfl

/-! ## Extraction -/

theorem findNewline_none {position : ℕ} (none : stream.findNewline position = none) (index : ℕ)
    (from_ : position ≤ index) : stream.buffer[index]? ≠ some lineFeed := by
  unfold findNewline at none
  rw [Option.map_eq_none_iff, List.idxOf?_eq_none_iff] at none
  intro here
  obtain ⟨later, rfl⟩ := Nat.exists_eq_add_of_le from_
  rw [← List.getElem?_drop] at here
  exact none (List.mem_of_getElem? here)

theorem findNewline_some {position found : ℕ} (some : stream.findNewline position = some found) :
    position ≤ found ∧ stream.buffer[found]? = lineFeed ∧
      ∀ index, position ≤ index → index < found → stream.buffer[index]? ≠ lineFeed := by
  unfold findNewline at some
  obtain ⟨offset, first, rfl⟩ := Option.map_eq_some_iff.mp some
  obtain ⟨inside, here, before⟩ := List.idxOf?_eq_some_iff.mp first
  refine ⟨Nat.le_add_right position offset, ?_, ?_⟩
  · rw [← List.getElem?_drop, List.getElem?_eq_getElem inside, here]
  · intro index from_ below at_
    obtain ⟨later, rfl⟩ := Nat.exists_eq_add_of_le from_
    have earlier : later < offset := by omega
    rw [← List.getElem?_drop, List.getElem?_eq_getElem (by omega)] at at_
    exact before later earlier (Option.some.inj at_)

/-- What `TryExtractLine` does: it finds the first line among the unconsumed bytes, and
none when they hold no line feed. -/
inductive Extraction (stream : ControlStreamBuffer) :
    ControlStreamBuffer × Option LineView → Prop where
  | noLine (partly : lineFeed ∉ stream.undelivered) :
      Extraction stream ({ stream with searchOffset := stream.buffer.length }, none)
  | line {next : ControlStreamBuffer} {view : LineView} {record : List UInt8}
      (whole : lineFeed ∉ record)
      (split : stream.undelivered = record ++ lineFeed :: next.undelivered)
      (bytes : next.bytes view = withoutCarriageReturn record)
      (size : view.size = (withoutCarriageReturn record).length) :
      Extraction stream (next, some view)

/-- No line feed stands between the read offset and the first one from the search offset
on. -/
theorem WellFormed.before (wellFormed : stream.WellFormed) {newlinePos : ℕ}
    (found : ∀ index, stream.searchOffset ≤ index → index < newlinePos →
      stream.buffer[index]? ≠ some lineFeed)
    (index : ℕ) (from_ : stream.readOffset ≤ index) (below : index < newlinePos) :
    stream.buffer[index]? ≠ some lineFeed := by
  by_cases searched : index < stream.searchOffset
  · exact wellFormed.searched index from_ searched
  · exact found index (Nat.not_lt.mp searched) below

theorem length_bytes (stream : ControlStreamBuffer) (view : LineView)
    (inside : view.start + view.size ≤ stream.buffer.length) :
    (stream.bytes view).length = view.size := by
  rw [bytes, List.length_take, List.length_drop]
  omega

/-- The view of a line without its carriage return. -/
theorem bytes_shortened (stream : ControlStreamBuffer) (view : LineView) (last : UInt8)
    (ends : (stream.bytes view).getLast? = some last)
    (inside : view.start + view.size ≤ stream.buffer.length) :
    stream.bytes { view with size := view.size - 1 } = (stream.bytes view).dropLast := by
  have whole := stream.length_bytes view inside
  have positive : 0 < view.size := by
    rw [← whole]
    exact List.length_pos_of_ne_nil fun empty => by simp [empty] at ends
  rw [List.dropLast_eq_take, whole, bytes, bytes, List.take_take,
    Nat.min_eq_left (Nat.sub_le view.size 1)]

/-- **A line that is extracted is the first of the unconsumed bytes**, without one carriage
return at its end. -/
theorem tryExtractLine_spec (wellFormed : stream.WellFormed) :
    Extraction stream stream.tryExtractLine := by
  unfold tryExtractLine
  split
  · next none =>
      refine .noLine fun member => ?_
      obtain ⟨offset, here⟩ := List.mem_iff_getElem?.mp member
      rw [undelivered, List.getElem?_drop] at here
      have inside : stream.readOffset + offset < stream.buffer.length :=
        (List.getElem?_eq_some_iff.mp here).choose
      exact wellFormed.before (fun index from_ _ => findNewline_none none index from_)
        (stream.readOffset + offset) (Nat.le_add_right _ _) (Nat.lt_succ_self _) here
  · next newlinePos found =>
      obtain ⟨from_, here, between⟩ := findNewline_some found
      have after : stream.readOffset ≤ newlinePos := Nat.le_trans wellFormed.ordered from_
      have inside : newlinePos < stream.buffer.length :=
        (List.getElem?_eq_some_iff.mp here).choose
      have within : stream.readOffset + (newlinePos - stream.readOffset) ≤ stream.buffer.length := by
        omega
      have length : (stream.bytes ⟨stream.readOffset, newlinePos - stream.readOffset⟩).length =
          newlinePos - stream.readOffset := stream.length_bytes _ within
      have whole : lineFeed ∉ stream.bytes ⟨stream.readOffset, newlinePos - stream.readOffset⟩ := by
        intro member
        obtain ⟨offset, there⟩ := List.mem_iff_getElem?.mp member
        have short : offset < newlinePos - stream.readOffset := by
          rw [← length]
          exact (List.getElem?_eq_some_iff.mp there).choose
        rw [bytes, List.getElem?_take_of_lt short, List.getElem?_drop] at there
        exact wellFormed.before between (stream.readOffset + offset) (Nat.le_add_right _ _)
          (by omega) there
      have split : stream.undelivered = stream.bytes ⟨stream.readOffset,
          newlinePos - stream.readOffset⟩ ++ lineFeed :: stream.buffer.drop (newlinePos + 1) := by
        have rest : stream.undelivered.drop (newlinePos - stream.readOffset) =
            lineFeed :: stream.buffer.drop (newlinePos + 1) := by
          rw [undelivered, List.drop_drop, Nat.add_sub_cancel' after,
            List.drop_eq_getElem_cons inside]
          rw [List.getElem?_eq_getElem inside] at here
          rw [Option.some.inj here]
        rw [← rest]
        exact (List.take_append_drop _ _).symm
      refine .line whole split ?_ ?_
      · split
        · next ends =>
            rw [withoutCarriageReturn, if_pos ends]
            exact stream.bytes_shortened _ _ ends within
        · next plain =>
            rw [withoutCarriageReturn, if_neg plain]
            rfl
      · split
        · next ends =>
            rw [withoutCarriageReturn, if_pos ends, List.length_dropLast, length]
        · next plain => rw [withoutCarriageReturn, if_neg plain, length]

theorem WellFormed.tryExtractLine (wellFormed : stream.WellFormed) :
    stream.tryExtractLine.1.WellFormed := by
  unfold ControlStreamBuffer.tryExtractLine
  split
  · next none =>
      refine ⟨Nat.le_trans wellFormed.ordered wellFormed.bounded, Nat.le_refl _, ?_⟩
      intro index from_ _
      exact wellFormed.before (fun index from_ _ => findNewline_none none index from_) index from_
        (Nat.lt_succ_self index)
  · next newlinePos found =>
      obtain ⟨-, here, -⟩ := findNewline_some found
      have inside : newlinePos < stream.buffer.length :=
        (List.getElem?_eq_some_iff.mp here).choose
      refine ⟨Nat.le_refl _, inside, ?_⟩
      intro index from_ below
      exact absurd below (Nat.not_lt.mpr from_)

end ControlStreamBuffer

end ModernSapi
