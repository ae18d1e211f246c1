import Mathlib

/-!
# Reading fixed-width values from a stream of bytes

An input stream holds the bytes not read yet, and is good until a read asks for more of
them than there are. A read fills a buffer that the caller provides: a short read fills
the front of it, spoils the stream and leaves the rest of the buffer as it was, and a
read from a spoilt stream leaves the whole buffer as it was (`Stream.fill`).

A `Layout` writes the values of a type as little-endian integers of a fixed width. The
readers are programs over the stream, and `Reads reader bytes value` says that the reader
takes exactly these bytes off a good stream, whatever follows them, and returns the value.
The rules `Reads.pure` and `Reads.bind` put readers together, `Reads.read` and
`Reads.readAll` are the calls a program makes, and `Reads.readCounted` is an array behind
its length.
-/

set_option autoImplicit false

namespace ByteStream

universe u

/-! ## Little-endian integers -/

/-- The lowest `width` bytes of an integer, the lowest first. -/
def littleEndian : ℕ → ℕ → List UInt8
  | 0, _ => []
  | width + 1, number => UInt8.ofNat number :: littleEndian width (number / 256)

/-- The integer that bytes spell, the lowest first. -/
def number : List UInt8 → ℕ
  | [] => 0
  | byte :: bytes => byte.toNat + 256 * number bytes

@[simp] theorem length_littleEndian (width value : ℕ) :
    (littleEndian width value).length = width := by
  induction width generalizing value with
  | zero => rfl
  | succ width ih => simp [littleEndian, ih]

theorem number_littleEndian {width value : ℕ} (fits : value < 256 ^ width) :
    number (littleEndian width value) = value := by
  induction width generalizing value with
  | zero =>
      have zero : value = 0 := by simpa using fits
      rw [zero]
      rfl
  | succ width ih =>
      have rest : value / 256 < 256 ^ width := by
        rw [Nat.div_lt_iff_lt_mul (by decide)]
        simpa [Nat.pow_succ] using fits
      have lowest : (UInt8.ofNat value).toNat = value % 256 := by simp
      rw [littleEndian, number, ih rest, lowest]
      omega

/-- How the values of a type are laid out: as integers of a fixed number of bytes. -/
structure Layout (α : Type u) where
  width : ℕ
  code : α → ℕ
  value : ℕ → α
  code_lt : ∀ item, code item < 256 ^ width
  value_code : ∀ item, value (code item) = item

namespace Layout

def uint8 : Layout UInt8 where
  width := 1
  code := UInt8.toNat
  value := UInt8.ofNat
  code_lt item := item.toNat_lt
  value_code _ := UInt8.ofNat_toNat

def uint16 : Layout UInt16 where
  width := 2
  code := UInt16.toNat
  value := UInt16.ofNat
  code_lt item := item.toNat_lt
  value_code _ := UInt16.ofNat_toNat

def uint32 : Layout UInt32 where
  width := 4
  code := UInt32.toNat
  value := UInt32.ofNat
  code_lt item := item.toNat_lt
  value_code _ := UInt32.ofNat_toNat

def uint64 : Layout UInt64 where
  width := 8
  code := UInt64.toNat
  value := UInt64.ofNat
  code_lt item := item.toNat_lt
  value_code _ := UInt64.ofNat_toNat

/-- Signed integers, as their two's complement. -/
def int32 : Layout Int32 where
  width := 4
  code item := item.toUInt32.toNat
  value code := (UInt32.ofNat code).toInt32
  code_lt item := item.toUInt32.toNat_lt
  value_code item := by simp

variable {α : Type u} (layout : Layout α)

def encode (item : α) : List UInt8 := littleEndian layout.width (layout.code item)

def decode (bytes : List UInt8) : α := layout.value (number bytes)

/-- The items of an array of values that lie back to back. -/
def decodeAll : ℕ → List UInt8 → List α
  | 0, _ => []
  | count + 1, bytes =>
      layout.decode (bytes.take layout.width) :: decodeAll count (bytes.drop layout.width)

@[simp] theorem length_encode (item : α) : (layout.encode item).length = layout.width :=
  length_littleEndian _ _

@[simp] theorem decode_encode (item : α) : layout.decode (layout.encode item) = item := by
  rw [decode, encode, number_littleEndian (layout.code_lt item), layout.value_code]

theorem length_flatMap_encode (items : List α) :
    (items.flatMap layout.encode).length = items.length * layout.width := by
  induction items with
  | nil => simp
  | cons item items ih =>
      rw [List.flatMap_cons, List.length_append, ih, length_encode, List.length_cons,
        Nat.succ_mul, Nat.add_comm]

theorem decodeAll_encode (items : List α) :
    layout.decodeAll items.length (items.flatMap layout.encode) = items := by
  induction items with
  | nil => rfl
  | cons item items ih =>
      have width : (layout.encode item).length = layout.width := layout.length_encode item
      rw [List.flatMap_cons, List.length_cons, decodeAll, List.take_left' width,
        List.drop_left' width, decode_encode, ih]

end Layout

/-! ## Streams and readers -/

/-- The bytes not read yet, and whether every read so far found all it asked for. -/
structure Stream where
  rest : List UInt8
  good : Bool

/-- Fills a buffer from the stream as far as it goes. -/
def Stream.fill (stream : Stream) (buffer : List UInt8) : List UInt8 × Stream :=
  if !stream.good then (buffer, stream)
  else if buffer.length ≤ stream.rest.length then
    (stream.rest.take buffer.length, ⟨stream.rest.drop buffer.length, true⟩)
  else (stream.rest ++ buffer.drop stream.rest.length, ⟨[], false⟩)

/-- A program that reads a stream. -/
abbrev Reader := StateM Stream

/-- Reads over a variable that holds `old`. -/
def read {α : Type} (layout : Layout α) (old : α) : Reader α := fun stream =>
  let (buffer, after) := stream.fill (layout.encode old)
  (layout.decode buffer, after)

/-- Reads over an array that holds `olds`, in one call. -/
def readAll {α : Type} (layout : Layout α) (olds : List α) : Reader (List α) := fun stream =>
  let (buffer, after) := stream.fill (olds.flatMap layout.encode)
  (layout.decodeAll olds.length buffer, after)

/-- Reads a 32-bit count, and then an array of so many items, over zeroes. -/
def readCounted {α : Type} (layout : Layout α) : Reader (List α) := do
  let count ← read .uint32 0
  if 0 < count then readAll layout (List.replicate count.toNat (layout.value 0))
  else return []

/-- A 32-bit count, and then so many items. The count of an array of 2^32 items or more
wraps around. -/
def Layout.encodeCounted {α : Type u} (layout : Layout α) (items : List α) : List UInt8 :=
  let count := UInt32.ofNat items.length
  Layout.uint32.encode count ++
    if 0 < count then (items.take count.toNat).flatMap layout.encode else []

/-- The reader takes exactly these bytes off a good stream and returns the value. -/
def Reads {α : Type} (reader : Reader α) (bytes : List UInt8) (value : α) : Prop :=
  ∀ rest, reader ⟨bytes ++ rest, true⟩ = (value, ⟨rest, true⟩)

variable {α β : Type} {reader : Reader α} {next : α → Reader β} {bytes more : List UInt8}
  {value : α} {result : β}

theorem pure_apply (value : α) (stream : Stream) :
    (pure value : Reader α) stream = (value, stream) := rfl

theorem bind_apply (reader : Reader α) (next : α → Reader β) (stream : Stream) :
    (reader >>= next) stream = next (reader stream).1 (reader stream).2 := rfl

theorem fill_append {buffer : List UInt8} (same : buffer.length = bytes.length)
    (rest : List UInt8) :
    Stream.fill ⟨bytes ++ rest, true⟩ buffer = (bytes, ⟨rest, true⟩) := by
  have enough : buffer.length ≤ (bytes ++ rest).length := by
    rw [List.length_append]
    omega
  simp only [Stream.fill, Bool.not_true, Bool.false_eq_true, if_false, if_pos enough,
    List.take_left' same.symm, List.drop_left' same.symm]

namespace Reads

theorem pure (value : α) : Reads (pure value) [] value := by
  intro rest
  rfl

/-- **The rule of sequence.** What the second reader does may depend on what the first
returned. -/
theorem bind (first : Reads reader bytes value) (second : Reads (next value) more result) :
    Reads (reader >>= next) (bytes ++ more) result := by
  intro rest
  rw [bind_apply, List.append_assoc, first]
  exact second rest

/-- What is computed after the last read. -/
theorem bind_nil (first : Reads reader bytes value) (second : Reads (next value) [] result) :
    Reads (reader >>= next) bytes result := by
  have whole := first.bind second
  rwa [List.append_nil] at whole

theorem read (layout : Layout α) (old item : α) :
    Reads (read layout old) (layout.encode item) item := by
  intro rest
  have same : (layout.encode old).length = (layout.encode item).length := by simp
  simp only [ByteStream.read, fill_append same, Layout.decode_encode]

theorem readAll (layout : Layout α) {olds items : List α} (same : olds.length = items.length) :
    Reads (readAll layout olds) (items.flatMap layout.encode) items := by
  intro rest
  have width : (olds.flatMap layout.encode).length = (items.flatMap layout.encode).length := by
    rw [layout.length_flatMap_encode, layout.length_flatMap_encode, same]
  simp only [ByteStream.readAll, fill_append width, same, Layout.decodeAll_encode]

/-- A count below 2^32 is kept by the cast. -/
theorem toNat_count {items : List α} (short : items.length < 2 ^ 32) :
    (UInt32.ofNat items.length).toNat = items.length :=
  UInt32.toNat_ofNat_of_lt' short

/-- An array of fewer than 2^32 items. -/
theorem readCounted (layout : Layout α) {items : List α} (short : items.length < 2 ^ 32) :
    Reads (readCounted layout) (layout.encodeCounted items) items := by
  have count := toNat_count short
  refine Reads.bind (Reads.read .uint32 0 _) ?_
  by_cases some : 0 < UInt32.ofNat items.length
  · simp only [if_pos some, count, List.take_length]
    exact Reads.readAll layout (by simp)
  · have empty : items = [] := by
      have zero : ¬ 0 < (UInt32.ofNat items.length).toNat := by
        simpa [UInt32.lt_iff_toNat_lt] using some
      rw [count] at zero
      exact List.eq_nil_of_length_eq_zero (by omega)
    simp only [if_neg some]
    rw [empty]
    exact Reads.pure []

end Reads

end ByteStream
