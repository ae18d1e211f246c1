import ModernSapi.Library.Machine
import ModernSapi.Library.Records
import ModernSapi.Protocol.ControlStreamBuffer
import ModernSapi.Worker.Context

/-!
# Reading control messages

`ReadControlMessage` takes bytes from the control pipe until the buffer holds a line. It may
give up in between, when its time is over or the pipe fails, and the next call goes on with
what the buffer holds. The steps here are those of the one thread that reads: a look for a
line, a read of the pipe, and the end of a call with the compaction that belongs to it.

`control_framing` says that the lines it returns are those of the stream, in order, however
the stream is cut into reads and the reads into calls.
-/

set_option autoImplicit false

namespace ModernSapi

open Interleaving Records

/-- Where a call of `ReadControlMessage` stands. -/
inductive ControlCall where
  | idle
  | extracting
  | reading
  | extracted (line : LineView)
  deriving DecidableEq, Repr

/-- The control side of a `PipeClient`. -/
structure ControlReader where
  stream : ControlStreamBuffer := {}
  call : ControlCall := .idle
  deriving DecidableEq, Repr

/-- What is seen of the reader. A line is returned with `S_OK`, with `S_FALSE` when it is
empty, or with `E_FAIL` when it is no JSON. -/
inductive ReadObservation where
  | bytesRead (chunk : List UInt8)
  | returned (line : List UInt8) (result : HResult)
  | timedOut
  | readFailed
  | overCapacity
  | tooLong (line : List UInt8)
  deriving DecidableEq, Repr

inductive ReadAction where
  | readControlMessage
  | tryExtractLine
  | bytesRead (chunk : List UInt8)
  | timesOut
  | readFails
  | finish (parsed : Bool)
  deriving DecidableEq, Repr

/-- The bytes one read may give. -/
def controlChunkBytes : ℕ := 4096

def ControlStreamBuffer.compactControlBuffer (stream : ControlStreamBuffer) :
    ControlStreamBuffer :=
  if stream.readOffset = stream.buffer.length ∨ 4096 ≤ stream.readOffset then stream.compact
  else stream

namespace ControlReader

/-- The condition of the loop, and the check of the capacity when it holds. -/
def tryExtractLine (reader : ControlReader) : ControlReader × List ReadObservation :=
  match reader.stream.tryExtractLine with
  | (stream, some line) => ({ stream, call := .extracted line }, [])
  | (stream, none) =>
      if stream.isOverCapacity then ({ stream, call := .idle }, [.overCapacity])
      else ({ stream, call := .reading }, [])

/-- What a call does with the line it has extracted. -/
def finish (reader : ControlReader) (line : LineView) (parsed : Bool) :
    ControlReader × List ReadObservation :=
  let record := reader.stream.bytes line
  if ControlStreamBuffer.maxRecordBytes < line.size then
    ({ reader with call := .idle }, [.tooLong record])
  else if line.size = 0 then
    ({ stream := reader.stream.compactControlBuffer, call := .idle }, [.returned record .sFalse])
  else
    ({ stream := reader.stream.compactControlBuffer, call := .idle },
      [.returned record (if parsed then .sOk else .eFail)])

def step (reader : ControlReader) (action : ReadAction) :
    Option (ControlReader × List ReadObservation) :=
  match reader.call, action with
  | .idle, .readControlMessage => some ({ reader with call := .extracting }, [])
  | .extracting, .tryExtractLine => some reader.tryExtractLine
  | .reading, .bytesRead chunk =>
      if chunk ≠ [] ∧ chunk.length ≤ controlChunkBytes then
        some ({ stream := reader.stream.append chunk, call := .extracting }, [.bytesRead chunk])
      else none
  | .reading, .timesOut => some ({ reader with call := .idle }, [.timedOut])
  | .reading, .readFails => some ({ reader with call := .idle }, [.readFailed])
  | .extracted line, .finish parsed => some (reader.finish line parsed)
  | _, _ => none

/-- The line a call has extracted and not returned yet. -/
def held (reader : ControlReader) : List (List UInt8) :=
  match reader.call with
  | .extracted line => [reader.stream.bytes line]
  | _ => []

end ControlReader

/-- The reader of one connection. -/
def controlReader : Machine ControlReader ReadAction ReadObservation where
  init reader := reader = {}
  step := ControlReader.step

/-! ## What is received and what is returned -/

/-- The byte stream. -/
def received (trace : List ReadObservation) : List UInt8 :=
  trace.flatMap fun
    | .bytesRead chunk => chunk
    | _ => []

def returnedLines (trace : List ReadObservation) : List (List UInt8) :=
  trace.filterMap fun
    | .returned line _ => some line
    | _ => none

@[simp] theorem received_append (trace events : List ReadObservation) :
    received (trace ++ events) = received trace ++ received events := List.flatMap_append

@[simp] theorem returnedLines_append (trace events : List ReadObservation) :
    returnedLines (trace ++ events) = returnedLines trace ++ returnedLines events :=
  List.filterMap_append

/-! ## The cases of a step -/

/-- The cases of a step of the reader. -/
inductive ReadStep (reader : ControlReader) :
    ReadAction → ControlReader → List ReadObservation → Prop where
  | called (idle : reader.call = .idle) :
      ReadStep reader .readControlMessage { reader with call := .extracting } []
  | lineFound {stream : ControlStreamBuffer} {line : LineView} (here : reader.call = .extracting)
      (found : reader.stream.tryExtractLine = (stream, some line)) :
      ReadStep reader .tryExtractLine { stream, call := .extracted line } []
  | overCapacity {stream : ControlStreamBuffer} (here : reader.call = .extracting)
      (noLine : reader.stream.tryExtractLine = (stream, none))
      (full : stream.isOverCapacity = true) :
      ReadStep reader .tryExtractLine { stream, call := .idle } [.overCapacity]
  | noLine {stream : ControlStreamBuffer} (here : reader.call = .extracting)
      (noLine : reader.stream.tryExtractLine = (stream, none)) :
      ReadStep reader .tryExtractLine { stream, call := .reading } []
  | bytesRead {chunk : List UInt8} (here : reader.call = .reading) :
      ReadStep reader (.bytesRead chunk)
        { stream := reader.stream.append chunk, call := .extracting } [.bytesRead chunk]
  | timedOut (here : reader.call = .reading) :
      ReadStep reader .timesOut { reader with call := .idle } [.timedOut]
  | readFailed (here : reader.call = .reading) :
      ReadStep reader .readFails { reader with call := .idle } [.readFailed]
  | tooLong {line : LineView} {parsed : Bool} (here : reader.call = .extracted line)
      (long : ControlStreamBuffer.maxRecordBytes < line.size) :
      ReadStep reader (.finish parsed) { reader with call := .idle }
        [.tooLong (reader.stream.bytes line)]
  | returned {line : LineView} {parsed : Bool} {result : HResult}
      (here : reader.call = .extracted line) :
      ReadStep reader (.finish parsed)
        { stream := reader.stream.compactControlBuffer, call := .idle }
        [.returned (reader.stream.bytes line) result]

section Spec

variable {reader next : ControlReader} {action : ReadAction} {events : List ReadObservation}

/-- **Every step is one of the listed cases.** -/
theorem readStep_spec (taken : reader.step action = some (next, events)) :
    ReadStep reader action next events := by
  unfold ControlReader.step at taken
  split at taken
  · next idle =>
      cases taken
      exact .called idle
  · next here =>
      unfold ControlReader.tryExtractLine at taken
      split at taken
      · next found =>
          cases taken
          exact .lineFound here found
      · next noLine =>
          split at taken
          · next full =>
              cases taken
              exact .overCapacity here noLine full
          · cases taken
            exact .noLine here noLine
  · next here =>
      split at taken
      · cases taken
        exact .bytesRead here
      · cases taken
  · next here =>
      cases taken
      exact .timedOut here
  · next here =>
      cases taken
      exact .readFailed here
  · next here =>
      unfold ControlReader.finish at taken
      split at taken
      · next long =>
          cases taken
          exact .tooLong here long
      · split at taken
        · cases taken
          exact .returned here
        · cases taken
          exact .returned here
  · cases taken

end Spec

/-! ## The invariant -/

theorem length_withoutCarriageReturn_le (line : List UInt8) :
    (withoutCarriageReturn line).length ≤ line.length := by
  unfold withoutCarriageReturn
  split
  · rw [List.length_dropLast]
    exact Nat.sub_le _ _
  · exact Nat.le_refl _

theorem ControlStreamBuffer.undelivered_compactControlBuffer (stream : ControlStreamBuffer) :
    stream.compactControlBuffer.undelivered = stream.undelivered := by
  unfold compactControlBuffer
  split
  · exact stream.undelivered_compact
  · rfl

theorem ControlStreamBuffer.WellFormed.compactControlBuffer {stream : ControlStreamBuffer}
    (wellFormed : stream.WellFormed) : stream.compactControlBuffer.WellFormed := by
  unfold ControlStreamBuffer.compactControlBuffer
  split
  · exact wellFormed.compact
  · exact wellFormed

/-- The call fails because a record is too long for the buffer. -/
def ReadObservation.isOverflow : ReadObservation → Bool
  | .overCapacity | .tooLong _ => true
  | _ => false

/-- What holds in every state of a reader: the stream is the lines that were extracted,
each with its line feed, and what is not delivered yet. -/
structure Framing (trace : List ReadObservation) (reader : ControlReader) : Prop where
  wellFormed : reader.stream.WellFormed
  inOrder : ∃ records : List (List UInt8), (∀ record ∈ records, lineFeed ∉ record) ∧
    received trace = terminated lineFeed records ++ reader.stream.undelivered ∧
    returnedLines trace ++ reader.held = records.map withoutCarriageReturn
  sized : ∀ line, reader.call = .extracted line →
    line.size = (reader.stream.bytes line).length
  waiting : reader.call = .reading → lineFeed ∉ reader.stream.undelivered

namespace Framing

variable {trace events : List ReadObservation} {reader next : ControlReader} {action : ReadAction}

theorem initial : Framing [] {} where
  wellFormed := .empty
  inOrder := ⟨[], nofun, rfl, rfl⟩
  sized := nofun
  waiting := nofun

/-- A step that leaves the stream and returns no line. -/
theorem silent (framing : Framing trace reader) {stream : ControlStreamBuffer}
    {call : ControlCall} (wellFormed : stream.WellFormed)
    (same : stream.undelivered = reader.stream.undelivered) (nothing : received events = [])
    (noLine : returnedLines events = []) (before : reader.held = [])
    (after : ∀ line, call ≠ .extracted line)
    (waiting : call = .reading → lineFeed ∉ stream.undelivered) :
    Framing (trace ++ events) { stream, call } := by
  obtain ⟨records, whole, split, lines⟩ := framing.inOrder
  have held : ControlReader.held { stream, call } = [] := by
    cases call with
    | extracted line => exact absurd rfl (after line)
    | _ => rfl
  refine ⟨wellFormed, ⟨records, whole, ?_, ?_⟩, fun line here => absurd here (after line), waiting⟩
  · rw [received_append, nothing, List.append_nil, same]
    exact split
  · rw [returnedLines_append, noLine, List.append_nil, held, ← before]
    exact lines

/-- No line is longer than its record, and no part of a record that is waited for. -/
theorem noOverflow (framing : Framing trace reader)
    (within : RecordsWithin lineFeed ControlStreamBuffer.maxRecordBytes (received trace))
    (taken : ReadStep reader action next events) :
    ∀ event ∈ events, event.isOverflow = false := by
  intro event member
  obtain ⟨records, whole, split, lines⟩ := framing.inOrder
  rw [split] at within
  obtain ⟨ended, open_⟩ := within.of_terminated whole
  cases taken with
  | called | lineFound | noLine => cases member
  | overCapacity here noLine full =>
      have looked := ControlStreamBuffer.tryExtractLine_spec framing.wellFormed
      rw [noLine] at looked
      cases looked with
      | noLine partly =>
          have short := open_ reader.stream.undelivered
            (by rw [List.splitOn_eq_singleton partly]; exact List.mem_singleton_self _)
          rw [ControlStreamBuffer.length_undelivered] at short
          simp only [ControlStreamBuffer.isOverCapacity, decide_eq_true_eq] at full
          exact absurd full (Nat.not_lt.mpr short)
  | @tooLong line _ here long =>
      have held : reader.stream.bytes line ∈ records.map withoutCarriageReturn := by
        rw [← lines, ControlReader.held, here]
        exact List.mem_append_right _ (List.mem_singleton_self _)
      obtain ⟨record, found, same⟩ := List.mem_map.mp held
      have short := Nat.le_trans (length_withoutCarriageReturn_le record) (ended record found)
      rw [same, ← framing.sized line here] at short
      exact absurd long (Nat.not_lt.mpr short)
  | bytesRead | timedOut | readFailed | returned =>
      rw [List.mem_singleton.mp member]
      rfl

/-- **Every step keeps the invariant**, as long as no call fails for the length of a
record. -/
theorem step_of_noOverflow (framing : Framing trace reader)
    (taken : ReadStep reader action next events)
    (allowed : ∀ event ∈ events, event.isOverflow = false) : Framing (trace ++ events) next := by
  have holdsNothing {call : ControlCall} (here : reader.call = call)
      (other : ∀ line, call ≠ .extracted line) : reader.held = [] := by
    unfold ControlReader.held
    split
    · next line there => exact absurd (here.symm.trans there) (other line)
    · rfl
  have looked := ControlStreamBuffer.tryExtractLine_spec framing.wellFormed
  have kept := framing.wellFormed.tryExtractLine
  cases taken with
  | called idle =>
      exact framing.silent framing.wellFormed rfl rfl rfl (holdsNothing idle nofun) nofun nofun
  | @lineFound stream line here found =>
      rw [found] at looked kept
      cases looked with
      | @line _ _ record whole split bytes size =>
          obtain ⟨records, others, before, lines⟩ := framing.inOrder
          refine ⟨kept, ⟨records ++ [record], ?_, ?_, ?_⟩, ?_, nofun⟩
          · intro other member
            rcases List.mem_append.mp member with member | member
            · exact others other member
            · rw [List.mem_singleton.mp member]
              exact whole
          · rw [List.append_nil, terminated_concat, ← split]
            exact before
          · rw [holdsNothing here nofun, List.append_nil] at lines
            rw [List.append_nil, List.map_append, ← lines]
            exact congrArg (fun line => returnedLines trace ++ [line]) bytes
          · rintro _ ⟨⟩
            rw [size, bytes]
  | overCapacity here noLine =>
      rw [noLine] at looked kept
      cases looked
      exact framing.silent kept rfl rfl rfl (holdsNothing here nofun) nofun nofun
  | noLine here noLine =>
      rw [noLine] at looked kept
      cases looked with
      | noLine partly =>
          exact framing.silent kept rfl rfl rfl (holdsNothing here nofun) nofun fun _ => partly
  | @bytesRead chunk here =>
      obtain ⟨records, whole, before, lines⟩ := framing.inOrder
      refine ⟨framing.wellFormed.append chunk, ⟨records, whole, ?_, ?_⟩, nofun, nofun⟩
      · have read : received [.bytesRead chunk] = chunk := List.append_nil chunk
        rw [received_append, read, before,
          ControlStreamBuffer.undelivered_append framing.wellFormed, List.append_assoc]
      · rw [holdsNothing here nofun] at lines
        rw [returnedLines_append, ← lines, List.append_assoc]
        rfl
  | timedOut here | readFailed here =>
      exact framing.silent framing.wellFormed rfl rfl rfl (holdsNothing here nofun) nofun nofun
  | tooLong =>
      cases allowed _ (List.mem_singleton_self _)
  | @returned line parsed result here =>
      obtain ⟨records, whole, before, lines⟩ := framing.inOrder
      refine ⟨framing.wellFormed.compactControlBuffer, ⟨records, whole, ?_, ?_⟩, nofun, nofun⟩
      · rw [received_append, ControlStreamBuffer.undelivered_compactControlBuffer]
        exact (List.append_nil _).trans before
      · have held : reader.held = [reader.stream.bytes line] := by
          rw [ControlReader.held, here]
        rw [returnedLines_append, ← lines, held]
        exact List.append_nil _

/-- It does so as long as no record is longer than the buffer allows. -/
theorem step (framing : Framing trace reader)
    (within : RecordsWithin lineFeed ControlStreamBuffer.maxRecordBytes (received trace))
    (taken : ReadStep reader action next events) : Framing (trace ++ events) next :=
  framing.step_of_noOverflow taken (framing.noOverflow within taken)

/-- A reader that waits for the rest of a line has returned every line before it. -/
theorem returned_of_reading (framing : Framing trace reader) (reading : reader.call = .reading) :
    returnedLines trace =
      ((received trace).splitOn lineFeed).dropLast.map withoutCarriageReturn := by
  obtain ⟨records, whole, split, lines⟩ := framing.inOrder
  have last := List.splitOn_eq_singleton (framing.waiting reading)
  have nothing : reader.held = [] := by
    rw [ControlReader.held, reading]
  rw [nothing, List.append_nil] at lines
  rw [split, splitOn_terminated whole, last, List.dropLast_concat]
  exact lines

end Framing

/-! ## The result -/

/-- What a reader has made of the stream it has received: the lines of the stream up to
those of the bytes it retains, each without one carriage return, are the lines it has
returned, or holds. No call has failed for the length of a record, and a call that waits has
nothing more to return. -/
structure FramedFaithfully (trace : List ReadObservation) (reader : ControlReader) : Prop where
  inOrder : ∃ records, (received trace).splitOn lineFeed =
      records ++ reader.stream.undelivered.splitOn lineFeed ∧
    returnedLines trace ++ reader.held = records.map withoutCarriageReturn
  noOverflow : ∀ event ∈ trace, event.isOverflow = false
  complete : reader.call = .reading → returnedLines trace =
    ((received trace).splitOn lineFeed).dropLast.map withoutCarriageReturn

/-- The offsets stay in order, whatever the records are. -/
theorem ReadStep.wellFormed {reader next : ControlReader} {action : ReadAction}
    {events : List ReadObservation} (taken : ReadStep reader action next events)
    (wellFormed : reader.stream.WellFormed) : next.stream.WellFormed := by
  have kept := wellFormed.tryExtractLine
  cases taken with
  | lineFound _ found | overCapacity _ found | noLine _ found =>
      rw [found] at kept
      exact kept
  | @bytesRead chunk => exact wellFormed.append chunk
  | called | timedOut | readFailed | tooLong => exact wellFormed
  | returned => exact wellFormed.compactControlBuffer

/-- **The lines a reader returns are the lines of the stream**, in order and each once,
however the stream is cut into reads and the reads into calls, as long as no record is longer
than the buffer allows. No line feed is ever passed over. -/
theorem control_framing {trace : List ReadObservation} {reader : ControlReader}
    (reached : controlReader.Reaches Machine.anyStep trace reader) :
    reader.stream.WellFormed ∧
      (RecordsWithin lineFeed ControlStreamBuffer.maxRecordBytes (received trace) →
        FramedFaithfully trace reader) := by
  have framed : RecordsWithin lineFeed ControlStreamBuffer.maxRecordBytes (received trace) →
      Framing trace reader ∧ ∀ event ∈ trace, event.isOverflow = false := by
    refine reached.induct (motive := fun trace reader =>
      RecordsWithin lineFeed ControlStreamBuffer.maxRecordBytes (received trace) →
        Framing trace reader ∧ ∀ event ∈ trace, event.isOverflow = false) ?_ ?_
    · rintro _ rfl -
      exact ⟨.initial, nofun⟩
    · intro trace events _ _ _ _ before _ taken within
      rw [received_append] at within
      have earlier := within.of_append
      obtain ⟨framing, past⟩ := before earlier
      have spec := readStep_spec taken
      refine ⟨framing.step earlier spec, ?_⟩
      intro event member
      rcases List.mem_append.mp member with member | member
      · exact past event member
      · exact framing.noOverflow earlier spec event member
  constructor
  · refine reached.induct (motive := fun _ reader => reader.stream.WellFormed) ?_ ?_
    · rintro _ rfl
      exact .empty
    · intro _ _ _ _ _ _ before _ taken
      exact (readStep_spec taken).wellFormed before
  · intro within
    obtain ⟨framing, noOverflow⟩ := framed within
    refine ⟨?_, noOverflow, framing.returned_of_reading⟩
    obtain ⟨records, whole, split, lines⟩ := framing.inOrder
    refine ⟨records, ?_, lines⟩
    rw [split]
    exact splitOn_terminated whole _

/-- A line and a half, with the line's carriage return and line feed in different reads and
a call that times out in between. -/
def straddledReads : List ReadAction :=
  [.readControlMessage, .tryExtractLine, .bytesRead [123, 125, 13], .tryExtractLine, .timesOut,
    .readControlMessage, .tryExtractLine, .bytesRead [10, 91], .tryExtractLine, .finish true,
    .readControlMessage, .tryExtractLine]

theorem control_framing_straddled :
    returnedLines (controlReader.emitted {} straddledReads) = [[123, 125]] ∧
      FramedFaithfully (controlReader.emitted {} straddledReads)
        (controlReader.finalState {} straddledReads) := by
  have run := controlReader.run_finalState {} straddledReads (Machine.along_anyStep _ _) (by decide)
  exact ⟨by decide, (control_framing ⟨{}, rfl, run⟩).2 (by decide)⟩

end ModernSapi
