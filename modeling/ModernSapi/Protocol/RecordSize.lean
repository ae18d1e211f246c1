import ModernSapi.Protocol.ControlReader

/-!
# The size of a control record

A record may be as long as `MaxRecordBytes`, its line feed and one carriage return before it
not counted. The reader checks this twice: on the bytes it retains each time these hold no
line, and on each line it has extracted. The first check counts the carriage return.

* `RejectedAt.verdict`: a record that a reader rejects is too long, unless a read ends
  between the carriage return and the line feed of a record of the greatest length.
* `record_size_iff`: whether the verdict of a reader is that of the stream depends on that
  alone.
-/

set_option autoImplicit false

namespace ModernSapi

open Interleaving Records

/-! ## The verdict of a stream -/

/-- The content of a record is no longer than the limit. -/
def Fits (content : List UInt8) : Prop :=
  content.length ≤ ControlStreamBuffer.maxRecordBytes

instance (content : List UInt8) : Decidable (Fits content) :=
  inferInstanceAs (Decidable (_ ≤ _))

/-- The contents of the records of a stream, without line feed and carriage return. -/
def contents (stream : List UInt8) : List (List UInt8) :=
  (ended lineFeed stream).map withoutCarriageReturn

/-- The contents before the first one that is too long. -/
def acceptable (stream : List UInt8) : List (List UInt8) :=
  (contents stream).takeWhile fun content => decide (Fits content)

/-- A record of the stream is too long, or what follows its records is. -/
def TooLong (stream : List UInt8) : Prop :=
  acceptable stream ≠ contents stream ∨ ¬Fits (unended lineFeed stream)

instance (stream : List UInt8) : Decidable (TooLong stream) :=
  inferInstanceAs (Decidable (_ ∨ _))

/-! ## The verdict of a reader -/

/-- The trace up to the first record that is rejected for its length. -/
def beforeOverflow (trace : List ReadObservation) : List ReadObservation :=
  trace.takeWhile fun event => !event.isOverflow

/-- A call fails with `ERROR_BUFFER_OVERFLOW`. -/
def Rejects (trace : List ReadObservation) : Prop :=
  ∃ event ∈ trace, event.isOverflow = true

instance (trace : List ReadObservation) : Decidable (Rejects trace) :=
  inferInstanceAs (Decidable (∃ event ∈ trace, event.isOverflow = true))

/-- The records that are accepted before one is rejected. -/
def acceptedRecords (trace : List ReadObservation) : List (List UInt8) :=
  returnedLines (beforeOverflow trace)

/-- The reader has come to a verdict on the stream: it has rejected a record, or it has taken
the whole stream and waits for more. -/
def Settled (stream : List UInt8) (trace : List ReadObservation) (reader : ControlReader) :
    Prop :=
  Rejects trace ∨ reader.call = .reading ∧ received trace = stream

instance (stream : List UInt8) (trace : List ReadObservation) (reader : ControlReader) :
    Decidable (Settled stream trace reader) :=
  inferInstanceAs (Decidable (_ ∨ _))

/-- The bytes that have been received when a read ends. -/
def EndsRead (trace : List ReadObservation) (bytes : List UInt8) : Prop :=
  ∃ before chunk, before ++ [.bytesRead chunk] <+: trace ∧
    received (before ++ [.bytesRead chunk]) = bytes

/-- The bytes end between the carriage return and the line feed of a record of the greatest
length, and no record before it is too long. -/
def Straddles (stream bytes : List UInt8) : Prop :=
  ∃ records content rest, (∀ record ∈ records, lineFeed ∉ record) ∧
    (∀ record ∈ records, Fits (withoutCarriageReturn record)) ∧ lineFeed ∉ content ∧
    content.length = ControlStreamBuffer.maxRecordBytes ∧
    bytes = terminated lineFeed records ++ (content ++ [carriageReturn]) ∧
    stream = bytes ++ lineFeed :: rest

/-- A read ends there. -/
def StraddledRead (stream : List UInt8) (trace : List ReadObservation) : Prop :=
  ∃ bytes, EndsRead trace bytes ∧ Straddles stream bytes

/-! ## Carriage returns -/

section CarriageReturn

variable {content partly first : List UInt8}

theorem withoutCarriageReturn_concat (content : List UInt8) :
    withoutCarriageReturn (content ++ [carriageReturn]) = content := by
  rw [withoutCarriageReturn, if_pos List.getLast?_concat, List.dropLast_concat]

/-- A record that fits although a part of it does not is that part, and ends with a carriage
return. -/
theorem straddled_of_fits (fits : Fits (withoutCarriageReturn (partly ++ first)))
    (long : ¬Fits partly) :
    first = [] ∧ ∃ content, partly = content ++ [carriageReturn] ∧
      content.length = ControlStreamBuffer.maxRecordBytes := by
  unfold Fits at fits long
  unfold withoutCarriageReturn at fits
  split at fits
  · next ends =>
      rw [List.length_dropLast, List.length_append] at fits
      have nothing : first = [] := by
        apply List.eq_nil_of_length_eq_zero
        omega
      subst nothing
      rw [List.append_nil] at ends
      obtain ⟨content, rfl⟩ := List.getLast?_eq_some_iff.mp ends
      refine ⟨rfl, content, rfl, ?_⟩
      rw [List.length_append, List.length_singleton] at fits long
      rw [List.length_nil] at fits
      omega
  · rw [List.length_append] at fits
    omega

end CarriageReturn

/-! ## Contents -/

section Contents

variable {records : List (List UInt8)} {rest stream more : List UInt8}

theorem contents_terminated (whole : ∀ record ∈ records, lineFeed ∉ record) :
    contents (terminated lineFeed records ++ rest) =
      records.map withoutCarriageReturn ++ contents rest := by
  rw [contents, ended_terminated whole, List.map_append]
  rfl

theorem contents_isPrefix (part : stream <+: more) : contents stream <+: contents more := by
  obtain ⟨rest, rfl⟩ := part
  exact (ended_append stream rest).map _

/-- Records that fit are accepted before what follows them. -/
theorem acceptable_terminated (whole : ∀ record ∈ records, lineFeed ∉ record)
    (fits : ∀ record ∈ records, Fits (withoutCarriageReturn record)) :
    acceptable (terminated lineFeed records ++ rest) =
      records.map withoutCarriageReturn ++ acceptable rest := by
  rw [acceptable, contents_terminated whole, List.takeWhile_append_of_pos]
  · rfl
  · intro content member
    obtain ⟨record, here, rfl⟩ := List.mem_map.mp member
    exact decide_eq_true (fits record here)

/-- What follows records that fit decides whether the stream is too long. -/
theorem tooLong_terminated (whole : ∀ record ∈ records, lineFeed ∉ record)
    (fits : ∀ record ∈ records, Fits (withoutCarriageReturn record)) :
    TooLong (terminated lineFeed records ++ rest) ↔ TooLong rest := by
  unfold TooLong
  rw [acceptable_terminated whole fits, contents_terminated whole, unended_terminated whole]
  exact or_congr_left (not_congr (List.append_right_inj _))

/-- No record is accepted when the first is too long. -/
theorem verdict_of_long {record : List UInt8} (whole : lineFeed ∉ record)
    (long : ¬Fits (withoutCarriageReturn record)) (rest : List UInt8) :
    acceptable (record ++ lineFeed :: rest) = [] ∧ TooLong (record ++ lineFeed :: rest) := by
  have first : contents (record ++ lineFeed :: rest) =
      withoutCarriageReturn record :: contents rest := by
    rw [contents, ended_cons whole]
    rfl
  have nothing : acceptable (record ++ lineFeed :: rest) = [] := by
    rw [acceptable, first, List.takeWhile_cons_of_neg]
    rw [decide_eq_true_eq]
    exact long
  refine ⟨nothing, .inl ?_⟩
  rw [nothing, first]
  exact List.cons_ne_nil _ _ ∘ Eq.symm

/-- A stream without a line feed. -/
theorem verdict_of_partly (partly : lineFeed ∉ stream) :
    acceptable stream = [] ∧ (TooLong stream ↔ ¬Fits stream) := by
  have nothing : contents stream = [] := by
    rw [contents, ended_of_not_mem partly]
    rfl
  have none : acceptable stream = [] := by
    rw [acceptable, nothing]
    rfl
  refine ⟨none, ?_⟩
  rw [TooLong, none, nothing, unended_of_not_mem partly]
  simp only [ne_eq, not_true_eq_false, false_or]

end Contents

/-! ## What is rejected -/

/-- The bytes a reader has received when it rejects a record, and the lines it has returned:
the record is ended and too long, or the part of it that has been received is. -/
inductive RejectedAt (bytes : List UInt8) (lines : List (List UInt8)) : Prop where
  | ended {records : List (List UInt8)} {record rest : List UInt8}
      (whole : ∀ record ∈ records, lineFeed ∉ record)
      (fits : ∀ record ∈ records, Fits (withoutCarriageReturn record))
      (recordWhole : lineFeed ∉ record) (long : ¬Fits (withoutCarriageReturn record))
      (split : bytes = terminated lineFeed records ++ (record ++ lineFeed :: rest))
      (returned : lines = records.map withoutCarriageReturn) : RejectedAt bytes lines
  | unended {records : List (List UInt8)} {partly : List UInt8}
      (whole : ∀ record ∈ records, lineFeed ∉ record)
      (fits : ∀ record ∈ records, Fits (withoutCarriageReturn record))
      (open_ : lineFeed ∉ partly) (long : ¬Fits partly)
      (split : bytes = terminated lineFeed records ++ partly)
      (returned : lines = records.map withoutCarriageReturn) : RejectedAt bytes lines

section Rejected

variable {stream bytes : List UInt8} {lines : List (List UInt8)}

/-- **What is rejected is too long**, or the bytes that have been received end between a
carriage return and its line feed. -/
theorem RejectedAt.verdict (rejected : RejectedAt bytes lines) (part : bytes <+: stream) :
    lines = acceptable stream ∧ TooLong stream ∨ Straddles stream bytes := by
  obtain ⟨more, rfl⟩ := part
  cases rejected with
  | @ended records record rest whole fits recordWhole long split returned =>
      left
      obtain ⟨nothing, tooLong⟩ := verdict_of_long recordWhole long (rest ++ more)
      have stream : bytes ++ more =
          terminated lineFeed records ++ (record ++ lineFeed :: (rest ++ more)) := by
        rw [split]
        simp only [List.append_assoc, List.cons_append]
      rw [stream, acceptable_terminated whole fits, nothing, List.append_nil]
      exact ⟨returned, (tooLong_terminated whole fits).mpr tooLong⟩
  | @unended records partly whole fits open_ long split returned =>
      rw [split, List.append_assoc, acceptable_terminated whole fits,
        tooLong_terminated whole fits, returned]
      by_cases goesOn : lineFeed ∈ more
      · obtain ⟨first, later, rfl, firstWhole⟩ := List.eq_append_cons_of_mem goesOn
        have recordWhole : lineFeed ∉ partly ++ first := by
          rw [List.mem_append, not_or]
          exact ⟨open_, firstWhole⟩
        by_cases recordFits : Fits (withoutCarriageReturn (partly ++ first))
        · right
          obtain ⟨rfl, content, rfl, greatest⟩ := straddled_of_fits recordFits long
          refine ⟨records, content, later, whole, fits, ?_, greatest, rfl, ?_⟩
          · intro inside
            exact open_ (List.mem_append_left _ inside)
          · simp only [List.append_assoc, List.nil_append]
        · left
          obtain ⟨nothing, tooLong⟩ := verdict_of_long recordWhole recordFits later
          rw [← List.append_assoc, nothing, List.append_nil]
          exact ⟨rfl, tooLong⟩
      · left
        have partWhole : lineFeed ∉ partly ++ more := by
          rw [List.mem_append, not_or]
          exact ⟨open_, goesOn⟩
        obtain ⟨nothing, tooLong⟩ := verdict_of_partly partWhole
        rw [nothing, List.append_nil, tooLong]
        refine ⟨rfl, fun short => long ?_⟩
        unfold Fits at short ⊢
        rw [List.length_append] at short
        omega

theorem RejectedAt.length_le (rejected : RejectedAt bytes lines) :
    lines.length ≤ (contents bytes).length := by
  cases rejected with
  | ended whole _ _ _ split returned | unended whole _ _ _ split returned =>
      rw [split, contents_terminated whole, returned, List.length_append]
      exact Nat.le_add_right _ _

/-- A record that is straddled is one of those the stream accepts. -/
theorem Straddles.length_lt (straddles : Straddles stream bytes) :
    (contents bytes).length < (acceptable stream).length := by
  obtain ⟨records, content, rest, whole, fits, contentWhole, greatest, rfl, rfl⟩ := straddles
  have open_ : lineFeed ∉ content ++ [carriageReturn] := by
    rw [List.mem_append, not_or]
    exact ⟨contentWhole, by decide⟩
  have accepted : acceptable (content ++ [carriageReturn] ++ lineFeed :: rest) =
      content :: acceptable rest := by
    have first : contents (content ++ [carriageReturn] ++ lineFeed :: rest) =
        content :: contents rest := by
      rw [contents, ended_cons open_, List.map_cons, withoutCarriageReturn_concat]
      rfl
    rw [acceptable, first, List.takeWhile_cons_of_pos]
    · rfl
    · exact decide_eq_true (Nat.le_of_eq greatest)
  have nothing : contents (content ++ [carriageReturn]) = [] := by
    rw [contents, ended_of_not_mem open_]
    rfl
  rw [List.append_assoc, acceptable_terminated whole fits, accepted,
    contents_terminated whole, nothing]
  simp only [List.length_append, List.length_cons, List.length_nil]
  omega

/-- What has been received of a straddled record is too long for the buffer. -/
theorem Straddles.not_fits (straddles : Straddles stream bytes) :
    ¬Fits (unended lineFeed bytes) := by
  obtain ⟨records, content, rest, whole, -, contentWhole, greatest, rfl, -⟩ := straddles
  have open_ : lineFeed ∉ content ++ [carriageReturn] := by
    rw [List.mem_append, not_or]
    exact ⟨contentWhole, by decide⟩
  rw [unended_terminated whole, unended_of_not_mem open_, Fits, List.length_append, greatest]
  exact Nat.not_succ_le_self _

end Rejected

/-! ## Traces -/

section Traces

variable {trace more events : List ReadObservation} {event : ReadObservation}
  {bytes stream : List UInt8}

theorem beforeOverflow_of_not_rejects (accepts : ¬Rejects trace) :
    beforeOverflow trace = trace := by
  rw [beforeOverflow, List.takeWhile_eq_self_iff]
  intro event member
  by_contra overflow
  exact accepts ⟨event, member, by simpa using overflow⟩

/-- What comes after a rejected record does not count. -/
theorem beforeOverflow_append (rejects : Rejects trace) :
    beforeOverflow (trace ++ more) = beforeOverflow trace := by
  unfold beforeOverflow
  induction trace with
  | nil =>
      obtain ⟨event, member, -⟩ := rejects
      cases member
  | cons first trace ih =>
      by_cases overflow : first.isOverflow = true
      · simp only [List.cons_append, List.takeWhile_cons, overflow, Bool.not_true,
          Bool.false_eq_true, if_false]
      · have later : Rejects trace := by
          obtain ⟨event, member, here⟩ := rejects
          rcases List.mem_cons.mp member with rfl | member
          · exact absurd here overflow
          · exact ⟨event, member, here⟩
        rw [Bool.not_eq_true] at overflow
        simp only [List.cons_append, List.takeWhile_cons, overflow, Bool.not_false, if_true,
          ih later]

theorem beforeOverflow_concat (accepts : ¬Rejects trace) (overflow : event.isOverflow = true) :
    beforeOverflow (trace ++ [event]) = trace := by
  have all : ∀ event ∈ trace, (!event.isOverflow) = true := by
    intro event member
    by_contra other
    exact accepts ⟨event, member, by simpa using other⟩
  rw [beforeOverflow, List.takeWhile_append_of_pos all, List.takeWhile_cons_of_neg (by simpa),
    List.append_nil]

theorem not_rejects_concat (accepts : ¬Rejects trace) (accepted : event.isOverflow = false) :
    ¬Rejects (trace ++ [event]) := by
  rintro ⟨other, member, overflow⟩
  rcases List.mem_append.mp member with member | member
  · exact accepts ⟨other, member, overflow⟩
  · rw [List.mem_singleton.mp member, accepted] at overflow
    cases overflow

theorem beforeOverflow_isPrefix (trace : List ReadObservation) : beforeOverflow trace <+: trace :=
  List.takeWhile_prefix _

theorem received_isPrefix (part : more <+: trace) : received more <+: received trace := by
  obtain ⟨later, rfl⟩ := part
  rw [received_append]
  exact List.prefix_append _ _

theorem EndsRead.mono (ends : EndsRead more bytes) (part : more <+: trace) :
    EndsRead trace bytes := by
  obtain ⟨before, chunk, inside, same⟩ := ends
  exact ⟨before, chunk, inside.trans part, same⟩

/-- The bytes that have been received are those of the last read. -/
theorem endsRead_received (something : received trace ≠ []) :
    EndsRead trace (received trace) := by
  induction trace using List.reverseRecOn with
  | nil => exact absurd rfl something
  | append_singleton trace event ih =>
      rw [received_append] at something ⊢
      cases event with
      | bytesRead chunk =>
          exact ⟨trace, chunk, List.prefix_rfl, received_append _ _⟩
      | _ =>
          simp only [received, List.flatMap_singleton, List.append_nil] at something ⊢
          exact (ih something).mono (List.prefix_append _ _)

/-- A read ends in a trace or in its last event. -/
theorem endsRead_concat (ends : EndsRead (trace ++ [event]) bytes) :
    EndsRead trace bytes ∨ (∃ chunk, event = .bytesRead chunk) ∧
      bytes = received (trace ++ [event]) := by
  obtain ⟨before, chunk, inside, rfl⟩ := ends
  rcases List.prefix_concat_iff.mp inside with same | inside
  · rw [← same]
    obtain ⟨-, last⟩ := List.append_inj' same rfl
    exact .inr ⟨⟨chunk, (List.singleton_inj.mp last).symm⟩, rfl⟩
  · exact .inl ⟨before, chunk, inside, rfl⟩

end Traces

/-! ## The reader -/

section Reader

variable {reader next : ControlReader} {action : ReadAction}
  {trace events : List ReadObservation} {stream bytes : List UInt8}

/-- A line that is returned fits. -/
theorem returned_fits (framing : Framing trace reader)
    (taken : reader.step action = some (next, events)) {line : List UInt8}
    (member : line ∈ returnedLines events) : Fits line := by
  cases readStep_spec taken with
  | @returned view parsed result here =>
      rw [List.mem_singleton.mp member, Fits, ← framing.sized view here]
      by_contra long
      simp [ControlReader.step, ControlReader.finish, here, Nat.not_le.mp long] at taken
  | _ => cases member

/-- A reader that is left waiting for bytes has looked for a line, and retains no more than
the buffer allows. -/
theorem waits_fits (taken : reader.step action = some (next, events))
    (waits : next.call = .reading) :
    reader.call = .extracting ∧ Fits next.stream.undelivered := by
  cases readStep_spec taken with
  | @noLine stream here noLine =>
      refine ⟨here, ?_⟩
      by_contra long
      have full : stream.isOverCapacity = true := by
        rw [Fits, ControlStreamBuffer.length_undelivered] at long
        exact decide_eq_true (Nat.not_le.mp long)
      simp [ControlReader.step, ControlReader.tryExtractLine, here, noLine, full] at taken
  | _ => cases waits

/-- The bytes of the last record that has not ended are those the reader retains. -/
theorem Framing.unended_received (framing : Framing trace reader)
    (waits : reader.call = .reading) :
    unended lineFeed (received trace) = reader.stream.undelivered := by
  obtain ⟨records, whole, split, -⟩ := framing.inOrder
  rw [split, unended_terminated whole, unended_of_not_mem (framing.waiting waits)]

/-- What holds of a reader that has rejected no record: the lines it has returned fit, and
after a read whose last record is not ended and does not fit, it has not read again. -/
structure Accepting (trace : List ReadObservation) (reader : ControlReader) : Prop where
  framing : Framing trace reader
  fits : ∀ line ∈ returnedLines trace, Fits line
  reads : ∀ bytes, EndsRead trace bytes →
    Fits (unended lineFeed bytes) ∨ bytes = received trace ∧ reader.call ≠ .reading
  waiting : reader.call = .reading → Fits reader.stream.undelivered

namespace Accepting

theorem initial : Accepting [] {} where
  framing := .initial
  fits := nofun
  reads := by
    rintro bytes ⟨before, chunk, inside, -⟩
    exact absurd (List.prefix_nil.mp inside) (List.concat_ne_nil _ _)
  waiting := nofun

/-- **A step that rejects no record keeps this.** -/
theorem step (accepting : Accepting trace reader)
    (taken : reader.step action = some (next, events))
    (allowed : ∀ event ∈ events, event.isOverflow = false) : Accepting (trace ++ events) next := by
  have spec := readStep_spec taken
  have framing := accepting.framing.step_of_noOverflow spec allowed
  have waiting (waits : next.call = .reading) : Fits next.stream.undelivered :=
    (waits_fits taken waits).2
  refine ⟨framing, ?_, ?_, waiting⟩
  · intro line member
    rw [returnedLines_append] at member
    rcases List.mem_append.mp member with member | member
    · exact accepting.fits line member
    · exact returned_fits accepting.framing taken member
  · intro bytes ends
    have earlier (nothing : received events = []) (ends : EndsRead trace bytes) :
        Fits (unended lineFeed bytes) ∨
          bytes = received (trace ++ events) ∧ next.call ≠ .reading := by
      rw [received_append, nothing, List.append_nil]
      rcases accepting.reads bytes ends with fits | ⟨same, -⟩
      · exact .inl fits
      · by_cases waits : next.call = .reading
        · left
          have last := framing.unended_received waits
          rw [received_append, nothing, List.append_nil] at last
          rw [same, last]
          exact waiting waits
        · exact .inr ⟨same, waits⟩
    cases spec with
    | bytesRead here =>
        rcases endsRead_concat ends with ends | ⟨-, last⟩
        · rcases accepting.reads bytes ends with fits | ⟨-, waited⟩
          · exact .inl fits
          · exact absurd here waited
        · exact .inr ⟨last, nofun⟩
    | called | lineFound | noLine =>
        rw [List.append_nil] at ends
        exact earlier rfl ends
    | overCapacity | timedOut | readFailed | tooLong | returned =>
        rcases endsRead_concat ends with ends | ⟨⟨chunk, read⟩, -⟩
        · exact earlier rfl ends
        · cases read

/-- **A step that rejects a record** shows nothing else, and the bytes that have been received
say why. -/
theorem rejects (accepting : Accepting trace reader)
    (taken : reader.step action = some (next, events)) {event : ReadObservation}
    (member : event ∈ events) (overflow : event.isOverflow = true) :
    events = [event] ∧ RejectedAt (received trace) (returnedLines trace) := by
  obtain ⟨records, whole, split, lines⟩ := accepting.framing.inOrder
  have looked := ControlStreamBuffer.tryExtractLine_spec accepting.framing.wellFormed
  have fit {records : List (List UInt8)}
      (same : returnedLines trace = records.map withoutCarriageReturn) :
      ∀ record ∈ records, Fits (withoutCarriageReturn record) := by
    intro record here
    apply accepting.fits
    rw [same]
    exact List.mem_map_of_mem here
  cases readStep_spec taken with
  | overCapacity here noLine full =>
      rw [noLine] at looked
      cases looked with
      | noLine open_ =>
          rw [ControlReader.held, here, List.append_nil] at lines
          refine ⟨by rw [List.mem_singleton.mp member],
            .unended whole (fit lines) open_ ?_ split lines⟩
          rw [Fits, ControlStreamBuffer.length_undelivered]
          exact Nat.not_le.mpr (of_decide_eq_true full)
  | @tooLong view parsed here long =>
      refine ⟨by rw [List.mem_singleton.mp member], ?_⟩
      rw [ControlReader.held, here] at lines
      rcases List.eq_nil_or_concat' records with rfl | ⟨earlier, record, rfl⟩
      · exact absurd lines (List.concat_ne_nil _ _)
      · rw [List.map_append, List.map_singleton] at lines
        obtain ⟨returned, last⟩ := List.append_inj' lines rfl
        rw [terminated_concat] at split
        refine .ended (fun other here => whole other (List.mem_append_left _ here))
          (fit returned) (whole record (List.mem_append_right _ (List.mem_singleton_self _))) ?_
          split returned
        rw [← List.singleton_inj.mp last, Fits, ← accepting.framing.sized view here]
        exact Nat.not_le.mpr long
  | called | lineFound | noLine => cases member
  | bytesRead | timedOut | readFailed | returned =>
      rw [List.mem_singleton.mp member] at overflow
      cases overflow

end Accepting

end Reader

/-! ## The result -/

section Result

variable {trace : List ReadObservation} {reader : ControlReader} {stream : List UInt8}

/-- What every run of a reader says of the records it has rejected, or has not. -/
structure Verdict (trace : List ReadObservation) (reader : ControlReader) : Prop where
  accepting : ¬Rejects trace → Accepting trace reader
  rejecting : Rejects trace →
    RejectedAt (received (beforeOverflow trace)) (acceptedRecords trace) ∧
      ∀ bytes, EndsRead (beforeOverflow trace) bytes →
        Fits (unended lineFeed bytes) ∨ bytes = received (beforeOverflow trace)

theorem verdict_of_reaches (reached : controlReader.Reaches Machine.anyStep trace reader) :
    Verdict trace reader := by
  refine reached.induct (motive := fun trace reader => Verdict trace reader) ?_ ?_
  · rintro _ rfl
    refine ⟨fun _ => .initial, ?_⟩
    rintro ⟨_, member, -⟩
    cases member
  · intro trace events state next action _ verdict _ taken
    by_cases rejected : Rejects trace
    · have stays : Rejects (trace ++ events) := by
        obtain ⟨event, member, overflow⟩ := rejected
        exact ⟨event, List.mem_append_left _ member, overflow⟩
      refine ⟨fun accepts => absurd stays accepts, fun _ => ?_⟩
      rw [acceptedRecords, beforeOverflow_append rejected]
      exact verdict.rejecting rejected
    · have accepting := verdict.accepting rejected
      by_cases rejects : ∃ event ∈ events, event.isOverflow = true
      · obtain ⟨event, member, overflow⟩ := rejects
        obtain ⟨rfl, why⟩ := accepting.rejects taken member overflow
        have here : Rejects (trace ++ [event]) :=
          ⟨event, List.mem_append_right _ member, overflow⟩
        refine ⟨fun accepts => absurd here accepts, fun _ => ?_⟩
        rw [acceptedRecords, beforeOverflow_concat rejected overflow]
        refine ⟨why, fun bytes ends => ?_⟩
        exact (accepting.reads bytes ends).imp_right And.left
      · have allowed : ∀ event ∈ events, event.isOverflow = false := by
          intro event member
          rw [← Bool.not_eq_true]
          exact fun overflow => rejects ⟨event, member, overflow⟩
        refine ⟨fun _ => accepting.step taken allowed, ?_⟩
        rintro ⟨event, member, overflow⟩
        rcases List.mem_append.mp member with member | member
        · exact absurd ⟨event, member, overflow⟩ rejected
        · exact absurd ⟨event, member, overflow⟩ rejects

/-- A reader has the verdict of the stream, when no read ends between a carriage return and
its line feed at the limit. -/
theorem Verdict.agrees (verdict : Verdict trace reader) (part : received trace <+: stream)
    (settled : Settled stream trace reader) (whole : ¬StraddledRead stream trace) :
    acceptedRecords trace = acceptable stream ∧ (Rejects trace ↔ TooLong stream) := by
  by_cases rejected : Rejects trace
  · obtain ⟨why, -⟩ := verdict.rejecting rejected
    have start := beforeOverflow_isPrefix trace
    rcases why.verdict ((received_isPrefix start).trans part) with agrees | straddles
    · exact ⟨agrees.1, iff_of_true rejected agrees.2⟩
    · refine absurd ⟨_, (endsRead_received ?_).mono start, straddles⟩ whole
      intro nothing
      obtain ⟨records, content, rest, -, -, -, -, same, -⟩ := straddles
      rw [nothing] at same
      simp at same
  · obtain ⟨waits, rfl⟩ := settled.resolve_left rejected
    have accepting := verdict.accepting rejected
    have returned : returnedLines trace = contents (received trace) :=
      accepting.framing.returned_of_reading waits
    have all : acceptable (received trace) = contents (received trace) := by
      rw [acceptable, List.takeWhile_eq_self_iff]
      intro content member
      rw [← returned] at member
      exact decide_eq_true (accepting.fits content member)
    refine ⟨?_, iff_of_false rejected ?_⟩
    · rw [acceptedRecords, beforeOverflow_of_not_rejects rejected, returned, all]
    · rintro (differs | long)
      · exact differs all
      · rw [accepting.framing.unended_received waits] at long
        exact long (accepting.waiting waits)

/-- A reader that has the verdict of the stream has read on after no straddled record. -/
theorem Verdict.not_straddled (verdict : Verdict trace reader)
    (settled : Settled stream trace reader)
    (agrees : acceptedRecords trace = acceptable stream) : ¬StraddledRead stream trace := by
  rintro ⟨bytes, ends, straddles⟩
  by_cases rejected : Rejects trace
  · obtain ⟨why, reads⟩ := verdict.rejecting rejected
    have reaches : received (beforeOverflow trace) <+: bytes := by
      obtain ⟨before, chunk, inside, rfl⟩ := ends
      rcases List.prefix_or_prefix_of_prefix inside (beforeOverflow_isPrefix trace) with first | later
      · rcases reads _ ⟨before, chunk, first, rfl⟩ with fits | same
        · exact absurd fits straddles.not_fits
        · rw [same]
      · exact received_isPrefix later
    have few := why.length_le.trans (contents_isPrefix reaches).length_le
    have many := straddles.length_lt
    rw [← agrees] at many
    omega
  · obtain ⟨waits, -⟩ := settled.resolve_left rejected
    rcases (verdict.accepting rejected).reads bytes ends with fits | ⟨-, waited⟩
    · exact straddles.not_fits fits
    · exact waited waits

/-- **The verdict of a reader is that of the stream**, whatever the stream and the reads are,
if and only if no read ends between the carriage return and the line feed of a record of the
greatest length. -/
theorem record_size_iff (reached : controlReader.Reaches Machine.anyStep trace reader)
    (part : received trace <+: stream) (settled : Settled stream trace reader) :
    acceptedRecords trace = acceptable stream ∧ (Rejects trace ↔ TooLong stream) ↔
      ¬StraddledRead stream trace := by
  have verdict := verdict_of_reaches reached
  constructor
  · rintro ⟨agrees, -⟩
    exact verdict.not_straddled settled agrees
  · exact verdict.agrees part settled

/-- Two readers that cut one stream differently accept the same records. -/
theorem same_records {other : List ReadObservation} {otherReader : ControlReader}
    (reached : controlReader.Reaches Machine.anyStep trace reader)
    (otherReached : controlReader.Reaches Machine.anyStep other otherReader)
    (part : received trace <+: stream) (otherPart : received other <+: stream)
    (settled : Settled stream trace reader) (otherSettled : Settled stream other otherReader)
    (whole : ¬StraddledRead stream trace) (otherWhole : ¬StraddledRead stream other) :
    acceptedRecords trace = acceptedRecords other ∧ (Rejects trace ↔ Rejects other) := by
  obtain ⟨accepted, rejects⟩ := (verdict_of_reaches reached).agrees part settled whole
  obtain ⟨otherAccepted, otherRejects⟩ :=
    (verdict_of_reaches otherReached).agrees otherPart otherSettled otherWhole
  exact ⟨accepted.trans otherAccepted.symm, rejects.trans otherRejects.symm⟩

theorem record_size_iff_straddled :
    acceptedRecords (controlReader.emitted {} straddledReads) = acceptable [123, 125, 13, 10, 91] ∧
        (Rejects (controlReader.emitted {} straddledReads) ↔ TooLong [123, 125, 13, 10, 91]) ↔
      ¬StraddledRead [123, 125, 13, 10, 91] (controlReader.emitted {} straddledReads) :=
  record_size_iff
    ⟨{}, rfl, controlReader.run_finalState {} straddledReads (Machine.along_anyStep _ _) (by decide)⟩
    (by decide) (by decide)

end Result

/-! ## A record of the greatest length -/

/-- The content of the record: as many bytes as a record may have. -/
def greatestContent : List UInt8 :=
  List.replicate ControlStreamBuffer.maxRecordBytes 120

/-- A part of it that ends a read. -/
def greatestChunk : List UInt8 :=
  List.replicate controlChunkBytes 120

/-- A reader that has read some of the record and waits for the rest. -/
def ControlReader.filled (size : ℕ) : ControlReader :=
  { stream := { buffer := List.replicate size 120, searchOffset := size }, call := .reading }

theorem ControlStreamBuffer.tryExtractLine_of_not_mem {stream : ControlStreamBuffer}
    (open_ : lineFeed ∉ stream.buffer.drop stream.searchOffset) :
    stream.tryExtractLine = ({ stream with searchOffset := stream.buffer.length }, none) := by
  have nowhere : stream.findNewline stream.searchOffset = none := by
    rw [findNewline, List.idxOf?_eq_none_iff.mpr open_]
    rfl
  rw [tryExtractLine, nowhere]

/-- A reader that has read some more and looks for a line. -/
def ControlReader.looking (size : ℕ) (chunk : List UInt8) : ControlReader :=
  { stream := { buffer := List.replicate size 120 ++ chunk, searchOffset := size }
    call := .extracting }

theorem filled_bytesRead (size : ℕ) (chunk : List UInt8) (something : chunk ≠ [])
    (short : chunk.length ≤ controlChunkBytes) :
    controlReader.step (.filled size) (.bytesRead chunk) =
      some (.looking size chunk, [.bytesRead chunk]) :=
  if_pos ⟨something, short⟩

theorem looking_tryExtractLine (size : ℕ) {chunk : List UInt8} (open_ : lineFeed ∉ chunk) :
    (ControlReader.looking size chunk).stream.tryExtractLine =
      ({ buffer := List.replicate size 120 ++ chunk, searchOffset := size + chunk.length },
        none) := by
  rw [ControlStreamBuffer.tryExtractLine_of_not_mem]
  · simp only [ControlReader.looking, List.length_append, List.length_replicate]
  · simpa only [ControlReader.looking, List.drop_left' List.length_replicate] using open_

/-- The record is read in whole chunks. -/
theorem reads_greatest (count : ℕ)
    (room : controlChunkBytes * count ≤ ControlStreamBuffer.maxRecordBytes) :
    ∃ trace, controlReader.Run Machine.anyStep {} trace (.filled (controlChunkBytes * count)) ∧
      received trace = List.replicate (controlChunkBytes * count) 120 ∧ ¬Rejects trace ∧
        returnedLines trace = [] := by
  induction count with
  | zero =>
      have run := controlReader.run_finalState {} [.readControlMessage, .tryExtractLine]
        (Machine.along_anyStep _ _) (by decide)
      exact ⟨[], run, rfl, by decide, rfl⟩
  | succ count ih =>
      rw [Nat.mul_succ] at room ⊢
      obtain ⟨trace, run, bytes, accepts, nothing⟩ := ih (Nat.le_of_add_right_le room)
      have something : greatestChunk ≠ [] := by
        rw [greatestChunk, ne_eq, List.replicate_eq_nil_iff]
        decide
      have length : greatestChunk.length = controlChunkBytes := List.length_replicate
      have open_ : lineFeed ∉ greatestChunk := by
        intro member
        cases List.eq_of_mem_replicate member
      have read := run.step trivial
        (filled_bytesRead (controlChunkBytes * count) _ something (Nat.le_of_eq length))
      have waits : controlReader.step (.looking (controlChunkBytes * count) greatestChunk)
            .tryExtractLine =
          some (.filled (controlChunkBytes * count + controlChunkBytes), []) := by
        have same : List.replicate (controlChunkBytes * count) 120 ++ greatestChunk =
            List.replicate (controlChunkBytes * count + controlChunkBytes) 120 :=
          List.replicate_append_replicate
        have roomy : ControlStreamBuffer.isOverCapacity
            { buffer := List.replicate (controlChunkBytes * count + controlChunkBytes) 120
              searchOffset := controlChunkBytes * count + controlChunkBytes } = false := by
          rw [ControlStreamBuffer.isOverCapacity, List.length_replicate]
          exact decide_eq_false (Nat.not_lt.mpr room)
        show some (ControlReader.tryExtractLine _) = _
        rw [ControlReader.tryExtractLine, looking_tryExtractLine _ open_]
        simp only [length, same, roomy, Bool.false_eq_true, if_false, ControlReader.filled]
      refine ⟨_, read.step trivial waits, ?_, ?_, ?_⟩
      · rw [List.append_nil, received_append, bytes]
        exact (congrArg _ (List.append_nil _)).trans List.replicate_append_replicate
      · rw [List.append_nil]
        exact not_rejects_concat accepts rfl
      · rw [List.append_nil, returnedLines_append, nothing]
        rfl

/-- The buffer with the record and its carriage return is over capacity. -/
theorem straddled_tryExtractLine {size : ℕ} (greatest : ControlStreamBuffer.maxRecordBytes ≤ size) :
    controlReader.step (.looking size [carriageReturn]) .tryExtractLine =
      some ({ stream :=
        { buffer := List.replicate size 120 ++ [carriageReturn], searchOffset := size + 1 } },
          [.overCapacity]) := by
  have full : ControlStreamBuffer.isOverCapacity
      { buffer := List.replicate size 120 ++ [carriageReturn], searchOffset := size + 1 } =
        true := by
    rw [ControlStreamBuffer.isOverCapacity, List.length_append, List.length_replicate,
      List.length_singleton, Nat.sub_zero]
    exact decide_eq_true (Nat.lt_succ_of_le greatest)
  show some (ControlReader.tryExtractLine _) = _
  rw [ControlReader.tryExtractLine, looking_tryExtractLine _ (by decide)]
  simp only [List.length_singleton, full, if_true]

/-- A reader that holds a line of that size and nothing after it. -/
def ControlReader.ended (size : ℕ) : ControlReader :=
  { stream :=
      { buffer := List.replicate size 120 ++ [carriageReturn, lineFeed]
        readOffset := size + 2
        searchOffset := size + 2 }
    call := .extracted ⟨0, size⟩ }

/-- With its line feed, the record is extracted. -/
theorem whole_tryExtractLine (size : ℕ) :
    controlReader.step (.looking size [carriageReturn, lineFeed]) .tryExtractLine =
      some (.ended size, []) := by
  have found : (ControlReader.looking size [carriageReturn, lineFeed]).stream.findNewline size =
      some (size + 1) := by
    simp only [ControlReader.looking, ControlStreamBuffer.findNewline,
      List.drop_left' List.length_replicate]
    rfl
  have record : (ControlReader.looking size [carriageReturn, lineFeed]).stream.bytes
      ⟨0, size + 1 - 0⟩ = List.replicate size 120 ++ [carriageReturn] := by
    simp only [ControlReader.looking, ControlStreamBuffer.bytes, List.drop_zero, Nat.sub_zero]
    have whole : List.replicate size 120 ++ [carriageReturn, lineFeed] =
        (List.replicate size 120 ++ [carriageReturn]) ++ [lineFeed] := by
      rw [List.append_assoc]
      rfl
    rw [whole, List.take_left' (by rw [List.length_append, List.length_replicate]; rfl)]
  have ends : ((ControlReader.looking size [carriageReturn, lineFeed]).stream.bytes
      ⟨0, size + 1 - 0⟩).getLast? = some carriageReturn := by
    rw [record]
    exact List.getLast?_concat
  have extracted : (ControlReader.looking size [carriageReturn, lineFeed]).stream.tryExtractLine =
      ((ControlReader.ended size).stream, some ⟨0, size⟩) := by
    have here : (ControlReader.looking size [carriageReturn, lineFeed]).stream.findNewline
        (ControlReader.looking size [carriageReturn, lineFeed]).stream.searchOffset =
          some (size + 1) := found
    rw [ControlStreamBuffer.tryExtractLine, here]
    refine congrArg₂ Prod.mk rfl (congrArg some ?_)
    exact if_pos ends
  show some (ControlReader.tryExtractLine _) = _
  rw [ControlReader.tryExtractLine, extracted]
  rfl

/-- And accepted. -/
theorem whole_finish {size : ℕ} (something : 0 < size)
    (fits : size ≤ ControlStreamBuffer.maxRecordBytes) :
    controlReader.step (.ended size) (.finish false) =
      some ({}, [.returned (List.replicate size 120) .eFail]) := by
  have record : (ControlReader.ended size).stream.bytes ⟨0, size⟩ = List.replicate size 120 :=
    List.take_left' List.length_replicate
  have consumed : (ControlReader.ended size).stream.compactControlBuffer = {} := by
    have all : (ControlReader.ended size).stream.readOffset =
        (ControlReader.ended size).stream.buffer.length := by
      simp only [ControlReader.ended, List.length_append, List.length_replicate,
        List.length_cons, List.length_nil]
    rw [ControlStreamBuffer.compactControlBuffer, if_pos (.inl all), ControlStreamBuffer.compact,
      if_pos all]
  show some (ControlReader.finish _ _ _) = _
  rw [ControlReader.finish, if_neg (Nat.not_lt.mpr fits), if_neg (Nat.pos_iff_ne_zero.mp something),
    record, consumed]
  rfl

/-- **The verdict on a record of the greatest length depends on the reads**: it is rejected
when its carriage return ends a read, and accepted when its line feed comes with it. -/
theorem verdict_depends_on_reads :
    ¬∀ {stream : List UInt8} {trace other : List ReadObservation}
        {reader otherReader : ControlReader},
      controlReader.Reaches Machine.anyStep trace reader →
      controlReader.Reaches Machine.anyStep other otherReader →
      received trace <+: stream → received other <+: stream →
      Settled stream trace reader → Settled stream other otherReader →
        acceptedRecords trace = acceptedRecords other ∧ (Rejects trace ↔ Rejects other) := by
  intro same
  obtain ⟨trace, run, bytes, accepts, nothing⟩ := reads_greatest 4096 (by decide)
  have fits : controlChunkBytes * 4096 ≤ ControlStreamBuffer.maxRecordBytes := by decide
  have greatest : ControlStreamBuffer.maxRecordBytes ≤ controlChunkBytes * 4096 := by decide
  have positive : 0 < controlChunkBytes * 4096 := by decide
  generalize controlChunkBytes * 4096 = size at run bytes fits greatest positive
  have cut := (run.step trivial (filled_bytesRead size [carriageReturn]
    (List.cons_ne_nil _ _) (by decide))).step trivial (straddled_tryExtractLine greatest)
  have whole := ((run.step trivial (filled_bytesRead size [carriageReturn, lineFeed]
    (List.cons_ne_nil _ _) (by decide))).step trivial (whole_tryExtractLine size)).step trivial
      (whole_finish positive fits)
  have again : controlReader.Run Machine.anyStep {} [] (.filled 0) :=
    controlReader.run_finalState {} [.readControlMessage, .tryExtractLine]
      (Machine.along_anyStep _ _) (by decide)
  have waits := whole.trans again
  have rejected : Rejects (trace ++ [.bytesRead [carriageReturn]] ++ [.overCapacity]) :=
    ⟨.overCapacity, List.mem_append_right _ (List.mem_singleton_self _), rfl⟩
  have accepted : ¬Rejects (trace ++ [.bytesRead [carriageReturn, lineFeed]] ++ [] ++
      [.returned (List.replicate size 120) .eFail] ++ []) := by
    rw [List.append_nil, List.append_nil]
    exact not_rejects_concat (not_rejects_concat accepts rfl) rfl
  have stream : received (trace ++ [.bytesRead [carriageReturn, lineFeed]] ++ [] ++
      [.returned (List.replicate size 120) .eFail] ++ []) =
      List.replicate size 120 ++ [carriageReturn, lineFeed] := by
    simp only [received_append, bytes]
    simp [received]
  have part : received (trace ++ [.bytesRead [carriageReturn]] ++ [.overCapacity]) <+:
      List.replicate size 120 ++ [carriageReturn, lineFeed] := by
    simp only [received_append, bytes]
    exact ⟨[lineFeed], by simp [received]⟩
  have verdicts := same ⟨_, rfl, cut⟩ ⟨_, rfl, waits⟩ part
    (by rw [stream]) (.inl rejected) (.inr ⟨rfl, stream⟩)
  exact accepted (verdicts.2.mp rejected)

end ModernSapi
