import ModernSapi.Library.Records
import ModernSapi.Protocol.ControlStreamBuffer

/-!
# The line reader of SapiManager

`ProviderDiscovery.ReadLineUtf8Async` reads the answers of a provider. Each call has a buffer of
its own: what a read has brought beyond the line feed is gone when the call returns, and a
carriage return is dropped only when it is in the same read as its line feed.

CoreEngine's `ControlStreamBuffer` keeps what it has not delivered, so that it returns the
records of a stream however the stream is cut (`lines_of_terminated`). `readers_agree_iff` says
for which cuts the two agree.
-/

set_option autoImplicit false

namespace ModernSapi

open Records

/-! ## The reader -/

/-- `ms.Length > 0 ? Encoding.UTF8.GetString(ms.ToArray()) : null`. A string is named by the
bytes it is decoded from. -/
def stringOrNull (bytes : List UInt8) : Option (List UInt8) :=
  if 0 < bytes.length then some bytes else none

/-- What a read adds to the line when its line feed is at `newlineIndex`. -/
def beforeNewline (read : List UInt8) (newlineIndex : ℕ) : List UInt8 :=
  if 0 < newlineIndex ∧ read[newlineIndex - 1]? = some carriageReturn then
    read.take (newlineIndex - 1)
  else read.take newlineIndex

/-- The reads that are still to come are those of the pipe, and a read of no bytes is its end.
`line` is what the call has written to its stream so far. Returns the result of the call and
the reads it leaves. -/
def readLineUtf8Async (line : List UInt8) :
    List (List UInt8) → Option (List UInt8) × List (List UInt8)
  | [] => (stringOrNull line, [])
  | read :: reads =>
      if read.length = 0 then (stringOrNull line, reads)
      else
        match read.idxOf? lineFeed with
        | some newlineIndex => (stringOrNull (line ++ beforeNewline read newlineIndex), reads)
        | none => readLineUtf8Async (line ++ read) reads

/-- The results of successive calls on one pipe. -/
def readLines : ℕ → List (List UInt8) → List (Option (List UInt8))
  | 0, _ => []
  | calls + 1, reads =>
      (readLineUtf8Async [] reads).1 :: readLines calls (readLineUtf8Async [] reads).2

namespace ControlStreamBuffer

/-- The buffer after all reads. -/
def appendAll (stream : ControlStreamBuffer) (reads : List (List UInt8)) : ControlStreamBuffer :=
  reads.foldl ControlStreamBuffer.append stream

/-- The lines that successive calls of `TryExtractLine` extract. -/
def lines (stream : ControlStreamBuffer) : ℕ → List (Option (List UInt8))
  | 0 => []
  | calls + 1 =>
      stream.tryExtractLine.2.map stream.tryExtractLine.1.bytes ::
        stream.tryExtractLine.1.lines calls

variable {stream : ControlStreamBuffer}

theorem WellFormed.appendAll (wellFormed : stream.WellFormed) (reads : List (List UInt8)) :
    (stream.appendAll reads).WellFormed := by
  induction reads generalizing stream with
  | nil => exact wellFormed
  | cons read reads ih => exact ih (wellFormed.append read)

theorem undelivered_appendAll (wellFormed : stream.WellFormed) (reads : List (List UInt8)) :
    (stream.appendAll reads).undelivered = stream.undelivered ++ reads.flatten := by
  induction reads generalizing stream with
  | nil => exact (List.append_nil _).symm
  | cons read reads ih =>
      have rest := ih (wellFormed.append read)
      rw [undelivered_append wellFormed, List.append_assoc] at rest
      exact rest

/-- **The buffer gives back the records of a stream.** -/
theorem lines_of_terminated {records : List (List UInt8)}
    (whole : ∀ record ∈ records, lineFeed ∉ record) (wellFormed : stream.WellFormed)
    (holds : stream.undelivered = terminated lineFeed records) :
    stream.lines records.length =
      records.map fun record => some (withoutCarriageReturn record) := by
  induction records generalizing stream with
  | nil => rfl
  | cons record records ih =>
      rw [terminated_cons] at holds
      have extraction := tryExtractLine_spec wellFormed
      have kept := wellFormed.tryExtractLine
      have first := whole record List.mem_cons_self
      have others := fun other member => whole other (List.mem_cons_of_mem _ member)
      rw [List.length_cons, lines]
      generalize stream.tryExtractLine = result at extraction kept
      cases extraction with
      | noLine partly =>
          rw [holds] at partly
          exact absurd (List.mem_append_right _ List.mem_cons_self) partly
      | @line next view record' whole' split bytes size =>
          obtain ⟨rfl, rest⟩ := split_unique first whole' (holds.symm.trans split)
          rw [ih others kept rest.symm, Option.map_some, bytes]
          rfl

end ControlStreamBuffer

/-! ## How a stream is cut -/

/-- The reads of one call: `early` is what the call before has thrown away, `between` comes in
reads without a line feed, `last` before the line feed of its read and `late` after it. -/
structure LineCut where
  early : List UInt8
  between : List UInt8
  last : List UInt8
  late : List UInt8
  deriving DecidableEq, Repr

/-- The cuts of a sequence of reads, one for each read with a line feed. -/
def lineCuts (early between : List UInt8) : List (List UInt8) → List LineCut
  | [] => []
  | read :: reads =>
      match read.idxOf? lineFeed with
      | some newlineIndex =>
          ⟨early, between, read.take newlineIndex, read.drop (newlineIndex + 1)⟩ ::
            lineCuts (read.drop (newlineIndex + 1)) [] reads
      | none => lineCuts early (between ++ read) reads

namespace LineCut

/-- Nothing of the record is thrown away, its carriage return is not apart from its line feed,
and it is not empty. -/
def Clean (cut : LineCut) : Prop :=
  cut.early = [] ∧ (cut.last = [] → cut.between.getLast? ≠ some carriageReturn) ∧
    withoutCarriageReturn (cut.between ++ cut.last) ≠ []

/-- The record is made of carriage returns: one is thrown away, and the last one stays. -/
def Compensated (cut : LineCut) : Prop :=
  cut.early = [carriageReturn] ∧ cut.last = [] ∧ cut.between ≠ [] ∧
    ∀ byte ∈ cut.between, byte = carriageReturn

def Kept (cut : LineCut) : Prop :=
  lineFeed ∉ cut.late ∧ (cut.Clean ∨ cut.Compensated)

instance (cut : LineCut) : Decidable cut.Kept :=
  inferInstanceAs (Decidable (_ ∧ ((_ ∧ _ ∧ _) ∨ (_ ∧ _ ∧ _ ∧ _))))

end LineCut

section Reads

variable {before after reads : List (List UInt8)} {first late record rest : List UInt8}

/-- The reads up to a line feed. -/
theorem reads_of_flatten (holds : reads.flatten = record ++ lineFeed :: rest)
    (whole : lineFeed ∉ record) :
    ∃ before first late after, reads = before ++ (first ++ lineFeed :: late) :: after ∧
      before.flatten ++ first = record ∧ late ++ after.flatten = rest := by
  induction reads generalizing record with
  | nil => simp at holds
  | cons read reads ih =>
      rw [List.flatten_cons] at holds
      by_cases ends : lineFeed ∈ read
      · obtain ⟨first, late, rfl, whole'⟩ := List.eq_append_cons_of_mem ends
        rw [List.append_assoc, List.cons_append] at holds
        obtain ⟨rfl, rfl⟩ := split_unique whole' whole holds
        exact ⟨[], first, late, reads, rfl, rfl, rfl⟩
      · rcases List.append_eq_append_iff.mp holds with ⟨more, rfl, later⟩ | ⟨more, here, -⟩
        · rw [List.mem_append, not_or] at whole
          obtain ⟨before, first, late, after, rfl, rfl, rfl⟩ := ih later whole.2
          exact ⟨read :: before, first, late, after, rfl, by simp, rfl⟩
        · cases more with
          | nil =>
              rw [List.append_nil] at here
              have later : reads.flatten = [] ++ lineFeed :: rest := by simp_all
              obtain ⟨before, first, late, after, rfl, mid, rfl⟩ := ih later List.not_mem_nil
              refine ⟨read :: before, first, late, after, rfl, ?_, rfl⟩
              rw [List.flatten_cons, List.append_assoc, mid, List.append_nil, here]
          | cons byte more => simp_all

theorem idxOf?_append_cons (whole : lineFeed ∉ first) :
    (first ++ lineFeed :: late).idxOf? lineFeed = some first.length := by
  rw [List.idxOf?_eq_some_iff]
  refine ⟨by simp, by simp, ?_⟩
  intro index short here
  rw [List.getElem_append_left short] at here
  exact whole (here ▸ List.getElem_mem short)

theorem lineCuts_append (early between : List UInt8) (whole : lineFeed ∉ before.flatten ++ first) :
    lineCuts early between (before ++ (first ++ lineFeed :: late) :: after) =
      ⟨early, between ++ before.flatten, first, late⟩ :: lineCuts late [] after := by
  induction before generalizing between with
  | nil =>
      rw [List.nil_append, lineCuts, idxOf?_append_cons (by simpa using whole)]
      simp
  | cons read before ih =>
      simp only [List.flatten_cons, List.append_assoc, List.mem_append, not_or] at whole
      rw [List.cons_append, lineCuts, List.idxOf?_eq_none_iff.mpr whole.1]
      simp only
      rw [ih _ (by simpa using whole.2)]
      simp

/-- A carriage return is dropped when it is in the read. -/
theorem beforeNewline_append (first late : List UInt8) :
    beforeNewline (first ++ lineFeed :: late) first.length = withoutCarriageReturn first := by
  rw [beforeNewline, withoutCarriageReturn, List.dropLast_eq_take, List.getLast?_eq_getElem?]
  cases first with
  | nil => simp
  | cons byte first =>
      have inside : (byte :: first).length - 1 < (byte :: first).length := by simp
      rw [List.getElem?_append_left inside, List.take_append_of_le_length (by simp),
        List.take_append_of_le_length (by simp), List.take_length]
      simp

/-- The result of a call, and the reads it leaves. -/
theorem readLineUtf8Async_append (line : List UInt8) (nonempty : ∀ read ∈ before, read ≠ [])
    (whole : lineFeed ∉ before.flatten ++ first) :
    readLineUtf8Async line (before ++ (first ++ lineFeed :: late) :: after) =
      (stringOrNull (line ++ before.flatten ++ withoutCarriageReturn first), after) := by
  induction before generalizing line with
  | nil =>
      rw [List.nil_append, readLineUtf8Async, if_neg (by simp),
        idxOf?_append_cons (by simpa using whole)]
      simp [beforeNewline_append]
  | cons read before ih =>
      simp only [List.flatten_cons, List.append_assoc, List.mem_append, not_or] at whole
      have something : ¬read.length = 0 := by
        rw [List.length_eq_zero_iff]
        exact nonempty read List.mem_cons_self
      rw [List.cons_append, readLineUtf8Async, if_neg something,
        List.idxOf?_eq_none_iff.mpr whole.1]
      simp only
      rw [ih _ (fun other member => nonempty other (List.mem_cons_of_mem _ member))
        (by simpa using whole.2)]
      simp

end Reads

/-! ## One record -/

section Record

variable {early between last : List UInt8}

theorem stringOrNull_eq_some {bytes content : List UInt8} :
    stringOrNull bytes = some content ↔ bytes = content ∧ content ≠ [] := by
  rw [stringOrNull]
  constructor
  · intro result
    split at result
    · next something =>
        obtain rfl := Option.some.inj result
        exact ⟨rfl, List.ne_nil_of_length_pos something⟩
    · cases result
  · rintro ⟨rfl, something⟩
    rw [if_pos (List.length_pos_of_ne_nil something)]

/-- A carriage return is taken from the part that is not empty. -/
theorem withoutCarriageReturn_append (first : List UInt8) (something : last ≠ []) :
    withoutCarriageReturn (first ++ last) = first ++ withoutCarriageReturn last := by
  unfold withoutCarriageReturn
  rw [List.getLast?_append_of_ne_nil first something, List.dropLast_append_of_ne_nil something]
  split <;> rfl

/-- A list that is the same without its last member as without its first repeats it. -/
theorem eq_of_dropLast_cons {head : UInt8} {tail : List UInt8}
    (same : (head :: tail).dropLast = tail) : ∀ byte ∈ tail, byte = head := by
  induction tail generalizing head with
  | nil =>
      intro byte member
      cases member
  | cons next tail ih =>
      rw [List.dropLast_cons_of_ne_nil (List.cons_ne_nil _ _), List.cons.injEq] at same
      obtain ⟨rfl, rest⟩ := same
      intro byte member
      rcases List.mem_cons.mp member with rfl | later
      · rfl
      · exact ih rest byte later

theorem dropLast_cons_of_forall {head : UInt8} {tail : List UInt8}
    (repeats : ∀ byte ∈ tail, byte = head) : (head :: tail).dropLast = tail := by
  have all : tail = List.replicate tail.length head := List.eq_replicate_of_mem repeats
  rw [all, ← List.replicate_succ, List.dropLast_replicate, Nat.add_sub_cancel]

/-- When no byte of the record is with its line feed, the call returns the record if no
carriage return was to be dropped, or if one was thrown away instead. -/
theorem eq_withoutCarriageReturn_iff (something : between ≠ []) :
    between = withoutCarriageReturn (early ++ between) ↔
      (early = [] ∧ between.getLast? ≠ some carriageReturn) ∨
        (early = [carriageReturn] ∧ ∀ byte ∈ between, byte = carriageReturn) := by
  have ends : (early ++ between).getLast? = between.getLast? :=
    List.getLast?_append_of_ne_nil early something
  rw [withoutCarriageReturn, ends]
  split
  · next returns =>
      have apart : ¬(early = [] ∧ between.getLast? ≠ some carriageReturn) := fun h => h.2 returns
      rw [or_iff_right apart]
      constructor
      · intro same
        have lengths := congrArg List.length same
        rw [List.length_dropLast, List.length_append] at lengths
        have positive := List.length_pos_of_ne_nil something
        obtain ⟨byte, rfl⟩ := List.length_eq_one_iff.mp (show early.length = 1 by omega)
        have whole : (byte :: between).dropLast = between := same.symm
        have repeats := eq_of_dropLast_cons whole
        have final := repeats carriageReturn (List.mem_of_getLast? returns)
        rw [final]
        exact ⟨rfl, repeats⟩
      · rintro ⟨rfl, repeats⟩
        exact (dropLast_cons_of_forall repeats).symm
  · next plain =>
      constructor
      · intro same
        have lengths := congrArg List.length same
        rw [List.length_append] at lengths
        exact .inl ⟨List.eq_nil_of_length_eq_zero (by omega), plain⟩
      · rintro (⟨rfl, -⟩ | ⟨rfl, repeats⟩)
        · rfl
        · have final := repeats _ (List.getLast_mem something)
          rw [List.getLast?_eq_some_getLast something, final] at plain
          exact absurd rfl plain

/-- **When one call returns its record.** -/
theorem stringOrNull_eq_content_iff (late : List UInt8) :
    stringOrNull (between ++ withoutCarriageReturn last) =
        some (withoutCarriageReturn (early ++ (between ++ last))) ↔
      (LineCut.mk early between last late).Clean ∨
        (LineCut.mk early between last late).Compensated := by
  rw [stringOrNull_eq_some, LineCut.Clean, LineCut.Compensated]
  simp only
  by_cases apart : last = []
  · subst apart
    have nothing : withoutCarriageReturn [] = [] := rfl
    rw [nothing, List.append_nil]
    by_cases empty : between = []
    · subst empty
      rw [nothing]
      constructor
      · rintro ⟨same, something⟩
        exact absurd same.symm something
      · rintro (⟨-, -, something⟩ | ⟨-, -, something, -⟩)
        · exact absurd rfl something
        · exact absurd rfl something
    · constructor
      · rintro ⟨same, something⟩
        rcases (eq_withoutCarriageReturn_iff empty).mp same with ⟨rfl, plain⟩ | compensated
        · exact .inl ⟨rfl, fun _ => plain, something⟩
        · exact .inr ⟨compensated.1, rfl, empty, compensated.2⟩
      · rintro (⟨rfl, plain, something⟩ | ⟨rfl, -, -, repeats⟩)
        · exact ⟨(eq_withoutCarriageReturn_iff empty).mpr (.inl ⟨rfl, plain rfl⟩), something⟩
        · have same := (eq_withoutCarriageReturn_iff empty).mpr (.inr ⟨rfl, repeats⟩)
          exact ⟨same, same ▸ empty⟩
  · rw [← List.append_assoc, withoutCarriageReturn_append _ apart,
      withoutCarriageReturn_append _ apart]
    constructor
    · rintro ⟨same, something⟩
      have lengths := congrArg List.length same
      simp only [List.length_append] at lengths
      have kept : early = [] := List.eq_nil_of_length_eq_zero (by omega)
      subst kept
      exact .inl ⟨rfl, fun h => absurd h apart, something⟩
    · rintro (⟨rfl, -, something⟩ | ⟨-, h, -⟩)
      · exact ⟨rfl, something⟩
      · exact absurd h apart

end Record

/-! ## Successive calls -/

section Calls

variable {records reads : List (List UInt8)} {early : List UInt8}

/-- What is left of a stream that ends with a line feed ends with it. -/
theorem getLast?_of_append {first rest : List UInt8}
    (ends : (first ++ rest).getLast? = some lineFeed) (something : rest ≠ []) :
    rest.getLast? = some lineFeed := by
  rwa [List.getLast?_append_of_ne_nil first something] at ends

/-- Every string that is returned has a line feed of its own. -/
theorem calls_le_count (nonempty : ∀ read ∈ reads, read ≠ [])
    (ends : reads.flatten ≠ [] → reads.flatten.getLast? = some lineFeed) {calls : ℕ}
    (returned : ∀ result ∈ readLines calls reads, result ≠ none) :
    calls ≤ reads.flatten.count lineFeed := by
  induction calls generalizing reads with
  | zero => exact Nat.zero_le _
  | succ calls ih =>
      have something : reads.flatten ≠ [] := by
        intro empty
        have none : reads = [] := by
          cases reads with
          | nil => rfl
          | cons read reads =>
              rw [List.flatten_cons, List.append_eq_nil_iff] at empty
              exact absurd empty.1 (nonempty read List.mem_cons_self)
        subst none
        exact returned none List.mem_cons_self rfl
      have ends' := ends something
      obtain ⟨record, rest, split, whole⟩ :=
        List.eq_append_cons_of_mem (List.mem_of_getLast? ends')
      obtain ⟨before, first, late, after, rfl, rfl, rfl⟩ := reads_of_flatten split whole
      have nonempty' : ∀ read ∈ before, read ≠ [] := fun read member =>
        nonempty read (List.mem_append_left _ member)
      rw [readLines, readLineUtf8Async_append [] nonempty' whole] at returned
      have nonempty'' : ∀ read ∈ after, read ≠ [] := fun read member =>
        nonempty read (by simp [member])
      have later := ih nonempty'' (fun more => ?_)
        (fun result member => returned result (List.mem_cons_of_mem _ member))
      · rw [split]
        simp only [List.count_append, List.count_cons_self]
        omega
      · rw [split, List.append_cons, ← List.append_assoc] at ends'
        exact getLast?_of_append ends' more

theorem count_terminated (whole : ∀ record ∈ records, lineFeed ∉ record) :
    (terminated lineFeed records).count lineFeed = records.length := by
  induction records with
  | nil => rfl
  | cons record records ih =>
      have first := List.count_eq_zero.mpr (whole record List.mem_cons_self)
      rw [terminated_cons, List.count_append, List.count_cons_self, first,
        ih fun other member => whole other (List.mem_cons_of_mem _ member), List.length_cons]
      omega

theorem getLast?_terminated (something : terminated lineFeed records ≠ []) :
    (terminated lineFeed records).getLast? = some lineFeed := by
  induction records with
  | nil => exact absurd rfl something
  | cons record records ih =>
      rw [terminated_cons, List.append_cons]
      by_cases more : terminated lineFeed records = []
      · rw [more, List.append_nil]
        exact List.getLast?_concat
      · rw [List.getLast?_append_of_ne_nil _ more]
        exact ih more

/-- Bytes without a line feed at the start of a record are of this record. -/
theorem exists_of_open {record received rest : List UInt8} (open_ : lineFeed ∉ early)
    (stream : early ++ received = record ++ lineFeed :: rest) :
    ∃ more, early ++ more = record ∧ received = more ++ lineFeed :: rest := by
  rcases List.append_eq_append_iff.mp stream with ⟨more, here, later⟩ | ⟨more, here, later⟩
  · exact ⟨more, here.symm, later⟩
  · cases more with
    | nil => exact ⟨[], by rw [List.append_nil] at here ⊢; exact here, later.symm⟩
    | cons byte more =>
        rw [List.cons_append, List.cons.injEq] at later
        rw [here, ← later.1] at open_
        exact absurd (List.mem_append_right _ List.mem_cons_self) open_

/-- A record that was thrown away is missed at the end. -/
theorem readLines_ne_of_lost {late : List UInt8} (whole : ∀ record ∈ records, lineFeed ∉ record)
    (nonempty : ∀ read ∈ reads, read ≠ []) (lost : lineFeed ∈ late)
    (stream : late ++ reads.flatten = terminated lineFeed records) :
    readLines records.length reads ≠
      records.map (fun record => some (withoutCarriageReturn record)) := by
  intro same
  have enough : records.length ≤ reads.flatten.count lineFeed := by
    apply calls_le_count nonempty
    · intro something
      have ends : (late ++ reads.flatten).getLast? = some lineFeed := by
        rw [stream]
        exact getLast?_terminated (stream ▸ List.append_ne_nil_of_right_ne_nil late something)
      exact getLast?_of_append ends something
    · intro result member
      rw [same] at member
      obtain ⟨record, -, rfl⟩ := List.mem_map.mp member
      simp
  have total := congrArg (List.count lineFeed) stream
  rw [List.count_append, count_terminated whole] at total
  have missed := List.count_pos_iff.mpr lost
  omega

/-- **When the calls return the records**, of a stream whose first bytes the call before has
thrown away. -/
theorem readLines_eq_iff (whole : ∀ record ∈ records, lineFeed ∉ record)
    (nonempty : ∀ read ∈ reads, read ≠ []) (open_ : lineFeed ∉ early)
    (stream : early ++ reads.flatten = terminated lineFeed records) :
    readLines records.length reads =
        records.map (fun record => some (withoutCarriageReturn record)) ↔
      ∀ cut ∈ lineCuts early [] reads, cut.Kept := by
  induction records generalizing reads early with
  | nil =>
      rw [terminated_nil, List.append_eq_nil_iff] at stream
      cases reads with
      | nil => exact iff_of_true rfl fun _ member => by cases member
      | cons read reads =>
          rw [List.flatten_cons, List.append_eq_nil_iff] at stream
          exact absurd stream.2.1 (nonempty read List.mem_cons_self)
  | cons record records ih =>
      have first := whole record List.mem_cons_self
      have others := fun other member => whole other (List.mem_cons_of_mem record member)
      rw [terminated_cons] at stream
      obtain ⟨more, rfl, received⟩ := exists_of_open open_ stream
      rw [List.mem_append, not_or] at first
      obtain ⟨before, last, late, after, rfl, rfl, rest⟩ := reads_of_flatten received first.2
      have nonempty' : ∀ read ∈ before, read ≠ [] := fun read member =>
        nonempty read (List.mem_append_left _ member)
      have nonempty'' : ∀ read ∈ after, read ≠ [] := fun read member =>
        nonempty read (by simp [member])
      rw [List.length_cons, readLines, readLineUtf8Async_append [] nonempty' first.2,
        lineCuts_append early [] first.2, List.map_cons, List.cons.injEq,
        List.nil_append, stringOrNull_eq_content_iff late, List.forall_mem_cons]
      by_cases lost : lineFeed ∈ late
      · refine iff_of_false ?_ fun kept => kept.1.1 lost
        rintro ⟨-, same⟩
        exact readLines_ne_of_lost others nonempty'' lost rest same
      · rw [ih others nonempty'' lost rest, LineCut.Kept, and_iff_right lost]

end Calls

end ModernSapi
