import Mathlib.Data.List.Basic

/-!
# Streams of terminated records

A stream is a sequence of records, each followed by its terminator, and a part of a record
that is not terminated yet. `splitOn_terminated` says that splitting the stream gives these
records and this part, and nothing else. A bound on the length of every record of a stream
holds for every part of the stream that has been received (`RecordsWithin.of_append`).
-/

set_option autoImplicit false

namespace Records

universe u

variable {α : Type u}

/-- The records, each with its terminator. -/
def terminated (terminator : α) (records : List (List α)) : List α :=
  records.flatMap (· ++ [terminator])

section Terminated

variable {terminator : α} {records : List (List α)} {record rest : List α}

@[simp] theorem terminated_nil : terminated terminator [] = [] := rfl

theorem terminated_cons :
    terminated terminator (record :: records) =
      record ++ terminator :: terminated terminator records := by
  simp [terminated]

/-- One more record is terminated. -/
theorem terminated_concat :
    terminated terminator (records ++ [record]) ++ rest =
      terminated terminator records ++ (record ++ terminator :: rest) := by
  simp [terminated]

end Terminated

section Split

variable [DecidableEq α] {terminator : α}

/-- **Splitting a stream gives its records back.** -/
theorem splitOn_terminated {records : List (List α)}
    (whole : ∀ record ∈ records, terminator ∉ record) (rest : List α) :
    (terminated terminator records ++ rest).splitOn terminator =
      records ++ rest.splitOn terminator := by
  induction records with
  | nil => rfl
  | cons record records ih =>
      have first := whole record List.mem_cons_self
      have others := ih fun other member => whole other (List.mem_cons_of_mem _ member)
      rw [terminated_cons, List.append_assoc, List.cons_append,
        List.splitOn_append_cons_self_of_not_mem first, others, List.cons_append]

/-- The first terminator splits a stream in one way. -/
theorem split_unique {first second rest more : List α} (whole : terminator ∉ first)
    (whole' : terminator ∉ second)
    (same : first ++ terminator :: rest = second ++ terminator :: more) :
    first = second ∧ rest = more := by
  have split := congrArg (List.splitOn terminator) same
  rw [List.splitOn_append_cons_self_of_not_mem whole,
    List.splitOn_append_cons_self_of_not_mem whole', List.cons.injEq] at split
  obtain ⟨rfl, -⟩ := split
  exact ⟨rfl, (List.cons.inj (List.append_cancel_left same)).2⟩

/-- Every stream is of this form. -/
theorem exists_terminated (terminator : α) (stream : List α) :
    ∃ records rest, (∀ record ∈ records, terminator ∉ record) ∧ terminator ∉ rest ∧
      stream = terminated terminator records ++ rest := by
  induction stream with
  | nil => exact ⟨[], [], nofun, List.not_mem_nil, rfl⟩
  | cons head stream ih =>
      obtain ⟨records, rest, whole, partly, rfl⟩ := ih
      by_cases ends : head = terminator
      · refine ⟨[] :: records, rest, ?_, partly, ?_⟩
        · intro record member
          rcases List.mem_cons.mp member with rfl | member
          · exact List.not_mem_nil
          · exact whole record member
        · rw [terminated_cons, ends]
          rfl
      · cases records with
        | nil =>
            refine ⟨[], head :: rest, nofun, ?_, rfl⟩
            rw [List.mem_cons, not_or]
            exact ⟨Ne.symm ends, partly⟩
        | cons record records =>
            refine ⟨(head :: record) :: records, rest, ?_, partly, ?_⟩
            · intro other member
              rcases List.mem_cons.mp member with rfl | member
              · rw [List.mem_cons, not_or]
                exact ⟨Ne.symm ends, whole record List.mem_cons_self⟩
              · exact whole other (List.mem_cons_of_mem _ member)
            · rw [terminated_cons, terminated_cons]
              rfl

/-- The records of a stream that are terminated. -/
def ended (terminator : α) (stream : List α) : List (List α) :=
  (stream.splitOn terminator).dropLast

/-- What follows the last terminator of a stream. -/
def unended (terminator : α) (stream : List α) : List α :=
  (stream.splitOn terminator).getLastD []

theorem splitOn_ne_nil (stream : List α) : stream.splitOn terminator ≠ [] :=
  List.splitOnP_ne_nil _ stream

theorem ended_terminated {records : List (List α)}
    (whole : ∀ record ∈ records, terminator ∉ record) (rest : List α) :
    ended terminator (terminated terminator records ++ rest) =
      records ++ ended terminator rest := by
  rw [ended, splitOn_terminated whole, List.dropLast_append_of_ne_nil (splitOn_ne_nil rest)]
  rfl

theorem unended_terminated {records : List (List α)}
    (whole : ∀ record ∈ records, terminator ∉ record) (rest : List α) :
    unended terminator (terminated terminator records ++ rest) = unended terminator rest := by
  rw [unended, splitOn_terminated whole, unended, List.getLastD_eq_getLast?,
    List.getLastD_eq_getLast?, List.getLast?_append_of_ne_nil _ (splitOn_ne_nil rest)]

theorem ended_of_not_mem {partly : List α} (open_ : terminator ∉ partly) :
    ended terminator partly = [] := by
  rw [ended, List.splitOn_eq_singleton open_]
  rfl

theorem unended_of_not_mem {partly : List α} (open_ : terminator ∉ partly) :
    unended terminator partly = partly := by
  rw [unended, List.splitOn_eq_singleton open_]
  rfl

/-- The first record of a stream. -/
theorem ended_cons {record : List α} (whole : terminator ∉ record) (rest : List α) :
    ended terminator (record ++ terminator :: rest) = record :: ended terminator rest := by
  have first := ended_terminated (fun other (member : other ∈ [record]) =>
    show terminator ∉ other by rwa [List.mem_singleton.mp member]) rest
  rwa [terminated_cons, terminated_nil, List.append_assoc] at first

/-- A record stays terminated. -/
theorem ended_append (stream more : List α) :
    ended terminator stream <+: ended terminator (stream ++ more) := by
  obtain ⟨records, rest, whole, partly, rfl⟩ := exists_terminated terminator stream
  rw [List.append_assoc, ended_terminated whole, ended_terminated whole, ended_of_not_mem partly,
    List.append_nil]
  exact List.prefix_append _ _

/-- What has been received of a record is part of a record of the stream. -/
theorem exists_longer {partly : List α} (open_ : terminator ∉ partly) (more : List α) :
    ∃ record ∈ (partly ++ more).splitOn terminator, partly.length ≤ record.length := by
  by_cases ends : terminator ∈ more
  · obtain ⟨first, later, rfl, whole⟩ := List.eq_append_cons_of_mem ends
    have longer : terminator ∉ partly ++ first := by
      rw [List.mem_append, not_or]
      exact ⟨open_, whole⟩
    rw [← List.append_assoc, List.splitOn_append_cons_self_of_not_mem longer]
    refine ⟨partly ++ first, List.mem_cons_self, ?_⟩
    rw [List.length_append]
    omega
  · have whole : terminator ∉ partly ++ more := by
      rw [List.mem_append, not_or]
      exact ⟨open_, ends⟩
    rw [List.splitOn_eq_singleton whole]
    refine ⟨partly ++ more, List.mem_singleton_self _, ?_⟩
    rw [List.length_append]
    omega

/-- No record of the stream is longer than the bound. -/
def RecordsWithin (terminator : α) (bound : ℕ) (stream : List α) : Prop :=
  ∀ record ∈ stream.splitOn terminator, record.length ≤ bound

instance (terminator : α) (bound : ℕ) (stream : List α) :
    Decidable (RecordsWithin terminator bound stream) :=
  inferInstanceAs (Decidable (∀ record ∈ stream.splitOn terminator, record.length ≤ bound))

variable {bound : ℕ} {stream more : List α}

namespace RecordsWithin

theorem of_terminated {records : List (List α)} {rest : List α}
    (within : RecordsWithin terminator bound (terminated terminator records ++ rest))
    (whole : ∀ record ∈ records, terminator ∉ record) :
    (∀ record ∈ records, record.length ≤ bound) ∧ RecordsWithin terminator bound rest := by
  rw [RecordsWithin, splitOn_terminated whole] at within
  exact ⟨fun record member => within record (List.mem_append_left _ member),
    fun record member => within record (List.mem_append_right _ member)⟩

/-- A stream whose records are within a bound is so from the start. -/
theorem of_append (within : RecordsWithin terminator bound (stream ++ more)) :
    RecordsWithin terminator bound stream := by
  obtain ⟨records, rest, whole, partly, rfl⟩ := exists_terminated terminator stream
  rw [List.append_assoc] at within
  obtain ⟨ended, open_⟩ := within.of_terminated whole
  obtain ⟨record, member, longer⟩ := exists_longer partly more
  intro other found
  rw [splitOn_terminated whole, List.splitOn_eq_singleton partly] at found
  rcases List.mem_append.mp found with found | found
  · exact ended other found
  · rw [List.mem_singleton.mp found]
    exact Nat.le_trans longer (open_ record member)

end RecordsWithin

end Split

end Records
