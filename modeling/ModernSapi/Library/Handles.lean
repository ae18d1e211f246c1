import Mathlib.Data.Set.Insert
import Mathlib.Logic.Function.Basic
import Mathlib.Logic.Relation

/-!
# Handles that are moved out of a slot

A slot holds at most one handle of a running task. A thread takes the handle out and waits
for the task behind it, and a new task is put into an empty slot.

Whoever goes by these steps shares no handle: one in the slot is waited for by nobody, one
that is taken is with one thread (`Owned`), and a task that has been waited for by a thread
is never waited for by another (`Owned.sole`). As a handle is put away by waiting only, every
task that runs is in the slot or with a thread.
-/

set_option autoImplicit false

namespace Interleaving

universe u v

/-- Who holds the handles of the tasks. -/
structure Handles (ι : Type u) (κ : Type v) where
  slot : Option κ
  taken : ι → Option κ
  running : Set κ
  issued : Set κ

namespace Handles

variable {ι : Type u} {κ : Type v} [DecidableEq ι]

/-- The steps of the threads and of the tasks. -/
inductive Step (handles : Handles ι κ) : Handles ι κ → Prop where
  | puts {handle : κ} (fresh : handle ∉ handles.issued) (free : handles.slot = none) :
      Step handles
        { handles with
          slot := some handle
          running := insert handle handles.running
          issued := insert handle handles.issued }
  | takes {thread : ι} (free : handles.taken thread = none) :
      Step handles
        { handles with
          slot := none, taken := Function.update handles.taken thread handles.slot }
  | joins {thread : ι}
      (ended : ∀ handle, handles.taken thread = some handle → handle ∉ handles.running) :
      Step handles { handles with taken := Function.update handles.taken thread none }
  | exits {handle : κ} : Step handles { handles with running := handles.running \ {handle} }

/-- Every handle has one holder, and that of a task that runs has one. -/
structure Owned (handles : Handles ι κ) : Prop where
  slotIssued : ∀ handle, handles.slot = some handle → handle ∈ handles.issued
  slotAlone : ∀ handle, handles.slot = some handle → ∀ thread, handles.taken thread ≠ some handle
  takenIssued : ∀ thread handle, handles.taken thread = some handle → handle ∈ handles.issued
  takenAlone : ∀ first second handle, handles.taken first = some handle →
    handles.taken second = some handle → first = second
  held : ∀ handle ∈ handles.running, handles.slot = some handle ∨
    ∃ thread, handles.taken thread = some handle

/-- No other thread holds the handle, or ever will. -/
structure Sole (handle : κ) (thread : ι) (handles : Handles ι κ) : Prop where
  issued : handle ∈ handles.issued
  gone : handles.slot ≠ some handle
  alone : ∀ other, handles.taken other = some handle → other = thread

variable {handles next : Handles ι κ} {handle : κ} {thread other : ι}

theorem taken_update {place : Option κ}
    (holds : Function.update handles.taken thread place other = some handle) :
    (other = thread ∧ place = some handle) ∨ (other ≠ thread ∧ handles.taken other = some handle) := by
  by_cases same : other = thread
  · rw [same, Function.update_self] at holds
    exact .inl ⟨same, holds⟩
  · rw [Function.update_of_ne same] at holds
    exact .inr ⟨same, holds⟩

namespace Owned

/-- **Every step keeps the handles apart.** -/
theorem step (owned : Owned handles) (taken : Step handles next) : Owned next := by
  cases taken with
  | @puts fresh new free =>
      refine ⟨?_, ?_, ?_, owned.takenAlone, ?_⟩
      · rintro handle ⟨⟩
        exact Set.mem_insert _ _
      · rintro handle ⟨⟩ thread holds
        exact new (owned.takenIssued thread _ holds)
      · intro thread handle holds
        exact Set.mem_insert_of_mem _ (owned.takenIssued thread handle holds)
      · rintro handle (rfl | runs)
        · exact .inl rfl
        · rcases owned.held handle runs with inSlot | withThread
          · rw [free] at inSlot
            cases inSlot
          · exact .inr withThread
  | @takes thread free =>
      refine ⟨nofun, nofun, ?_, ?_, ?_⟩
      · intro other handle holds
        rcases taken_update holds with ⟨-, inSlot⟩ | ⟨-, before⟩
        · exact owned.slotIssued handle inSlot
        · exact owned.takenIssued other handle before
      · intro first second handle holds holds'
        rcases taken_update holds with ⟨rfl, inSlot⟩ | ⟨-, before⟩
        · rcases taken_update holds' with ⟨rfl, -⟩ | ⟨-, before'⟩
          · rfl
          · exact absurd before' (owned.slotAlone handle inSlot second)
        · rcases taken_update holds' with ⟨-, inSlot⟩ | ⟨-, before'⟩
          · exact absurd before (owned.slotAlone handle inSlot first)
          · exact owned.takenAlone first second handle before before'
      · intro handle runs
        right
        rcases owned.held handle runs with inSlot | ⟨other, before⟩
        · exact ⟨thread, (Function.update_self ..).trans inSlot⟩
        · refine ⟨other, ?_⟩
          have apart : other ≠ thread := by
            rintro rfl
            rw [free] at before
            cases before
          exact (Function.update_of_ne apart _ _).trans before
  | @joins thread ended =>
      refine ⟨owned.slotIssued, ?_, ?_, ?_, ?_⟩
      · intro handle inSlot other holds
        rcases taken_update holds with ⟨-, ⟨⟩⟩ | ⟨-, before⟩
        exact owned.slotAlone handle inSlot other before
      · intro other handle holds
        rcases taken_update holds with ⟨-, ⟨⟩⟩ | ⟨-, before⟩
        exact owned.takenIssued other handle before
      · intro first second handle holds holds'
        rcases taken_update holds with ⟨-, ⟨⟩⟩ | ⟨-, before⟩
        rcases taken_update holds' with ⟨-, ⟨⟩⟩ | ⟨-, before'⟩
        exact owned.takenAlone first second handle before before'
      · intro handle runs
        refine (owned.held handle runs).imp_right ?_
        rintro ⟨other, before⟩
        have apart : other ≠ thread := by
          rintro rfl
          exact ended handle before runs
        exact ⟨other, (Function.update_of_ne apart _ _).trans before⟩
  | exits =>
      refine ⟨owned.slotIssued, owned.slotAlone, owned.takenIssued, owned.takenAlone, ?_⟩
      intro handle runs
      exact owned.held handle runs.1

theorem steps (owned : Owned handles) (taken : Relation.ReflTransGen Step handles next) :
    Owned next := by
  induction taken with
  | refl => exact owned
  | tail _ taken ih => exact ih.step taken

omit [DecidableEq ι] in
/-- A thread that holds a handle is the only one. -/
theorem sole (owned : Owned handles) (holds : handles.taken thread = some handle) :
    Sole handle thread handles where
  issued := owned.takenIssued thread handle holds
  gone inSlot := owned.slotAlone handle inSlot thread holds
  alone other holds' := owned.takenAlone other thread handle holds' holds

end Owned

namespace Sole

theorem step (sole : Sole handle thread handles) (taken : Step handles next) :
    Sole handle thread next := by
  cases taken with
  | @puts fresh new _ =>
      refine ⟨Set.mem_insert_of_mem _ sole.issued, ?_, sole.alone⟩
      rintro ⟨⟩
      exact new sole.issued
  | takes =>
      refine ⟨sole.issued, nofun, fun other holds => ?_⟩
      rcases taken_update holds with ⟨-, inSlot⟩ | ⟨-, before⟩
      · exact absurd inSlot sole.gone
      · exact sole.alone other before
  | joins =>
      refine ⟨sole.issued, sole.gone, fun other holds => ?_⟩
      rcases taken_update holds with ⟨-, ⟨⟩⟩ | ⟨-, before⟩
      exact sole.alone other before
  | exits => exact ⟨sole.issued, sole.gone, sole.alone⟩

/-- **A handle that one thread has taken is never taken by another.** -/
theorem steps (sole : Sole handle thread handles)
    (taken : Relation.ReflTransGen Step handles next) : Sole handle thread next := by
  induction taken with
  | refl => exact sole
  | tail _ taken ih => exact ih.step taken

end Sole

end Handles

end Interleaving
