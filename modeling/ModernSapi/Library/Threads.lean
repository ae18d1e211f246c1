import Mathlib.Data.Finset.Card
import Mathlib.Logic.Function.Basic

/-!
# Counting threads

Every thread of a system stands somewhere, and a step moves one of them. A counter that is
raised when a thread arrives at some places, and lowered when it leaves them, is the number
of threads that stand there (`Counted`).
-/

set_option autoImplicit false

namespace Interleaving

universe u v

variable {ι : Type u} {κ : Type v}

/-- The number of threads that stand where `here` says. -/
def Counted (here : κ → Bool) (threads : ι → κ) (count : ℕ) : Prop :=
  ∃ standing : Finset ι, standing.card = count ∧
    ∀ thread, thread ∈ standing ↔ here (threads thread) = true

/-- A thread that stands where no other has just gone stood there before. -/
theorem standing_before [DecidableEq ι] {threads : ι → κ} {thread other : ι} {place there : κ}
    (stands : Function.update threads thread place other = there) (elsewhere : place ≠ there) :
    threads other = there := by
  by_cases same : other = thread
  · rw [same, Function.update_self] at stands
    exact absurd stands elsewhere
  · rwa [Function.update_of_ne same] at stands

namespace Counted

variable {here : κ → Bool} {threads : ι → κ} {count : ℕ} {thread : ι} {place : κ}

theorem nobody (elsewhere : ∀ thread, here (threads thread) = false) :
    Counted here threads 0 := by
  refine ⟨∅, rfl, fun thread => ?_⟩
  simp [elsewhere thread]

theorem elsewhere_of_zero (counted : Counted here threads 0) (thread : ι) :
    here (threads thread) = false := by
  obtain ⟨standing, empty, members⟩ := counted
  rw [Finset.card_eq_zero] at empty
  rw [Bool.eq_false_iff]
  intro there
  have member := (members thread).mpr there
  rw [empty] at member
  exact Finset.notMem_empty thread member

theorem pos (counted : Counted here threads count) (there : here (threads thread) = true) :
    0 < count := by
  obtain ⟨standing, rfl, members⟩ := counted
  exact Finset.card_pos.mpr ⟨thread, (members thread).mpr there⟩

variable [DecidableEq ι]

/-- A thread arrives. -/
theorem arrives (counted : Counted here threads count) (before : here (threads thread) = false)
    (after : here place = true) :
    Counted here (Function.update threads thread place) (count + 1) := by
  obtain ⟨standing, rfl, members⟩ := counted
  have absent : thread ∉ standing := by
    rw [members, before]
    exact Bool.false_ne_true
  refine ⟨insert thread standing, Finset.card_insert_of_notMem absent, fun other => ?_⟩
  by_cases same : other = thread
  · rw [same, Function.update_self]
    exact ⟨fun _ => after, fun _ => Finset.mem_insert_self _ _⟩
  · rw [Function.update_of_ne same, Finset.mem_insert, members]
    exact ⟨fun member => member.resolve_left same, .inr⟩

/-- A thread leaves. -/
theorem leaves (counted : Counted here threads count) (before : here (threads thread) = true)
    (after : here place = false) :
    Counted here (Function.update threads thread place) (count - 1) := by
  obtain ⟨standing, rfl, members⟩ := counted
  refine ⟨standing.erase thread, Finset.card_erase_of_mem ((members thread).mpr before),
    fun other => ?_⟩
  by_cases same : other = thread
  · rw [same, Function.update_self, after]
    simp
  · rw [Function.update_of_ne same, Finset.mem_erase, members]
    exact ⟨And.right, fun there => ⟨same, there⟩⟩

/-- A thread moves within these places, or outside of them. -/
theorem stays (counted : Counted here threads count)
    (same : here place = here (threads thread)) :
    Counted here (Function.update threads thread place) count := by
  obtain ⟨standing, size, members⟩ := counted
  refine ⟨standing, size, fun other => ?_⟩
  by_cases moved : other = thread
  · rw [moved, Function.update_self, same]
    exact members thread
  · rw [Function.update_of_ne moved]
    exact members other

end Counted

end Interleaving
