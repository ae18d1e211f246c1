import Mathlib.Data.List.Nodup
import Mathlib.Data.List.Pairwise
import Mathlib.Data.List.Basic

/-!
# Keys in the order of their last use

A history of uses is a list of keys, the latest use first. A list of keys is in
recency order when each key of it has been used and a key that stands earlier was used
later (`Ordered`). Using a key and moving it to the front keeps the order
(`Ordered.use`), and the last key of an ordered list is the one used least recently
(`Ordered.leastRecent`).
-/

set_option autoImplicit false

namespace Recency

universe u

variable {κ : Type u} [DecidableEq κ]

/-- The first key was used after the last use of the second. -/
def UsedAfter (uses : List κ) (first second : κ) : Prop := uses.idxOf first < uses.idxOf second

instance (uses : List κ) (first second : κ) : Decidable (UsedAfter uses first second) :=
  inferInstanceAs (Decidable (_ < _))

/-- Of the keys, this is the one whose last use lies furthest back. -/
def LeastRecent (uses keys : List κ) (oldest : κ) : Prop :=
  oldest ∈ keys ∧ ∀ key ∈ keys, key ≠ oldest → UsedAfter uses key oldest

instance (uses keys : List κ) (oldest : κ) : Decidable (LeastRecent uses keys oldest) :=
  inferInstanceAs (Decidable (_ ∧ _))

/-- The keys have all been used, and stand in the order of their last uses. -/
structure Ordered (uses keys : List κ) : Prop where
  used : ∀ key ∈ keys, key ∈ uses
  sorted : keys.Pairwise (UsedAfter uses)

variable {uses earlier keys fewer : List κ} {key other oldest : κ}

theorem usedAfter_cons_self (differs : other ≠ key) : UsedAfter (key :: uses) key other := by
  unfold UsedAfter
  rw [List.idxOf_cons_self, List.idxOf_cons_ne _ (Ne.symm differs)]
  omega

theorem usedAfter_cons {first second : κ} (firstDiffers : first ≠ key)
    (secondDiffers : second ≠ key) (after : UsedAfter uses first second) :
    UsedAfter (key :: uses) first second := by
  unfold UsedAfter at after ⊢
  rw [List.idxOf_cons_ne _ (Ne.symm firstDiffers), List.idxOf_cons_ne _ (Ne.symm secondDiffers)]
  omega

theorem UsedAfter.ne {first second : κ} (after : UsedAfter uses first second) :
    first ≠ second := by
  intro same
  unfold UsedAfter at after
  rw [same] at after
  exact Nat.lt_irrefl _ after

namespace Ordered

theorem nil : Ordered uses [] where
  used key member := by simp at member
  sorted := List.Pairwise.nil

theorem nodup (ordered : Ordered uses keys) : keys.Nodup :=
  ordered.sorted.imp UsedAfter.ne

theorem sublist (ordered : Ordered uses keys) (part : fewer.Sublist keys) :
    Ordered uses fewer where
  used key member := ordered.used key (part.subset member)
  sorted := ordered.sorted.sublist part

/-- **A key that is used moves to the front.** -/
theorem use (ordered : Ordered uses keys) (key : κ) :
    Ordered (key :: uses) (key :: keys.erase key) where
  used other member := by
    rcases List.mem_cons.mp member with rfl | inRest
    · exact List.mem_cons_self
    · exact List.mem_cons_of_mem _ (ordered.used other (List.mem_of_mem_erase inRest))
  sorted := by
    have others : ∀ other ∈ keys.erase key, other ≠ key := by
      intro other member
      exact (ordered.nodup.mem_erase_iff.mp member).1
    have rest : (keys.erase key).Pairwise (UsedAfter uses) :=
      ordered.sorted.sublist List.erase_sublist
    refine List.pairwise_cons.mpr ⟨?_, ?_⟩
    · intro other member
      exact usedAfter_cons_self (others other member)
    · refine rest.imp_of_mem ?_
      intro first second inFirst inSecond after
      exact usedAfter_cons (others first inFirst) (others second inSecond) after

/-- Keys used one after the other, the first of them last, are in recency order. -/
theorem of_nodup (distinct : keys.Nodup) (earlier : List κ) : Ordered (keys ++ earlier) keys := by
  induction keys with
  | nil => exact nil
  | cons key rest ih =>
      have absent : key ∉ rest := (List.nodup_cons.mp distinct).1
      have ordered : Ordered (rest ++ earlier) rest := ih (List.nodup_cons.mp distinct).2
      have used := ordered.use key
      rwa [List.erase_of_not_mem absent] at used

/-- The last key is the least recently used one. -/
theorem leastRecent (ordered : Ordered uses keys) (last : keys.getLast? = some oldest) :
    LeastRecent uses keys oldest := by
  obtain ⟨before, rfl⟩ : ∃ before, keys = before ++ [oldest] :=
    List.getLast?_eq_some_iff.mp last
  refine ⟨by simp, ?_⟩
  intro key member differs
  have inBefore : key ∈ before := by
    rcases List.mem_append.mp member with inBefore | here
    · exact inBefore
    · exact absurd (List.mem_singleton.mp here) differs
  exact (List.pairwise_append.mp ordered.sorted).2.2 key inBefore oldest (by simp)

end Ordered

end Recency
