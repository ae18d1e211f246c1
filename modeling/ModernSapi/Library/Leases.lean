import Mathlib.Logic.Function.Basic

/-!
# Leased resources

Holders take resources and give them back, and each resource has a flag that says whether it is
taken. `Leased` says that a resource has at most one holder and that the flags are right. Taking
a resource whose flag is down keeps it (`take`), and so does giving one back (`giveBack`).
-/

set_option autoImplicit false

namespace Interleaving

universe u v

variable {κ : Type u} {ι : Type v}

/-- A resource has at most one holder, and is busy when it has one. -/
structure Leased (holds : κ → ι → Prop) (busy : ι → Bool) : Prop where
  exclusive : ∀ {first second : κ} {resource : ι}, holds first resource →
    holds second resource → first = second
  busy_iff : ∀ {resource : ι}, busy resource = true ↔ ∃ holder, holds holder resource

namespace Leased

variable {holds after : κ → ι → Prop} {busy : ι → Bool} {holder : κ} {resource : ι}

theorem idle (leased : Leased holds busy) (isIdle : busy resource = false) (holder : κ) :
    ¬holds holder resource := by
  intro held
  have isBusy := leased.busy_iff.mpr ⟨holder, held⟩
  rw [isIdle] at isBusy
  cases isBusy

/-- The same holders hold the same resources. -/
theorem congr (leased : Leased holds busy)
    (same : ∀ holder resource, after holder resource ↔ holds holder resource) :
    Leased after busy := by
  have equal : after = holds := by
    funext holder resource
    exact propext (same holder resource)
  rw [equal]
  exact leased

variable [DecidableEq ι]

theorem take (leased : Leased holds busy) (isIdle : busy resource = false)
    (taken : ∀ other place, after other place ↔
      holds other place ∨ (other = holder ∧ place = resource)) :
    Leased after (Function.update busy resource true) where
  exclusive := by
    intro first second place former latter
    rcases (taken first place).mp former with held | ⟨rfl, rfl⟩ <;>
      rcases (taken second place).mp latter with held' | ⟨rfl, same⟩
    · exact leased.exclusive held held'
    · rw [same] at held
      exact absurd held (leased.idle isIdle first)
    · exact absurd held' (leased.idle isIdle second)
    · rfl
  busy_iff := by
    intro place
    by_cases here : place = resource
    · subst here
      rw [Function.update_self]
      exact ⟨fun _ => ⟨holder, (taken holder place).mpr (.inr ⟨rfl, rfl⟩)⟩, fun _ => rfl⟩
    · rw [Function.update_of_ne here, leased.busy_iff]
      refine exists_congr fun other => ?_
      rw [taken]
      exact ⟨.inl, fun held => held.resolve_right fun moved => here moved.2⟩

theorem giveBack (leased : Leased holds busy) (held : holds holder resource)
    (given : ∀ other place, after other place ↔
      holds other place ∧ ¬(other = holder ∧ place = resource)) :
    Leased after (Function.update busy resource false) where
  exclusive := by
    intro first second place former latter
    exact leased.exclusive ((given first place).mp former).1 ((given second place).mp latter).1
  busy_iff := by
    intro place
    by_cases here : place = resource
    · subst here
      rw [Function.update_self]
      refine ⟨fun impossible => (Bool.false_ne_true impossible).elim, ?_⟩
      rintro ⟨other, still⟩
      obtain ⟨before, another⟩ := (given other place).mp still
      exact absurd ⟨leased.exclusive before held, rfl⟩ another
    · rw [Function.update_of_ne here, leased.busy_iff]
      refine exists_congr fun other => ?_
      rw [given]
      exact ⟨fun before => ⟨before, fun moved => here moved.2⟩, And.left⟩

end Leased

end Interleaving
