import Mathlib
import Std.Tactic.Do

/-!
# Code that may throw

A piece of code changes a state and returns a value or throws. What it has changed before it
throws stays changed.

`Fallible.ends` turns a triple about such a piece of code into a fact about its run.
-/

set_option autoImplicit false
set_option mvcgen.warning false

namespace Interleaving

open Std.Do

/-- Code on a state that may throw. -/
abbrev Fallible (ε σ : Type) := ExceptT ε (StateM σ)

namespace Fallible

variable {ε σ α : Type}

/-- Something outside returns, or throws. -/
def outside : Except ε α → Fallible ε σ α
  | .ok value => pure value
  | .error error => throw error

/-- How a run ends, with the state it leaves. -/
inductive Ends (returned : α → σ → Prop) (thrown : ε → σ → Prop) : Except ε α × σ → Prop where
  | returned {value : α} {after : σ} (holds : returned value after) :
      Ends returned thrown (.ok value, after)
  | thrown {error : ε} {after : σ} (holds : thrown error after) :
      Ends returned thrown (.error error, after)

/-- **A triple says how the run ends.** -/
theorem ends {code : Fallible ε σ α} {before : σ} {returned : α → σ → Prop}
    {thrown : ε → σ → Prop}
    (triple : ⦃fun state => ⌜state = before⌝⦄ code
      ⦃post⟨fun value after => ⌜returned value after⌝, fun error after => ⌜thrown error after⌝⟩⦄) :
    Ends returned thrown (code.run.run before) := by
  have holds := triple before rfl
  simp only [WP.wp, PredTrans.apply_pushExcept, PredTrans.apply_pushArg,
    PredTrans.apply_Pure_pure] at holds
  generalize StateT.run code.run before = outcome at holds ⊢
  obtain ⟨error | value, after⟩ := outcome
  · exact .thrown holds
  · exact .returned holds

end Fallible

end Interleaving
