import Mathlib.Data.List.Basic

/-!
# Properties of every event of a trace

A safety property of a trace says of each event what must have come before it.
`Always` is such a property, and `always_append` extends it over the events of one
more step.
-/

set_option autoImplicit false

namespace Interleaving

universe u

variable {ε : Type u}

/-- Every event of the trace has the property, of the events before it and itself. -/
def Always (property : List ε → ε → Prop) (trace : List ε) : Prop :=
  ∀ before event after, trace = before ++ event :: after → property before event

namespace Always

variable {property : List ε → ε → Prop} {trace events : List ε} {event : ε}

theorem nil : Always property [] := by
  intro before event after split
  exact absurd split (by simp)

/-- The property of the events of a longer trace. -/
theorem append (first : Always property trace)
    (second : Always (fun before event => property (trace ++ before) event) events) :
    Always property (trace ++ events) := by
  intro before event after split
  rcases List.append_eq_append_iff.mp split with ⟨later, here, rest⟩ | ⟨rest, here, later⟩
  · rw [here]
    exact second later event after rest
  · cases rest with
    | nil =>
        rw [List.nil_append] at later
        rw [List.append_nil] at here
        have found : property (trace ++ []) event := second [] event after later.symm
        rwa [List.append_nil, here] at found
    | cons head tail =>
        rw [List.cons_append, List.cons.injEq] at later
        obtain ⟨rfl, -⟩ := later
        exact first before event tail here

theorem cons (first : property [] event)
    (rest : Always (fun before later => property (event :: before) later) events) :
    Always property (event :: events) := by
  intro before later after split
  cases before with
  | nil =>
      rw [List.nil_append, List.cons.injEq] at split
      rw [← split.1]
      exact first
  | cons head tail =>
      rw [List.cons_append, List.cons.injEq] at split
      obtain ⟨rfl, inRest⟩ := split
      exact rest tail later after inRest

/-- Events that have the property whatever came before. -/
theorem of_forall (holds : ∀ before, ∀ event ∈ trace, property before event) :
    Always property trace := by
  intro before event after split
  exact holds before event (by rw [split]; simp)

theorem mono {weaker : List ε → ε → Prop} (always : Always property trace)
    (implies : ∀ before event, property before event → weaker before event) :
    Always weaker trace :=
  fun before event after split => implies before event (always before event after split)

end Always

end Interleaving
