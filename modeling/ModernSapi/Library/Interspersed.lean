import ModernSapi.Library.Machine

/-!
# Runs with steps put in

Two runs of a machine from one state take the same steps, except that the second also
takes steps of its own where `extra` allows them. `Interspersed.simulates` is the rule to
compare them: a relation that the common steps keep, and that the steps put in do not end,
holds between the ends of the two runs, and what is seen of the two is the same as far as
each pair of steps agrees on it.
-/

set_option autoImplicit false

namespace Interleaving

universe u v w

namespace Machine

variable {σ : Type u} {α : Type v} {ε δ : Type w}

/-- The first run with its events and its end, and the second. -/
inductive Interspersed (M : Machine σ α ε) (extra : σ → σ → α → Prop) (start : σ) :
    List ε → σ → List ε → σ → Prop where
  | refl : Interspersed M extra start [] start [] start
  | both {first second events events' : List ε} {state other next next' : σ} {action : α}
      (before : Interspersed M extra start first state second other)
      (taken : M.step state action = some (next, events))
      (taken' : M.step other action = some (next', events')) :
      Interspersed M extra start (first ++ events) next (second ++ events') next'
  | extra {first second events : List ε} {state other next : σ} {action : α}
      (before : Interspersed M extra start first state second other)
      (allowed : extra state other action) (taken : M.step other action = some (next, events)) :
      Interspersed M extra start first state (second ++ events) next

namespace Interspersed

variable {M : Machine σ α ε} {extra : σ → σ → α → Prop} {start state other : σ}
  {first second : List ε}

theorem first_run (runs : M.Interspersed extra start first state second other) :
    M.Run anyStep start first state := by
  induction runs with
  | refl => exact .refl
  | both _ taken _ ih => exact ih.step trivial taken
  | extra _ _ _ ih => exact ih

theorem second_run (runs : M.Interspersed extra start first state second other) :
    M.Run anyStep start second other := by
  induction runs with
  | refl => exact .refl
  | both _ _ taken ih => exact ih.step trivial taken
  | extra _ _ taken ih => exact ih.step trivial taken

/-- A run beside itself. -/
theorem of_run (run : M.Run anyStep start first state) :
    M.Interspersed extra start first state first state := by
  induction run with
  | refl => exact .refl
  | step _ _ taken ih => exact .both ih taken taken

/-- **The simulation rule.** Each case may use the runs that lead to the step. -/
theorem simulates {related : σ → σ → Prop} {seen : List ε → List δ}
    (runs : M.Interspersed extra start first state second other)
    (append : ∀ earlier later, seen (earlier ++ later) = seen earlier ++ seen later)
    (base : related start start)
    (both : ∀ {first second events events' : List ε} {state other next next' : σ} {action : α},
      M.Run anyStep start first state → M.Run anyStep start second other → related state other →
        M.step state action = some (next, events) → M.step other action = some (next', events') →
          related next next' ∧ seen events = seen events')
    (put : ∀ {first second events : List ε} {state other next : σ} {action : α},
      M.Run anyStep start first state → M.Run anyStep start second other → related state other →
        extra state other action → M.step other action = some (next, events) →
          related state next ∧ seen events = []) :
    related state other ∧ seen first = seen second := by
  induction runs with
  | refl => exact ⟨base, rfl⟩
  | both before taken taken' ih =>
      obtain ⟨kept, same⟩ := both before.first_run before.second_run ih.1 taken taken'
      refine ⟨kept, ?_⟩
      rw [append, append, ih.2, same]
  | extra before allowed taken ih =>
      obtain ⟨kept, silent⟩ := put before.first_run before.second_run ih.1 allowed taken
      refine ⟨kept, ?_⟩
      rw [append, ih.2, silent, List.append_nil]

end Interspersed

end Machine

end Interleaving
