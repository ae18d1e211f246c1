import Mathlib

/-!
# Machines driven by their environment

A machine takes one step for each action its environment chooses, and emits
the events an observer sees. An action the machine cannot take in a state has
no step. Every interleaving of the parties of a system is a list of actions.

A run is guarded when each of its steps meets a condition on the state and the
action it starts with. The unguarded runs are the runs under the condition that
always holds (`Machine.anyStep`).

* `Run.induct` is the invariant rule: what holds of the start and is kept by
  every guarded step holds at the end of every guarded run.
* `Run.stable` is the same rule for a property of states that, once true, stays
  true.
* `Run.project` carries a run of one machine to a run of another, when every
  step of the first is a run of the second.
* `exec` runs a list of actions and `run_of_exec` turns what it computes into a
  run.
-/

set_option autoImplicit false

namespace Interleaving

universe u v w

/-- A machine that answers the actions of its environment. -/
structure Machine (σ : Type u) (α : Type v) (ε : Type w) where
  /-- The states a run may start in. -/
  init : σ → Prop
  /-- The state after an action and the events emitted, when the action is possible. -/
  step : σ → α → Option (σ × List ε)

namespace Machine

variable {σ τ : Type u} {α β : Type v} {ε δ : Type w}

/-- The condition every step meets. -/
def anyStep : σ → α → Prop := fun _ _ => True

/-- The runs from `start` whose steps all meet the guard, with the events they
emit. -/
inductive Run (M : Machine σ α ε) (guard : σ → α → Prop) (start : σ) :
    List ε → σ → Prop where
  | refl : Run M guard start [] start
  | step {trace events : List ε} {state next : σ} {action : α}
      (before : Run M guard start trace state) (allowed : guard state action)
      (taken : M.step state action = some (next, events)) :
      Run M guard start (trace ++ events) next

variable {M : Machine σ α ε} {guard : σ → α → Prop}

namespace Run

variable {start state : σ} {trace : List ε}

/-- **The invariant rule.** The step case may use the run that leads to the
state the step starts in. -/
theorem induct {motive : List ε → σ → Prop} (run : M.Run guard start trace state)
    (base : motive [] start)
    (kept : ∀ {trace events : List ε} {state next : σ} {action : α},
      M.Run guard start trace state → motive trace state → guard state action →
        M.step state action = some (next, events) → motive (trace ++ events) next) :
    motive trace state := by
  induction run with
  | refl => exact base
  | step before allowed taken ih => exact kept before ih allowed taken

theorem mono {weaker : σ → α → Prop} (implies : ∀ state action, guard state action →
      weaker state action) (run : M.Run guard start trace state) :
    M.Run weaker start trace state := by
  induction run with
  | refl => exact .refl
  | step _ allowed taken ih => exact .step ih (implies _ _ allowed) taken

/-- Every guarded run is a run. -/
theorem unguarded (run : M.Run guard start trace state) :
    M.Run anyStep start trace state :=
  run.mono fun _ _ _ => trivial

theorem trans {final : σ} {later : List ε} (first : M.Run guard start trace state)
    (second : M.Run guard state later final) :
    M.Run guard start (trace ++ later) final := by
  induction second with
  | refl => simpa using first
  | step _ allowed taken ih =>
      rw [← List.append_assoc]
      exact .step ih allowed taken

/-- A single step is a run. -/
theorem single {next : σ} {events : List ε} {action : α} (allowed : guard state action)
    (taken : M.step state action = some (next, events)) : M.Run guard state events next := by
  simpa using Run.step Run.refl allowed taken

/-- **A property that no guarded step ends stays true along a guarded run.** -/
theorem stable {property : σ → Prop} (run : M.Run guard start trace state)
    (kept : ∀ {state next : σ} {action : α} {events : List ε}, property state →
      guard state action → M.step state action = some (next, events) → property next)
    (holds : property start) : property state := by
  induction run with
  | refl => exact holds
  | step _ allowed taken ih => exact kept ih allowed taken

/-- **A run of one machine is a run of another** when every step of the first
is a run of the second between the projected states, with the projected events.
The step case may use the run that leads to the step. -/
theorem project {N : Machine τ β δ} {other : τ → β → Prop}
    (run : M.Run guard start trace state) (view : σ → τ) (seen : List ε → List δ)
    (empty : seen [] = [])
    (append : ∀ first second, seen (first ++ second) = seen first ++ seen second)
    (simulates : ∀ {trace events : List ε} {state next : σ} {action : α},
      M.Run guard start trace state → guard state action →
        M.step state action = some (next, events) →
          N.Run other (view state) (seen events) (view next)) :
    N.Run other (view start) (seen trace) (view state) := by
  induction run with
  | refl =>
      rw [empty]
      exact .refl
  | step before allowed taken ih =>
      rw [append]
      exact ih.trans (simulates before allowed taken)

end Run

/-- A state some run reaches, with the events on the way. -/
def Reaches (M : Machine σ α ε) (guard : σ → α → Prop) (trace : List ε) (state : σ) : Prop :=
  ∃ start, M.init start ∧ M.Run guard start trace state

namespace Reaches

variable {state : σ} {trace : List ε}

theorem step {next : σ} {events : List ε} {action : α} (reached : M.Reaches guard trace state)
    (allowed : guard state action) (taken : M.step state action = some (next, events)) :
    M.Reaches guard (trace ++ events) next := by
  obtain ⟨start, initial, run⟩ := reached
  exact ⟨start, initial, run.step allowed taken⟩

/-- The invariant rule over the states reached from the initial ones. -/
theorem induct {motive : List ε → σ → Prop} (reached : M.Reaches guard trace state)
    (base : ∀ start, M.init start → motive [] start)
    (kept : ∀ {trace events : List ε} {state next : σ} {action : α},
      M.Reaches guard trace state → motive trace state → guard state action →
        M.step state action = some (next, events) → motive (trace ++ events) next) :
    motive trace state := by
  obtain ⟨start, initial, run⟩ := reached
  exact run.induct (base start initial)
    fun before holds allowed taken => kept ⟨start, initial, before⟩ holds allowed taken

theorem unguarded (reached : M.Reaches guard trace state) : M.Reaches anyStep trace state := by
  obtain ⟨start, initial, run⟩ := reached
  exact ⟨start, initial, run.unguarded⟩

end Reaches

/-! ## Running a list of actions -/

/-- The end state and the events of a list of actions, when all are possible. -/
def exec (M : Machine σ α ε) : σ → List α → Option (σ × List ε)
  | state, [] => some (state, [])
  | state, action :: actions =>
      match M.step state action with
      | none => none
      | some (next, events) =>
          match M.exec next actions with
          | none => none
          | some (final, later) => some (final, events ++ later)

/-- Every step of a list of actions, taken from `state`, satisfies the
property of the state before, the action and the state after. -/
def Along (M : Machine σ α ε) (property : σ → α → σ → Prop) : σ → List α → Prop
  | _, [] => True
  | state, action :: actions =>
      match M.step state action with
      | none => True
      | some (next, _) => property state action next ∧ M.Along property next actions

instance decidableAlong {M : Machine σ α ε} {property : σ → α → σ → Prop}
    [∀ state action next, Decidable (property state action next)] :
    (state : σ) → (actions : List α) → Decidable (M.Along property state actions)
  | _, [] => .isTrue trivial
  | state, action :: actions =>
      match taken : M.step state action with
      | none => .isTrue (by simp only [Along, taken])
      | some (next, _) =>
          have : Decidable (M.Along property next actions) := decidableAlong next actions
          decidable_of_iff (property state action next ∧ M.Along property next actions)
            (by simp only [Along, taken])

/-- What `exec` computes is a run, and it is guarded when each of its steps is. -/
theorem run_of_exec {actions : List α} {state final : σ} {trace : List ε}
    (guarded : M.Along (fun state action _ => guard state action) state actions)
    (computed : M.exec state actions = some (final, trace)) :
    M.Run guard state trace final := by
  induction actions generalizing state trace with
  | nil =>
      simp only [exec, Option.some.injEq, Prod.mk.injEq] at computed
      obtain ⟨rfl, rfl⟩ := computed
      exact .refl
  | cons action actions ih =>
      cases taken : M.step state action with
      | none => simp [exec, taken] at computed
      | some result =>
          obtain ⟨next, events⟩ := result
          simp only [Along, taken] at guarded
          cases rest : M.exec next actions with
          | none => simp [exec, taken, rest] at computed
          | some outcome =>
              obtain ⟨last, later⟩ := outcome
              simp only [exec, taken, rest, Option.some.injEq, Prod.mk.injEq] at computed
              obtain ⟨rfl, rfl⟩ := computed
              exact (Run.single guarded.1 taken).trans (ih guarded.2 rest)

/-- The end state of a list of actions, or the state itself when one of them is
impossible. -/
def finalState (M : Machine σ α ε) (state : σ) (actions : List α) : σ :=
  ((M.exec state actions).map Prod.fst).getD state

/-- The events of a list of actions, or none when one of them is impossible. -/
def emitted (M : Machine σ α ε) (state : σ) (actions : List α) : List ε :=
  ((M.exec state actions).map Prod.snd).getD []

/-- A list of possible actions that all meet the guard is a guarded run. -/
theorem run_finalState (M : Machine σ α ε) (state : σ) (actions : List α)
    (guarded : M.Along (fun state action _ => guard state action) state actions)
    (possible : (M.exec state actions).isSome = true) :
    M.Run guard state (M.emitted state actions) (M.finalState state actions) := by
  obtain ⟨⟨final, trace⟩, computed⟩ := Option.isSome_iff_exists.mp possible
  have run := run_of_exec guarded computed
  rw [emitted, finalState, computed]
  exact run

theorem along_anyStep (actions : List α) (state : σ) :
    M.Along (fun state action _ => anyStep state action) state actions := by
  induction actions generalizing state with
  | nil => trivial
  | cons action actions ih =>
      unfold Along
      split
      · trivial
      · exact ⟨trivial, ih _⟩

/-- What `exec` computes from an initial state is reached. -/
theorem reaches_of_exec {actions : List α} {state final : σ} {trace : List ε}
    (initial : M.init state) (computed : M.exec state actions = some (final, trace)) :
    M.Reaches anyStep trace final :=
  ⟨state, initial, run_of_exec (along_anyStep actions state) computed⟩

/-- Two properties that agree on every step taken from a reached state hold
along the same lists of actions. -/
theorem along_congr {first second : σ → α → σ → Prop} {actions : List α} {state : σ}
    {trace : List ε} (reached : M.Reaches anyStep trace state)
    (agree : ∀ {trace events : List ε} {state next : σ} {action : α},
      M.Reaches anyStep trace state → M.step state action = some (next, events) →
        (first state action next ↔ second state action next)) :
    M.Along first state actions ↔ M.Along second state actions := by
  induction actions generalizing state trace with
  | nil => exact Iff.rfl
  | cons action actions ih =>
      unfold Along
      split
      · exact Iff.rfl
      · next taken =>
          exact and_congr (agree reached taken) (ih (reached.step trivial taken))

/-- A property of steps that an invariant and another property imply holds wherever the
other one does. -/
theorem Along.of_invariant {given property : σ → α → σ → Prop} (invariant : σ → Prop)
    (kept : ∀ {state next : σ} {action : α} {events : List ε}, invariant state →
      given state action next → M.step state action = some (next, events) →
        property state action next ∧ invariant next)
    {actions : List α} {state : σ} (holds : invariant state)
    (along : M.Along given state actions) : M.Along property state actions := by
  induction actions generalizing state with
  | nil => trivial
  | cons action actions ih =>
      unfold Along at along ⊢
      split
      · trivial
      · next taken =>
          rw [taken] at along
          obtain ⟨here, rest⟩ := along
          obtain ⟨now, later⟩ := kept holds here taken
          exact ⟨now, ih later rest⟩

end Machine

end Interleaving
