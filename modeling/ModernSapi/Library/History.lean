import ModernSapi.Library.Machine

/-!
# Histories

What an observer sees of a run need not tell which steps were taken. The history of a
run does: it lists the steps, each with the state before and after. `Machine.recorded`
is the machine whose events are its own steps, so what holds of traces holds of
histories too.

Recording changes no run: every recorded run is a run (`Reaches.forget`), and every run
has a history (`Reaches.recorded`).
-/

set_option autoImplicit false

namespace Interleaving

universe u v w

/-- A step of a run, with the states around it. -/
structure Transition (σ : Type u) (α : Type v) (ε : Type w) where
  before : σ
  action : α
  after : σ
  events : List ε

variable {σ : Type u} {α : Type v} {ε : Type w}

/-- The events of a history. -/
def eventsOf (history : List (Transition σ α ε)) : List ε := history.flatMap Transition.events

@[simp] theorem eventsOf_nil : eventsOf ([] : List (Transition σ α ε)) = [] := rfl

@[simp] theorem eventsOf_append (first second : List (Transition σ α ε)) :
    eventsOf (first ++ second) = eventsOf first ++ eventsOf second :=
  List.flatMap_append

@[simp] theorem eventsOf_cons (first : Transition σ α ε) (rest : List (Transition σ α ε)) :
    eventsOf (first :: rest) = first.events ++ eventsOf rest :=
  List.flatMap_cons

namespace Machine

/-- The machine whose events are its steps. -/
def recorded (M : Machine σ α ε) : Machine σ α (Transition σ α ε) where
  init := M.init
  step state action :=
    match M.step state action with
    | some (next, events) => some (next, [⟨state, action, next, events⟩])
    | none => none

variable {M : Machine σ α ε} {guard : σ → α → Prop} {start state next : σ} {action : α}
  {history steps : List (Transition σ α ε)} {trace : List ε}

/-- A recorded step is a step, and records itself. -/
theorem recorded_step (taken : M.recorded.step state action = some (next, steps)) :
    ∃ events, M.step state action = some (next, events) ∧
      steps = [⟨state, action, next, events⟩] := by
  simp only [recorded] at taken
  split at taken
  · next after events stepped =>
      cases taken
      exact ⟨events, stepped, rfl⟩
  · cases taken

theorem step_recorded {events : List ε} (taken : M.step state action = some (next, events)) :
    M.recorded.step state action = some (next, [⟨state, action, next, events⟩]) := by
  simp only [recorded, taken]

theorem Run.forget (run : M.recorded.Run guard start history state) :
    M.Run guard start (eventsOf history) state := by
  induction run with
  | refl => exact .refl
  | step _ allowed taken ih =>
      obtain ⟨events, stepped, rfl⟩ := recorded_step taken
      rw [eventsOf_append, eventsOf_cons, eventsOf_nil, List.append_nil]
      exact ih.step allowed stepped

theorem Run.recorded (run : M.Run guard start trace state) :
    ∃ history, eventsOf history = trace ∧ M.recorded.Run guard start history state := by
  induction run with
  | refl => exact ⟨[], rfl, .refl⟩
  | step _ allowed taken ih =>
      obtain ⟨history, rfl, before⟩ := ih
      exact ⟨_, by simp, before.step allowed (step_recorded taken)⟩

/-- Every recorded run is a run. -/
theorem Reaches.forget (reached : M.recorded.Reaches guard history state) :
    M.Reaches guard (eventsOf history) state := by
  obtain ⟨start, initial, run⟩ := reached
  exact ⟨start, initial, run.forget⟩

/-- Every run has a history. -/
theorem Reaches.recorded (reached : M.Reaches guard trace state) :
    ∃ history, eventsOf history = trace ∧ M.recorded.Reaches guard history state := by
  obtain ⟨start, initial, run⟩ := reached
  obtain ⟨history, events, recorded⟩ := run.recorded
  exact ⟨history, events, start, initial, recorded⟩

/-- A run whose steps all meet a further condition is a run under it. -/
theorem Reaches.strengthen {condition : σ → α → Prop}
    (reached : M.recorded.Reaches guard history state)
    (meets : ∀ transition ∈ history, condition transition.before transition.action) :
    M.recorded.Reaches (fun state action => guard state action ∧ condition state action) history
      state := by
  obtain ⟨start, initial, run⟩ := reached
  refine ⟨start, initial, ?_⟩
  induction run with
  | refl => exact .refl
  | step _ allowed taken ih =>
      obtain ⟨events, stepped, rfl⟩ := recorded_step taken
      refine .step (ih fun transition member => meets transition ?_) ⟨allowed, ?_⟩ taken
      · exact List.mem_append_left _ member
      · exact meets _ (List.mem_append_right _ (List.mem_singleton_self _))

/-- Every step of a history was taken in a state the run has reached. -/
theorem Reaches.of_mem (reached : M.recorded.Reaches guard history state)
    {transition : Transition σ α ε} (member : transition ∈ history) :
    ∃ before after, history = before ++ transition :: after ∧
      M.recorded.Reaches guard before transition.before ∧
      M.step transition.before transition.action = some (transition.after, transition.events) := by
  obtain ⟨start, initial, run⟩ := reached
  induction run with
  | refl => cases member
  | step run allowed taken ih =>
      obtain ⟨events, stepped, rfl⟩ := recorded_step taken
      rcases List.mem_append.mp member with earlier | now
      · obtain ⟨before, after, rfl, reached⟩ := ih earlier
        exact ⟨before, _, List.append_assoc .., reached⟩
      · rw [List.mem_singleton.mp now]
        exact ⟨_, [], rfl, ⟨start, initial, run⟩, stepped⟩

end Machine

end Interleaving
