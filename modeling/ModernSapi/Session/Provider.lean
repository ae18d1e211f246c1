import ModernSapi.Worker.SpeakCall

/-!
# The provider's side of a request

What the provider keeps of each request: the phase of its life, the bytes it has
committed to the audio pipe, and the terminal records it has sent. Nothing here
constrains the provider. The contracts a provider can be held to are conditions on
its steps, over these books.
-/

set_option autoImplicit false

namespace ModernSapi

/-- The phases of a request. A request whose completion is declared has drained
once every declared byte is committed. -/
inductive RequestPhase where
  | unknown
  | active
  | completionDeclared (total : ℕ)
  | cancelling
  | cancelled
  deriving DecidableEq, Repr

/-- The provider's books of one request. -/
structure RequestSession where
  phase : RequestPhase := .unknown
  committed : ℕ := 0
  /-- The terminal records sent, in order. -/
  terminals : List ProviderControlEvent := []
  cancelConsumed : Bool := false
  deriving DecidableEq

namespace RequestSession

def receiveSpeak (request : RequestSession) : RequestSession :=
  { request with phase := if request.phase = .unknown then .active else request.phase }

/-- A request can be cancelled until its final byte is committed. -/
def receiveCancel (request : RequestSession) : RequestSession :=
  { request with
    cancelConsumed := true
    phase :=
      match request.phase with
      | .active => .cancelling
      | .completionDeclared total =>
          if request.committed < total then .cancelling else .completionDeclared total
      | phase => phase }

def commit (request : RequestSession) (bytes : ℕ) : RequestSession :=
  { request with committed := request.committed + bytes }

/-- A terminal record is sent. -/
def declare (request : RequestSession) (event : ProviderControlEvent) : RequestSession :=
  { request with
    terminals := request.terminals ++ [event]
    phase :=
      match request.phase with
      | .active =>
          if event.type = .synthesisComplete then .completionDeclared event.terminalAudioBytes
          else .active
      | .cancelling => if event.type = .synthesisCancelled then .cancelled else .cancelling
      | phase => phase }

/-- The provider has committed every byte of the completion it has declared. -/
def Drained (request : RequestSession) : Prop :=
  match request.phase with
  | .completionDeclared total => total ≤ request.committed
  | _ => False

instance (request : RequestSession) : Decidable request.Drained := by
  unfold Drained
  cases request.phase <;> infer_instance

/-- The provider has nothing more to send for the request. -/
def IsOver (request : RequestSession) : Prop := request.phase = .cancelled ∨ request.Drained

instance (request : RequestSession) : Decidable request.IsOver :=
  inferInstanceAs (Decidable (_ ∨ _))

/-- The bytes keep to every total the provider has declared. -/
def WithinDeclared (request : RequestSession) (bytes : ℕ) : Prop :=
  ∀ event ∈ request.terminals, event.hasValidTerminalBytes = true →
    bytes ≤ event.terminalAudioBytes

instance (request : RequestSession) (bytes : ℕ) : Decidable (request.WithinDeclared bytes) :=
  inferInstanceAs (Decidable (∀ event ∈ request.terminals, _ → _))

section Lemmas

variable (request : RequestSession) (event : ProviderControlEvent) (bytes : ℕ)

@[simp] theorem receiveSpeak_committed : request.receiveSpeak.committed = request.committed := rfl

@[simp] theorem receiveSpeak_terminals : request.receiveSpeak.terminals = request.terminals := rfl

@[simp] theorem receiveCancel_committed :
    request.receiveCancel.committed = request.committed := rfl

@[simp] theorem receiveCancel_terminals :
    request.receiveCancel.terminals = request.terminals := rfl

@[simp] theorem commit_committed : (request.commit bytes).committed = request.committed + bytes :=
  rfl

@[simp] theorem commit_terminals : (request.commit bytes).terminals = request.terminals := rfl

@[simp] theorem commit_phase : (request.commit bytes).phase = request.phase := rfl

@[simp] theorem declare_committed : (request.declare event).committed = request.committed := rfl

@[simp] theorem declare_terminals :
    (request.declare event).terminals = request.terminals ++ [event] := rfl

variable {request}

theorem drained_of_phase {total : ℕ} (phase : request.phase = .completionDeclared total) :
    request.Drained ↔ total ≤ request.committed := by
  rw [Drained, phase]

/-- A request that is over but not cancelled has its completion declared. -/
theorem IsOver.phase_cases (isOver : request.IsOver) :
    request.phase = .cancelled ∨
      ∃ total, request.phase = .completionDeclared total ∧ total ≤ request.committed := by
  refine isOver.imp id fun drained => ?_
  unfold Drained at drained
  split at drained
  · next total phase => exact ⟨total, phase, drained⟩
  · exact drained.elim

theorem receiveSpeak_phase_ne_unknown : request.receiveSpeak.phase ≠ .unknown := by
  unfold receiveSpeak
  by_cases unknown : request.phase = .unknown
  · simp [unknown]
  · simp [unknown]

theorem receiveCancel_phase_eq_unknown :
    request.receiveCancel.phase = .unknown ↔ request.phase = .unknown := by
  unfold receiveCancel
  cases request.phase with
  | completionDeclared total =>
      simp only
      split <;> simp
  | _ => simp

theorem declare_phase_eq_unknown :
    (request.declare event).phase = .unknown ↔ request.phase = .unknown := by
  unfold declare
  cases request.phase with
  | active | cancelling =>
      simp only
      split <;> simp
  | _ => simp

end Lemmas

end RequestSession

end ModernSapi
