import ModernSapi.Session.Attribution

/-!
# Each request is asked for once

The counter of `Speak` gives every call a number of its own, and a call sends one
`sapi_speak`. A request that is still to be asked for is therefore unknown to the
provider, and is asked for once.
-/

set_option autoImplicit false

namespace ModernSapi

open Interleaving

/-- The request a command asks for. -/
def Command.asks : Command → Option ℕ
  | .sapiSpeak speakId => some speakId
  | .cancel _ => none

/-- The request a call is going to ask for. -/
def SpeakCall.asks : SpeakCall → List ℕ
  | .dispatching speakId => [speakId]
  | _ => []

/-- The requests the provider is still to be asked for, in order. -/
def Session.asked (session : Session) : List ℕ :=
  session.commandPipe.filterMap Command.asks ++ session.speak.call.asks

/-- Every request is asked for once. -/
structure AskedOnce (session : Session) : Prop where
  nodup : session.asked.Nodup
  positive : ∀ speakId ∈ session.asked, speakId ≠ 0
  unknown : ∀ speakId ∈ session.asked, (session.provider speakId).phase = .unknown
  known : ∀ speakId, speakId ∈ session.asked ∨ (session.provider speakId).phase ≠ .unknown →
    speakId ≤ session.speakIdCounter

namespace AskedOnce

variable {session next : Session} {action : SessionAction} {events : List SessionObservation}

/-- The step asks for nothing new, and the provider hears of nothing. -/
theorem weaken (once : AskedOnce session) (asked : next.asked.Sublist session.asked)
    (unknown : ∀ speakId, (next.provider speakId).phase = .unknown ↔
      (session.provider speakId).phase = .unknown)
    (counter : session.speakIdCounter ≤ next.speakIdCounter) : AskedOnce next where
  nodup := once.nodup.sublist asked
  positive speakId member := once.positive speakId (asked.subset member)
  unknown speakId member := (unknown speakId).mpr (once.unknown speakId (asked.subset member))
  known speakId here := by
    refine (once.known speakId ?_).trans counter
    rcases here with member | heard
    · exact .inl (asked.subset member)
    · exact .inr (mt (unknown speakId).mpr heard)

theorem initial (blockAlign : ℕ) (positive : 0 < blockAlign) :
    AskedOnce (.initial blockAlign positive) where
  nodup := List.nodup_nil
  positive _ member := by cases member
  unknown _ member := by cases member
  known _ here := by
    rcases here with member | heard
    · cases member
    · exact absurd rfl heard

/-- A step of the engine that starts nothing asks for what its call was going to ask for. -/
theorem moved {step : SpeakAction} {speak : SpeakState} {observed : List SpeakObservation}
    (once : AskedOnce session) (internal : step.isInternal = true)
    (taken : SpeakStep session.speak step speak observed) :
    AskedOnce { session with
      speak
      commandPipe := session.commandPipe ++ sentCommands observed } := by
  refine once.weaken ?_ (fun _ => Iff.rfl) (Nat.le_refl _)
  have split (commands : List Command) : (session.commandPipe ++ commands).filterMap Command.asks =
      session.commandPipe.filterMap Command.asks ++ commands.filterMap Command.asks :=
    List.filterMap_append
  simp only [Session.asked, split, List.append_assoc]
  refine List.Sublist.append_left ?_ _
  cases taken with
  | started => cases internal
  | startRejected => cases internal
  | @thread action worker observed isThread stepped =>
      rw [sentCommands_thread]
      have quiet : (session.speak.worker.sentBy action).filterMap Command.asks = [] := by
        refine List.filterMap_eq_nil_iff.mpr fun command member => ?_
        unfold WorkerState.sentBy at member
        split at member
        · split at member
          · split at member
            · cases member
            · rw [List.mem_singleton] at member
              rw [member]
              rfl
          · cases member
        · cases member
      rw [quiet]
      exact List.Sublist.refl _
  | dispatched here => rw [here]; exact List.Sublist.refl _
  | _ => exact List.nil_sublist _

theorem step (once : AskedOnce session) (taken : SessionStep session action next events) :
    AskedOnce next := by
  cases taken with
  | @spoken now speak observed taken =>
      cases taken with
      | startRejected => exact once.weaken (List.Sublist.refl _) (fun _ => Iff.rfl) (Nat.le_succ _)
      | started ready =>
          have before : session.asked = session.commandPipe.filterMap Command.asks := by
            rw [Session.asked, ready]
            exact List.append_nil _
          have fresh : session.speakIdCounter + 1 ∉ session.asked := fun member =>
            absurd (once.known _ (.inl member)) (by omega)
          rw [before] at fresh
          refine ⟨?_, fun speakId member => ?_, fun speakId member => ?_, fun speakId here => ?_⟩
          · refine List.nodup_append.mpr ⟨before ▸ once.nodup, List.nodup_singleton _, ?_⟩
            intro first member second new same
            have counter : second = session.speakIdCounter + 1 := List.mem_singleton.mp new
            rw [← counter, ← same] at fresh
            exact fresh member
          · rcases List.mem_append.mp member with old | new
            · exact once.positive speakId (before ▸ old)
            · rw [List.mem_singleton.mp new]
              exact Nat.succ_ne_zero _
          · rcases List.mem_append.mp member with old | new
            · exact once.unknown speakId (before ▸ old)
            · have same := List.mem_singleton.mp new
              by_contra heard
              have bounded := once.known speakId (.inr heard)
              omega
          · rcases here with member | heard
            · rcases List.mem_append.mp member with old | new
              · exact Nat.le_succ_of_le (once.known speakId (.inl (before ▸ old)))
              · exact Nat.le_of_eq (List.mem_singleton.mp new)
            · exact Nat.le_succ_of_le (once.known speakId (.inr heard))
  | moved internal taken => exact once.moved internal taken
  | audioRead | recordRead =>
      exact once.weaken (List.Sublist.refl _) (fun _ => Iff.rfl) (Nat.le_refl _)
  | committed =>
      refine once.weaken (List.Sublist.refl _) (fun speakId => ?_) (Nat.le_refl _)
      exact updateRequest_imp (motive := fun request =>
        request.phase = .unknown ↔ (session.provider speakId).phase = .unknown) speakId
        (fun _ same => same) Iff.rfl
  | @sent event =>
      refine once.weaken (List.Sublist.refl _) (fun speakId => ?_) (Nat.le_refl _)
      refine Session.send_imp (motive := fun request =>
        request.phase = .unknown ↔ (session.provider speakId).phase = .unknown) event speakId ?_ Iff.rfl
      exact fun _ same => (RequestSession.declare_phase_eq_unknown event).trans same
  | @received command rest speakId update pipe receives =>
      rcases receives with ⟨rfl, rfl⟩ | ⟨rfl, rfl⟩
      · have asked : session.asked =
            speakId :: (rest.filterMap Command.asks ++ session.speak.call.asks) := by
          rw [Session.asked, pipe]
          rfl
        have nodup := once.nodup
        rw [asked, List.nodup_cons] at nodup
        refine ⟨nodup.2, fun other member => ?_, fun other member => ?_, fun other here => ?_⟩
        · exact once.positive other (asked ▸ List.mem_cons_of_mem _ member)
        · have different : other ≠ speakId := fun same => nodup.1 (same ▸ member)
          simp only [updateRequest_other different]
          exact once.unknown other (asked ▸ List.mem_cons_of_mem _ member)
        · by_cases same : other = speakId
          · rw [same]
            exact once.known speakId (.inl (asked ▸ List.mem_cons_self))
          · simp only [updateRequest_other same] at here
            exact once.known other (here.imp (fun member => asked ▸ List.mem_cons_of_mem _ member) id)
      · have asked : session.asked = rest.filterMap Command.asks ++ session.speak.call.asks := by
          rw [Session.asked, pipe]
          rfl
        refine once.weaken (asked ▸ List.Sublist.refl _) (fun other => ?_) (Nat.le_refl _)
        refine updateRequest_imp (motive := fun request =>
          request.phase = .unknown ↔ (session.provider other).phase = .unknown) other ?_ Iff.rfl
        exact fun _ same => RequestSession.receiveCancel_phase_eq_unknown.trans same

end AskedOnce

/-- **Each request is asked for once, in every state of every run.** -/
theorem askedOnce {guard : Session → SessionAction → Prop} {session : Session}
    {trace : List SessionObservation} (reached : sessionMachine.Reaches guard trace session) :
    AskedOnce session := by
  refine reached.induct (motive := fun _ session => AskedOnce session) ?_ ?_
  · rintro _ ⟨blockAlign, positive, rfl⟩
    exact .initial blockAlign positive
  · intro _ _ _ _ _ _ once _ taken
    exact once.step (sessionStep_spec taken)

end ModernSapi
