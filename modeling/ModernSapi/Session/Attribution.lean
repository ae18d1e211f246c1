import ModernSapi.Session.Session
import ModernSapi.Worker.Delivery
import ModernSapi.Worker.Quarantine
import ModernSapi.Worker.RequestMove

/-!
# Whose bytes a request counts

The audio pipe carries no mark of the request a byte was written for. A request
reads its own bytes only because each request before it has read exactly what the
provider wrote for it. `AttributionInvariant` is that argument: while a request is
open, the bytes it has counted and the bytes in the pipe are together what the
provider has committed for it, and when none is open the pipe is empty and the
provider has nothing left to write. It needs of the provider only that it writes
for a request it was asked for, no more than it declares, and that it reports no
error of a request.
-/

set_option autoImplicit false

namespace ModernSapi

open Interleaving SpeechWorker PcmDeliveryPolicy

/-! ## The contract -/

/-- The provider keeps the byte contract: it writes only for a request it has been
asked for, never more than a terminal record of that request declares, and it
reports no error. -/
def KeepsByteContract (session : Session) : SessionAction → Prop
  | .commit speakId bytes =>
      (session.provider speakId).phase ≠ .unknown ∧
        (session.provider speakId).WithinDeclared
          ((session.provider speakId).committed + bytes.length)
  | .send event =>
      (event.type = .log → event.logSeverity ≠ "error") ∧
        (event.isTerminal = true → event.hasValidTerminalBytes = true →
          (session.provider event.speakId).committed ≤ event.terminalAudioBytes)
  | _ => True

instance (session : Session) : DecidablePred (KeepsByteContract session)
  | .commit .. => inferInstanceAs (Decidable (_ ∧ _))
  | .send _ => inferInstanceAs (Decidable (_ ∧ _))
  | .speak _ | .engine _ | .readAudio .. | .failAssembly .. | .readControl _ | .receive =>
      .isTrue trivial

/-- The provider has written all that a terminal record of the request declares. -/
def RequestSession.Ended (request : RequestSession) : Prop :=
  ∃ event ∈ request.terminals, event.hasValidTerminalBytes = true ∧
    event.terminalAudioBytes ≤ request.committed

namespace Session

/-- The provider has not been asked for the request, and is not going to be. -/
structure Unasked (session : Session) (speakId : ℕ) : Prop where
  unknown : (session.provider speakId).phase = .unknown
  notSent : .sapiSpeak speakId ∉ session.commandPipe
  notDispatching : session.speak.call ≠ .dispatching speakId

/-- The provider will write nothing more for the request. -/
def Spent (session : Session) (speakId : ℕ) : Prop :=
  (session.provider speakId).Ended ∨ session.Unasked speakId

end Session

/-- How the bytes in the pipe belong to the request of a context. -/
structure Attributed (session : Session) (context : RequestContext) : Prop where
  tags : context.IsOpen → ∀ byte ∈ session.audioPipe, byte.1 = context.token.speakId
  counted : context.IsOpen → context.rawAudioBytesRead + session.audioPipe.length =
    (session.provider context.token.speakId).committed
  finished : context.IsOpen → context.upstreamFinished = true →
    ∃ event ∈ (session.provider context.token.speakId).terminals,
      event.hasValidTerminalBytes = true ∧
        event.terminalAudioBytes = context.upstreamTerminalBytes
  idle : context.downstreamState = .idle →
    session.audioPipe = [] ∧ session.Spent context.token.speakId
  past : context.downstreamState ≠ .faulted →
    ∀ speakId, speakId ≠ context.token.speakId → session.Spent speakId

/-- What holds in every state of a session whose provider keeps the contract. -/
structure AttributionInvariant (session : Session) : Prop where
  attributed : Attributed session session.context
  bounded : ∀ speakId, (session.provider speakId).WithinDeclared
    (session.provider speakId).committed
  silent : ∀ speakId, (session.provider speakId).phase = .unknown →
    (session.provider speakId).committed = 0
  records : ∀ event ∈ session.controlPipe, event.isTerminal = true →
    event ∈ (session.provider event.speakId).terminals
  noErrors : ∀ event ∈ session.controlPipe, event.type = .log → event.logSeverity ≠ "error"
  known : ∀ speakId, (session.provider speakId).phase ≠ .unknown ∨
    .sapiSpeak speakId ∈ session.commandPipe → speakId ≤ session.speakIdCounter
  tokenKnown : session.context.token.speakId ≤ session.speakIdCounter
  dispatching : ∀ speakId, session.speak.call = .dispatching speakId →
    speakId = session.context.token.speakId

variable {session next : Session} {action : SessionAction}
  {trace events : List SessionObservation}

/-! ## The request moves -/

section Moves

variable {before after : RequestContext}

theorem Attributed.of_faulted (faulted : after.downstreamState = .faulted) :
    Attributed session after where
  tags isOpen := absurd isOpen (RequestContext.not_isOpen_of_faulted faulted)
  counted isOpen := absurd isOpen (RequestContext.not_isOpen_of_faulted faulted)
  finished isOpen := absurd isOpen (RequestContext.not_isOpen_of_faulted faulted)
  idle idle := by simp [faulted] at idle
  past other := absurd faulted other

/-- **A move of the request keeps the bytes in the pipe its own.** At a declared
total the pipe is empty: the provider writes no more than it declares. -/
theorem Attributed.move (attributed : Attributed session before)
    (bounded : (session.provider before.token.speakId).WithinDeclared
      (session.provider before.token.speakId).committed)
    (moved : RequestMove before after) : Attributed session after := by
  cases moved with
  | kept keeps =>
      refine ⟨?_, ?_, ?_, ?_, ?_⟩
      · rw [keeps.isOpen, keeps.token]
        exact attributed.tags
      · rw [keeps.isOpen, keeps.raw, keeps.token]
        exact attributed.counted
      · rw [keeps.isOpen, keeps.finished, keeps.token, keeps.terminal]
        exact attributed.finished
      · rw [keeps.downstream, keeps.token]
        exact attributed.idle
      · rw [keeps.downstream, keeps.token]
        exact attributed.past
  | ended isOpen finished enough token idle =>
      obtain ⟨event, member, valid, total⟩ := attributed.finished isOpen finished
      have within := bounded event member valid
      have counted := attributed.counted isOpen
      have empty : session.audioPipe = [] := by
        rw [← List.length_eq_zero_iff]
        omega
      have ended : (session.provider before.token.speakId).Ended :=
        ⟨event, member, valid, by omega⟩
      have closed := RequestContext.not_isOpen_of_idle idle
      refine ⟨fun isOpen => absurd isOpen closed, fun isOpen => absurd isOpen closed,
        fun isOpen => absurd isOpen closed, ?_, ?_⟩
      · rw [token]
        exact fun _ => ⟨empty, .inl ended⟩
      · rw [token]
        refine fun _ => attributed.past ?_
        rintro faulted
        exact RequestContext.not_isOpen_of_faulted faulted isOpen
  | cancelled speaking cancelling token raw upstream unfinished =>
      have isOpen : before.IsOpen := .inl speaking
      refine ⟨?_, ?_, ?_, ?_, ?_⟩
      · rw [token]
        exact fun _ => attributed.tags isOpen
      · rw [token, raw]
        exact fun _ => attributed.counted isOpen
      · rw [unfinished]
        exact fun _ finished => absurd finished (by simp)
      · rw [cancelling]
        exact fun idle => absurd idle (by simp)
      · rw [token]
        exact fun _ => attributed.past (by simp [speaking])
  | faulted faulted => exact .of_faulted faulted

end Moves

/-! ## The pipes move -/

section Pipes

variable {context : RequestContext}

/-- The pipe and the books are the same, and no request is asked for anew. -/
theorem Attributed.transfer (attributed : Attributed session context)
    (pipe : next.audioPipe = session.audioPipe) (provider : next.provider = session.provider)
    (unasked : ∀ speakId, session.Unasked speakId → next.Unasked speakId) :
    Attributed next context := by
  have spent (speakId : ℕ) (spent : session.Spent speakId) : next.Spent speakId := by
    refine spent.imp (fun ended => ?_) (unasked speakId)
    rw [provider]
    exact ended
  refine ⟨?_, ?_, ?_, ?_, ?_⟩
  · rw [pipe]
    exact attributed.tags
  · rw [pipe, provider]
    exact attributed.counted
  · rw [provider]
    exact attributed.finished
  · rw [pipe]
    intro idle
    obtain ⟨empty, served⟩ := attributed.idle idle
    exact ⟨empty, spent _ served⟩
  · intro notFaulted speakId other
    exact spent speakId (attributed.past notFaulted speakId other)

/-- Bytes at the front of the pipe are counted. -/
theorem Attributed.read {bytes rest : List (ℕ × UInt8)} {speak : SpeakState}
    (attributed : Attributed session context) (isOpen : context.IsOpen)
    (pipe : session.audioPipe = bytes ++ rest) (call : speak.call = session.speak.call) :
    Attributed { session with speak, audioPipe := rest } (context.counted bytes.length) := by
  have tags := attributed.tags isOpen
  have counted := attributed.counted isOpen
  rw [pipe] at tags counted
  refine ⟨fun _ byte member => tags byte (List.mem_append_right _ member), fun _ => ?_,
    attributed.finished, fun idle => ?_, fun notFaulted speakId other => ?_⟩
  · rw [List.length_append] at counted
    simp only [RequestContext.counted]
    omega
  · exact absurd isOpen (RequestContext.not_isOpen_of_idle idle)
  · refine (attributed.past notFaulted speakId other).imp id fun unasked => ?_
    exact ⟨unasked.unknown, unasked.notSent, by rw [call]; exact unasked.notDispatching⟩

/-- A terminal record of the request is applied. -/
theorem Attributed.declared {event : ProviderControlEvent}
    (attributed : Attributed session context) (matching : event.speakId = context.token.speakId)
    (valid : event.hasValidTerminalBytes = true)
    (member : event ∈ (session.provider event.speakId).terminals) :
    Attributed session (context.declared event) where
  tags := attributed.tags
  counted := attributed.counted
  finished _ _ := by
    rw [matching] at member
    exact ⟨event, member, valid, rfl⟩
  idle := attributed.idle
  past := attributed.past

/-- The provider takes a command. -/
theorem Session.Spent.receive {command : Command} {rest : List Command} {speakId other : ℕ}
    {update : RequestSession → RequestSession} (spent : session.Spent other)
    (pipe : session.commandPipe = command :: rest)
    (receives : (command = .sapiSpeak speakId ∧ update = .receiveSpeak) ∨
      (command = .cancel speakId ∧ update = .receiveCancel)) :
    Session.Spent
      { session with
        commandPipe := rest, provider := updateRequest session.provider speakId update } other := by
  refine spent.imp (fun ended => ?_) fun unasked => ?_
  · refine updateRequest_imp other (fun request ended => ?_) ended
    rcases receives with ⟨-, rfl⟩ | ⟨-, rfl⟩
    · exact ended
    · exact ended
  · have notSent : .sapiSpeak other ∉ command :: rest := pipe ▸ unasked.notSent
    refine ⟨?_, fun member => notSent (List.mem_cons_of_mem _ member), unasked.notDispatching⟩
    rcases receives with ⟨rfl, rfl⟩ | ⟨rfl, rfl⟩
    · have different : other ≠ speakId := by
        rintro rfl
        exact notSent List.mem_cons_self
      exact (congrArg RequestSession.phase (updateRequest_other different)).trans unasked.unknown
    · exact updateRequest_imp (motive := fun request => request.phase = .unknown) other
        (fun _ unknown => RequestSession.receiveCancel_phase_eq_unknown.mpr unknown)
        unasked.unknown

/-- The provider writes nothing for a request that is spent. -/
theorem Session.Spent.no_bytes {speakId : ℕ} {bytes : List UInt8} (spent : session.Spent speakId)
    (allowed : KeepsByteContract session (.commit speakId bytes)) : bytes = [] := by
  obtain ⟨asked, within⟩ := allowed
  rcases spent with ⟨event, member, valid, total⟩ | unasked
  · have bounded := within event member valid
    rw [← List.length_eq_zero_iff]
    omega
  · exact absurd unasked.unknown asked

/-- The provider commits bytes. -/
theorem Session.Spent.commit {speakId other : ℕ} {bytes : List UInt8}
    (spent : session.Spent other) : (session.commit speakId bytes).Spent other := by
  refine spent.imp (fun ended => ?_) fun unasked => ⟨?_, unasked.notSent, unasked.notDispatching⟩
  · refine updateRequest_imp other ?_ ended
    rintro request ⟨event, member, valid, total⟩
    exact ⟨event, member, valid, total.trans (Nat.le_add_right _ _)⟩
  · exact updateRequest_imp (motive := fun request => request.phase = .unknown) other
      (fun _ unknown => unknown) unasked.unknown

theorem Attributed.commit {speakId : ℕ} {bytes : List UInt8}
    (attributed : Attributed session context)
    (allowed : KeepsByteContract session (.commit speakId bytes)) :
    Attributed (session.commit speakId bytes) context := by
  have foreign (notFaulted : context.downstreamState ≠ .faulted)
      (other : speakId ≠ context.token.speakId) : bytes = [] :=
    (attributed.past notFaulted speakId other).no_bytes allowed
  have notFaulted (isOpen : context.IsOpen) : context.downstreamState ≠ .faulted :=
    fun faulted => RequestContext.not_isOpen_of_faulted faulted isOpen
  refine ⟨fun isOpen => ?_, fun isOpen => ?_, fun isOpen finished => ?_, fun idle => ?_,
    fun notFaulted other different => (attributed.past notFaulted other different).commit⟩
  · intro byte member
    rcases List.mem_append.mp member with before | now
    · exact attributed.tags isOpen byte before
    · obtain ⟨value, inBytes, rfl⟩ := List.mem_map.mp now
      by_contra other
      rw [foreign (notFaulted isOpen) other] at inBytes
      cases inBytes
  · have counted := attributed.counted isOpen
    simp only [Session.commit, List.length_append, List.length_map]
    by_cases same : context.token.speakId = speakId
    · rw [same] at counted ⊢
      rw [updateRequest_same, RequestSession.commit_committed]
      omega
    · rw [updateRequest_other same, foreign (notFaulted isOpen) (Ne.symm same)]
      exact counted
  · obtain ⟨event, member, valid, total⟩ := attributed.finished isOpen finished
    refine ⟨event, ?_, valid, total⟩
    exact updateRequest_imp (motive := fun request => event ∈ request.terminals) _
      (fun _ member => member) member
  · obtain ⟨empty, served⟩ := attributed.idle idle
    refine ⟨?_, served.commit⟩
    have none : bytes = [] := by
      by_cases same : speakId = context.token.speakId
      · rw [← same] at served
        exact served.no_bytes allowed
      · exact foreign (by simp [idle]) same
    simp [Session.commit, empty, none]

/-- The provider sends a record. -/
theorem Session.send_imp {motive : RequestSession → Prop} (event : ProviderControlEvent)
    (speakId : ℕ) (declared : ∀ request, motive request → motive (request.declare event))
    (holds : motive (session.provider speakId)) :
    motive ((session.send event).provider speakId) := by
  unfold Session.send
  split
  · exact updateRequest_imp speakId declared holds
  · exact holds

theorem Session.Spent.send {event : ProviderControlEvent} {speakId : ℕ}
    (spent : session.Spent speakId) : (session.send event).Spent speakId := by
  refine spent.imp (fun ended => ?_) fun unasked => ⟨?_, unasked.notSent, unasked.notDispatching⟩
  · refine Session.send_imp event speakId ?_ ended
    rintro request ⟨terminal, member, valid, total⟩
    exact ⟨terminal, List.mem_append_left _ member, valid, total⟩
  · exact Session.send_imp (motive := fun request => request.phase = .unknown) event speakId
      (fun _ unknown => (RequestSession.declare_phase_eq_unknown event).mpr unknown)
      unasked.unknown

theorem Attributed.send {event : ProviderControlEvent} (attributed : Attributed session context) :
    Attributed (session.send event) context := by
  refine ⟨attributed.tags, fun isOpen => ?_, fun isOpen finished => ?_, fun idle => ?_,
    fun notFaulted speakId other => (attributed.past notFaulted speakId other).send⟩
  · exact Session.send_imp
      (motive := fun request => context.rawAudioBytesRead + session.audioPipe.length =
        request.committed)
      event _ (fun _ counted => counted) (attributed.counted isOpen)
  · obtain ⟨terminal, member, valid, total⟩ := attributed.finished isOpen finished
    refine ⟨terminal, ?_, valid, total⟩
    exact Session.send_imp (motive := fun request => terminal ∈ request.terminals) event _
      (fun _ member => List.mem_append_left _ member) member
  · obtain ⟨empty, served⟩ := attributed.idle idle
    exact ⟨empty, served.send⟩

end Pipes

/-! ## The invariant -/

namespace AttributionInvariant

variable {speak : SpeakState}

theorem initial (blockAlign : ℕ) (positive : 0 < blockAlign) :
    AttributionInvariant (.initial blockAlign positive) := by
  have unasked (speakId : ℕ) : (Session.initial blockAlign positive).Unasked speakId :=
    ⟨rfl, by simp [Session.initial], by simp [Session.initial, SpeakState.initial]⟩
  have idle : (Session.initial blockAlign positive).context.downstreamState = .idle := rfl
  have closed := RequestContext.not_isOpen_of_idle idle
  refine ⟨⟨fun isOpen => absurd isOpen closed, fun isOpen => absurd isOpen closed,
    fun isOpen => absurd isOpen closed, fun _ => ⟨rfl, .inr (unasked _)⟩,
    fun _ speakId _ => .inr (unasked speakId)⟩, ?_, ?_, ?_, ?_, ?_, ?_, ?_⟩
  · intro speakId event member
    cases member
  · exact fun _ _ => rfl
  · intro event member
    cases member
  · intro event member
    cases member
  · rintro speakId (asked | sent)
    · exact absurd rfl asked
    · cases sent
  · exact Nat.le_refl _
  · intro speakId dispatching
    cases dispatching

/-- **A step of the engine keeps the invariant** when it keeps the token and the bytes
in the pipe are those of its request: it adds no record, and asks for no request but
the one it is dispatching. -/
theorem engine {audioPipe : List (ℕ × UInt8)} {controlPipe : List ProviderControlEvent}
    {commandPipe : List Command} (invariant : AttributionInvariant session)
    (attributed : Attributed { session with speak, audioPipe, controlPipe, commandPipe }
      speak.context)
    (token : speak.context.token = session.context.token)
    (records : ∀ event ∈ controlPipe, event ∈ session.controlPipe)
    (commands : ∀ speakId, .sapiSpeak speakId ∈ commandPipe →
      .sapiSpeak speakId ∈ session.commandPipe ∨ session.speak.call = .dispatching speakId)
    (dispatching : ∀ speakId, speak.call = .dispatching speakId →
      session.speak.call = .dispatching speakId) :
    AttributionInvariant { session with speak, audioPipe, controlPipe, commandPipe } where
  attributed := attributed
  bounded := invariant.bounded
  silent := invariant.silent
  records event member := invariant.records event (records event member)
  noErrors event member := invariant.noErrors event (records event member)
  known := by
    rintro speakId (asked | sent)
    · exact invariant.known speakId (.inl asked)
    · rcases commands speakId sent with before | now
      · exact invariant.known speakId (.inr before)
      · rw [invariant.dispatching speakId now]
        exact invariant.tokenKnown
  tokenKnown := by
    change speak.context.token.speakId ≤ _
    rw [token]
    exact invariant.tokenKnown
  dispatching := by
    intro speakId here
    change _ = speak.context.token.speakId
    rw [token]
    exact invariant.dispatching speakId (dispatching speakId here)

/-- A step of the engine that reads nothing and starts nothing. -/
theorem moved {action : SpeakAction} {events : List SpeakObservation}
    (invariant : AttributionInvariant session) (settled : session.worker.Settled)
    (internal : action.isInternal = true) (taken : SpeakStep session.speak action speak events) :
    AttributionInvariant
      { session with speak, commandPipe := session.commandPipe ++ sentCommands events } := by
  have asks {speakId : ℕ} (member : .sapiSpeak speakId ∈ sentCommands events) :
      session.speak.call = .dispatching speakId := by
    rcases taken.sent member with ⟨same, here, dispatching⟩ | ⟨other, here, -⟩
    · cases here
      exact dispatching
    · cases here
  have moves : RequestMove session.context speak.context := taken.move settled internal
  have transferred : Attributed
      { session with speak, commandPipe := session.commandPipe ++ sentCommands events }
      session.context := by
    refine invariant.attributed.transfer rfl rfl fun speakId unasked => ⟨unasked.unknown, ?_, ?_⟩
    · rintro member
      rcases List.mem_append.mp member with before | now
      · exact unasked.notSent before
      · exact unasked.notDispatching (asks now)
    · exact fun dispatching => unasked.notDispatching (taken.dispatching internal dispatching)
  refine invariant.engine (transferred.move (invariant.bounded _) moves) moves.token
    (fun _ member => member) (fun speakId member => ?_) fun _ => taken.dispatching internal
  exact (List.mem_append.mp member).imp_right asks

/-- A call of `Speak` starts a request, or fails to. -/
theorem spoken {now : ℕ} {events : List SpeakObservation}
    (invariant : AttributionInvariant session)
    (taken : SpeakStep session.speak (.start now (session.speakIdCounter + 1)) speak events) :
    AttributionInvariant
      { session with speak, speakIdCounter := session.speakIdCounter + 1 } := by
  have known (speakId : ℕ) (asked : (session.provider speakId).phase ≠ .unknown ∨
      .sapiSpeak speakId ∈ session.commandPipe) : speakId ≤ session.speakIdCounter + 1 :=
    (invariant.known speakId asked).trans (Nat.le_succ _)
  cases taken with
  | started ready can =>
      obtain ⟨empty, served⟩ := invariant.attributed.idle can.2.1
      have fresh : (session.provider (session.speakIdCounter + 1)).phase = .unknown := by
        by_contra asked
        exact absurd (invariant.known _ (.inl asked)) (by omega)
      have spent (speakId : ℕ) (other : speakId ≠ session.speakIdCounter + 1)
          (spent : session.Spent speakId) :
          Session.Spent
            { session with
              speak :=
                { worker :=
                    { session.speak.worker with
                      worker := session.worker.started now
                        (session.worker.nextToken (session.speakIdCounter + 1)) }
                  call := .dispatching (session.speakIdCounter + 1) }
              speakIdCounter := session.speakIdCounter + 1 } speakId := by
        refine spent.imp id fun unasked => ⟨unasked.unknown, unasked.notSent, ?_⟩
        rintro dispatching
        cases dispatching
        exact other rfl
      refine ⟨⟨?_, ?_, ?_, ?_, ?_⟩, invariant.bounded, invariant.silent, invariant.records,
        invariant.noErrors, known, Nat.le_refl _, ?_⟩
      · intro _ byte member
        rw [empty] at member
        cases member
      · intro _
        change 0 + session.audioPipe.length =
          (session.provider (session.speakIdCounter + 1)).committed
        rw [empty, invariant.silent _ fresh]
        rfl
      · intro _ finished
        cases finished
      · intro idle
        cases idle
      · intro _ speakId other
        refine spent speakId other ?_
        by_cases same : speakId = session.context.token.speakId
        · rw [same]
          exact served
        · exact invariant.attributed.past (by simp [can.2.1]) speakId same
      · intro speakId dispatching
        cases dispatching
        rfl
  | startRejected ready =>
      refine ⟨invariant.attributed.transfer rfl rfl fun speakId unasked =>
          ⟨unasked.unknown, unasked.notSent, unasked.notDispatching⟩,
        invariant.bounded, invariant.silent, invariant.records, invariant.noErrors, known,
        invariant.tokenKnown.trans (Nat.le_succ _), invariant.dispatching⟩

/-- The worker takes in a read of the audio pipe. -/
theorem audioRead {read : WorkerAction} {now : ℕ} {bytes rest : List (ℕ × UInt8)}
    {worker : WorkerState} {events : List Observation} (invariant : AttributionInvariant session)
    (settled : session.worker.Settled)
    (reads : read = .audioChunk now (payload bytes) ∨
      read = .frameAssemblyFails now (payload bytes))
    (nonempty : bytes ≠ []) (pipe : session.audioPipe = bytes ++ rest)
    (taken : WorkerStep session.speak.worker read worker events) :
    AttributionInvariant
      { session with speak := { session.speak with worker }, audioPipe := rest } := by
  have attributed : Attributed
      { session with speak := { session.speak with worker }, audioPipe := rest }
      worker.context ∧ worker.context.token = session.context.token := by
    rcases taken.read_move settled reads with ⟨closed, keeps⟩ | ⟨isOpen, moved⟩
    · have faulted : worker.context.downstreamState = .faulted := by
        rw [keeps.downstream]
        cases state : session.context.downstreamState with
        | idle =>
            have empty := (invariant.attributed.idle state).1
            rw [pipe, List.append_eq_nil_iff] at empty
            exact absurd empty.1 nonempty
        | speaking => exact absurd (.inl state) closed
        | cancelling => exact absurd (.inr state) closed
        | faulted => rfl
      exact ⟨.of_faulted faulted, keeps.token⟩
    · rw [payload_length] at moved
      have counted : Attributed
          { session with speak := { session.speak with worker }, audioPipe := rest }
          (session.context.counted bytes.length) :=
        invariant.attributed.read isOpen pipe rfl
      exact ⟨counted.move (invariant.bounded _) moved, moved.token⟩
  obtain ⟨attributed, token⟩ := attributed
  exact invariant.engine attributed token (fun _ member => member) (fun _ => .inl) fun _ => id

/-- The worker takes in a record. -/
theorem recordRead {now : ℕ} {event : ProviderControlEvent} {rest : List ProviderControlEvent}
    {worker : WorkerState} {events : List Observation} (invariant : AttributionInvariant session)
    (pipe : session.controlPipe = event :: rest)
    (taken : WorkerStep session.speak.worker (.controlRecord now event) worker events) :
    AttributionInvariant
      { session with speak := { session.speak with worker }, controlPipe := rest } := by
  have head : event ∈ session.controlPipe := by simp [pipe]
  have tail {other : ProviderControlEvent} (member : other ∈ rest) :
      other ∈ session.controlPipe := by
    rw [pipe]
    exact List.mem_cons_of_mem _ member
  have transferred {context : RequestContext} (attributed : Attributed session context) :
      Attributed { session with speak := { session.speak with worker }, controlPipe := rest }
        context :=
    attributed.transfer rfl rfl fun speakId unasked =>
      ⟨unasked.unknown, unasked.notSent, unasked.notDispatching⟩
  have attributed : Attributed
      { session with speak := { session.speak with worker }, controlPipe := rest }
      worker.context ∧ worker.context.token = session.context.token := by
    have record := taken.record_move (invariant.noErrors event head)
    refine ⟨?_, record.token⟩
    cases record with
    | moved moved => exact (transferred invariant.attributed).move (invariant.bounded _) moved
    | applied matching terminal valid _ moved =>
        have declared := invariant.attributed.declared matching valid
          (invariant.records event head terminal)
        exact (transferred declared).move (invariant.bounded _) moved
  obtain ⟨attributed, token⟩ := attributed
  exact invariant.engine attributed token (fun _ => tail) (fun _ => .inl) fun _ => id

/-- The provider takes a command. -/
theorem received {command : Command} {rest : List Command} {speakId : ℕ}
    {update : RequestSession → RequestSession} (invariant : AttributionInvariant session)
    (pipe : session.commandPipe = command :: rest)
    (receives : (command = .sapiSpeak speakId ∧ update = .receiveSpeak) ∨
      (command = .cancel speakId ∧ update = .receiveCancel)) :
    AttributionInvariant
      { session with
        commandPipe := rest, provider := updateRequest session.provider speakId update } := by
  have keeps (request : RequestSession) : (update request).terminals = request.terminals ∧
      (update request).committed = request.committed := by
    rcases receives with ⟨-, rfl⟩ | ⟨-, rfl⟩
    · exact ⟨rfl, rfl⟩
    · exact ⟨rfl, rfl⟩
  have attributed := invariant.attributed
  refine ⟨⟨attributed.tags, fun isOpen => ?_, fun isOpen finished => ?_, fun idle => ?_,
    fun notFaulted other different =>
      (attributed.past notFaulted other different).receive pipe receives⟩,
    fun other => ?_, fun other => ?_, fun event member terminal => ?_, invariant.noErrors,
    fun other => ?_, invariant.tokenKnown, invariant.dispatching⟩
  · refine updateRequest_imp (motive := fun request =>
      session.context.rawAudioBytesRead + session.audioPipe.length = request.committed) _
      (fun request counted => ?_) (attributed.counted isOpen)
    rw [(keeps request).2]
    exact counted
  · obtain ⟨event, member, valid, total⟩ := attributed.finished isOpen finished
    refine ⟨event, ?_, valid, total⟩
    refine updateRequest_imp (motive := fun request => event ∈ request.terminals) _
      (fun request member => ?_) member
    rw [(keeps request).1]
    exact member
  · obtain ⟨empty, served⟩ := attributed.idle idle
    exact ⟨empty, served.receive pipe receives⟩
  · refine updateRequest_imp (motive := fun request => request.WithinDeclared request.committed) _
      (fun request within => ?_) (invariant.bounded other)
    rw [(keeps request).2]
    intro event member
    rw [(keeps request).1] at member
    exact within event member
  · refine updateRequest_imp (motive := fun request =>
      request.phase = .unknown → request.committed = 0) _ (fun request silent => ?_)
      (invariant.silent other)
    rw [(keeps request).2]
    rcases receives with ⟨-, rfl⟩ | ⟨-, rfl⟩
    · exact fun unknown => absurd unknown RequestSession.receiveSpeak_phase_ne_unknown
    · exact fun unknown => silent (RequestSession.receiveCancel_phase_eq_unknown.mp unknown)
  · refine updateRequest_imp (motive := fun request => event ∈ request.terminals) _
      (fun request member => ?_) (invariant.records event member terminal)
    rw [(keeps request).1]
    exact member
  · rintro (asked | sent)
    · by_cases same : other = speakId
      · subst same
        rcases receives with ⟨rfl, -⟩ | ⟨-, rfl⟩
        · exact invariant.known other (.inr (by rw [pipe]; exact List.mem_cons_self))
        · refine invariant.known other (.inl fun unknown => asked ?_)
          exact updateRequest_imp (motive := fun request => request.phase = .unknown) other
            (fun _ => RequestSession.receiveCancel_phase_eq_unknown.mpr) unknown
      · change (updateRequest session.provider speakId update other).phase ≠ .unknown at asked
        rw [updateRequest_other same] at asked
        exact invariant.known other (.inl asked)
    · exact invariant.known other (.inr (by rw [pipe]; exact List.mem_cons_of_mem _ sent))

/-- The provider commits bytes of a request it was asked for. -/
theorem committed {speakId : ℕ} {bytes : List UInt8} (invariant : AttributionInvariant session)
    (allowed : KeepsByteContract session (.commit speakId bytes)) :
    AttributionInvariant (session.commit speakId bytes) := by
  refine ⟨invariant.attributed.commit allowed, fun other => ?_, fun other => ?_,
    fun event member terminal => ?_, invariant.noErrors, fun other asked => ?_,
    invariant.tokenKnown, invariant.dispatching⟩
  · exact updateRequest_forall (motive := fun _ request =>
      request.WithinDeclared request.committed) invariant.bounded allowed.2 other
  · exact updateRequest_forall (motive := fun _ request =>
      request.phase = .unknown → request.committed = 0) invariant.silent
      (fun unknown => absurd unknown allowed.1) other
  · exact updateRequest_imp (motive := fun request => event ∈ request.terminals) _
      (fun _ member => member) (invariant.records event member terminal)
  · refine invariant.known other (asked.imp (fun asked unknown => asked ?_) id)
    exact updateRequest_imp (motive := fun request => request.phase = .unknown) other
      (fun _ unknown => unknown) unknown

/-- The provider sends a record. -/
theorem sent {event : ProviderControlEvent} (invariant : AttributionInvariant session)
    (allowed : KeepsByteContract session (.send event)) :
    AttributionInvariant (session.send event) := by
  obtain ⟨noError, within⟩ := allowed
  refine ⟨invariant.attributed.send, fun other => ?_, fun other unknown => ?_,
    fun record member terminal => ?_, fun record member => ?_, fun other asked => ?_,
    invariant.tokenKnown, invariant.dispatching⟩
  · unfold Session.send
    split
    · next terminal =>
        refine updateRequest_forall (motive := fun _ request =>
          request.WithinDeclared request.committed) invariant.bounded ?_ other
        intro record member valid
        rcases List.mem_append.mp member with before | now
        · exact invariant.bounded _ record before valid
        · rw [List.mem_singleton] at now
          subst now
          exact within terminal valid
    · exact invariant.bounded other
  · refine Session.send_imp (motive := fun request =>
      request.phase = .unknown → request.committed = 0) event other
      (fun request silent unknown => ?_) (invariant.silent other) unknown
    exact silent ((RequestSession.declare_phase_eq_unknown event).mp unknown)
  · rcases List.mem_append.mp member with before | now
    · exact Session.send_imp (motive := fun request => record ∈ request.terminals) event _
        (fun _ member => List.mem_append_left _ member) (invariant.records record before terminal)
    · rw [List.mem_singleton] at now
      subst now
      simp [Session.send, terminal]
  · rcases List.mem_append.mp member with before | now
    · exact invariant.noErrors record before
    · rw [List.mem_singleton] at now
      rw [now]
      exact noError
  · refine invariant.known other (asked.imp (fun asked unknown => asked ?_) id)
    exact Session.send_imp (motive := fun request => request.phase = .unknown) event other
      (fun _ => (RequestSession.declare_phase_eq_unknown event).mpr) unknown

/-- **Every step of a provider that keeps the contract keeps the invariant.** -/
theorem step (invariant : AttributionInvariant session) (settled : session.worker.Settled)
    (allowed : KeepsByteContract session action) (taken : SessionStep session action next events) :
    AttributionInvariant next := by
  cases taken with
  | spoken taken => exact invariant.spoken taken
  | moved internal taken => exact invariant.moved settled internal taken
  | audioRead reads nonempty pipe taken =>
      obtain ⟨now, reads⟩ := reads
      exact invariant.audioRead settled (reads.imp And.right And.right) nonempty pipe
        (step_spec taken)
  | recordRead pipe taken => exact invariant.recordRead pipe (step_spec taken)
  | received pipe receives => exact invariant.received pipe receives
  | committed => exact invariant.committed allowed
  | sent => exact invariant.sent allowed

end AttributionInvariant

theorem session_workerInvariant {guard : Session → SessionAction → Prop}
    (reached : sessionMachine.Reaches guard trace session) :
    WorkerInvariant session.speak.worker := by
  have run : workerMachine.Reaches Machine.anyStep (sessionEvents trace) session.speak.worker :=
    reaches_worker reached fun _ _ => trivial
  exact workerInvariant run

/-- **The invariant holds in every state of every run whose provider keeps the
contract.** -/
theorem attributionInvariant {guard : Session → SessionAction → Prop}
    (contract : ∀ session action, guard session action → KeepsByteContract session action)
    (reached : sessionMachine.Reaches guard trace session) : AttributionInvariant session := by
  refine reached.induct (motive := fun _ session => AttributionInvariant session) ?_ ?_
  · rintro _ ⟨blockAlign, positive, rfl⟩
    exact .initial blockAlign positive
  · intro _ _ _ _ _ before invariant allowed taken
    exact invariant.step (session_workerInvariant before).consistent.toSettled
      (contract _ _ allowed) (sessionStep_spec taken)

end ModernSapi
