import ModernSapi.Library.Trace
import ModernSapi.Worker.Ledger

/-!
# The bytes of a run

`Delivered` says what holds of the bytes of a run at every moment: for the request
that is spoken its ledger, and for every request, earlier ones included whose last
batch may still be in a call to SAPI, the order of what was read, handed over and
taken. One lemma for each kind of step shows that it is kept:
`Delivered.quiet` for a step that moves no byte, `Delivered.check` for the check of
the declared end, and one each for a read, a span handed over or taken, a terminal
record and a start.
-/

set_option autoImplicit false

namespace ModernSapi

open Interleaving SpeechWorker PcmDeliveryPolicy

/-! ## The invariant -/

namespace AudioThread

/-- The thread has ended, or is about to. -/
def Dead (audio : AudioThread) : Prop := audio = .enterFaultedState true ∨ audio = .stopped

/-- No batch is in flight. -/
def Clear : AudioThread → Prop
  | .admitting _ | .onAudioData .. | .batchDone .. => False
  | _ => True

instance : DecidablePred AudioThread.Clear
  | .admitting _ | .onAudioData .. | .batchDone .. => .isFalse id
  | .reading | .sendCancellation _ | .enterFaultedState _ | .stopped => .isTrue trivial

/-- The token of the batch in flight. -/
def batchToken? : AudioThread → Option RequestToken
  | .admitting batch | .onAudioData batch _ => some batch.token
  | .batchDone token .. => some token
  | _ => none

/-- The spans of the batch in flight, the one in the call to SAPI included. -/
def spansInFlight : AudioThread → List (List UInt8)
  | .admitting batch => batch.spans
  | .onAudioData batch span => span :: batch.spans
  | _ => []

theorem Clear.flight {audio : AudioThread} (clear : audio.Clear) (token : RequestToken) :
    audio.flight token = {} := by
  cases audio <;> first | rfl | exact clear.elim

theorem Clear.batchToken? {audio : AudioThread} (clear : audio.Clear) :
    audio.batchToken? = none := by
  cases audio <;> first | rfl | exact clear.elim

theorem Clear.spansInFlight {audio : AudioThread} (clear : audio.Clear) :
    audio.spansInFlight = [] := by
  cases audio <;> first | rfl | exact clear.elim

/-- A batch is in flight for the request it was taken in under, -/
theorem active_flight {audio : AudioThread} {token : RequestToken}
    (carried : audio.batchToken? = some token) : (audio.flight token).active = true := by
  cases audio with
  | admitting | onAudioData | batchDone =>
      cases carried
      simp [AudioThread.flight]
  | _ => cases carried

/-- and for no other. -/
theorem flight_of_other {audio : AudioThread} {token : RequestToken}
    (other : audio.batchToken? ≠ some token) : audio.flight token = {} := by
  cases audio with
  | admitting | onAudioData | batchDone => exact if_neg fun same => other (congrArg some same)
  | _ => rfl

theorem clear_afterChunk (fault : Bool) : (AudioThread.afterChunk fault).Clear := by
  cases fault <;> trivial

theorem clear_afterFault (thenStop : Bool) : (AudioThread.afterFault thenStop).Clear := by
  cases thenStop <;> trivial

end AudioThread

/-- The event reports the end of a request that was delivered exactly. -/
def CompletesExactly (before : List Observation) (event : Observation) : Prop :=
  ∀ generation declared, event = .terminalBoundaryReached generation declared →
    acceptedOf generation before = (readSince generation before).take declared ∧
      (acceptedOf generation before).length = declared

/-- The event reports a terminal record with no more bytes counted than read. -/
def RecordsWithinRead (before : List Observation) (event : Observation) : Prop :=
  ∀ generation declared raw, event = .terminalReceived generation declared raw →
    raw ≤ (readSince generation before).length

/-- The bytes of a run, for the worker and its audio thread. -/
structure Delivered (trace : List Observation) (worker : SpeechWorker) (audio : AudioThread) :
    Prop where
  generation : worker.context.token.generation = worker.generationCounter
  startedBound : ∀ {token}, .requestStarted token ∈ trace →
    token.generation ≤ worker.generationCounter
  openStarted : worker.context.downstreamState = .speaking ∨
    worker.context.downstreamState = .cancelling → Started worker.context.token.generation trace
  handedRead : ∀ generation, handedOf generation trace <+: readSince generation trace
  acceptedHanded : ∀ generation, acceptedOf generation trace <+: handedOf generation trace
  handedFrames : ∀ {generation span}, .spanHanded generation span ∈ trace →
    WholeFrames worker.frameAssembler.blockAlign span
  acceptedFrames : ∀ {generation span}, .spanAccepted generation span ∈ trace →
    WholeFrames worker.frameAssembler.blockAlign span
  batchToken : ∀ {token}, audio.batchToken? = some token →
    token = worker.context.token ∨ token.generation < worker.generationCounter
  batchFrames : ∀ span ∈ audio.spansInFlight, WholeFrames worker.frameAssembler.blockAlign span
  call : ∀ {batch span}, audio = .onAudioData batch span →
    handedOf batch.token.generation trace = acceptedOf batch.token.generation trace ++ span
  assembly : .frameAssemblyFailed ∈ trace → audio.Dead
  record : ∀ {generation declared raw}, .terminalReceived generation declared raw ∈ trace →
    generation ≤ worker.generationCounter ∧ (handedOf generation trace).length ≤ max raw declared
  rawRead : worker.context.rawAudioBytesRead ≤
    (readSince worker.context.token.generation trace).length
  handedRaw : (handedOf worker.context.token.generation trace).length ≤
    worker.context.rawAudioBytesRead
  recorded : Always RecordsWithinRead trace
  completed : Always CompletesExactly trace
  ledger : worker.context.downstreamState = .speaking →
    RequestLedger trace worker (audio.flight worker.context.token)

/-! ## Steps that move no byte -/

/-- An event that reports the end of a request or a protocol fault. -/
def Observation.Silent : Observation → Prop
  | .protocolFault _ | .terminalBoundaryReached .. | .cancellationBoundaryReached .. => True
  | _ => False

/-- The worker after a step that moves no byte. -/
structure SettlesTo (worker after : SpeechWorker) : Prop where
  token : after.context.token = worker.context.token
  counter : after.generationCounter = worker.generationCounter
  raw : after.context.rawAudioBytesRead = worker.context.rawAudioBytesRead
  blockAlign : after.frameAssembler.blockAlign = worker.frameAssembler.blockAlign
  opened : after.context.downstreamState = .speaking ∨
      after.context.downstreamState = .cancelling →
    worker.context.downstreamState = .speaking ∨ worker.context.downstreamState = .cancelling
  speaking : after.context.downstreamState = .speaking →
    worker.context.downstreamState = .speaking ∧ SameRequest worker after

/-- The audio thread stays, or leaves without a batch. -/
structure AudioKept (audio after : AudioThread) : Prop where
  batch : after = audio ∨ after.Clear
  dead : audio.Dead → after.Dead

section Silent

variable {trace events : List Observation} {worker after : SpeechWorker}
  {audio audioAfter : AudioThread}

theorem flatMap_silent {f : Observation → List UInt8}
    (ignored : ∀ event, event.Silent → f event = [])
    (silent : ∀ event ∈ events, event.Silent) : events.flatMap f = [] :=
  List.flatMap_eq_nil_iff.mpr fun event member => ignored event (silent event member)

theorem neutral_of_silent (silent : ∀ event ∈ events, event.Silent) (generation : ℕ) :
    Neutral generation events where
  read := flatMap_silent (fun event quiet => by cases event <;> first | rfl | exact quiet.elim)
    silent
  handed := flatMap_silent (fun event quiet => by cases event <;> first | rfl | exact quiet.elim)
    silent
  accepted := flatMap_silent (fun event quiet => by cases event <;> first | rfl | exact quiet.elim)
    silent
  noStart _ member := silent _ member
  noRecord _ _ member := silent _ member

theorem mem_of_not_silent {event : Observation} (silent : ∀ event ∈ events, event.Silent)
    (loud : ¬event.Silent) (member : event ∈ trace ++ events) : event ∈ trace := by
  rcases List.mem_append.mp member with before | now
  · exact before
  · exact absurd (silent event now) loud

/-- **The invariant is kept by a step that moves no byte.** -/
theorem Delivered.quiet (delivered : Delivered trace worker audio)
    (silent : ∀ event ∈ events, event.Silent)
    (reached : ∀ {generation declared}, .terminalBoundaryReached generation declared ∈ events →
      acceptedOf generation trace = (readSince generation trace).take declared ∧
        (acceptedOf generation trace).length = declared)
    (settles : SettlesTo worker after) (kept : AudioKept audio audioAfter)
    (flight : after.context.downstreamState = .speaking →
      audioAfter.flight worker.context.token = audio.flight worker.context.token) :
    Delivered (trace ++ events) after audioAfter := by
  have neutral := neutral_of_silent silent
  have generation : after.context.token.generation = worker.context.token.generation :=
    congrArg RequestToken.generation settles.token
  refine ⟨?_, ?_, ?_, ?_, ?_, ?_, ?_, ?_, ?_, ?_, ?_, ?_, ?_, ?_, ?_, ?_, ?_⟩
  · rw [generation, settles.counter]
    exact delivered.generation
  · intro token member
    rw [settles.counter]
    exact delivered.startedBound (mem_of_not_silent silent id member)
  · intro opened
    rw [generation]
    exact (delivered.openStarted (settles.opened opened)).append events
  · intro owner
    rw [(neutral owner).handedOf, (neutral owner).readSince]
    exact delivered.handedRead owner
  · intro owner
    rw [(neutral owner).handedOf, (neutral owner).acceptedOf]
    exact delivered.acceptedHanded owner
  · intro owner span member
    rw [settles.blockAlign]
    exact delivered.handedFrames (mem_of_not_silent silent id member)
  · intro owner span member
    rw [settles.blockAlign]
    exact delivered.acceptedFrames (mem_of_not_silent silent id member)
  · intro token carried
    rw [settles.token, settles.counter]
    rcases kept.batch with same | clear
    · rw [same] at carried
      exact delivered.batchToken carried
    · rw [clear.batchToken?] at carried
      cases carried
  · rw [settles.blockAlign]
    rcases kept.batch with same | clear
    · rw [same]
      exact delivered.batchFrames
    · rw [clear.spansInFlight]
      simp
  · intro batch span here
    rcases kept.batch with same | clear
    · rw [same] at here
      rw [(neutral _).handedOf, (neutral _).acceptedOf]
      exact delivered.call here
    · rw [here] at clear
      exact clear.elim
  · intro failed
    exact kept.dead (delivered.assembly (mem_of_not_silent silent id failed))
  · intro owner declared raw member
    rw [settles.counter, (neutral owner).handedOf]
    exact delivered.record (mem_of_not_silent silent id member)
  · rw [settles.raw, generation, (neutral _).readSince]
    exact delivered.rawRead
  · rw [settles.raw, generation, (neutral _).handedOf]
    exact delivered.handedRaw
  · refine delivered.recorded.append (.of_forall fun before event member => ?_)
    rintro owner declared raw rfl
    exact (silent _ member).elim
  · refine delivered.completed.append ?_
    rintro before event later split owner declared rfl
    have earlier : ∀ event ∈ before, event.Silent :=
      fun event member => silent event (by rw [split]; exact List.mem_append_left _ member)
    rw [(neutral_of_silent earlier owner).acceptedOf, (neutral_of_silent earlier owner).readSince]
    exact reached (by rw [split]; simp)
  · intro speaking
    obtain ⟨before, same⟩ := settles.speaking speaking
    rw [settles.token, flight speaking]
    exact (delivered.ledger before).quiet (neutral _) same

end Silent

namespace SettlesTo

variable {worker after : SpeechWorker}

theorem refl (worker : SpeechWorker) : SettlesTo worker worker :=
  ⟨rfl, rfl, rfl, rfl, id, fun speaking => ⟨speaking, .refl worker⟩⟩

theorem pendFault (settles : SettlesTo worker after) (failed : Bool) :
    SettlesTo worker (after.pendFault failed) := by
  cases failed with
  | false => exact settles
  | true =>
      exact ⟨settles.token, settles.counter, settles.raw, settles.blockAlign, settles.opened,
        fun speaking => ⟨(settles.speaking speaking).1, (settles.speaking speaking).2.pendFault true⟩⟩

/-- A worker that is not open any more settles. -/
theorem of_closed (token : after.context.token = worker.context.token)
    (counter : after.generationCounter = worker.generationCounter)
    (raw : after.context.rawAudioBytesRead = worker.context.rawAudioBytesRead)
    (blockAlign : after.frameAssembler.blockAlign = worker.frameAssembler.blockAlign)
    (closed : after.context.downstreamState = .idle ∨ after.context.downstreamState = .faulted) :
    SettlesTo worker after := by
  refine ⟨token, counter, raw, blockAlign, fun opened => ?_, fun speaking => ?_⟩
  · rcases closed with closed | closed <;> simp [closed] at opened
  · rcases closed with closed | closed <;> simp [closed] at speaking

theorem resetToIdleLocked (worker : SpeechWorker) :
    SettlesTo worker worker.resetToIdleLocked :=
  of_closed rfl rfl rfl rfl (.inl rfl)

theorem boundary {checked : SpeechWorker × Bool × List Observation}
    (outcome : BoundaryOutcome worker checked) :
    SettlesTo worker (checked.1.pendFault checked.2.1) := by
  rcases outcome.worker_cases with same | ⟨reset, -⟩
  · rw [same]
    exact (refl worker).pendFault _
  · rw [reset]
    exact (resetToIdleLocked worker).pendFault _

end SettlesTo

theorem AudioKept.refl (audio : AudioThread) : AudioKept audio audio := ⟨.inl rfl, id⟩

/-! ## The check of the declared end -/

section Checking

variable {trace : List Observation} {worker : SpeechWorker} {audio : AudioThread}

theorem SpeechWorker.BoundaryOutcome.silent {checked : SpeechWorker × Bool × List Observation}
    (outcome : BoundaryOutcome worker checked) : ∀ event ∈ checked.2.2, event.Silent := by
  cases outcome <;> simp [Observation.Silent]

theorem Delivered.acceptedRead (delivered : Delivered trace worker audio) (generation : ℕ) :
    acceptedOf generation trace <+: readSince generation trace :=
  (delivered.acceptedHanded generation).trans (delivered.handedRead generation)

/-- **The check completes a request only when it was delivered exactly.** -/
theorem Delivered.check {checked : SpeechWorker × Bool × List Observation}
    (delivered : Delivered trace worker audio) (outcome : BoundaryOutcome worker checked) :
    Delivered (trace ++ checked.2.2) (checked.1.pendFault checked.2.1) audio := by
  refine delivered.quiet outcome.silent ?_ (.boundary outcome) (.refl audio) fun _ => rfl
  intro owner declared member
  cases outcome with
  | completed speaking _ reached =>
      rw [List.mem_singleton] at member
      cases member
      exact (delivered.ledger speaking).accepted_of_reachedEnd reached (delivered.acceptedRead _)
  | _ => simp at member

/-- Accepted spans of whole frames add up to whole frames. -/
theorem dvd_acceptedOf {blockAlign : ℕ} (trace : List Observation) (generation : ℕ)
    (frames : ∀ owner span, .spanAccepted owner span ∈ trace → WholeFrames blockAlign span) :
    blockAlign ∣ (acceptedOf generation trace).length := by
  induction trace with
  | nil => exact Nat.dvd_zero _
  | cons first rest ih =>
      have tail := ih fun owner span member => frames owner span (List.mem_cons_of_mem _ member)
      have split := acceptedOf_append generation [first] rest
      rw [List.singleton_append] at split
      rw [split, List.length_append]
      refine Nat.dvd_add ?_ tail
      cases first with
      | spanAccepted owner span =>
          have whole := (frames owner span List.mem_cons_self).2
          by_cases same : owner = generation
          · simpa [acceptedOf, same] using whole
          · simp [acceptedOf, same]
      | _ => simp [acceptedOf]

theorem Delivered.acceptedAligned (delivered : Delivered trace worker audio) (generation : ℕ) :
    worker.frameAssembler.blockAlign ∣ (acceptedOf generation trace).length :=
  dvd_acceptedOf trace generation fun _ _ member => delivered.acceptedFrames member

theorem flight_of_inactive {token : RequestToken} (inactive : (audio.flight token).active = false) :
    audio.flight token = {} := by
  cases audio with
  | admitting batch =>
      by_cases current : batch.token = token
      · simp [AudioThread.flight, current] at inactive
      · simp [AudioThread.flight, current]
  | onAudioData batch span =>
      by_cases current : batch.token = token
      · simp [AudioThread.flight, current] at inactive
      · simp [AudioThread.flight, current]
  | batchDone owner bytes accepted =>
      by_cases current : owner = token
      · simp [AudioThread.flight, current] at inactive
      · simp [AudioThread.flight, current]
  | _ => rfl

/-- A check that leaves a request speaking leaves no declared end behind. -/
theorem Delivered.check_noMissedEnd {checked : SpeechWorker × Bool × List Observation}
    (delivered : Delivered trace worker audio) (outcome : BoundaryOutcome worker checked)
    (speaking : (checked.1.pendFault checked.2.1).context.downstreamState = .speaking) :
    NoMissedEnd (trace ++ checked.2.2) (checked.1.pendFault checked.2.1)
      (audio.flight (checked.1.pendFault checked.2.1).context.token) := by
  cases outcome with
  | continues _ goesOn =>
      have ledger := delivered.ledger speaking
      rw [pendFault_false, List.append_nil]
      intro assembled noFault inactive finished
      rw [flight_of_inactive inactive] at ledger
      exact ledger.noMissedEnd speaking goesOn (delivered.acceptedAligned _) assembled noFault rfl
        finished
  | overrun =>
      intro _ noFault
      simp [setFaultPending] at noFault
  | failed | completed | drained => simp [resetToIdleLocked] at speaking

end Checking

/-! ## Reading a chunk -/

section Reading

variable {trace extra : List Observation} {worker after : SpeechWorker}
  {audioAfter : AudioThread} {now : ℕ} {chunk : List UInt8}

/-- The worker and the thread after a chunk was read for the same request. -/
structure ReadsFor (worker after : SpeechWorker) (audioAfter : AudioThread) : Prop where
  token : after.context.token = worker.context.token
  counter : after.generationCounter = worker.generationCounter
  blockAlign : after.frameAssembler.blockAlign = worker.frameAssembler.blockAlign
  opened : after.context.downstreamState = worker.context.downstreamState
  batch : ∀ token, audioAfter.batchToken? = some token → token = worker.context.token
  frames : ∀ span ∈ audioAfter.spansInFlight, WholeFrames worker.frameAssembler.blockAlign span
  noCall : ∀ batch span, audioAfter ≠ .onAudioData batch span

/-- **The invariant is kept by a read**, when the counters and the ledger of the
request are. The read may end in a failure of the frame assembly. -/
theorem Delivered.read (delivered : Delivered trace worker .reading)
    (reads : ReadsFor worker after audioAfter)
    (failure : ∀ event ∈ extra, event = .frameAssemblyFailed ∧ audioAfter.Dead)
    (raw : after.context.rawAudioBytesRead ≤
      (readSince worker.context.token.generation (trace ++ .pcmRead chunk :: extra)).length)
    (counted : worker.context.rawAudioBytesRead ≤ after.context.rawAudioBytesRead)
    (ledger : after.context.downstreamState = .speaking →
      RequestLedger (trace ++ .pcmRead chunk :: extra) after
        (audioAfter.flight worker.context.token)) :
    Delivered (trace ++ .pcmRead chunk :: extra) after audioAfter := by
  have generation : after.context.token.generation = worker.context.token.generation :=
    congrArg RequestToken.generation reads.token
  have handed (owner : ℕ) :
      handedOf owner (trace ++ .pcmRead chunk :: extra) = handedOf owner trace := by
    have none : handedOf owner (.pcmRead chunk :: extra) = [] := by
      refine List.flatMap_eq_nil_iff.mpr fun event member => ?_
      rcases List.mem_cons.mp member with rfl | later
      · rfl
      · rw [(failure event later).1]
    rw [handedOf_append, none, List.append_nil]
  have accepted (owner : ℕ) :
      acceptedOf owner (trace ++ .pcmRead chunk :: extra) = acceptedOf owner trace := by
    have none : acceptedOf owner (.pcmRead chunk :: extra) = [] := by
      refine List.flatMap_eq_nil_iff.mpr fun event member => ?_
      rcases List.mem_cons.mp member with rfl | later
      · rfl
      · rw [(failure event later).1]
    rw [acceptedOf_append, none, List.append_nil]
  -- An event of another kind than a read or a failed assembly was there before.
  have earlier {event : Observation} (kind : event ≠ .pcmRead chunk)
      (kind' : event ≠ .frameAssemblyFailed) (member : event ∈ trace ++ .pcmRead chunk :: extra) :
      event ∈ trace := by
    rcases List.mem_append.mp member with before | now
    · exact before
    · rcases List.mem_cons.mp now with here | later
      · exact absurd here kind
      · exact absurd (failure event later).1 kind'
  refine ⟨?_, ?_, ?_, ?_, ?_, ?_, ?_, ?_, ?_, ?_, ?_, ?_, ?_, ?_, ?_, ?_, ?_⟩
  · rw [generation, reads.counter]
    exact delivered.generation
  · intro token member
    rw [reads.counter]
    exact delivered.startedBound (earlier (by simp) (by simp) member)
  · intro opened
    rw [reads.opened] at opened
    rw [generation]
    exact (delivered.openStarted opened).append _
  · intro owner
    rw [handed]
    exact (delivered.handedRead owner).trans (readSince_prefix_append _)
  · intro owner
    rw [handed, accepted]
    exact delivered.acceptedHanded owner
  · intro owner span member
    rw [reads.blockAlign]
    exact delivered.handedFrames (earlier (by simp) (by simp) member)
  · intro owner span member
    rw [reads.blockAlign]
    exact delivered.acceptedFrames (earlier (by simp) (by simp) member)
  · intro token carried
    rw [reads.token]
    exact .inl (reads.batch token carried)
  · rw [reads.blockAlign]
    exact reads.frames
  · intro batch span here
    exact absurd here (reads.noCall batch span)
  · intro failed
    rcases List.mem_append.mp failed with before | now
    · rcases delivered.assembly before with dead | dead <;> cases dead
    · rcases List.mem_cons.mp now with here | later
      · cases here
      · exact (failure _ later).2
  · intro owner declared rawAt member
    rw [reads.counter, handed]
    exact delivered.record (earlier (by simp) (by simp) member)
  · rw [generation]
    exact raw
  · rw [generation, handed]
    exact delivered.handedRaw.trans counted
  · refine delivered.recorded.append (.of_forall fun _ event member => ?_)
    rintro owner declared rawAt rfl
    rcases List.mem_cons.mp member with here | later
    · cases here
    · cases (failure _ later).1
  · refine delivered.completed.append (.of_forall fun _ event member => ?_)
    rintro owner declared rfl
    rcases List.mem_cons.mp member with here | later
    · cases here
    · cases (failure _ later).1
  · intro speaking
    rw [reads.token]
    exact ledger speaking

theorem readSince_pcmRead {generation : ℕ} (started : Started generation trace)
    (extra : List Observation) (quiet : readBytes extra = []) :
    readSince generation (trace ++ .pcmRead chunk :: extra) =
      readSince generation trace ++ chunk := by
  have cons : readBytes (.pcmRead chunk :: extra) = chunk ++ readBytes extra := rfl
  rw [readSince_append_of_started _ started, cons, quiet, List.append_nil]

/-- A chunk read for no open request is not counted. -/
theorem Delivered.readClosed (delivered : Delivered trace worker .reading)
    (closed : worker.context.downstreamState ≠ .speaking) (chunk : List UInt8) :
    Delivered (trace ++ [.pcmRead chunk]) worker .reading :=
  delivered.read
    ⟨rfl, rfl, rfl, rfl, by simp [AudioThread.batchToken?], by simp [AudioThread.spansInFlight],
      by simp⟩
    (by simp) (delivered.rawRead.trans (readSince_prefix_append _).length_le) (Nat.le_refl _)
    fun speaking => absurd speaking closed

/-- A chunk read for a cancelled request is counted. -/
theorem Delivered.readCancelling (delivered : Delivered trace worker .reading)
    (cancelling : worker.context.downstreamState = .cancelling) (now : ℕ) (chunk : List UInt8) :
    Delivered (trace ++ [.pcmRead chunk]) (worker.chunkCounted now chunk.length) .reading := by
  have started := delivered.openStarted (.inr cancelling)
  refine delivered.read
    ⟨rfl, rfl, rfl, rfl, by simp [AudioThread.batchToken?], by simp [AudioThread.spansInFlight],
      by simp⟩ (by simp) ?_ (Nat.le_add_right _ _) ?_
  · rw [readSince_pcmRead started [] rfl, List.length_append]
    exact Nat.add_le_add_right delivered.rawRead _
  · intro speaking
    simp [chunkCounted, cancelling] at speaking

/-- A chunk read for a speaking request is counted and framed, and its spans are
the batch in flight. -/
theorem Delivered.readSpeaking (delivered : Delivered trace worker .reading)
    (speaking : worker.context.downstreamState = .speaking) (nonempty : chunk ≠ [])
    (now : ℕ) (active : Bool)
    (batch : ∀ token, audioAfter.batchToken? = some token → token = worker.context.token)
    (spans : ∀ span ∈ audioAfter.spansInFlight, span ∈ (worker.framing chunk).2)
    (noCall : ∀ batch span, audioAfter ≠ .onAudioData batch span)
    (flight : audioAfter.flight worker.context.token =
      { active, spans := (worker.framing chunk).2 }) :
    Delivered (trace ++ [.pcmRead chunk]) (worker.chunkFramed now chunk) audioAfter := by
  have started := delivered.openStarted (.inl speaking)
  refine delivered.read
    ⟨rfl, rfl, chunkFramed_blockAlign _ _ _, rfl, batch, fun span member => ?_, noCall⟩
    (by simp) ?_ (Nat.le_add_right _ _) ?_
  · exact PcmFrameAssembler.process_aligned _ _ span (spans span member)
  · rw [readSince_pcmRead started [] rfl, List.length_append]
    exact Nat.add_le_add_right delivered.rawRead _
  · intro _
    rw [flight]
    exact (delivered.ledger speaking).chunkFramed started nonempty active

/-- A chunk whose assembly fails is counted, and the thread ends. -/
theorem Delivered.readFailing (delivered : Delivered trace worker .reading)
    (speaking : worker.context.downstreamState = .speaking) (now : ℕ) (chunk : List UInt8) :
    Delivered (trace ++ [.pcmRead chunk, .frameAssemblyFailed])
      (worker.chunkCounted now chunk.length) (.enterFaultedState true) := by
  have started := delivered.openStarted (.inl speaking)
  have ledger : RequestLedger trace worker {} := delivered.ledger speaking
  have read : readSince worker.context.token.generation
      (trace ++ [.pcmRead chunk, .frameAssemblyFailed]) =
      readSince worker.context.token.generation trace ++ chunk :=
    readSince_pcmRead started [.frameAssemblyFailed] rfl
  refine delivered.read
    ⟨rfl, rfl, rfl, rfl, by simp [AudioThread.batchToken?], by simp [AudioThread.spansInFlight],
      by simp⟩ ?_ ?_ (Nat.le_add_right _ _) ?_
  · intro event member
    exact ⟨List.mem_singleton.mp member, .inl rfl⟩
  · rw [read, List.length_append]
    exact Nat.add_le_add_right delivered.rawRead _
  · intro _
    have counted : (worker.chunkCounted now chunk.length).context.rawAudioBytesRead =
        worker.context.rawAudioBytesRead + chunk.length := rfl
    refine ⟨?_, ?_, ?_, ?_, ?_, ledger.declared⟩
    · change worker.context.rawAudioBytesRead + chunk.length =
        (readSince worker.context.token.generation
          (trace ++ [.pcmRead chunk, .frameAssemblyFailed])).length
      rw [read, List.length_append, ledger.raw]
    · intro _
      change handedOf worker.context.token.generation (trace ++ [.pcmRead chunk,
        .frameAssemblyFailed]) = acceptedOf worker.context.token.generation (trace ++
          [.pcmRead chunk, .frameAssemblyFailed]) ++ []
      rw [handedOf_append, acceptedOf_append]
      simpa [handedOf, acceptedOf] using ledger.handed rfl
    · change worker.context.deliveredAudioBytes + 0 = (acceptedOf worker.context.token.generation
        (trace ++ [.pcmRead chunk, .frameAssemblyFailed])).length
      rw [acceptedOf_append]
      simpa [acceptedOf] using ledger.credit
    · intro assembled
      exact absurd (by simp) assembled
    · intro declared raw member
      have before : .terminalReceived worker.context.token.generation declared raw ∈ trace := by
        rcases List.mem_append.mp member with before | now
        · exact before
        · simp at now
      exact ⟨(ledger.record before).1, (ledger.record before).2.1,
        fun assembled => absurd (by simp) assembled⟩

end Reading

/-! ## Delivering a batch -/

section Batches

variable {trace : List Observation} {worker : SpeechWorker} {audio audioAfter : AudioThread}
  {batch : Batch} {span : List UInt8} {spans : List (List UInt8)}

/-- The thread moves on with the same batch, or without one. -/
theorem Delivered.moves (delivered : Delivered trace worker audio)
    (batch : ∀ token, audioAfter.batchToken? = some token → audio.batchToken? = some token)
    (frames : ∀ span ∈ audioAfter.spansInFlight, span ∈ audio.spansInFlight)
    (noCall : ∀ batch span, audioAfter ≠ .onAudioData batch span)
    (dead : audio.Dead → audioAfter.Dead)
    (ledger : worker.context.downstreamState = .speaking →
      RequestLedger trace worker (audioAfter.flight worker.context.token)) :
    Delivered trace worker audioAfter :=
  { delivered with
    batchToken := fun carried => delivered.batchToken (batch _ carried)
    batchFrames := fun span member => delivered.batchFrames span (frames span member)
    call := fun here => absurd here (noCall _ _)
    assembly := fun failed => dead (delivered.assembly failed)
    ledger }

/-- The thread moves on, with no batch before or after. -/
theorem Delivered.cleared (delivered : Delivered trace worker audio) (clear : audio.Clear)
    (left : audioAfter.Clear) (dead : audio.Dead → audioAfter.Dead) :
    Delivered trace worker audioAfter := by
  refine delivered.moves ?_ ?_ ?_ dead fun speaking => ?_
  · simp [left.batchToken?]
  · simp [left.spansInFlight]
  · intro batch span here
    rw [here] at left
    exact left.elim
  · have ledger := delivered.ledger speaking
    rwa [clear.flight, ← left.flight worker.context.token] at ledger

/-- A declared end is not missed while the thread keeps its batch. -/
theorem NoMissedEnd.moves {events : List Observation} {token : RequestToken}
    (noMissed : NoMissedEnd trace worker (audio.flight token))
    (batch : audioAfter.batchToken? = audio.batchToken?) :
    NoMissedEnd (trace ++ events) worker (audioAfter.flight token) := by
  intro assembled noFault inactive
  refine noMissed (not_mem_left assembled) noFault ?_
  by_cases carried : audio.batchToken? = some token
  · rw [AudioThread.active_flight (batch.trans carried)] at inactive
    cases inactive
  · rw [AudioThread.flight_of_other carried]

theorem Delivered.assembled (delivered : Delivered trace worker audio) (alive : ¬audio.Dead) :
    .frameAssemblyFailed ∉ trace :=
  fun failed => alive (delivered.assembly failed)

/-- **A span is handed to SAPI**: it is the next of the bytes read. -/
theorem Delivered.spanHanded (delivered : Delivered trace worker (.admitting batch))
    (next : batch.spans = span :: spans) (matching : worker.context.token = batch.token)
    (speaking : worker.context.downstreamState = .speaking)
    (noFault : worker.context.faultPending = false) :
    Delivered (trace ++ [.spanHanded batch.token.generation span]) worker
      (.onAudioData { batch with spans } span) := by
  have assembled := delivered.assembled (by simp [AudioThread.Dead])
  have flight : AudioThread.flight worker.context.token (.admitting batch) =
      { active := true, spans := span :: spans, delivered := batch.delivered } := by
    simp [AudioThread.flight, matching, next]
  have ledger := delivered.ledger speaking
  rw [flight] at ledger
  have inLine := (ledger.line assembled noFault rfl).isPrefix
  have settled := ledger.handed rfl
  rw [List.append_nil] at settled
  have lineStart : handedOf worker.context.token.generation trace ++ span <+:
      deliveryLine trace worker
        { active := true, spans := span :: spans, delivered := batch.delivered } := by
    refine ⟨spans.flatten ++ worker.frameAssembler.carry, ?_⟩
    simp [deliveryLine]
  have read (owner : ℕ) :
      readSince owner (trace ++ [.spanHanded batch.token.generation span]) =
        readSince owner trace :=
    readSince_append_quiet rfl (by simp)
  have accepted (owner : ℕ) :
      acceptedOf owner (trace ++ [.spanHanded batch.token.generation span]) =
        acceptedOf owner trace :=
    acceptedOf_append_quiet rfl
  have handed : handedOf worker.context.token.generation
      (trace ++ [.spanHanded batch.token.generation span]) =
        handedOf worker.context.token.generation trace ++ span := by
    rw [matching]
    exact handedOf_spanHanded _ _ _
  have handedOther {owner : ℕ} (other : owner ≠ worker.context.token.generation) :
      handedOf owner (trace ++ [.spanHanded batch.token.generation span]) =
        handedOf owner trace := by
    rw [handedOf_append, ← matching]
    simp [handedOf, Ne.symm other]
  have wholeSpan : WholeFrames worker.frameAssembler.blockAlign span :=
    delivered.batchFrames span (by simp [AudioThread.spansInFlight, next])
  have within : (handedOf worker.context.token.generation trace ++ span).length ≤
      worker.context.rawAudioBytesRead := by
    rw [ledger.raw]
    exact (lineStart.trans inLine).length_le
  refine
    { generation := delivered.generation
      startedBound := fun member => delivered.startedBound (by simpa using member)
      openStarted := fun opened => (delivered.openStarted opened).append _
      handedRead := ?_
      acceptedHanded := ?_
      handedFrames := ?_
      acceptedFrames := fun member => delivered.acceptedFrames (by simpa using member)
      batchToken := fun carried => delivered.batchToken carried
      batchFrames := ?_
      call := ?_
      assembly := fun failed => absurd (by simpa using failed) assembled
      record := ?_
      rawRead := ?_
      handedRaw := ?_
      recorded := delivered.recorded.append (.of_forall fun _ event member => ?_)
      completed := delivered.completed.append (.of_forall fun _ event member => ?_)
      ledger := fun _ => ?_ }
  · intro owner
    rw [read]
    by_cases same : owner = worker.context.token.generation
    · rw [same, handed]
      exact lineStart.trans inLine
    · rw [handedOther same]
      exact delivered.handedRead owner
  · intro owner
    rw [accepted]
    by_cases same : owner = worker.context.token.generation
    · rw [same, handed, settled]
      exact List.prefix_append _ _
    · rw [handedOther same]
      exact delivered.acceptedHanded owner
  · intro owner other member
    rcases List.mem_append.mp member with before | now
    · exact delivered.handedFrames before
    · simp only [List.mem_singleton, Observation.spanHanded.injEq] at now
      rw [now.2]
      exact wholeSpan
  · intro other member
    refine delivered.batchFrames other ?_
    simpa [AudioThread.spansInFlight, next] using member
  · intro other inCall here
    cases here
    rw [matching] at handed settled
    change handedOf batch.token.generation _ = acceptedOf batch.token.generation _ ++ span
    rw [accepted, handed, settled]
  · intro owner declared raw member
    have before : .terminalReceived owner declared raw ∈ trace := by simpa using member
    obtain ⟨bound, short⟩ := delivered.record before
    refine ⟨bound, ?_⟩
    by_cases same : owner = worker.context.token.generation
    · subst same
      rw [handed]
      exact lineStart.length_le.trans ((ledger.record before).2.2 assembled noFault rfl)
    · rw [handedOther same]
      exact short
  · rw [read]
    exact delivered.rawRead
  · rw [handed]
    exact within
  · rintro owner declared raw rfl
    simp at member
  · rintro owner declared rfl
    simp at member
  · have inFlight : AudioThread.flight worker.context.token (.onAudioData { batch with spans } span)
        = { active := true, spans, call := span, delivered := batch.delivered } := by
      simp [AudioThread.flight, matching]
    rw [inFlight, ← matching]
    exact ledger.spanHanded

/-- **SAPI takes a span**: the bytes it took are those it was handed. -/
theorem Delivered.spanAccepted (delivered : Delivered trace worker (.onAudioData batch span)) :
    Delivered (trace ++ [.spanAccepted batch.token.generation span]) worker
      (.admitting { batch with delivered := batch.delivered + span.length }) := by
  have assembled := delivered.assembled (by simp [AudioThread.Dead])
  have call := delivered.call rfl
  have read (owner : ℕ) :
      readSince owner (trace ++ [.spanAccepted batch.token.generation span]) =
        readSince owner trace :=
    readSince_append_quiet rfl (by simp)
  have handed (owner : ℕ) :
      handedOf owner (trace ++ [.spanAccepted batch.token.generation span]) =
        handedOf owner trace :=
    handedOf_append_quiet rfl
  have acceptedOther {owner : ℕ} (other : owner ≠ batch.token.generation) :
      acceptedOf owner (trace ++ [.spanAccepted batch.token.generation span]) =
        acceptedOf owner trace := by
    rw [acceptedOf_append]
    simp [acceptedOf, Ne.symm other]
  have wholeSpan : WholeFrames worker.frameAssembler.blockAlign span :=
    delivered.batchFrames span (by simp [AudioThread.spansInFlight])
  refine
    { generation := delivered.generation
      startedBound := fun member => delivered.startedBound (by simpa using member)
      openStarted := fun opened => (delivered.openStarted opened).append _
      handedRead := ?_
      acceptedHanded := ?_
      handedFrames := fun member => delivered.handedFrames (by simpa using member)
      acceptedFrames := ?_
      batchToken := fun carried => delivered.batchToken carried
      batchFrames := ?_
      call := by simp
      assembly := fun failed => absurd (by simpa using failed) assembled
      record := ?_
      rawRead := ?_
      handedRaw := ?_
      recorded := delivered.recorded.append (.of_forall fun _ event member => ?_)
      completed := delivered.completed.append (.of_forall fun _ event member => ?_)
      ledger := fun speaking => ?_ }
  · intro owner
    rw [handed, read]
    exact delivered.handedRead owner
  · intro owner
    rw [handed]
    by_cases same : owner = batch.token.generation
    · rw [same, acceptedOf_spanAccepted, call]
    · rw [acceptedOther same]
      exact delivered.acceptedHanded owner
  · intro owner other member
    rcases List.mem_append.mp member with before | now
    · exact delivered.acceptedFrames before
    · simp only [List.mem_singleton, Observation.spanAccepted.injEq] at now
      rw [now.2]
      exact wholeSpan
  · intro other member
    exact delivered.batchFrames other (List.mem_cons_of_mem _ member)
  · intro owner declared raw member
    rw [handed]
    exact delivered.record (by simpa using member)
  · rw [read]
    exact delivered.rawRead
  · rw [handed]
    exact delivered.handedRaw
  · rintro owner declared raw rfl
    simp at member
  · rintro owner declared rfl
    simp at member
  · have ledger := delivered.ledger speaking
    by_cases current : batch.token = worker.context.token
    · have before : AudioThread.flight worker.context.token (.onAudioData batch span) =
          { active := true, spans := batch.spans, call := span, delivered := batch.delivered } := by
        simp [AudioThread.flight, current]
      have after : AudioThread.flight worker.context.token
          (.admitting { batch with delivered := batch.delivered + span.length }) =
          { active := true, spans := batch.spans
            delivered := batch.delivered + span.length } := by
        simp [AudioThread.flight, current]
      rw [before] at ledger
      rw [after, current]
      exact ledger.spanAccepted
    · have before : AudioThread.flight worker.context.token (.onAudioData batch span) = {} := by
        simp [AudioThread.flight, current]
      have after : AudioThread.flight worker.context.token
          (.admitting { batch with delivered := batch.delivered + span.length }) = {} := by
        simp [AudioThread.flight, current]
      have stale : worker.context.token.generation ≠ batch.token.generation := by
        rcases delivered.batchToken rfl with same | older
        · exact absurd same current
        · rw [delivered.generation]
          exact Nat.ne_of_gt older
      rw [before] at ledger
      rw [after]
      refine ledger.quiet ⟨rfl, rfl, ?_, by simp, by simp⟩ (.refl worker)
      simp [acceptedOf, Ne.symm stale]

/-- SAPI does not take the span. -/
theorem Delivered.spanRejected (delivered : Delivered trace worker (.onAudioData batch span)) :
    Delivered trace worker (.batchDone batch.token batch.delivered false) := by
  refine delivered.moves (fun _ carried => carried) (by simp [AudioThread.spansInFlight])
    (by simp) (by simp [AudioThread.Dead]) fun speaking => ?_
  have ledger := delivered.ledger speaking
  by_cases current : batch.token = worker.context.token
  · simp only [AudioThread.flight, current, if_true] at ledger ⊢
    exact ledger.spanRejected
  · simp only [AudioThread.flight, current, if_false] at ledger ⊢
    exact ledger

/-- The span loop ends. -/
theorem Delivered.spansEnd (delivered : Delivered trace worker (.admitting batch))
    (ended : batch.spans = [] ∨
      ¬(worker.context.token = batch.token ∧ worker.context.downstreamState = .speaking ∧
        worker.context.faultPending = false)) :
    Delivered trace worker (.batchDone batch.token batch.delivered true) := by
  refine delivered.moves (fun _ carried => carried) (by simp [AudioThread.spansInFlight])
    (by simp) (by simp [AudioThread.Dead]) fun speaking => ?_
  have ledger := delivered.ledger speaking
  by_cases current : batch.token = worker.context.token
  · simp only [AudioThread.flight, current, if_true] at ledger ⊢
    refine ledger.spansEnd ?_
    rcases ended with none | closed
    · exact .inl none
    · refine .inr (Bool.not_eq_false _ ▸ fun noFault => ?_)
      exact closed ⟨current.symm, speaking, noFault⟩
  · simp only [AudioThread.flight, current, if_false] at ledger ⊢
    exact ledger

/-- A batch SAPI took is credited to the request that is speaking. -/
theorem Delivered.credited {bytes : ℕ}
    (delivered : Delivered trace worker (.batchDone worker.context.token bytes true))
    (clear : audioAfter.Clear) : Delivered trace (worker.credited bytes) audioAfter :=
  have assembled := delivered.assembled (by simp [AudioThread.Dead])
  { delivered with
    batchToken := fun carried => by simp [clear.batchToken?] at carried
    batchFrames := fun span member => by simp [clear.spansInFlight] at member
    call := fun here => by
      rw [here] at clear
      exact clear.elim
    assembly := fun failed => absurd failed assembled
    ledger := fun speaking => by
      have ledger := delivered.ledger speaking
      simp only [AudioThread.flight, if_true] at ledger
      rw [clear.flight]
      exact ledger.credited }

end Batches

/-! ## Recording the declared end, and starting -/

section Requests

variable {trace : List Observation} {worker : SpeechWorker} {audio : AudioThread}

/-- **The declared end of the current request is recorded.** -/
theorem Delivered.applyTerminal (delivered : Delivered trace worker audio)
    (unfinished : worker.context.upstreamFinished = false) (type : ProviderEventType) {bytes : ℕ}
    (aligned : worker.frameAssembler.blockAlign ∣ bytes) :
    Delivered
      (trace ++ [.terminalReceived worker.context.token.generation bytes
        worker.context.rawAudioBytesRead])
      (worker.applyTerminal (terminalTarget type) bytes) audio := by
  have read (owner : ℕ) :
      readSince owner (trace ++ [.terminalReceived worker.context.token.generation bytes
        worker.context.rawAudioBytesRead]) = readSince owner trace :=
    readSince_append_quiet rfl (by simp)
  have handed (owner : ℕ) :
      handedOf owner (trace ++ [.terminalReceived worker.context.token.generation bytes
        worker.context.rawAudioBytesRead]) = handedOf owner trace :=
    handedOf_append_quiet rfl
  have accepted (owner : ℕ) :
      acceptedOf owner (trace ++ [.terminalReceived worker.context.token.generation bytes
        worker.context.rawAudioBytesRead]) = acceptedOf owner trace :=
    acceptedOf_append_quiet rfl
  refine
    { generation := delivered.generation
      startedBound := fun member => delivered.startedBound (by simpa using member)
      openStarted := fun opened => (delivered.openStarted opened).append _
      handedRead := fun owner => ?_
      acceptedHanded := fun owner => ?_
      handedFrames := fun member => delivered.handedFrames (by simpa using member)
      acceptedFrames := fun member => delivered.acceptedFrames (by simpa using member)
      batchToken := delivered.batchToken
      batchFrames := delivered.batchFrames
      call := fun here => ?_
      assembly := fun failed => delivered.assembly (by simpa using failed)
      record := ?_
      rawRead := (delivered.rawRead.trans_eq (congrArg List.length (read _).symm))
      handedRaw := (congrArg List.length (handed _)).trans_le delivered.handedRaw
      recorded := delivered.recorded.append (.of_forall fun before event member => ?_)
      completed := delivered.completed.append (.of_forall fun _ event member => ?_)
      ledger := fun speaking => (delivered.ledger speaking).applyTerminal unfinished type aligned }
  · rw [handed, read]
    exact delivered.handedRead owner
  · rw [handed, accepted]
    exact delivered.acceptedHanded owner
  · rw [handed, accepted]
    exact delivered.call here
  · intro owner declared raw member
    rw [handed]
    rcases List.mem_append.mp member with before | now
    · exact delivered.record before
    · simp only [List.mem_singleton, Observation.terminalReceived.injEq] at now
      obtain ⟨rfl, rfl, rfl⟩ := now
      exact ⟨Nat.le_of_eq delivered.generation,
        delivered.handedRaw.trans (Nat.le_max_left _ _)⟩
  · rintro owner declared raw rfl
    simp only [List.mem_singleton, Observation.terminalReceived.injEq] at member
    obtain ⟨rfl, rfl, rfl⟩ := member
    exact delivered.rawRead.trans (readSince_prefix_append _).length_le
  · rintro owner declared rfl
    simp at member

/-- No byte moves for a generation that was not started. -/
theorem Delivered.handed_of_not_started (delivered : Delivered trace worker audio) {owner : ℕ}
    (notStarted : ¬Started owner trace) : handedOf owner trace = [] := by
  have inOrder := delivered.handedRead owner
  rw [readSince_of_not_started notStarted] at inOrder
  exact List.prefix_nil.mp inOrder

/-- A batch in flight is of no later generation. -/
theorem Delivered.flight_of_later (delivered : Delivered trace worker audio)
    {token : RequestToken} (later : worker.generationCounter < token.generation) :
    audio.flight token = {} := by
  refine AudioThread.flight_of_other fun carried => ?_
  rcases delivered.batchToken carried with same | older
  · have generation := delivered.generation
    rw [← same] at generation
    omega
  · omega

/-- **A new request starts with empty books.** -/
theorem Delivered.started (delivered : Delivered trace worker audio) (now speakId : ℕ) :
    Delivered (trace ++ [.requestStarted (worker.nextToken speakId)])
      (worker.started now (worker.nextToken speakId)) audio := by
  have fresh : ¬Started (worker.nextToken speakId).generation trace := by
    rintro ⟨token, member, same⟩
    have bound := delivered.startedBound member
    simp only [nextToken] at same
    omega
  have handed (owner : ℕ) :
      handedOf owner (trace ++ [.requestStarted (worker.nextToken speakId)]) =
        handedOf owner trace :=
    handedOf_append_quiet rfl
  have accepted (owner : ℕ) :
      acceptedOf owner (trace ++ [.requestStarted (worker.nextToken speakId)]) =
        acceptedOf owner trace :=
    acceptedOf_append_quiet rfl
  have noHanded := delivered.handed_of_not_started fresh
  have noAccepted : acceptedOf (worker.nextToken speakId).generation trace = [] := by
    have inOrder := delivered.acceptedHanded (worker.nextToken speakId).generation
    rw [noHanded] at inOrder
    exact List.prefix_nil.mp inOrder
  refine
    { generation := rfl
      startedBound := ?_
      openStarted := fun _ => ⟨worker.nextToken speakId, by simp, rfl⟩
      handedRead := fun owner => ?_
      acceptedHanded := fun owner => ?_
      handedFrames := fun member => delivered.handedFrames (by simpa using member)
      acceptedFrames := fun member => delivered.acceptedFrames (by simpa using member)
      batchToken := fun carried => .inr ?_
      batchFrames := delivered.batchFrames
      call := fun here => ?_
      assembly := fun failed => delivered.assembly (by simpa using failed)
      record := ?_
      rawRead := Nat.zero_le _
      handedRaw := ?_
      recorded := delivered.recorded.append (.of_forall fun before event member => ?_)
      completed := delivered.completed.append (.of_forall fun _ event member => ?_)
      ledger := fun _ => ?_ }
  · intro token member
    change token.generation ≤ worker.generationCounter + 1
    rcases List.mem_append.mp member with before | now
    · exact Nat.le_succ_of_le (delivered.startedBound before)
    · simp only [List.mem_singleton, Observation.requestStarted.injEq] at now
      rw [now]
      exact Nat.le_refl _
  · rw [handed]
    exact (delivered.handedRead owner).trans (readSince_prefix_append _)
  · rw [handed, accepted]
    exact delivered.acceptedHanded owner
  · change _ < worker.generationCounter + 1
    rcases delivered.batchToken carried with same | older
    · rw [same, delivered.generation]
      exact Nat.lt_succ_self _
    · exact Nat.lt_succ_of_lt older
  · rw [handed, accepted]
    exact delivered.call here
  · intro owner declared raw member
    rw [handed]
    obtain ⟨bound, short⟩ := delivered.record (by simpa using member)
    exact ⟨Nat.le_succ_of_le bound, short⟩
  · change (handedOf (worker.nextToken speakId).generation _).length ≤ 0
    rw [handed, noHanded]
    exact Nat.le_refl _
  · rintro owner declared raw rfl
    simp at member
  · rintro owner declared rfl
    simp at member
  · have empty : audio.flight (worker.nextToken speakId) = {} :=
      delivered.flight_of_later (Nat.lt_succ_self _)
    change RequestLedger _ _ (audio.flight (worker.nextToken speakId))
    rw [empty]
    refine RequestLedger.started now _ fresh noHanded noAccepted fun declared raw member => ?_
    have bound := (delivered.record member).1
    simp only [nextToken] at bound
    omega

theorem Delivered.initial (blockAlign : ℕ) (positive : 0 < blockAlign) :
    Delivered [] { frameAssembler := .create blockAlign positive } .reading where
  generation := rfl
  startedBound := by simp
  openStarted := by simp
  handedRead _ := List.nil_prefix
  acceptedHanded _ := List.nil_prefix
  handedFrames := by simp
  acceptedFrames := by simp
  batchToken := by simp [AudioThread.batchToken?]
  batchFrames := by simp [AudioThread.spansInFlight]
  call := by simp
  assembly := by simp
  record := by simp
  rawRead := Nat.zero_le _
  handedRaw := Nat.zero_le _
  recorded := .nil
  completed := .nil
  ledger := by simp

end Requests

end ModernSapi
