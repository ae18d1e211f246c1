import ModernSapi.Worker.RequestMove

/-!
# Which records quarantine the session

A control record quarantines the session when it names no request, or when it is about
the current request and breaks the protocol. What breaks the protocol is decided by the
parser, the event policy, the terminal policy and the check of the boundary, one after
the other.

`quarantine_requested_iff` puts the decision together: over all JSON values and all
states of a worker it lists the records that request a quarantine, and shows that no
other record does.
-/

set_option autoImplicit false

namespace ModernSapi

open Interleaving SpeechWorker ControlEventPolicy

/-- The control thread is on its way to `EnterFaultedState`. -/
def ControlThread.RequestsQuarantine : ControlThread → Prop
  | .enterFaultedState _ => True
  | .forwarding _ thenFault => thenFault = true
  | _ => False

@[simp] theorem ControlThread.requestsQuarantine_afterEvent (fault : Bool) :
    (ControlThread.afterEvent fault).RequestsQuarantine ↔ fault = true := by
  cases fault <;> simp [ControlThread.afterEvent, ControlThread.RequestsQuarantine]

theorem ControlThread.requestsQuarantine_afterRecord (event : ProviderControlEvent)
    (disposition : ControlEventDisposition) :
    (WorkerState.afterRecord event disposition).RequestsQuarantine ↔
      disposition.shouldEnterFaultedState = true := by
  unfold WorkerState.afterRecord
  split
  · exact Iff.rfl
  · exact requestsQuarantine_afterEvent _

/-! ## What a record says -/

/-- The value is an object with a nonempty event name. -/
def Json.NamesEvent (json : Json) (name : String) : Prop :=
  ∃ members, json = .object members ∧ members.lookup "event" = some (.string name) ∧ name ≠ ""

theorem Json.namesEvent_iff (json : Json) (name : String) :
    json.NamesEvent name ↔ json.stringMember? "event" = some name ∧ name ≠ "" := by
  constructor
  · rintro ⟨members, rfl, present, nonempty⟩
    exact ⟨by simp [stringMember?, member?, present], nonempty⟩
  · rintro ⟨present, nonempty⟩
    cases json with
    | object members =>
        refine ⟨members, rfl, ?_, nonempty⟩
        unfold stringMember? at present
        split at present
        · next text found =>
            cases present
            exact found
        · cases present
    | _ => cases present

theorem parseControlEvent_rawEventName (json : Json) :
    (parseControlEvent json).rawEventName = (json.stringMember? "event").getD "" := by
  unfold parseControlEvent parseEventPayload
  split
  · rfl
  · split
    · rfl
    · split <;> rfl

/-- A record is skipped unless it names an event. -/
theorem parseControlEvent_blank_iff (json : Json) :
    ((parseControlEvent json).type = .unknown ∧ (parseControlEvent json).rawEventName = "") ↔
      ∀ name, ¬json.NamesEvent name := by
  rw [parseControlEvent_type, parseControlEvent_rawEventName]
  cases present : json.stringMember? "event" with
  | none => simp [Json.namesEvent_iff, present, parseEventHeader]
  | some name =>
      simp only [Json.namesEvent_iff, present, Option.getD_some, Option.some.injEq]
      constructor
      · rintro ⟨-, empty⟩ other ⟨rfl, nonempty⟩
        exact nonempty empty
      · intro unnamed
        have empty : name = "" := by
          by_contra nonempty
          exact unnamed name ⟨rfl, nonempty⟩
        subst empty
        simp [parseEventHeader, present, parseProviderEventType]

/-- The event type of a record that names an event. -/
theorem parseControlEvent_type_of_named {json : Json} {name : String}
    (named : json.NamesEvent name) :
    (parseControlEvent json).type = parseProviderEventType name := by
  have present := (json.namesEvent_iff name).mp named
  simp [parseEventHeader, present.1]

/-- **Offsets are valid exactly when every field the event type needs is read.** -/
theorem tryParseSpeechOffsets_iff (json : Json) (type : ProviderEventType)
    (offsets : SpeechEventOffsets) (boundary : type.isSpeechBoundary = true) :
    (tryParseSpeechOffsets json type offsets).1 = true ↔
      ∀ key ∈ requiredOffsetFields type, json.unsignedMember? .uint32 key ≠ none := by
  cases audio : json.unsignedMember? .uint32 "audio_offset_ms" with
  | none =>
      cases type with
      | wordBoundary | sentenceBoundary | bookmark =>
          simp [tryParseSpeechOffsets, requiredOffsetFields, audio]
      | _ => cases boundary
  | some audioOffsetMs =>
      cases type with
      | bookmark => simp [tryParseSpeechOffsets, requiredOffsetFields, audio]
      | wordBoundary | sentenceBoundary =>
          cases offset : json.unsignedMember? .uint32 "text_offset" with
          | none => simp [tryParseSpeechOffsets, requiredOffsetFields, audio, offset]
          | some textOffset =>
              cases length : json.unsignedMember? .uint32 "text_length" with
              | none => simp [tryParseSpeechOffsets, requiredOffsetFields, audio, offset, length]
              | some _ => simp [tryParseSpeechOffsets, requiredOffsetFields, audio, offset, length]
      | _ => cases boundary

/-- What a boundary record says about its offsets. -/
theorem parseControlEvent_hasValidSpeechOffsets_iff {json : Json}
    (boundary : (parseControlEvent json).isSpeechBoundary = true) :
    (parseControlEvent json).hasValidSpeechOffsets = true ↔
      ∀ key ∈ requiredOffsetFields (parseControlEvent json).type,
        json.unsignedMember? .uint32 key ≠ none := by
  have header : (parseEventHeader json).isSpeechBoundary = true := by
    simpa [ProviderControlEvent.isSpeechBoundary] using boundary
  rw [parseControlEvent_type]
  simp only [parseControlEvent, parseEventPayload, header, if_true]
  exact tryParseSpeechOffsets_iff json _ _ header

/-- What a terminal record says about its byte count. -/
theorem parseControlEvent_terminal {json : Json}
    (terminal : (parseControlEvent json).isTerminal = true) :
    let read := (terminalBytesField (parseControlEvent json).type).bind (json.unsignedMember? .uint64)
    (parseControlEvent json).hasValidTerminalBytes = read.isSome ∧
      (parseControlEvent json).terminalAudioBytes = read.getD 0 := by
  have header : (parseEventHeader json).isTerminal = true := by
    simpa [ProviderControlEvent.isTerminal] using terminal
  have notBoundary : (parseEventHeader json).isSpeechBoundary = false := by
    cases boundary : (parseEventHeader json).isSpeechBoundary with
    | false => rfl
    | true =>
        unfold ProviderControlEvent.isSpeechBoundary ProviderEventType.isSpeechBoundary at boundary
        unfold ProviderControlEvent.isTerminal ProviderEventType.isTerminal at header
        cases type : (parseEventHeader json).type <;> simp [type] at boundary header
  rw [parseControlEvent_type]
  simp only [parseControlEvent, parseEventPayload, notBoundary, header, if_true, Bool.false_eq_true,
    if_false, tryParseTerminalBytes]
  cases (terminalBytesField (parseEventHeader json).type).bind (json.unsignedMember? .uint64) with
  | none => exact ⟨rfl, rfl⟩
  | some bytes => exact ⟨rfl, rfl⟩

/-- The severity of a log record. -/
theorem parseControlEvent_logSeverity {json : Json} (log : (parseControlEvent json).type = .log) :
    (parseControlEvent json).logSeverity = (json.stringMember? "severity").getD "" := by
  rw [parseControlEvent_type] at log
  simp [parseControlEvent, parseEventPayload, log, ProviderControlEvent.isSpeechBoundary,
    ProviderEventType.isSpeechBoundary, ProviderControlEvent.isTerminal,
    ProviderEventType.isTerminal]

/-! ## What the worker makes of it -/

/-- A terminal record of the request breaks the protocol: one is recorded already, its
count is refused or no whole number of frames, or the request is still spoken and has
gone past it. -/
def SpeechWorker.RefusesTerminal (worker : SpeechWorker) (bytes : Option ℕ) : Prop :=
  worker.context.upstreamFinished = true ∨ bytes = none ∨
    ∃ declared ∈ bytes, ¬worker.frameAssembler.blockAlign ∣ declared ∨
      (worker.context.downstreamState = .speaking ∧
        (declared < worker.context.rawAudioBytesRead ∨
          declared < worker.context.deliveredAudioBytes))

/-- The check of a terminal record faults exactly the request that has gone past it. -/
theorem SpeechWorker.BoundaryOutcome.overrun_iff {worker : SpeechWorker} {type : ProviderEventType}
    {bytes : ℕ} {checked : SpeechWorker × Bool × List Observation}
    (outcome : BoundaryOutcome (worker.applyTerminal (terminalTarget type) bytes) checked) :
    checked.2.1 = true ↔ worker.context.downstreamState = .speaking ∧
      (bytes < worker.context.rawAudioBytesRead ∨ bytes < worker.context.deliveredAudioBytes) := by
  cases outcome with
  | continues _ goesOn =>
      refine iff_of_false nofun ?_
      rintro ⟨speaking, excess⟩
      obtain ⟨raw, delivered, -⟩ := goesOn.speaking speaking rfl
      rcases excess with excess | excess
      · exact Nat.not_lt_of_le raw excess
      · exact Nat.not_lt_of_le delivered excess
  | failed failed => exact absurd failed (terminalTarget_ne_failed type)
  | overrun speaking _ excess => exact iff_of_true rfl ⟨speaking, excess⟩
  | completed _ _ reached =>
      refine iff_of_false nofun ?_
      rintro ⟨-, excess | excess⟩
      · exact Nat.ne_of_gt excess reached.raw
      · exact Nat.ne_of_gt excess reached.delivered
  | drained cancelling =>
      refine iff_of_false nofun ?_
      rintro ⟨speaking, -⟩
      have other : worker.context.downstreamState = .cancelling := cancelling
      rw [speaking] at other
      cases other

/-- The byte count of a terminal event, when it is valid. -/
def ProviderControlEvent.terminalBytes? (event : ProviderControlEvent) : Option ℕ :=
  if event.hasValidTerminalBytes then some event.terminalAudioBytes else none

/-- An event of the request breaks the protocol. -/
inductive BreaksProtocol (worker : SpeechWorker) (event : ProviderControlEvent) : Prop where
  | boundary (boundary : event.isSpeechBoundary = true)
      (invalid : event.hasValidSpeechOffsets = false)
  | terminal (terminal : event.isTerminal = true)
      (refused : worker.RefusesTerminal event.terminalBytes?)
  | fatal (log : event.type = .log) (severity : event.logSeverity = "fatal")

namespace BreaksProtocol

variable {worker : SpeechWorker} {event : ProviderControlEvent}

theorem of_terminal (breaks : BreaksProtocol worker event) (terminal : event.isTerminal = true) :
    worker.RefusesTerminal event.terminalBytes? := by
  cases breaks with
  | boundary boundary =>
      rw [event.not_terminal_of_boundary boundary] at terminal
      cases terminal
  | terminal _ refused => exact refused
  | fatal log =>
      rw [event.not_terminal_of_log log] at terminal
      cases terminal

theorem of_fault {fault : ProtocolFault} (reason : TerminalFault worker event fault)
    (terminal : event.isTerminal = true) : BreaksProtocol worker event := by
  refine .terminal terminal ?_
  cases reason with
  | duplicate finished => exact .inl finished
  | invalid _ bytes => exact .inr (.inl (by simp [ProviderControlEvent.terminalBytes?, bytes]))
  | misaligned _ bytes fraction =>
      refine .inr (.inr ⟨event.terminalAudioBytes, ?_, .inl fraction⟩)
      simp [ProviderControlEvent.terminalBytes?, bytes]

/-- A record that is not a terminal one and is in order breaks nothing. -/
theorem not_of_inert (inert : Inert worker event)
    (matching : event.speakId = worker.context.token.speakId) : ¬BreaksProtocol worker event := by
  intro breaks
  cases breaks with
  | boundary boundary invalid =>
      rw [inert.boundary matching boundary] at invalid
      cases invalid
  | terminal terminal =>
      rw [inert.terminal matching] at terminal
      cases terminal
  | fatal log severity => exact (inert.log matching log).2 severity

/-- The tick of the progress does not matter. -/
theorem refreshProgress_iff {now : ℕ} {refresh : Bool} :
    BreaksProtocol (worker.refreshProgress now refresh) event ↔ BreaksProtocol worker event := by
  constructor
  · rintro (⟨boundary, invalid⟩ | ⟨terminal, refused⟩ | ⟨log, severity⟩)
    · exact .boundary boundary invalid
    · exact .terminal terminal refused
    · exact .fatal log severity
  · rintro (⟨boundary, invalid⟩ | ⟨terminal, refused⟩ | ⟨log, severity⟩)
    · exact .boundary boundary invalid
    · exact .terminal terminal refused
    · exact .fatal log severity

end BreaksProtocol

/-- **An event requests a quarantine exactly when it is of the request and breaks the
protocol.** -/
theorem SpeechWorker.EventOutcome.fault_iff {worker : SpeechWorker} {event : ProviderControlEvent}
    {forward : Bool} {result : SpeechWorker × ControlEventDisposition × List Observation}
    (outcome : EventOutcome worker event forward result) :
    result.2.1.shouldEnterFaultedState = true ↔
      event.speakId = worker.context.token.speakId ∧ BreaksProtocol worker event := by
  cases outcome with
  | unchanged inert =>
      exact iff_of_false nofun fun cause => BreaksProtocol.not_of_inert inert cause.1 cause.2
  | malformed matching boundary invalid =>
      exact iff_of_true rfl ⟨matching, .boundary boundary invalid⟩
  | terminalFault matching terminal reason =>
      exact iff_of_true rfl ⟨matching, .of_fault reason terminal⟩
  | terminalApplied matching terminal unfinished valid aligned outcome =>
      have declared : event.terminalBytes? = some event.terminalAudioBytes := by
        simp [ProviderControlEvent.terminalBytes?, valid]
      refine outcome.overrun_iff.trans ⟨fun overrun => ⟨matching, .terminal terminal ?_⟩, ?_⟩
      · rw [declared]
        exact .inr (.inr ⟨_, rfl, .inr overrun⟩)
      · rintro ⟨-, breaks⟩
        have refused := breaks.of_terminal terminal
        rw [declared] at refused
        rcases refused with finished | none | ⟨_, ⟨⟩, fraction | overrun⟩
        · rw [unfinished] at finished
          cases finished
        · cases none
        · exact absurd aligned fraction
        · exact overrun
  | fatal matching log severity => exact iff_of_true rfl ⟨matching, .fatal log severity⟩
  | utteranceFailed matching log severity =>
      refine iff_of_false nofun ?_
      rintro ⟨-, breaks⟩
      cases breaks with
      | boundary boundary => simp [ProviderControlEvent.isSpeechBoundary, log,
          ProviderEventType.isSpeechBoundary] at boundary
      | terminal terminal =>
          rw [event.not_terminal_of_log log] at terminal
          cases terminal
      | fatal _ fatal => simp [severity] at fatal

/-! ## The classification -/

/-- Why a record that names an event of a type quarantines the session of a worker. -/
inductive QuarantineCause (worker : SpeechWorker) (json : Json) (type : ProviderEventType) :
    Prop where
  | unaddressed (noSpeakId : ∀ speakId ∈ json.unsignedMember? .uint64 "speak_id", speakId = 0)
  | boundary
      (matching : json.unsignedMember? .uint64 "speak_id" = some worker.context.token.speakId)
      (boundary : type.isSpeechBoundary = true)
      (missing : ∃ key ∈ requiredOffsetFields type, json.unsignedMember? .uint32 key = none)
  | terminal
      (matching : json.unsignedMember? .uint64 "speak_id" = some worker.context.token.speakId)
      (terminal : type.isTerminal = true)
      (refused : worker.RefusesTerminal
        ((terminalBytesField type).bind (json.unsignedMember? .uint64)))
  | fatalLog
      (matching : json.unsignedMember? .uint64 "speak_id" = some worker.context.token.speakId)
      (log : type = .log) (fatal : json.stringMember? "severity" = some "fatal")

section Read

variable {worker : SpeechWorker} {json : Json}

/-- A record that names a request names it in an unsigned field. -/
theorem parseControlEvent_addressed (addressed : (parseControlEvent json).speakId ≠ 0) :
    json.unsignedMember? .uint64 "speak_id" = some (parseControlEvent json).speakId := by
  rw [parseControlEvent_speakId] at addressed ⊢
  cases read : json.unsignedMember? .uint64 "speak_id" with
  | none =>
      rw [read] at addressed
      exact absurd rfl addressed
  | some speakId => rfl

theorem terminalBytes?_parseControlEvent (terminal : (parseControlEvent json).isTerminal = true) :
    (parseControlEvent json).terminalBytes? =
      (terminalBytesField (parseControlEvent json).type).bind (json.unsignedMember? .uint64) := by
  obtain ⟨valid, bytes⟩ := parseControlEvent_terminal terminal
  rw [ProviderControlEvent.terminalBytes?, valid, bytes]
  cases (terminalBytesField (parseControlEvent json).type).bind (json.unsignedMember? .uint64) with
  | none => rfl
  | some _ => rfl

/-- A record that names a request is about the current one and breaks the protocol
exactly when it has one of the causes. -/
theorem quarantineCause_iff (addressed : (parseControlEvent json).speakId ≠ 0) :
    QuarantineCause worker json (parseControlEvent json).type ↔
      (parseControlEvent json).speakId = worker.context.token.speakId ∧
        BreaksProtocol worker (parseControlEvent json) := by
  have read := parseControlEvent_addressed addressed
  have named (matching : json.unsignedMember? .uint64 "speak_id" =
      some worker.context.token.speakId) :
      (parseControlEvent json).speakId = worker.context.token.speakId :=
    Option.some.inj (read.symm.trans matching)
  constructor
  · intro cause
    cases cause with
    | unaddressed noSpeakId => exact absurd (noSpeakId _ read) addressed
    | boundary matching boundary missing =>
        refine ⟨named matching, .boundary boundary (Bool.eq_false_iff.mpr fun valid => ?_)⟩
        obtain ⟨key, required, none⟩ := missing
        exact (parseControlEvent_hasValidSpeechOffsets_iff boundary).mp valid key required none
    | terminal matching terminal refused =>
        refine ⟨named matching, .terminal terminal ?_⟩
        rw [terminalBytes?_parseControlEvent terminal]
        exact refused
    | fatalLog matching log fatal =>
        refine ⟨named matching, .fatal log ?_⟩
        rw [parseControlEvent_logSeverity log, fatal]
        rfl
  · rintro ⟨matching, breaks⟩
    rw [matching] at read
    cases breaks with
    | boundary boundary invalid =>
        refine .boundary read boundary ?_
        by_contra complete
        push Not at complete
        rw [(parseControlEvent_hasValidSpeechOffsets_iff boundary).mpr complete] at invalid
        cases invalid
    | terminal terminal refused =>
        rw [terminalBytes?_parseControlEvent terminal] at refused
        exact .terminal read terminal refused
    | fatal log severity =>
        refine .fatalLog read log ?_
        rw [parseControlEvent_logSeverity log] at severity
        cases present : json.stringMember? "severity" with
        | none => simp [present] at severity
        | some text => exact congrArg some (by simpa [present] using severity)

end Read

/-- **The classification of control records is exact.** Whatever the state of the worker,
the control thread is on its way to quarantine after a record exactly when the record
names an event and has one of the causes. -/
theorem quarantine_requested_iff {state next : WorkerState} {events : List Observation} {now : ℕ}
    {json : Json}
    (taken : state.step (.controlRecord now (parseControlEvent json)) = some (next, events)) :
    next.control.RequestsQuarantine ↔
      ∃ name, json.NamesEvent name ∧
        QuarantineCause state.worker json (parseProviderEventType name) := by
  simp only [WorkerState.step, WorkerState.controlRecord] at taken
  split at taken
  · next reading =>
      split at taken
      · next blank =>
          cases taken
          rw [reading]
          refine iff_of_false id ?_
          rintro ⟨name, named, -⟩
          exact (parseControlEvent_blank_iff json).mp blank name named
      · next notBlank =>
          obtain ⟨name, named⟩ : ∃ name, json.NamesEvent name := by
            by_contra unnamed
            push Not at unnamed
            exact notBlank ((parseControlEvent_blank_iff json).mpr unnamed)
          have type := parseControlEvent_type_of_named named
          have only : (∃ name, json.NamesEvent name ∧
              QuarantineCause state.worker json (parseProviderEventType name)) ↔
              QuarantineCause state.worker json (parseControlEvent json).type := by
            rw [type]
            refine ⟨?_, fun cause => ⟨name, named, cause⟩⟩
            rintro ⟨other, otherNamed, cause⟩
            rwa [← parseControlEvent_type_of_named otherNamed, type] at cause
          rw [only]
          split at taken
          · next unaddressed =>
              cases taken
              refine iff_of_true trivial (.unaddressed fun speakId read => ?_)
              rw [parseControlEvent_speakId, read] at unaddressed
              exact unaddressed
          · next addressed =>
              cases taken
              have outcome := handleParsedControlEventLocked_spec state.worker now
                (parseControlEvent json)
              rw [quarantineCause_iff addressed, ← BreaksProtocol.refreshProgress_iff]
              exact (ControlThread.requestsQuarantine_afterRecord _ _).trans outcome.fault_iff
  · cases taken

/-- A word boundary whose text length is negative. -/
def negativeLengthBoundary : Json :=
  .object [("event", .string "word_boundary"), ("speak_id", .numberUnsigned 1),
    ("audio_offset_ms", .numberUnsigned 20), ("text_offset", .numberUnsigned 0),
    ("text_length", .numberInteger (-1))]

theorem quarantine_requested_negative_length :
    let state := workerMachine.finalState (.initial 2 (by decide)) [.start 0 1]
    ∃ name, negativeLengthBoundary.NamesEvent name ∧
      QuarantineCause state.worker negativeLengthBoundary (parseProviderEventType name) := by
  intro state
  have taken : state.step (.controlRecord 1 (parseControlEvent negativeLengthBoundary)) =
      some (workerMachine.finalState state
        [.controlRecord 1 (parseControlEvent negativeLengthBoundary)],
        [.protocolFault .malformedSpeechBoundary]) := by decide
  exact (quarantine_requested_iff taken).mp trivial

end ModernSapi
