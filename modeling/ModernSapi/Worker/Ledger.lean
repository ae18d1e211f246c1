import ModernSapi.Worker.Invariant

/-!
# The bytes of a request

What was read, handed to SAPI and taken by SAPI for a request is read off the
observations of a run. `RequestLedger` relates the three, the counters of the
worker and the batch in flight, while the request is being spoken:

* the bytes handed over, then those of the batch still to be offered, then the
  retained partial frame are the bytes read, in order, except that bytes read
  past the declared total are cut off;
* the bytes SAPI took are the bytes handed over, the span in a call to SAPI apart;
* the counters count them.

The ledger is kept by every step of the speaking request, one lemma each.
-/

set_option autoImplicit false

namespace ModernSapi

open SpeechWorker PcmDeliveryPolicy

/-! ## Bytes in a trace -/

/-- The bytes read from the audio pipe. -/
def readBytes (trace : List Observation) : List UInt8 :=
  trace.flatMap fun
    | .pcmRead bytes => bytes
    | _ => []

/-- The bytes read from the audio pipe since the start of a generation. -/
def readSince (generation : ℕ) : List Observation → List UInt8
  | [] => []
  | .requestStarted token :: rest =>
      if token.generation = generation then readBytes rest else readSince generation rest
  | _ :: rest => readSince generation rest

/-- The bytes handed to SAPI in batches of a generation. -/
def handedOf (generation : ℕ) (trace : List Observation) : List UInt8 :=
  trace.flatMap fun
    | .spanHanded owner bytes => if owner = generation then bytes else []
    | _ => []

/-- The bytes SAPI took in batches of a generation. -/
def acceptedOf (generation : ℕ) (trace : List Observation) : List UInt8 :=
  trace.flatMap fun
    | .spanAccepted owner bytes => if owner = generation then bytes else []
    | _ => []

/-- The generation was started. -/
def Started (generation : ℕ) (trace : List Observation) : Prop :=
  ∃ token, Observation.requestStarted token ∈ trace ∧ token.generation = generation

section Traces

variable (generation : ℕ) (trace events : List Observation)

@[simp] theorem readBytes_nil : readBytes [] = [] := rfl

@[simp] theorem handedOf_nil : handedOf generation [] = [] := rfl

@[simp] theorem acceptedOf_nil : acceptedOf generation [] = [] := rfl

theorem readBytes_append : readBytes (trace ++ events) = readBytes trace ++ readBytes events :=
  List.flatMap_append

theorem handedOf_append :
    handedOf generation (trace ++ events) = handedOf generation trace ++ handedOf generation events :=
  List.flatMap_append

theorem acceptedOf_append :
    acceptedOf generation (trace ++ events) =
      acceptedOf generation trace ++ acceptedOf generation events :=
  List.flatMap_append

variable {generation trace}

theorem Started.append (started : Started generation trace) :
    Started generation (trace ++ events) := by
  obtain ⟨token, member, same⟩ := started
  exact ⟨token, List.mem_append_left _ member, same⟩

theorem readSince_append_of_started (started : Started generation trace) :
    readSince generation (trace ++ events) = readSince generation trace ++ readBytes events := by
  obtain ⟨token, member, same⟩ := started
  induction trace with
  | nil => cases member
  | cons first rest ih =>
      cases first with
      | requestStarted other =>
          simp only [List.cons_append, readSince]
          split
          · exact readBytes_append _ _
          · next different =>
              rcases List.mem_cons.mp member with here | later
              · cases here
                exact absurd same different
              · exact ih later
      | _ =>
          simp only [List.cons_append, readSince]
          exact ih (by simpa using member)

theorem readSince_append_of_not_started (notStarted : ¬Started generation trace) :
    readSince generation (trace ++ events) = readSince generation events := by
  induction trace with
  | nil => rfl
  | cons first rest ih =>
      have restNotStarted : ¬Started generation rest := by
        rintro ⟨token, member, same⟩
        exact notStarted ⟨token, List.mem_cons_of_mem _ member, same⟩
      cases first with
      | requestStarted other =>
          have different : other.generation ≠ generation :=
            fun same => notStarted ⟨other, List.mem_cons_self, same⟩
          simp only [List.cons_append, readSince, different, if_false]
          exact ih restNotStarted
      | _ =>
          simp only [List.cons_append, readSince]
          exact ih restNotStarted

theorem readSince_of_not_started (notStarted : ¬Started generation trace) :
    readSince generation trace = [] := by
  have appended := readSince_append_of_not_started [] notStarted
  rwa [List.append_nil] at appended

/-- What was read since a start only grows. -/
theorem readSince_prefix_append :
    readSince generation trace <+: readSince generation (trace ++ events) := by
  by_cases started : Started generation trace
  · rw [readSince_append_of_started events started]
    exact List.prefix_append _ _
  · rw [readSince_of_not_started started]
    exact List.nil_prefix

end Traces

/-! ## The batch in flight -/

/-- What is in flight to SAPI for one request. -/
structure Flight where
  active : Bool := false
  spans : List (List UInt8) := []
  call : List UInt8 := []
  delivered : ℕ := 0
  refused : Bool := false

/-- The batch of a request, between its ingest and its outcome. -/
def AudioThread.flight (token : RequestToken) : AudioThread → Flight
  | .admitting batch =>
      if batch.token = token then
        { active := true, spans := batch.spans, delivered := batch.delivered }
      else {}
  | .onAudioData batch span =>
      if batch.token = token then
        { active := true, spans := batch.spans, call := span, delivered := batch.delivered }
      else {}
  | .batchDone owner delivered writeAccepted =>
      if owner = token then { active := true, delivered, refused := !writeAccepted } else {}
  | _ => {}

/-! ## The ledger -/

/-- The bytes of the request that went to SAPI or are on the way, in order. -/
def deliveryLine (trace : List Observation) (worker : SpeechWorker) (flight : Flight) :
    List UInt8 :=
  handedOf worker.context.token.generation trace ++ flight.spans.flatten ++
    worker.frameAssembler.carry

/-- The line is what was read, or its beginning when more than declared was. -/
def LineHolds (trace : List Observation) (worker : SpeechWorker) (flight : Flight) : Prop :=
  deliveryLine trace worker flight = readSince worker.context.token.generation trace ∨
    (worker.context.upstreamFinished = true ∧
      worker.context.upstreamTerminalBytes < worker.context.rawAudioBytesRead ∧
      deliveryLine trace worker flight <+: readSince worker.context.token.generation trace)

/-- The books of a speaking request. -/
structure RequestLedger (trace : List Observation) (worker : SpeechWorker) (flight : Flight) :
    Prop where
  raw : worker.context.rawAudioBytesRead =
    (readSince worker.context.token.generation trace).length
  handed : flight.refused = false →
    handedOf worker.context.token.generation trace =
      acceptedOf worker.context.token.generation trace ++ flight.call
  credit : worker.context.deliveredAudioBytes + flight.delivered =
    (acceptedOf worker.context.token.generation trace).length
  line : .frameAssemblyFailed ∉ trace → worker.context.faultPending = false →
    flight.refused = false → LineHolds trace worker flight
  record : ∀ {declared raw : ℕ},
    .terminalReceived worker.context.token.generation declared raw ∈ trace →
      worker.context.upstreamFinished = true ∧ worker.context.upstreamTerminalBytes = declared ∧
        (.frameAssemblyFailed ∉ trace → worker.context.faultPending = false →
          flight.refused = false →
            (deliveryLine trace worker flight).length ≤ max raw declared)
  declared : worker.context.upstreamFinished = true →
    worker.frameAssembler.blockAlign ∣ worker.context.upstreamTerminalBytes

/-- With no batch in flight, a declared end has not been reached. -/
def NoMissedEnd (trace : List Observation) (worker : SpeechWorker) (flight : Flight) : Prop :=
  .frameAssemblyFailed ∉ trace → worker.context.faultPending = false → flight.active = false →
    worker.context.upstreamFinished = true →
      worker.context.rawAudioBytesRead < worker.context.upstreamTerminalBytes

/-! ## Steps that move no byte of the request -/

/-- The events concern no byte and no record of the generation. -/
structure Neutral (generation : ℕ) (events : List Observation) : Prop where
  read : readBytes events = []
  handed : handedOf generation events = []
  accepted : acceptedOf generation events = []
  noStart : ∀ token, .requestStarted token ∉ events
  noRecord : ∀ declared raw, .terminalReceived generation declared raw ∉ events

theorem Neutral.nil (generation : ℕ) : Neutral generation [] := by
  constructor <;> simp

/-- The books of the request are the same, and a pending fault stays pending. -/
structure SameRequest (worker after : SpeechWorker) : Prop where
  token : after.context.token = worker.context.token
  raw : after.context.rawAudioBytesRead = worker.context.rawAudioBytesRead
  delivered : after.context.deliveredAudioBytes = worker.context.deliveredAudioBytes
  terminal : after.context.upstreamTerminalBytes = worker.context.upstreamTerminalBytes
  finished : after.context.upstreamFinished = worker.context.upstreamFinished
  assembler : after.frameAssembler = worker.frameAssembler
  pending : after.context.faultPending = false → worker.context.faultPending = false

theorem SameRequest.refl (worker : SpeechWorker) : SameRequest worker worker :=
  ⟨rfl, rfl, rfl, rfl, rfl, rfl, id⟩

theorem SameRequest.pendFault {worker after : SpeechWorker} (same : SameRequest worker after)
    (failed : Bool) : SameRequest worker (after.pendFault failed) := by
  cases failed with
  | false => exact same
  | true =>
      exact ⟨same.token, same.raw, same.delivered, same.terminal, same.finished, same.assembler,
        fun noFault => by simp [setFaultPending] at noFault⟩

section Quiet

variable {generation : ℕ} {trace events : List Observation} {worker after : SpeechWorker}
  {flight : Flight}

theorem readSince_of_no_start (noStart : ∀ token, .requestStarted token ∉ events) :
    readSince generation events = [] := by
  refine readSince_of_not_started ?_
  rintro ⟨token, member, -⟩
  exact noStart token member

theorem readSince_append_quiet (read : readBytes events = [])
    (noStart : ∀ token, .requestStarted token ∉ events) :
    readSince generation (trace ++ events) = readSince generation trace := by
  by_cases started : Started generation trace
  · rw [readSince_append_of_started events started, read, List.append_nil]
  · rw [readSince_append_of_not_started events started, readSince_of_not_started started,
      readSince_of_no_start noStart]

/-- What was handed over stays as it was when nothing is. -/
theorem handedOf_append_quiet (quiet : handedOf generation events = []) :
    handedOf generation (trace ++ events) = handedOf generation trace := by
  rw [handedOf_append, quiet, List.append_nil]

/-- What SAPI took stays as it was when it takes nothing. -/
theorem acceptedOf_append_quiet (quiet : acceptedOf generation events = []) :
    acceptedOf generation (trace ++ events) = acceptedOf generation trace := by
  rw [acceptedOf_append, quiet, List.append_nil]

theorem Neutral.readSince (neutral : Neutral generation events) :
    readSince generation (trace ++ events) = readSince generation trace :=
  readSince_append_quiet neutral.read neutral.noStart

theorem Neutral.handedOf (neutral : Neutral generation events) :
    handedOf generation (trace ++ events) = handedOf generation trace :=
  handedOf_append_quiet neutral.handed

theorem Neutral.acceptedOf (neutral : Neutral generation events) :
    acceptedOf generation (trace ++ events) = acceptedOf generation trace :=
  acceptedOf_append_quiet neutral.accepted

theorem not_mem_left {event : Observation} (absent : event ∉ trace ++ events) : event ∉ trace :=
  fun member => absent (List.mem_append_left _ member)

/-- **The ledger is kept by a step that moves no byte of the request.** -/
theorem RequestLedger.quiet (ledger : RequestLedger trace worker flight)
    (neutral : Neutral worker.context.token.generation events)
    (same : SameRequest worker after) : RequestLedger (trace ++ events) after flight := by
  have generation : after.context.token.generation = worker.context.token.generation :=
    congrArg RequestToken.generation same.token
  have sameLine : deliveryLine (trace ++ events) after flight
      = deliveryLine trace worker flight := by
    rw [deliveryLine, deliveryLine, generation, neutral.handedOf, same.assembler]
  refine ⟨?_, ?_, ?_, ?_, ?_, ?_⟩
  · rw [same.raw, generation, neutral.readSince]
    exact ledger.raw
  · intro notRefused
    rw [generation, neutral.handedOf, neutral.acceptedOf]
    exact ledger.handed notRefused
  · rw [same.delivered, generation, neutral.acceptedOf]
    exact ledger.credit
  · intro assembled noFault notRefused
    have holds := ledger.line (not_mem_left assembled) (same.pending noFault) notRefused
    rw [LineHolds, sameLine, generation, neutral.readSince, same.finished, same.terminal, same.raw]
    exact holds
  · intro declared raw member
    rw [generation] at member
    rcases List.mem_append.mp member with before | now
    · obtain ⟨finished, total, bound⟩ := ledger.record before
      rw [same.finished, same.terminal, sameLine]
      exact ⟨finished, total, fun assembled noFault =>
        bound (not_mem_left assembled) (same.pending noFault)⟩
    · exact absurd now (neutral.noRecord declared raw)
  · rw [same.finished, same.terminal, same.assembler]
    exact ledger.declared

theorem NoMissedEnd.quiet (noMissed : NoMissedEnd trace worker flight)
    (same : SameRequest worker after) : NoMissedEnd (trace ++ events) after flight := by
  intro assembled noFault idle finished
  rw [same.finished] at finished
  rw [same.raw, same.terminal]
  exact noMissed (not_mem_left assembled) (same.pending noFault) idle finished

/-- A span that moves along the line leaves the line as it was. -/
theorem RequestLedger.line_of_same {moved : Flight} (ledger : RequestLedger trace worker flight)
    (offering : flight.refused = false)
    (read : readSince worker.context.token.generation (trace ++ events) =
      readSince worker.context.token.generation trace)
    (sameLine : deliveryLine (trace ++ events) worker moved = deliveryLine trace worker flight)
    (assembled : .frameAssemblyFailed ∉ trace ++ events)
    (noFault : worker.context.faultPending = false) :
    LineHolds (trace ++ events) worker moved := by
  rw [LineHolds, sameLine, read]
  exact ledger.line (not_mem_left assembled) noFault offering

/-- What the record of the end says of the line stays true as well. -/
theorem RequestLedger.record_of_same {moved : Flight} {declared raw : ℕ}
    (ledger : RequestLedger trace worker flight) (offering : flight.refused = false)
    (sameLine : deliveryLine (trace ++ events) worker moved = deliveryLine trace worker flight)
    (member : .terminalReceived worker.context.token.generation declared raw ∈ trace) :
    worker.context.upstreamFinished = true ∧ worker.context.upstreamTerminalBytes = declared ∧
      (.frameAssemblyFailed ∉ trace ++ events → worker.context.faultPending = false →
        (deliveryLine (trace ++ events) worker moved).length ≤ max raw declared) := by
  obtain ⟨finished, total, bound⟩ := ledger.record member
  refine ⟨finished, total, fun assembled noFault => ?_⟩
  rw [sameLine]
  exact bound (not_mem_left assembled) noFault offering

end Quiet

/-! ## Reading a chunk -/

@[simp] theorem handedOf_pcmRead (generation : ℕ) (trace : List Observation)
    (chunk : List UInt8) :
    handedOf generation (trace ++ [.pcmRead chunk]) = handedOf generation trace :=
  handedOf_append_quiet rfl

@[simp] theorem acceptedOf_pcmRead (generation : ℕ) (trace : List Observation)
    (chunk : List UInt8) :
    acceptedOf generation (trace ++ [.pcmRead chunk]) = acceptedOf generation trace :=
  acceptedOf_append_quiet rfl

@[simp] theorem chunkFramed_blockAlign (worker : SpeechWorker) (now : ℕ) (chunk : List UInt8) :
    (worker.chunkFramed now chunk).frameAssembler.blockAlign
      = worker.frameAssembler.blockAlign :=
  PcmFrameAssembler.process_blockAlign _ _

section Reading

variable {trace : List Observation} {worker : SpeechWorker} {now : ℕ} {chunk : List UInt8}

theorem bytesToFrame_unfinished (open_ : worker.context.upstreamFinished = false) :
    bytesToFrame worker.context chunk.length = chunk.length := by
  simp [bytesToFrame, open_]

/-- What a chunk adds to the line is its beginning, and all of it unless the chunk
goes past the declared end. -/
theorem bytesToFrame_cases (worker : SpeechWorker) (chunk : List UInt8) :
    bytesToFrame worker.context chunk.length = chunk.length ∨
      (worker.context.upstreamFinished = true ∧
        worker.context.upstreamTerminalBytes <
          worker.context.rawAudioBytesRead + chunk.length) := by
  cases finished : worker.context.upstreamFinished with
  | false => exact .inl (bytesToFrame_unfinished finished)
  | true =>
      by_cases within : worker.context.rawAudioBytesRead + chunk.length ≤
          worker.context.upstreamTerminalBytes
      · refine .inl ?_
        unfold bytesToFrame
        simp only [finished, if_true]
        split <;> omega
      · exact .inr ⟨rfl, by omega⟩

theorem deliveryLine_chunkFramed (active : Bool) :
    deliveryLine (trace ++ [.pcmRead chunk]) (worker.chunkFramed now chunk)
        { active, spans := (worker.framing chunk).2 } =
      deliveryLine trace worker {} ++
        chunk.take (bytesToFrame worker.context chunk.length) := by
  have framed := PcmFrameAssembler.process_bytes worker.frameAssembler
    (chunk.take (bytesToFrame worker.context chunk.length))
  calc deliveryLine (trace ++ [.pcmRead chunk]) (worker.chunkFramed now chunk)
        { active, spans := (worker.framing chunk).2 }
      = handedOf worker.context.token.generation (trace ++ [.pcmRead chunk]) ++
          (worker.framing chunk).2.flatten ++ (worker.framing chunk).1.carry := rfl
    _ = handedOf worker.context.token.generation trace ++
          ((worker.framing chunk).2.flatten ++ (worker.framing chunk).1.carry) := by
        rw [handedOf_pcmRead, List.append_assoc]
    _ = handedOf worker.context.token.generation trace ++
          (worker.frameAssembler.carry ++
            chunk.take (bytesToFrame worker.context chunk.length)) := by
        rw [framing, framed]
    _ = deliveryLine trace worker {} ++
          chunk.take (bytesToFrame worker.context chunk.length) := by
        simp [deliveryLine]

theorem LineHolds.isPrefix {flight : Flight} (holds : LineHolds trace worker flight) :
    deliveryLine trace worker flight <+: readSince worker.context.token.generation trace := by
  rcases holds with exact_ | ⟨-, -, clipped⟩
  · rw [exact_]
  · exact clipped

/-- **The ledger is kept by a chunk**, whose spans become the batch in flight. -/
theorem RequestLedger.chunkFramed (ledger : RequestLedger trace worker {})
    (started : Started worker.context.token.generation trace) (nonempty : chunk ≠ [])
    (active : Bool) :
    RequestLedger (trace ++ [.pcmRead chunk]) (worker.chunkFramed now chunk)
      { active, spans := (worker.framing chunk).2 } := by
  have read : readSince worker.context.token.generation (trace ++ [.pcmRead chunk]) =
      readSince worker.context.token.generation trace ++ chunk := by
    rw [readSince_append_of_started _ started]
    simp [readBytes]
  have positive : 0 < chunk.length := List.length_pos_iff.mpr nonempty
  have raw := ledger.raw
  refine ⟨?_, ?_, ?_, ?_, ?_, ?_⟩
  · change worker.context.rawAudioBytesRead + chunk.length = _
    rw [raw, ← List.length_append, ← read]
    rfl
  · intro _
    rw [handedOf_pcmRead, acceptedOf_pcmRead]
    exact ledger.handed rfl
  · rw [acceptedOf_pcmRead]
    exact ledger.credit
  · intro assembled noFault _
    have holds := ledger.line (not_mem_left assembled) noFault rfl
    rw [LineHolds, deliveryLine_chunkFramed]
    change _ = readSince worker.context.token.generation (trace ++ [.pcmRead chunk]) ∨
      (worker.context.upstreamFinished = true ∧ worker.context.upstreamTerminalBytes <
        worker.context.rawAudioBytesRead + chunk.length ∧
        _ <+: readSince worker.context.token.generation (trace ++ [.pcmRead chunk]))
    rw [read]
    rcases holds with exact_ | ⟨finished, excess, clipped⟩
    · rw [exact_]
      rcases bytesToFrame_cases worker chunk with whole | ⟨finished, excess⟩
      · rw [whole, List.take_length]
        exact .inl rfl
      · exact .inr ⟨finished, excess,
          (List.prefix_append_right_inj _).mpr (List.take_prefix _ _)⟩
    · have none : bytesToFrame worker.context chunk.length = 0 := by
        simp [bytesToFrame, finished, Nat.le_of_lt excess]
      rw [none, List.take_zero, List.append_nil]
      exact .inr ⟨finished, by omega, clipped.trans (List.prefix_append _ _)⟩
  · intro declared rawAt member
    have before : .terminalReceived worker.context.token.generation declared rawAt ∈ trace := by
      rcases List.mem_append.mp member with before | now
      · exact before
      · simp at now
    obtain ⟨finished, total, bound⟩ := ledger.record before
    refine ⟨finished, total, fun assembled noFault _ => ?_⟩
    have lineBound := bound (not_mem_left assembled) noFault rfl
    have lineRead := (ledger.line (not_mem_left assembled) noFault rfl).isPrefix.length_le
    rw [deliveryLine_chunkFramed, List.length_append, List.length_take]
    unfold bytesToFrame
    simp only [finished, if_true]
    split
    · omega
    · omega
  · intro finished
    rw [chunkFramed_blockAlign]
    exact ledger.declared finished

end Reading

/-! ## Delivering a batch -/

section Delivering

variable {trace : List Observation} {worker : SpeechWorker} {span : List UInt8}
  {spans : List (List UInt8)} {delivered : ℕ}

theorem handedOf_spanHanded (generation : ℕ) (trace : List Observation) (span : List UInt8) :
    handedOf generation (trace ++ [.spanHanded generation span])
      = handedOf generation trace ++ span := by
  rw [handedOf_append]
  simp [handedOf]

theorem acceptedOf_spanAccepted (generation : ℕ) (trace : List Observation)
    (span : List UInt8) :
    acceptedOf generation (trace ++ [.spanAccepted generation span])
      = acceptedOf generation trace ++ span := by
  rw [acceptedOf_append]
  simp [acceptedOf]

/-- A span is handed to SAPI. -/
theorem RequestLedger.spanHanded
    (ledger : RequestLedger trace worker { active := true, spans := span :: spans, delivered }) :
    RequestLedger (trace ++ [.spanHanded worker.context.token.generation span]) worker
      { active := true, spans, call := span, delivered } := by
  have read : readSince worker.context.token.generation
      (trace ++ [.spanHanded worker.context.token.generation span]) =
      readSince worker.context.token.generation trace :=
    readSince_append_quiet rfl (by simp)
  have accepted : acceptedOf worker.context.token.generation
      (trace ++ [.spanHanded worker.context.token.generation span]) =
      acceptedOf worker.context.token.generation trace :=
    acceptedOf_append_quiet rfl
  have sameLine : deliveryLine (trace ++ [.spanHanded worker.context.token.generation span]) worker
      { active := true, spans, call := span, delivered } =
      deliveryLine trace worker { active := true, spans := span :: spans, delivered } := by
    simp [deliveryLine, handedOf_spanHanded]
  refine ⟨?_, ?_, ?_, ?_, ?_, ledger.declared⟩
  · rw [read]
    exact ledger.raw
  · intro _
    rw [handedOf_spanHanded, accepted, ledger.handed rfl, List.append_nil]
  · rw [accepted]
    exact ledger.credit
  · exact fun assembled noFault _ => ledger.line_of_same rfl read sameLine assembled noFault
  · intro declared raw member
    obtain ⟨finished, total, bound⟩ := ledger.record_of_same rfl sameLine (by simpa using member)
    exact ⟨finished, total, fun assembled noFault _ => bound assembled noFault⟩

/-- SAPI takes the span. -/
theorem RequestLedger.spanAccepted
    (ledger : RequestLedger trace worker { active := true, spans, call := span, delivered }) :
    RequestLedger (trace ++ [.spanAccepted worker.context.token.generation span]) worker
      { active := true, spans, delivered := delivered + span.length } := by
  have read : readSince worker.context.token.generation
      (trace ++ [.spanAccepted worker.context.token.generation span]) =
      readSince worker.context.token.generation trace :=
    readSince_append_quiet rfl (by simp)
  have handed : handedOf worker.context.token.generation
      (trace ++ [.spanAccepted worker.context.token.generation span]) =
      handedOf worker.context.token.generation trace :=
    handedOf_append_quiet rfl
  have sameLine : deliveryLine (trace ++ [.spanAccepted worker.context.token.generation span])
      worker { active := true, spans, delivered := delivered + span.length } =
      deliveryLine trace worker { active := true, spans, call := span, delivered } := by
    rw [deliveryLine, deliveryLine, handed]
  refine ⟨?_, ?_, ?_, ?_, ?_, ledger.declared⟩
  · rw [read]
    exact ledger.raw
  · intro _
    rw [acceptedOf_spanAccepted, handed, ledger.handed rfl, List.append_nil]
  · rw [acceptedOf_spanAccepted, List.length_append, ← ledger.credit, Nat.add_assoc]
  · exact fun assembled noFault _ => ledger.line_of_same rfl read sameLine assembled noFault
  · intro declared raw member
    obtain ⟨finished, total, bound⟩ := ledger.record_of_same rfl sameLine (by simpa using member)
    exact ⟨finished, total, fun assembled noFault _ => bound assembled noFault⟩

/-- SAPI does not take the span: no more of the batch is offered. -/
theorem RequestLedger.spanRejected
    (ledger : RequestLedger trace worker { active := true, spans, call := span, delivered }) :
    RequestLedger trace worker { active := true, delivered, refused := true } where
  raw := ledger.raw
  handed refused := by simp at refused
  credit := ledger.credit
  line _ _ refused := by simp at refused
  record member :=
    ⟨(ledger.record member).1, (ledger.record member).2.1, fun _ _ refused => by simp at refused⟩
  declared := ledger.declared

/-- The span loop ends: every span was offered, or a fault is pending. -/
theorem RequestLedger.spansEnd
    (ledger : RequestLedger trace worker { active := true, spans, delivered })
    (ended : spans = [] ∨ worker.context.faultPending = true) :
    RequestLedger trace worker { active := true, delivered } := by
  rcases ended with rfl | pending
  · exact ledger
  · exact
      { raw := ledger.raw
        handed := ledger.handed
        credit := ledger.credit
        line := fun _ noFault => by simp [pending] at noFault
        record := fun member =>
          ⟨(ledger.record member).1, (ledger.record member).2.1,
            fun _ noFault => by simp [pending] at noFault⟩
        declared := ledger.declared }

/-- A batch SAPI took is credited. -/
theorem RequestLedger.credited
    (ledger : RequestLedger trace worker { active := true, delivered }) :
    RequestLedger trace (worker.credited delivered) {} where
  raw := ledger.raw
  handed := ledger.handed
  credit := ledger.credit
  line := ledger.line
  record := ledger.record
  declared := ledger.declared

end Delivering

/-! ## The end of a request -/

section Ending

variable {trace : List Observation} {worker : SpeechWorker} {flight : Flight}

/-- The declared end of the request is recorded. -/
theorem RequestLedger.applyTerminal (ledger : RequestLedger trace worker flight)
    (unfinished : worker.context.upstreamFinished = false) (type : ProviderEventType) {bytes : ℕ}
    (aligned : worker.frameAssembler.blockAlign ∣ bytes) :
    RequestLedger
      (trace ++ [.terminalReceived worker.context.token.generation bytes
        worker.context.rawAudioBytesRead])
      (worker.applyTerminal (terminalTarget type) bytes) flight := by
  have exact_ (assembled : .frameAssemblyFailed ∉ trace)
      (noFault : worker.context.faultPending = false) (notRefused : flight.refused = false) :
      deliveryLine trace worker flight = readSince worker.context.token.generation trace := by
    rcases ledger.line assembled noFault notRefused with whole | ⟨finished, -, -⟩
    · exact whole
    · simp [unfinished] at finished
  have read : readSince worker.context.token.generation
      (trace ++ [.terminalReceived worker.context.token.generation bytes
        worker.context.rawAudioBytesRead]) = readSince worker.context.token.generation trace :=
    readSince_append_quiet rfl (by simp)
  have handed : handedOf worker.context.token.generation
      (trace ++ [.terminalReceived worker.context.token.generation bytes
        worker.context.rawAudioBytesRead]) = handedOf worker.context.token.generation trace :=
    handedOf_append_quiet rfl
  have accepted : acceptedOf worker.context.token.generation
      (trace ++ [.terminalReceived worker.context.token.generation bytes
        worker.context.rawAudioBytesRead]) = acceptedOf worker.context.token.generation trace :=
    acceptedOf_append_quiet rfl
  have sameLine : deliveryLine (trace ++ [.terminalReceived worker.context.token.generation bytes
        worker.context.rawAudioBytesRead]) (worker.applyTerminal (terminalTarget type) bytes)
        flight = deliveryLine trace worker flight :=
    congrArg (fun handed => handed ++ flight.spans.flatten ++ worker.frameAssembler.carry) handed
  refine ⟨ledger.raw.trans (congrArg List.length read.symm), ?_, ?_, ?_, ?_, fun _ => aligned⟩
  · intro notRefused
    exact handed.trans ((ledger.handed notRefused).trans (by rw [← accepted]; rfl))
  · exact ledger.credit.trans (congrArg List.length accepted.symm)
  · intro assembled noFault notRefused
    refine .inl (sameLine.trans ?_)
    exact (exact_ (not_mem_left assembled) noFault notRefused).trans read.symm
  · intro declared raw member
    rcases List.mem_append.mp member with before | now
    · have finished := (ledger.record before).1
      simp [unfinished] at finished
    · rw [List.mem_singleton] at now
      cases now
      refine ⟨rfl, rfl, fun assembled noFault notRefused => ?_⟩
      rw [sameLine, exact_ (not_mem_left assembled) noFault notRefused, ← ledger.raw]
      exact Nat.le_max_left _ _

/-- With every byte of the line delivered, a request that has read its declared
total has reached its end: the partial frame of an aligned total is empty. -/
theorem RequestLedger.reachedEnd (ledger : RequestLedger trace worker {})
    (assembled : .frameAssemblyFailed ∉ trace) (noFault : worker.context.faultPending = false)
    (finished : worker.context.upstreamFinished = true)
    (total : worker.context.rawAudioBytesRead = worker.context.upstreamTerminalBytes)
    (frames : worker.frameAssembler.blockAlign ∣
      (acceptedOf worker.context.token.generation trace).length) : worker.ReachedEnd := by
  have line : deliveryLine trace worker {} =
      readSince worker.context.token.generation trace := by
    rcases ledger.line assembled noFault rfl with whole | ⟨-, excess, -⟩
    · exact whole
    · omega
  have lengths := congrArg List.length line
  have handed := ledger.handed rfl
  have credit := ledger.credit
  simp only [deliveryLine, List.flatten_nil, List.append_nil, List.length_append] at lengths
  rw [List.append_nil] at handed
  rw [handed, ← ledger.raw, total] at lengths
  have carryFrames : worker.frameAssembler.blockAlign ∣ worker.frameAssembler.carry.length :=
    (Nat.dvd_add_right frames).mp (by rw [lengths]; exact ledger.declared finished)
  have empty : worker.frameAssembler.carry.length = 0 :=
    Nat.eq_zero_of_dvd_of_lt carryFrames worker.frameAssembler.carry_lt
  refine ⟨total, ?_, List.length_eq_zero_iff.mp empty⟩
  rw [Nat.add_zero] at credit
  omega

/-- **A check that lets the request go on leaves no declared end behind.** -/
theorem RequestLedger.noMissedEnd (ledger : RequestLedger trace worker {})
    (speaking : worker.context.downstreamState = .speaking) (goesOn : worker.GoesOn)
    (frames : worker.frameAssembler.blockAlign ∣
      (acceptedOf worker.context.token.generation trace).length) :
    NoMissedEnd trace worker {} := by
  intro assembled noFault _ finished
  obtain ⟨within, -, notReached⟩ := goesOn.speaking speaking finished
  refine Nat.lt_of_le_of_ne within fun total => notReached ?_
  exact ledger.reachedEnd assembled noFault finished total frames

/-- **A request that reaches its end was delivered exactly**: what SAPI took is
what was read, up to the declared total, and as long as declared. -/
theorem RequestLedger.accepted_of_reachedEnd (ledger : RequestLedger trace worker flight)
    (reached : worker.ReachedEnd)
    (inOrder : acceptedOf worker.context.token.generation trace <+:
      readSince worker.context.token.generation trace) :
    acceptedOf worker.context.token.generation trace =
      (readSince worker.context.token.generation trace).take
        worker.context.upstreamTerminalBytes ∧
    (acceptedOf worker.context.token.generation trace).length =
      worker.context.upstreamTerminalBytes := by
  have raw := ledger.raw
  have credit := ledger.credit
  have bound := inOrder.length_le
  rw [reached.raw] at raw
  rw [reached.delivered] at credit
  have whole : acceptedOf worker.context.token.generation trace =
      readSince worker.context.token.generation trace :=
    inOrder.eq_of_length_le (by omega)
  rw [whole, raw, List.take_length]
  exact ⟨rfl, rfl⟩

end Ending

/-- The books of a request that has just started are empty. -/
theorem RequestLedger.started {trace : List Observation} {worker : SpeechWorker} (now : ℕ)
    (token : RequestToken) (fresh : ¬Started token.generation trace)
    (noHanded : handedOf token.generation trace = [])
    (noAccepted : acceptedOf token.generation trace = [])
    (noRecord : ∀ declared raw, .terminalReceived token.generation declared raw ∉ trace) :
    RequestLedger (trace ++ [.requestStarted token]) (worker.started now token) {} := by
  have read : readSince token.generation (trace ++ [.requestStarted token]) = [] := by
    rw [readSince_append_of_not_started _ fresh]
    simp [readSince]
  have handed : handedOf token.generation (trace ++ [.requestStarted token]) = [] := by
    rw [handedOf_append, noHanded]
    rfl
  have accepted : acceptedOf token.generation (trace ++ [.requestStarted token]) = [] := by
    rw [acceptedOf_append, noAccepted]
    rfl
  refine ⟨(congrArg List.length read).symm,
    fun _ => handed.trans (accepted.symm.trans (List.append_nil _).symm),
    (congrArg List.length accepted).symm, fun _ _ _ => .inl ?_, ?_, ?_⟩
  · have empty : deliveryLine (trace ++ [.requestStarted token]) (worker.started now token) {}
        = [] := by
      change handedOf token.generation (trace ++ [.requestStarted token]) ++ [] ++ [] = []
      rw [handed]
      rfl
    exact empty.trans read.symm
  · intro declared raw member
    have before : .terminalReceived token.generation declared raw ∈ trace := by
      rcases List.mem_append.mp member with before | now
      · exact before
      · simp at now
    exact absurd before (noRecord declared raw)
  · intro finished
    simp [SpeechWorker.started, RequestContext.reset] at finished

end ModernSapi
