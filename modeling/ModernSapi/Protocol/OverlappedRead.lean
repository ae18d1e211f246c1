import ModernSapi.Protocol.ControlReader
import ModernSapi.Protocol.PipeConnection

/-!
# Reads that may time out

A pipe is read with an overlapped operation, which the kernel carries out while the thread
waits. When its time is over the thread cancels the operation, and the kernel may complete it at
any moment until then. The operation and the buffer stand on the stack of the thread.

`CompleteOverlappedOperation` therefore waits for the end of a cancelled operation, and takes
its bytes when it was completed after all.

* `overlapped_lossless`: no byte of the pipe is lost or read twice, and none is written to the
  stack of a call that has returned.
* `control_lossless`: the lines of the control pipe are those the provider has written, whatever
  reads time out.
-/

set_option autoImplicit false

namespace ModernSapi

open Interleaving Records

namespace Win32Error

def operationAborted : Win32Error := { code := 995 }
def ioIncomplete : Win32Error := { code := 996 }
def notFound : Win32Error := { code := 1168 }
def waitTimeout : Win32Error := { code := 258 }

end Win32Error

/-! ## One pipe -/

/-- How far the kernel is with an operation. -/
inductive KernelOperation where
  | pending
  | completed (bytes : List UInt8)
  | failed (error : Win32Error)
  deriving DecidableEq

/-- What a read comes to. -/
inductive ReadResult where
  | bytes (chunk : List UInt8)
  | timedOut
  | failed (error : Win32Error)
  deriving DecidableEq

/-- Where the thread stands. -/
inductive ReadPlace where
  | idle
  | waiting
  | cancelling
  | reaping (cancellationError : Option Win32Error)
  deriving DecidableEq

/-- A pipe with the thread that reads it. The operation is the last one issued. -/
structure OverlappedPipe where
  content : List UInt8 := []
  operation : Option KernelOperation := none
  place : ReadPlace := .idle
  isInfinite : Bool := false
  deriving DecidableEq

inductive PipeObservation where
  | written (bytes : List UInt8)
  | returned (result : ReadResult)
  deriving DecidableEq

inductive PipeAction where
  | provider (bytes : List UInt8)
  | readFile (isInfinite : Bool) (error : Option Win32Error)
  | kernelCompletes (count : ℕ)
  | kernelFails (error : Win32Error)
  | waitEnds
  | waitTimesOut
  | cancelIo (error : Option Win32Error)
  | reap
  deriving DecidableEq

def PipeAction.isRead : PipeAction → Bool
  | .readFile .. => true
  | _ => false

namespace OverlappedPipe

def returns (pipe : OverlappedPipe) (result : ReadResult) : OverlappedPipe × List PipeObservation :=
  ({ pipe with place := .idle }, [.returned result])

/-- The end of the first wait, which is that of the operation. -/
def waitEnds (pipe : OverlappedPipe) : KernelOperation → Option (OverlappedPipe × List PipeObservation)
  | .pending => none
  | .completed bytes => some (pipe.returns (.bytes bytes))
  | .failed error => some (pipe.returns (.failed error))

/-- The end of the second wait. An operation that was completed after all gives its bytes. -/
def reap (pipe : OverlappedPipe) (cancellationError : Option Win32Error) :
    KernelOperation → Option (OverlappedPipe × List PipeObservation)
  | .pending => none
  | .completed bytes => some (pipe.returns (.bytes bytes))
  | .failed error =>
      if error ≠ .operationAborted then some (pipe.returns (.failed error))
      else
        match cancellationError with
        | none => some (pipe.returns .timedOut)
        | some cancellation =>
            if cancellation ≠ .notFound then some (pipe.returns (.failed cancellation))
            else some (pipe.returns .timedOut)

/-- The reads of a pipe, `capacity` bytes at most each. The kernel ends an operation with any
error but those that `GetOverlappedResultEx` has for one that is still pending. -/
def step (capacity : ℕ) (pipe : OverlappedPipe) :
    PipeAction → Option (OverlappedPipe × List PipeObservation)
  | .provider bytes => some ({ pipe with content := pipe.content ++ bytes }, [.written bytes])
  | .readFile isInfinite error =>
      if pipe.place = .idle then
        match error with
        | some error => some (pipe.returns (.failed error))
        | none =>
            some ({ pipe with operation := some .pending, place := .waiting, isInfinite }, [])
      else none
  | .kernelCompletes count =>
      if pipe.operation = some .pending ∧ count ≤ capacity ∧ count ≤ pipe.content.length then
        some ({ pipe with
          content := pipe.content.drop count
          operation := some (.completed (pipe.content.take count)) }, [])
      else none
  | .kernelFails error =>
      if pipe.operation = some .pending ∧ error ≠ .waitTimeout ∧ error ≠ .ioIncomplete then
        some ({ pipe with operation := some (.failed error) }, [])
      else none
  | .waitEnds =>
      if pipe.place = .waiting then pipe.operation.bind pipe.waitEnds else none
  | .waitTimesOut =>
      if pipe.place = .waiting ∧ pipe.isInfinite = false ∧ pipe.operation = some .pending then
        some ({ pipe with place := .cancelling }, [])
      else none
  | .cancelIo error =>
      if pipe.place = .cancelling then some ({ pipe with place := .reaping error }, []) else none
  | .reap =>
      match pipe.place with
      | .reaping cancellationError => pipe.operation.bind (pipe.reap cancellationError)
      | _ => none

/-- The bytes of a completed operation that no call has returned yet. -/
def inFlight (pipe : OverlappedPipe) : List UInt8 :=
  if pipe.place = .idle then []
  else
    match pipe.operation with
    | some (.completed bytes) => bytes
    | _ => []

end OverlappedPipe

/-- The reads of a pipe by one thread. -/
def overlappedPipe (capacity : ℕ) : Machine OverlappedPipe PipeAction PipeObservation where
  init pipe := pipe = {}
  step := OverlappedPipe.step capacity

/-- The bytes the provider has written. -/
def writtenTo (trace : List PipeObservation) : List UInt8 :=
  trace.flatMap fun
    | .written bytes => bytes
    | _ => []

/-- The bytes the reads have returned. -/
def readFrom (trace : List PipeObservation) : List UInt8 :=
  trace.flatMap fun
    | .returned (.bytes chunk) => chunk
    | _ => []

@[simp] theorem writtenTo_append (first second : List PipeObservation) :
    writtenTo (first ++ second) = writtenTo first ++ writtenTo second := List.flatMap_append

@[simp] theorem readFrom_append (first second : List PipeObservation) :
    readFrom (first ++ second) = readFrom first ++ readFrom second := List.flatMap_append

/-- What holds of a pipe in every state: the bytes written are those read, those of a completed
operation and those still in the pipe. An operation outlives no call. -/
structure Lossless (trace : List PipeObservation) (pipe : OverlappedPipe) : Prop where
  conserved : writtenTo trace = readFrom trace ++ pipe.inFlight ++ pipe.content
  settled : pipe.place = .idle → pipe.operation ≠ some .pending

namespace Lossless

variable {capacity : ℕ} {pipe next : OverlappedPipe} {action : PipeAction}
  {trace events : List PipeObservation}

theorem initial : Lossless [] {} where
  conserved := rfl
  settled _ same := by cases same

/-- A call returns, with the bytes of its operation if there are any. -/
theorem returns (lossless : Lossless trace pipe) {result : ReadResult}
    (ended : pipe.operation ≠ some .pending)
    (bytes : readFrom [.returned result] = pipe.inFlight) :
    Lossless (trace ++ [.returned result]) { pipe with place := .idle } where
  conserved := by
    have nothing : writtenTo [.returned result] = [] := rfl
    rw [writtenTo_append, readFrom_append, bytes, nothing, List.append_nil, lossless.conserved]
    simp [OverlappedPipe.inFlight]
  settled _ := ended

theorem waitEnds (lossless : Lossless trace pipe) (waiting : pipe.place = .waiting)
    {operation : KernelOperation} (here : pipe.operation = some operation)
    (taken : pipe.waitEnds operation = some (next, events)) : Lossless (trace ++ events) next := by
  cases operation with
  | pending => cases taken
  | completed bytes =>
      cases taken
      refine lossless.returns (by rw [here]; exact fun same => by cases same) ?_
      simp [readFrom, OverlappedPipe.inFlight, waiting, here]
  | failed error =>
      cases taken
      refine lossless.returns (by rw [here]; exact fun same => by cases same) ?_
      simp [readFrom, OverlappedPipe.inFlight, waiting, here]

theorem reap (lossless : Lossless trace pipe) {cancellationError : Option Win32Error}
    (reaping : pipe.place = .reaping cancellationError) {operation : KernelOperation}
    (here : pipe.operation = some operation)
    (taken : pipe.reap cancellationError operation = some (next, events)) :
    Lossless (trace ++ events) next := by
  cases operation with
  | pending => cases taken
  | completed bytes =>
      cases taken
      refine lossless.returns (by rw [here]; exact fun same => by cases same) ?_
      simp [readFrom, OverlappedPipe.inFlight, reaping, here]
  | failed error =>
      have empty : ∀ result, (∀ chunk, result ≠ .bytes chunk) →
          Lossless (trace ++ [.returned result]) { pipe with place := .idle } := by
        intro result noBytes
        refine lossless.returns (by rw [here]; exact fun same => by cases same) ?_
        have nothing : pipe.inFlight = [] := by
          simp [OverlappedPipe.inFlight, reaping, here]
        rw [nothing]
        cases result with
        | bytes chunk => exact absurd rfl (noBytes chunk)
        | timedOut | failed error => rfl
      simp only [OverlappedPipe.reap, OverlappedPipe.returns] at taken
      repeat' split at taken
      all_goals
        cases taken
        exact empty _ (fun chunk same => by cases same)

/-- **Every step keeps the bytes.** -/
theorem step (lossless : Lossless trace pipe)
    (taken : pipe.step capacity action = some (next, events)) : Lossless (trace ++ events) next := by
  obtain ⟨conserved, settled⟩ := lossless
  cases action with
  | provider bytes =>
      cases taken
      refine ⟨?_, settled⟩
      have written : writtenTo [.written bytes] = bytes := List.append_nil bytes
      rw [writtenTo_append, written, conserved, List.append_assoc]
      have nothing : readFrom [.written bytes] = [] := rfl
      rw [readFrom_append, nothing, List.append_nil]
      rfl
  | readFile isInfinite error =>
      simp only [OverlappedPipe.step] at taken
      split at taken
      · next idle =>
          split at taken
          · cases taken
            exact Lossless.returns ⟨conserved, settled⟩ (settled idle)
              (by simp [readFrom, OverlappedPipe.inFlight, idle])
          · cases taken
            have before : pipe.inFlight = [] := by simp [OverlappedPipe.inFlight, idle]
            refine ⟨?_, fun here => by cases here⟩
            rw [List.append_nil, conserved, before]
            rfl
      · cases taken
  | kernelCompletes count =>
      simp only [OverlappedPipe.step, Option.ite_none_right_eq_some, Option.some.injEq,
        Prod.mk.injEq] at taken
      obtain ⟨⟨pending, -, -⟩, rfl, rfl⟩ := taken
      have busy : pipe.place ≠ .idle := fun idle => settled idle pending
      refine ⟨?_, fun _ same => by cases same⟩
      have before : pipe.inFlight = [] := by simp [OverlappedPipe.inFlight, pending]
      rw [List.append_nil, conserved, before]
      simp [OverlappedPipe.inFlight, busy]
  | kernelFails error =>
      simp only [OverlappedPipe.step, Option.ite_none_right_eq_some, Option.some.injEq,
        Prod.mk.injEq] at taken
      obtain ⟨⟨pending, -, -⟩, rfl, rfl⟩ := taken
      refine ⟨?_, fun _ same => by cases same⟩
      have before : pipe.inFlight = [] := by simp [OverlappedPipe.inFlight, pending]
      rw [List.append_nil, conserved, before]
      simp [OverlappedPipe.inFlight]
  | waitEnds =>
      simp only [OverlappedPipe.step, Option.ite_none_right_eq_some,
        Option.bind_eq_some_iff] at taken
      obtain ⟨waiting, operation, here, taken⟩ := taken
      exact Lossless.waitEnds ⟨conserved, settled⟩ waiting here taken
  | waitTimesOut =>
      simp only [OverlappedPipe.step, Option.ite_none_right_eq_some, Option.some.injEq,
        Prod.mk.injEq] at taken
      obtain ⟨⟨waiting, -, pending⟩, rfl, rfl⟩ := taken
      refine ⟨?_, fun here => by cases here⟩
      have before : pipe.inFlight = [] := by simp [OverlappedPipe.inFlight, pending]
      rw [List.append_nil, conserved, before]
      simp [OverlappedPipe.inFlight, pending]
  | cancelIo error =>
      simp only [OverlappedPipe.step, Option.ite_none_right_eq_some, Option.some.injEq,
        Prod.mk.injEq] at taken
      obtain ⟨cancelling, rfl, rfl⟩ := taken
      refine ⟨?_, fun here => by cases here⟩
      rw [List.append_nil, conserved]
      simp [OverlappedPipe.inFlight, cancelling]
  | reap =>
      simp only [OverlappedPipe.step] at taken
      split at taken
      · next cancellationError reaping =>
          obtain ⟨operation, here, taken⟩ := Option.bind_eq_some_iff.mp taken
          exact Lossless.reap ⟨conserved, settled⟩ reaping here taken
      · cases taken

end Lossless

/-- **No byte is lost, and none is written to the stack of a call that has returned.** Whatever
reads time out, fail or are cancelled, the bytes that the provider has written are those the
reads have returned, those of an operation that is completed, and those in the pipe, in this
order. Between two calls no operation is pending and none has bytes left. -/
theorem overlapped_lossless {capacity : ℕ} {trace : List PipeObservation} {pipe : OverlappedPipe}
    (reached : (overlappedPipe capacity).Reaches Machine.anyStep trace pipe) :
    writtenTo trace = readFrom trace ++ pipe.inFlight ++ pipe.content ∧
      (pipe.place = .idle → pipe.operation ≠ some .pending ∧ pipe.inFlight = []) := by
  have lossless : Lossless trace pipe := by
    refine reached.induct (motive := Lossless) ?_ ?_
    · rintro start rfl
      exact .initial
    · intro _ _ _ _ _ _ lossless _ taken
      exact lossless.step taken
  exact ⟨lossless.conserved, fun idle => ⟨lossless.settled idle, by
    rw [OverlappedPipe.inFlight, if_pos idle]⟩⟩

/-- A read that the kernel completes after the thread has given up waiting. -/
def completedAfterTimeout : List PipeAction :=
  [.readFile false none, .waitTimesOut, .provider [1, 2, 3], .kernelCompletes 2,
    .cancelIo (some .notFound), .reap]

theorem overlapped_lossless_completed :
    writtenTo ((overlappedPipe 4).emitted {} completedAfterTimeout) = [1, 2] ++ [] ++ [3] := by
  have run := (overlappedPipe 4).run_finalState {} completedAfterTimeout (Machine.along_anyStep _ _)
    (by decide)
  exact (overlapped_lossless ⟨{}, rfl, run⟩).1

/-! ## The control pipe -/

/-- What a call of `ReadControlMessage` makes of the end of a read. -/
def ControlReader.receive (reader : ControlReader) :
    ReadResult → ControlReader × List ReadObservation
  | .bytes chunk =>
      if chunk ≠ [] then
        ({ stream := reader.stream.append chunk, call := .extracting }, [.bytesRead chunk])
      else ({ reader with call := .idle }, [.readFailed])
  | .timedOut => ({ reader with call := .idle }, [.timedOut])
  | .failed _ => ({ reader with call := .idle }, [.readFailed])

/-- The control side of a client with its pipe. -/
structure ControlPipe where
  reader : ControlReader := {}
  pipe : OverlappedPipe := {}
  deriving DecidableEq

inductive ControlObservation where
  | pipe (observation : PipeObservation)
  | reader (observation : ReadObservation)
  deriving DecidableEq

inductive ControlAction where
  | pipe (action : PipeAction)
  | reader (action : ReadAction)
  deriving DecidableEq

namespace ControlPipe

/-- The reader goes on when its read has ended. -/
def receive (control : ControlPipe) : PipeObservation → ControlPipe × List ReadObservation
  | .written _ => (control, [])
  | .returned result =>
      let received := control.reader.receive result
      ({ control with reader := received.1 }, received.2)

def receiveAll (control : ControlPipe) :
    List PipeObservation → ControlPipe × List ReadObservation
  | [] => (control, [])
  | observation :: rest =>
      let received := control.receive observation
      let final := received.1.receiveAll rest
      (final.1, received.2 ++ final.2)

def pipeStep (control : ControlPipe) (action : PipeAction) :
    Option (ControlPipe × List ControlObservation) :=
  (control.pipe.step controlChunkBytes action).map fun stepped =>
    let received := { control with pipe := stepped.1 }.receiveAll stepped.2
    (received.1, stepped.2.map .pipe ++ received.2.map .reader)

/-- A read is issued by a call that needs more bytes, and a call does nothing else until its
read has ended. Before a read is issued the deadline may have passed, and the event of the
operation may not be created. -/
def step (control : ControlPipe) : ControlAction → Option (ControlPipe × List ControlObservation)
  | .pipe action =>
      if action.isRead = true ∧ control.reader.call ≠ .reading then none
      else control.pipeStep action
  | .reader (.bytesRead _) => none
  | .reader action =>
      if control.pipe.place = .idle then
        (control.reader.step action).map fun stepped =>
          ({ control with reader := stepped.1 }, stepped.2.map .reader)
      else none

end ControlPipe

def controlPipe : Machine ControlPipe ControlAction ControlObservation where
  init control := control = {}
  step := ControlPipe.step

/-- What is seen of the pipe. -/
def pipeTrace (trace : List ControlObservation) : List PipeObservation :=
  trace.filterMap fun
    | .pipe observation => some observation
    | .reader _ => none

/-- What is seen of the reader. -/
def readerTrace (trace : List ControlObservation) : List ReadObservation :=
  trace.filterMap fun
    | .pipe _ => none
    | .reader observation => some observation

section Traces

variable (first second : List ControlObservation)

@[simp] theorem pipeTrace_append :
    pipeTrace (first ++ second) = pipeTrace first ++ pipeTrace second := List.filterMap_append

@[simp] theorem readerTrace_append :
    readerTrace (first ++ second) = readerTrace first ++ readerTrace second :=
  List.filterMap_append

@[simp] theorem pipeTrace_map_pipe (trace : List PipeObservation) :
    pipeTrace (trace.map .pipe) = trace := by
  rw [pipeTrace, List.filterMap_map]
  exact List.filterMap_some

@[simp] theorem pipeTrace_map_reader (trace : List ReadObservation) :
    pipeTrace (trace.map .reader) = [] := by
  simp [pipeTrace]

@[simp] theorem readerTrace_map_pipe (trace : List PipeObservation) :
    readerTrace (trace.map .pipe) = [] := by
  simp [readerTrace]

@[simp] theorem readerTrace_map_reader (trace : List ReadObservation) :
    readerTrace (trace.map .reader) = trace := by
  rw [readerTrace, List.filterMap_map]
  exact List.filterMap_some

end Traces

/-- What a step of the pipe means to the reader. -/
inductive PipeStep (capacity : ℕ) (pipe : OverlappedPipe) (action : PipeAction) :
    OverlappedPipe → List PipeObservation → Prop where
  | silent {next : OverlappedPipe} {events : List PipeObservation}
      (unread : events = [] ∨ ∃ bytes, events = [.written bytes])
      (place : next.place ≠ .idle → pipe.place ≠ .idle ∨ action.isRead = true)
      (completed : ∀ bytes, next.operation = some (.completed bytes) →
        pipe.operation = some (.completed bytes) ∨ bytes.length ≤ capacity) :
      PipeStep capacity pipe action next events
  | returned {result : ReadResult} (reads : pipe.place ≠ .idle ∨ action.isRead = true)
      (bytes : ∀ chunk, result = .bytes chunk → pipe.operation = some (.completed chunk)) :
      PipeStep capacity pipe action { pipe with place := .idle } [.returned result]

theorem pipeStep_spec {capacity : ℕ} {pipe next : OverlappedPipe} {action : PipeAction}
    {events : List PipeObservation}
    (taken : pipe.step capacity action = some (next, events)) :
    PipeStep capacity pipe action next events := by
  cases action with
  | provider bytes =>
      cases taken
      exact .silent (.inr ⟨bytes, rfl⟩) .inl fun _ => .inl
  | readFile isInfinite error =>
      simp only [OverlappedPipe.step] at taken
      split at taken
      · split at taken
        · cases taken
          exact .returned (.inr rfl) fun _ same => by cases same
        · cases taken
          exact .silent (.inl rfl) (fun _ => .inr rfl) fun _ same => by cases same
      · cases taken
  | kernelCompletes count =>
      simp only [OverlappedPipe.step, Option.ite_none_right_eq_some, Option.some.injEq,
        Prod.mk.injEq] at taken
      obtain ⟨⟨-, fits, -⟩, rfl, rfl⟩ := taken
      refine .silent (.inl rfl) .inl fun bytes same => .inr ?_
      cases same
      exact (List.length_take_le _ _).trans fits
  | kernelFails error =>
      simp only [OverlappedPipe.step, Option.ite_none_right_eq_some, Option.some.injEq,
        Prod.mk.injEq] at taken
      obtain ⟨-, rfl, rfl⟩ := taken
      exact .silent (.inl rfl) .inl fun _ same => by cases same
  | waitEnds =>
      simp only [OverlappedPipe.step, Option.ite_none_right_eq_some,
        Option.bind_eq_some_iff] at taken
      obtain ⟨waiting, operation, here, taken⟩ := taken
      have busy : pipe.place ≠ .idle := by
        rw [waiting]
        exact ReadPlace.noConfusion
      cases operation with
      | pending => cases taken
      | completed bytes =>
          cases taken
          refine .returned (.inl busy) fun chunk same => ?_
          cases same
          exact here
      | failed error =>
          cases taken
          exact .returned (.inl busy) fun _ same => by cases same
  | waitTimesOut =>
      simp only [OverlappedPipe.step, Option.ite_none_right_eq_some, Option.some.injEq,
        Prod.mk.injEq] at taken
      obtain ⟨⟨waiting, -, -⟩, rfl, rfl⟩ := taken
      refine .silent (.inl rfl) (fun _ => .inl ?_) fun _ => .inl
      rw [waiting]
      exact ReadPlace.noConfusion
  | cancelIo error =>
      simp only [OverlappedPipe.step, Option.ite_none_right_eq_some, Option.some.injEq,
        Prod.mk.injEq] at taken
      obtain ⟨cancelling, rfl, rfl⟩ := taken
      refine .silent (.inl rfl) (fun _ => .inl ?_) fun _ => .inl
      rw [cancelling]
      exact ReadPlace.noConfusion
  | reap =>
      simp only [OverlappedPipe.step] at taken
      split at taken
      · next cancellationError reaping =>
          have busy : pipe.place ≠ .idle := by
            rw [reaping]
            exact ReadPlace.noConfusion
          obtain ⟨operation, here, taken⟩ := Option.bind_eq_some_iff.mp taken
          cases operation with
          | pending => cases taken
          | completed bytes =>
              cases taken
              refine .returned (.inl busy) fun chunk same => ?_
              cases same
              exact here
          | failed error =>
              simp only [OverlappedPipe.reap, OverlappedPipe.returns] at taken
              repeat' split at taken
              all_goals
                cases taken
                exact .returned (.inl busy) fun _ same => by cases same
      · cases taken

/-- The end of a read is a step of the reader that waits for it. -/
theorem ControlReader.step_receive {reader : ControlReader} {result : ReadResult}
    (reading : reader.call = .reading)
    (fits : ∀ chunk, result = .bytes chunk → chunk.length ≤ controlChunkBytes) :
    ∃ action, reader.step action = some (reader.receive result) := by
  cases result with
  | bytes chunk =>
      by_cases some_ : chunk ≠ []
      · refine ⟨.bytesRead chunk, ?_⟩
        simp only [ControlReader.step, reading, receive]
        rw [if_pos ⟨some_, fits chunk rfl⟩, if_pos some_]
      · refine ⟨.readFails, ?_⟩
        simp only [ControlReader.step, reading, receive]
        rw [if_neg some_]
  | timedOut =>
      refine ⟨.timesOut, ?_⟩
      simp only [ControlReader.step, reading, receive]
  | failed error =>
      refine ⟨.readFails, ?_⟩
      simp only [ControlReader.step, reading, receive]

theorem received_receive (reader : ControlReader) (result : ReadResult) :
    received (reader.receive result).2 = readFrom [.returned result] := by
  cases result with
  | bytes chunk =>
      by_cases empty : chunk = []
      · subst empty
        rfl
      · simp [ControlReader.receive, empty, received, readFrom]
  | timedOut | failed error => rfl

/-- The other steps of the reader take no bytes. -/
theorem received_of_step {reader next : ControlReader} {action : ReadAction}
    {events : List ReadObservation} (taken : reader.step action = some (next, events))
    (other : ∀ chunk, action ≠ .bytesRead chunk) : received events = [] := by
  cases readStep_spec taken with
  | @bytesRead chunk here => exact absurd rfl (other chunk)
  | called | lineFound | overCapacity | noLine | timedOut | readFailed | tooLong | returned => rfl

/-- What holds of the control pipe and its reader in every state. -/
structure ControlInvariant (trace : List ControlObservation) (control : ControlPipe) : Prop where
  lossless : Lossless (pipeTrace trace) control.pipe
  reads : controlReader.Reaches Machine.anyStep (readerTrace trace) control.reader
  same : received (readerTrace trace) = readFrom (pipeTrace trace)
  busy : control.pipe.place ≠ .idle → control.reader.call = .reading
  fits : ∀ bytes, control.pipe.operation = some (.completed bytes) →
    bytes.length ≤ controlChunkBytes

namespace ControlInvariant

variable {control next : ControlPipe} {trace events : List ControlObservation}

theorem initial : ControlInvariant [] {} where
  lossless := .initial
  reads := ⟨{}, rfl, .refl⟩
  same := rfl
  busy elsewhere := absurd rfl elsewhere
  fits _ found := by cases found

/-- The reader goes on between two reads. -/
theorem readerStep (invariant : ControlInvariant trace control) {action : ReadAction}
    (other : ∀ chunk, action ≠ .bytesRead chunk) (idle : control.pipe.place = .idle)
    {reader : ControlReader} {seen : List ReadObservation}
    (taken : control.reader.step action = some (reader, seen)) :
    ControlInvariant (trace ++ seen.map .reader) { control with reader } where
  lossless := by
    rw [pipeTrace_append, pipeTrace_map_reader, List.append_nil]
    exact invariant.lossless
  reads := by
    rw [readerTrace_append, readerTrace_map_reader]
    exact invariant.reads.step trivial taken
  same := by
    rw [readerTrace_append, readerTrace_map_reader, received_append, received_of_step taken other,
      List.append_nil, pipeTrace_append, pipeTrace_map_reader, List.append_nil]
    exact invariant.same
  busy elsewhere := absurd idle elsewhere
  fits := invariant.fits

theorem pipeStep (invariant : ControlInvariant trace control) {action : PipeAction}
    (allowed : action.isRead = true → control.reader.call = .reading)
    (taken : control.pipeStep action = some (next, events)) :
    ControlInvariant (trace ++ events) next := by
  obtain ⟨⟨pipe, seen⟩, stepped, same⟩ := Option.map_eq_some_iff.mp taken
  have lossless := invariant.lossless.step stepped
  have reading : control.pipe.place ≠ .idle ∨ action.isRead = true →
      control.reader.call = .reading := fun reads => reads.elim invariant.busy allowed
  cases pipeStep_spec stepped with
  | silent unread place completed =>
      have noBytes : ({ control with pipe } : ControlPipe).receiveAll seen =
          ({ control with pipe }, []) ∧ readFrom seen = [] := by
        rcases unread with rfl | ⟨bytes, rfl⟩ <;> exact ⟨rfl, rfl⟩
      simp only [noBytes.1] at same
      cases same
      rw [List.map_nil, List.append_nil]
      refine ⟨?_, ?_, ?_, fun elsewhere => reading (place elsewhere), fun bytes found => ?_⟩
      · rw [pipeTrace_append, pipeTrace_map_pipe]
        exact lossless
      · rw [readerTrace_append, readerTrace_map_pipe, List.append_nil]
        exact invariant.reads
      · rw [readerTrace_append, readerTrace_map_pipe, List.append_nil, pipeTrace_append,
          pipeTrace_map_pipe, readFrom_append, noBytes.2, List.append_nil]
        exact invariant.same
      · exact (completed bytes found).elim (invariant.fits bytes) id
  | @returned result reads bytes =>
      obtain ⟨readerAction, received_⟩ := ControlReader.step_receive (reading reads)
        fun chunk same => invariant.fits chunk (bytes chunk same)
      have once : ({ control with pipe := { control.pipe with place := .idle } } :
          ControlPipe).receiveAll [.returned result] =
            ({ reader := (control.reader.receive result).1
               pipe := { control.pipe with place := .idle } },
              (control.reader.receive result).2) := by
        rw [ControlPipe.receiveAll, ControlPipe.receiveAll, List.append_nil]
        rfl
      simp only [once] at same
      cases same
      refine ⟨?_, ?_, ?_, fun elsewhere => absurd rfl elsewhere, invariant.fits⟩
      · rw [pipeTrace_append, pipeTrace_append, pipeTrace_map_pipe, pipeTrace_map_reader,
          List.append_nil]
        exact lossless
      · rw [readerTrace_append, readerTrace_append, readerTrace_map_pipe, readerTrace_map_reader,
          List.nil_append]
        exact invariant.reads.step trivial received_
      · rw [readerTrace_append, readerTrace_append, readerTrace_map_pipe, readerTrace_map_reader,
          List.nil_append, received_append, received_receive, pipeTrace_append, pipeTrace_append,
          pipeTrace_map_pipe, pipeTrace_map_reader, List.append_nil, readFrom_append,
          invariant.same]

theorem step (invariant : ControlInvariant trace control) {action : ControlAction}
    (taken : control.step action = some (next, events)) :
    ControlInvariant (trace ++ events) next := by
  cases action with
  | pipe action =>
      simp only [ControlPipe.step] at taken
      split at taken
      · cases taken
      · next allowed =>
          refine invariant.pipeStep (fun reads => ?_) taken
          by_contra elsewhere
          exact allowed ⟨reads, elsewhere⟩
  | reader action =>
      have other : ∀ chunk, action ≠ .bytesRead chunk := by
        rintro chunk rfl
        cases taken
      have stepped : (if control.pipe.place = .idle then
          (control.reader.step action).map fun stepped =>
            (({ control with reader := stepped.1 } : ControlPipe), stepped.2.map .reader)
          else none) = some (next, events) := by
        cases action with
        | bytesRead chunk => exact absurd rfl (other chunk)
        | readControlMessage | tryExtractLine | timesOut | readFails | finish => exact taken
      rw [Option.ite_none_right_eq_some] at stepped
      obtain ⟨idle, mapped⟩ := stepped
      obtain ⟨⟨reader, seen⟩, stepped, same⟩ := Option.map_eq_some_iff.mp mapped
      cases same
      exact invariant.readerStep other idle stepped

end ControlInvariant

/-- What a reader has made of its stream, when no record is too long. -/
theorem framing_of_reaches {trace : List ReadObservation} {reader : ControlReader}
    (reached : controlReader.Reaches Machine.anyStep trace reader)
    (within : RecordsWithin lineFeed ControlStreamBuffer.maxRecordBytes (received trace)) :
    Framing trace reader := by
  refine reached.induct (motive := fun trace reader =>
    RecordsWithin lineFeed ControlStreamBuffer.maxRecordBytes (received trace) →
      Framing trace reader) ?_ ?_ within
  · rintro _ rfl -
    exact .initial
  · intro trace events _ _ _ _ before _ taken within
    rw [received_append] at within
    have earlier := within.of_append
    exact (before earlier).step earlier (readStep_spec taken)

/-- **The lines of the control pipe are those of the provider.** Whatever reads time out, fail
or are cancelled, the lines that the calls return are, in order and each once, the first lines
of what the provider has written, each without one carriage return. What is left of it is what
the buffer retains, a completed operation, and the pipe. -/
theorem control_lossless {trace : List ControlObservation} {control : ControlPipe}
    (reached : controlPipe.Reaches Machine.anyStep trace control)
    (within : RecordsWithin lineFeed ControlStreamBuffer.maxRecordBytes
      (writtenTo (pipeTrace trace))) :
    ∃ records,
      (writtenTo (pipeTrace trace)).splitOn lineFeed = records ++
        (control.reader.stream.undelivered ++ control.pipe.inFlight ++
          control.pipe.content).splitOn lineFeed ∧
      returnedLines (readerTrace trace) ++ control.reader.held =
        records.map withoutCarriageReturn := by
  have invariant : ControlInvariant trace control := by
    refine reached.induct (motive := ControlInvariant) ?_ ?_
    · rintro start rfl
      exact .initial
    · intro _ _ _ _ _ _ invariant _ taken
      exact invariant.step taken
  have conserved := invariant.lossless.conserved
  rw [← invariant.same, List.append_assoc] at conserved
  rw [conserved] at within ⊢
  obtain ⟨records, whole, split, lines⟩ :=
    (framing_of_reaches invariant.reads within.of_append).inOrder
  refine ⟨records, ?_, lines⟩
  rw [split, List.append_assoc, splitOn_terminated whole, List.append_assoc]

/-- A call whose read times out as the provider writes, and the call after it. -/
def completedWhileCancelled : List ControlAction :=
  [.reader .readControlMessage, .reader .tryExtractLine, .pipe (.readFile false none),
    .pipe .waitTimesOut, .pipe (.provider [123, 125, 10]), .pipe (.kernelCompletes 2),
    .pipe (.cancelIo (some .notFound)), .pipe .reap, .reader .tryExtractLine,
    .pipe (.readFile false none), .pipe .waitTimesOut, .pipe (.cancelIo none),
    .pipe (.kernelFails .operationAborted), .pipe .reap,
    .reader .readControlMessage, .reader .tryExtractLine, .pipe (.readFile false none),
    .pipe (.kernelCompletes 1), .pipe .waitEnds, .reader .tryExtractLine, .reader (.finish true)]

theorem control_lossless_completed :
    ∃ records, [[123, 125], ([] : List UInt8)] = records ++ [[]] ∧
      [[123, 125]] = records.map withoutCarriageReturn := by
  have run := controlPipe.run_finalState {} completedWhileCancelled (Machine.along_anyStep _ _)
    (by decide)
  obtain ⟨records, split, lines⟩ := control_lossless ⟨{}, rfl, run⟩ (by decide)
  exact ⟨records, split, lines⟩

end ModernSapi
