import ModernSapi.Library.Machine
import ModernSapi.Worker.LockedSpec

/-!
# The threads of a worker

A worker runs an audio thread and a control thread, and its owner calls it from a
third. The machine here takes one step for each critical section, each read of a
pipe and each return of a call out of the worker, in any order the threads can be
scheduled in. Nothing is assumed of the provider or of SAPI: a step carries what
it read or what it was told.

A read of a pipe and the critical section that takes it in are one step. Only the
one thread reads from the pipe, so what it has read and not yet taken in is as
good as unread.

`EnterFaultedState` has two critical sections. The thread that won the publication
stands between them while it is the `publisher`.
-/

set_option autoImplicit false

namespace ModernSapi

open Interleaving PcmDeliveryPolicy

/-- The threads that enter the worker. -/
inductive Thread where
  | audio
  | control
  | caller
  deriving DecidableEq, Repr

/-- A batch on its way to SAPI: the spans not yet offered and the bytes SAPI has
taken. -/
structure Batch where
  token : RequestToken
  spans : List (List UInt8)
  delivered : ℕ := 0
  deriving DecidableEq

/-- Where the audio thread stands. -/
inductive AudioThread where
  | reading
  | admitting (batch : Batch)
  | onAudioData (batch : Batch) (span : List UInt8)
  | batchDone (token : RequestToken) (delivered : ℕ) (writeAccepted : Bool)
  | sendCancellation (speakId : ℕ)
  | enterFaultedState (thenStop : Bool)
  | stopped
  deriving DecidableEq

/-- Where the control thread stands. -/
inductive ControlThread where
  | reading
  | forwarding (event : ProviderControlEvent) (thenFault : Bool)
  | onSpeechEvent (event : ProviderControlEvent) (thenFault : Bool)
  | enterFaultedState (thenStop : Bool)
  | stopped
  deriving DecidableEq

/-- A worker with its threads. -/
structure WorkerState where
  worker : SpeechWorker
  audio : AudioThread := .reading
  control : ControlThread := .reading
  publisher : Option Thread := none
  deriving DecidableEq

/-- The steps of a worker. -/
inductive WorkerAction where
  | audioChunk (now : ℕ) (chunk : List UInt8)
  | frameAssemblyFails (now : ℕ) (chunk : List UInt8)
  | audioReadFails
  | spanAdmission
  | onAudioDataReturns (accepted : Bool)
  | batchOutcome (now : ℕ)
  | cancellationSent (sent : HResult)
  | controlRecord (now : ℕ) (event : ProviderControlEvent)
  | controlReadFails
  | finalAdmission
  | onSpeechEventReturns
  | enterFaultedState (thread : Thread)
  | publishFault (thread : Thread)
  | start (now speakId : ℕ)
  | stop
  | beginCancellation (deadlineTick : ℕ)
  deriving DecidableEq

namespace AudioThread

/-- After the span loop or the ingest, with the fault flag of either. -/
def afterChunk (fault : Bool) : AudioThread :=
  if fault then .enterFaultedState false else .reading

/-- After `EnterFaultedState` returns. -/
def afterFault (thenStop : Bool) : AudioThread := if thenStop then .stopped else .reading

end AudioThread

namespace ControlThread

def afterEvent (fault : Bool) : ControlThread :=
  if fault then .enterFaultedState false else .reading

def afterFault (thenStop : Bool) : ControlThread := if thenStop then .stopped else .reading

end ControlThread

namespace WorkerState

/-- A worker that has served no request. -/
def initial (blockAlign : ℕ) (positive : 0 < blockAlign) : WorkerState where
  worker := { frameAssembler := .create blockAlign positive }

/-- The context of the worker. -/
abbrev context (state : WorkerState) : RequestContext := state.worker.context

/-- The audio thread reads a chunk and takes it in. -/
def audioChunk (state : WorkerState) (now : ℕ) (chunk : List UInt8) :
    Option (WorkerState × List Observation) :=
  if state.audio = .reading ∧ chunk ≠ [] then
    let ingested := state.worker.ingestAudioChunkLocked now chunk
    some ({ state with
      worker := ingested.1
      audio :=
        if ingested.2.1.shouldDeliverAudio then
          .admitting { token := ingested.2.1.token, spans := ingested.2.1.spansToWrite }
        else .afterChunk ingested.2.1.protocolBoundaryFailed }, ingested.2.2)
  else none

/-- The chunk is counted, then the frame assembly throws and ends the thread. -/
def frameAssemblyFails (state : WorkerState) (now : ℕ) (chunk : List UInt8) :
    Option (WorkerState × List Observation) :=
  if state.audio = .reading ∧ chunk ≠ [] ∧ state.context.downstreamState = .speaking then
    some ({ state with
      worker := state.worker.countChunk now chunk.length
      audio := .enterFaultedState true }, [.pcmRead chunk, .frameAssemblyFailed])
  else none

/-- The span loop of the audio thread: the next span is offered to SAPI if the
request of the batch is still speaking, and the loop ends otherwise. -/
def spanAdmission (state : WorkerState) : Option (WorkerState × List Observation) :=
  match state.audio with
  | .admitting batch =>
      match batch.spans with
      | [] => some ({ state with audio := .batchDone batch.token batch.delivered true }, [])
      | span :: spans =>
          if evaluateSpanAdmission state.context batch.token = .allow then
            some ({ state with audio := .onAudioData { batch with spans } span },
              [.spanHanded batch.token.generation span])
          else some ({ state with audio := .batchDone batch.token batch.delivered true }, [])
  | _ => none

/-- SAPI has taken the span, or has not. -/
def onAudioDataReturns (state : WorkerState) (accepted : Bool) :
    Option (WorkerState × List Observation) :=
  match state.audio with
  | .onAudioData batch span =>
      if accepted then
        some ({ state with
          audio := .admitting { batch with delivered := batch.delivered + span.length } },
          [.spanAccepted batch.token.generation span])
      else some ({ state with audio := .batchDone batch.token batch.delivered false }, [])
  | _ => none

def batchOutcome (state : WorkerState) (now : ℕ) : Option (WorkerState × List Observation) :=
  match state.audio with
  | .batchDone token delivered writeAccepted =>
      let updated :=
        state.worker.updateAfterAudioDeliveryLocked now token delivered writeAccepted
      some ({ state with
        worker := updated.1
        audio :=
          if updated.2.2.1 ≠ 0 then .sendCancellation updated.2.2.1
          else .afterChunk updated.2.1 }, updated.2.2.2)
  | _ => none

/-- The cancellation of a rejected batch has been sent, or has failed. -/
def cancellationSent (state : WorkerState) (sent : HResult) :
    Option (WorkerState × List Observation) :=
  match state.audio with
  | .sendCancellation _ => some ({ state with audio := .afterChunk sent.failed }, [])
  | _ => none

/-- The control thread reads a record and takes it in. -/
def controlRecord (state : WorkerState) (now : ℕ) (event : ProviderControlEvent) :
    Option (WorkerState × List Observation) :=
  if state.control = .reading then
    if event.type = .unknown ∧ event.rawEventName = "" then some (state, [])
    else if event.speakId = 0 then
      some ({ state with
        worker := state.worker.handleMissingSpeakIdLocked
        control := .enterFaultedState false }, [])
    else
      let handled := state.worker.handleParsedControlEventLocked now event
      some ({ state with
        worker := handled.1
        control :=
          if handled.2.1.shouldForwardToSapi then
            .forwarding event handled.2.1.shouldEnterFaultedState
          else .afterEvent handled.2.1.shouldEnterFaultedState }, handled.2.2)
  else none

/-- The second admission of an event, before it goes to SAPI. -/
def finalAdmission (state : WorkerState) : Option (WorkerState × List Observation) :=
  match state.control with
  | .forwarding event thenFault =>
      some ({ state with
        control :=
          if state.worker.admitsEvent event then .onSpeechEvent event thenFault
          else .afterEvent thenFault }, [])
  | _ => none

def onSpeechEventReturns (state : WorkerState) : Option (WorkerState × List Observation) :=
  match state.control with
  | .onSpeechEvent _ thenFault => some ({ state with control := .afterEvent thenFault }, [])
  | _ => none

/-- The thread is about to enter the first section of `EnterFaultedState`. A
caller may at any time. -/
def mayEnterFaulted (state : WorkerState) : Thread → Bool
  | .audio => (state.audio == .enterFaultedState true || state.audio == .enterFaultedState false) &&
      state.publisher != some .audio
  | .control =>
      (state.control == .enterFaultedState true || state.control == .enterFaultedState false) &&
        state.publisher != some .control
  | .caller => state.publisher != some .caller

/-- The thread leaves `EnterFaultedState`. -/
def leaveFaulted (state : WorkerState) : Thread → WorkerState
  | .audio =>
      { state with audio := .afterFault (state.audio == .enterFaultedState true) }
  | .control =>
      { state with control := .afterFault (state.control == .enterFaultedState true) }
  | .caller => state

def enterFaultedState (state : WorkerState) (thread : Thread) :
    Option (WorkerState × List Observation) :=
  if state.mayEnterFaulted thread then
    let entered := state.worker.enterFaultedState
    let state := { state with worker := entered.1 }
    some (if entered.2 then { state with publisher := some thread }
      else state.leaveFaulted thread, [])
  else none

def publishFault (state : WorkerState) (thread : Thread) :
    Option (WorkerState × List Observation) :=
  if state.publisher = some thread then
    some ({ state with worker := state.worker.publishFault, publisher := none }.leaveFaulted thread,
      [])
  else none

def start (state : WorkerState) (now speakId : ℕ) : Option (WorkerState × List Observation) :=
  let started := state.worker.start now speakId
  some ({ state with worker := started.1 }, started.2.2)

def stop (state : WorkerState) : Option (WorkerState × List Observation) :=
  some ({ state with worker := state.worker.stop.1 }, [])

def beginCancellation (state : WorkerState) (deadlineTick : ℕ) :
    Option (WorkerState × List Observation) :=
  some ({ state with worker := (state.worker.beginCancellationLocked deadlineTick).1 }, [])

/-- One step of a worker. -/
def step (state : WorkerState) : WorkerAction → Option (WorkerState × List Observation)
  | .audioChunk now chunk => state.audioChunk now chunk
  | .frameAssemblyFails now chunk => state.frameAssemblyFails now chunk
  | .audioReadFails =>
      if state.audio = .reading then some ({ state with audio := .enterFaultedState true }, [])
      else none
  | .spanAdmission => state.spanAdmission
  | .onAudioDataReturns accepted => state.onAudioDataReturns accepted
  | .batchOutcome now => state.batchOutcome now
  | .cancellationSent sent => state.cancellationSent sent
  | .controlRecord now event => state.controlRecord now event
  | .controlReadFails =>
      if state.control = .reading then some ({ state with control := .enterFaultedState true }, [])
      else none
  | .finalAdmission => state.finalAdmission
  | .onSpeechEventReturns => state.onSpeechEventReturns
  | .enterFaultedState thread => state.enterFaultedState thread
  | .publishFault thread => state.publishFault thread
  | .start now speakId => state.start now speakId
  | .stop => state.stop
  | .beginCancellation deadlineTick => state.beginCancellation deadlineTick

end WorkerState

/-- The machine of one worker, with a positive block alignment. -/
def workerMachine : Machine WorkerState WorkerAction Observation where
  init state := ∃ blockAlign positive, state = .initial blockAlign positive
  step := WorkerState.step

end ModernSapi
