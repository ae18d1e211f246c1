import ModernSapi.Library.History
import ModernSapi.Library.Unicode
import ModernSapi.V1.CacheFile
import ModernSapi.V1.PcmTrimmer
import ModernSapi.V1.SourceOffsets

/-!
# The pool of synthesizers

A `ProviderSpeak` of the Azure provider takes a synthesizer of a pool and points the stream
handler of it at its own parameters. The SDK calls the handler back on threads of its own,
while the call waits and looks at the abort flag. An aborted call leaves at once, and a thread
that stops the synthesis gives the synthesizer back.

The calls, the threads and the SDK take their steps in any order. What is done under one of the
two mutexes is one step, except that a handler keeps its mutex for as long as a callback runs.

The SDK is not part of the source: it may call a handler back whenever the mutex is free.
`Orderly` says what the provider relies on.
-/

set_option autoImplicit false

namespace ModernSapi

open Interleaving Xml

namespace ProviderEvent

def wordBoundary : UInt32 := 1
def bookmark : UInt32 := 3

end ProviderEvent

structure ProviderSpeakParams where
  fragments : List ProviderSpeechFragment := []
  voiceModel : Option (List UInt16) := none
  hasAbortFlag : Bool := true
  hasAudioCallback : Bool := true
  hasMetaCallback : Bool := true

/-- Where a call of `Speak` stands. Behind `ending` it has nothing left to do but to detach the
handler, give the synthesizer back and return. -/
inductive SpeakPhase where
  | uncalled
  | entered
  | waiting
  | acquired (engine : ℕ)
  | attached (engine : ℕ)
  | synthesizing (engine : ℕ)
  | aborting (engine : ℕ)
  | stopping (engine : ℕ)
  | ending (engine : ℕ) (result : Bool)
  | releasing (engine : ℕ) (result : Bool)
  | returned (result : Bool)
  deriving DecidableEq

/-- The synthesizer a call has. -/
def SpeakPhase.engine? : SpeakPhase → Option ℕ
  | .acquired engine | .attached engine | .synthesizing engine | .aborting engine
  | .stopping engine | .ending engine _ | .releasing engine _ => some engine
  | .uncalled | .entered | .waiting | .returned _ => none

/-- The call has begun and has not returned. -/
def SpeakPhase.isInside : SpeakPhase → Bool
  | .uncalled | .returned _ => false
  | _ => true

structure ProviderCall where
  params : ProviderSpeakParams := {}
  phase : SpeakPhase := .uncalled
  abortFlag : Bool := false
  /-- Where the SDK still synthesizes for the call. -/
  synthesis : Option ℕ := none

namespace ProviderCall

def isAborted (call : ProviderCall) : Bool := call.params.hasAbortFlag && call.abortFlag

/-- The voice of a call that has one. -/
def voiceName (call : ProviderCall) : List UInt16 := call.params.voiceModel.getD []

end ProviderCall

/-- The parameters of a handler are those of a call. -/
structure AudioStreamHandler where
  params : Option ℕ := none
  offsetMap : List (UInt32 × UInt32) := []
  audio : LeadingAudio := {}
  /-- The call whose callback runs, with the mutex of the handler held. -/
  running : Option ℕ := none

structure PooledSynthesizer where
  voiceName : List UInt16 := []
  isBusy : Bool := false
  streamHandler : AudioStreamHandler := {}

/-- The pool with its callers. The synthesizers are numbered as they are made. -/
structure SynthesizerPool where
  engines : ℕ → PooledSynthesizer := fun _ => {}
  created : ℕ := 0
  pool : List ℕ := []
  calls : ℕ → ProviderCall := fun _ => {}
  /-- The threads that stop a synthesis, each with its synthesizer and the call. -/
  stops : List (ℕ × ℕ) := []

/-- What the SDK reports of a synthesis, with times in units of 100 ns. -/
inductive SdkEvent where
  | wordBoundary (textOffset wordLength : UInt32) (audioOffset : UInt64)
  | bookmarkReached (text : List Char) (audioOffset : UInt64)
  deriving DecidableEq

/-- What is seen of the provider: what the SDK hands over, with the call it synthesizes for, and
what the callers get. -/
inductive PoolObservation where
  | entered (call : ℕ)
  | wrote (source : ℕ) (chunk : List UInt8)
  | reported (source : ℕ) (event : SdkEvent)
  | audioCallback (call : ℕ) (bytes : List UInt8)
  | metaCallback (call : ℕ) (event : ProviderSpeechEvent)
  | returned (call : ℕ) (result : Bool)
  deriving DecidableEq

inductive PoolAction where
  | enter (call : ℕ) (params : ProviderSpeakParams)
  | acquire (call : ℕ) (creates : Bool)
  | notified (call : ℕ) (creates : Bool)
  | timesOut (call : ℕ) (creates : Bool)
  | attach (call : ℕ)
  | speakSsml (call : ℕ) (starts : Bool)
  | abort (call : ℕ)
  | abortSeen (call : ℕ)
  | futureReady (call : ℕ) (succeeds : Bool)
  | detach (call : ℕ)
  | startStop (call : ℕ) (starts : Bool)
  | release (call : ℕ)
  | stopped (engine call : ℕ)
  | write (engine source : ℕ) (dataBuffer : List UInt8)
  | report (engine source : ℕ) (event : SdkEvent)
  | callbackReturns (engine : ℕ)
  | synthesisEnds (source : ℕ)

/-! ## Events -/

/-- The bytes of 24 kHz mono PCM up to a time in units of 100 ns. -/
def audioByteOffset (audioOffset : UInt64) : UInt64 := audioOffset * 48 / 10000

/-- `std::isspace` in the C locale. -/
def isSpace (char : Char) : Bool :=
  char = ' ' || (9 ≤ char.toNat && char.toNat ≤ 13)

/-- `std::stoul`, which throws where there is no number and where it is too large. -/
def stoul (text : List Char) : Option UInt32 :=
  let signed := text.dropWhile isSpace
  let unsigned := match signed with
    | '-' :: rest | '+' :: rest => rest
    | rest => rest
  let digits := unsigned.takeWhile Char.isDigit
  let number := Nat.ofDigitChars 10 digits 0
  if digits = [] then none
  else if 2 ^ 32 ≤ number then none
  else if signed.head? = some '-' then some (-number.toUInt32)
  else some number.toUInt32

/-- What `OnBookmarkReached` finds in the mark of a bookmark: the offset in the source and the
name. -/
def readMark (text : List Char) : UInt32 × List UInt16 :=
  if "OFFSET_".toList.isPrefixOf text then
    let rest := text.drop 7
    if '_' ∈ rest then
      let digits := rest.takeWhile (· != '_')
      let name := rest.drop (digits.length + 1)
      ((stoul digits).getD 0, Unicode.encode (name.takeWhile (· != '\x00')))
    else (0, [])
  else (0, [])

def bookmarkReachedEvent (text : List Char) (audioOffset : UInt64) : ProviderSpeechEvent where
  eventType := ProviderEvent.bookmark
  textOffset := (readMark text).1
  textLength := 0
  reserved := 0
  audioByteOffset := audioByteOffset audioOffset
  stringData := if (readMark text).2 = [] then none else some (cStr (readMark text).2)

def wordBoundaryEvent (offsetMap : List (UInt32 × UInt32)) (textOffset wordLength : UInt32)
    (audioOffset : UInt64) : ProviderSpeechEvent where
  eventType := ProviderEvent.wordBoundary
  textOffset := reverseMapOffset textOffset offsetMap
  textLength := wordLength
  reserved := 0
  audioByteOffset := audioByteOffset audioOffset
  stringData := none

/-- What the handler makes of an event of the SDK. -/
def SdkEvent.toProvider (offsetMap : List (UInt32 × UInt32)) : SdkEvent → ProviderSpeechEvent
  | .wordBoundary textOffset wordLength audioOffset =>
      wordBoundaryEvent offsetMap textOffset wordLength audioOffset
  | .bookmarkReached text audioOffset => bookmarkReachedEvent text audioOffset

/-- The events of a call with nothing to speak: its bookmarks. -/
def ProviderSpeakParams.bookmarkEvents (params : ProviderSpeakParams) : List ProviderSpeechEvent :=
  if params.hasMetaCallback then
    (params.fragments.filter (·.isBookmark)).map fun fragment =>
      { eventType := ProviderEvent.bookmark
        textOffset := fragment.originalOffset
        textLength := 0
        reserved := 0
        audioByteOffset := 0
        stringData := some (cStr fragment.text) }
  else []

namespace SynthesizerPool

/-! ## The pool -/

def setEngine (state : SynthesizerPool) (engine : ℕ) (pooled : PooledSynthesizer) :
    SynthesizerPool :=
  { state with engines := Function.update state.engines engine pooled }

def setCall (state : SynthesizerPool) (call : ℕ) (entry : ProviderCall) : SynthesizerPool :=
  { state with calls := Function.update state.calls call entry }

def moves (state : SynthesizerPool) (call : ℕ) (phase : SpeakPhase) : SynthesizerPool :=
  state.setCall call { state.calls call with phase }

def phase (state : SynthesizerPool) (call : ℕ) : SpeakPhase := (state.calls call).phase

def setHandler (state : SynthesizerPool) (engine : ℕ) (streamHandler : AudioStreamHandler) :
    SynthesizerPool :=
  state.setEngine engine { state.engines engine with streamHandler }

def handler (state : SynthesizerPool) (engine : ℕ) : AudioStreamHandler :=
  (state.engines engine).streamHandler

def setBusy (state : SynthesizerPool) (engine : ℕ) (isBusy : Bool) : SynthesizerPool :=
  state.setEngine engine { state.engines engine with isBusy }

def isOf (state : SynthesizerPool) (voiceName : List UInt16) (engine : ℕ) : Bool :=
  (state.engines engine).voiceName = voiceName

/-- The synthesizers of other voices leave the pool. -/
def purge (state : SynthesizerPool) (voiceName : List UInt16) : SynthesizerPool :=
  { state with pool := state.pool.filter (state.isOf voiceName) }

/-- The first synthesizer of the voice that is idle. -/
def idle (state : SynthesizerPool) (voiceName : List UInt16) : Option ℕ :=
  state.pool.find? fun engine => state.isOf voiceName engine && !(state.engines engine).isBusy

def voiceCount (state : SynthesizerPool) (voiceName : List UInt16) : ℕ :=
  state.pool.countP (state.isOf voiceName)

/-- A new synthesizer, busy from the start. -/
def create (state : SynthesizerPool) (voiceName : List UInt16) : SynthesizerPool :=
  { state.setEngine state.created { voiceName, isBusy := true } with
    pool := state.pool ++ [state.created]
    created := state.created + 1 }

def returns (state : SynthesizerPool) (call : ℕ) (result : Bool) :
    SynthesizerPool × List PoolObservation :=
  (state.moves call (.returned result), [.returned call result])

/-- A round of the loop of `AcquireSynthesizer`. -/
def acquireRound (state : SynthesizerPool) (call : ℕ) (creates : Bool) :
    SynthesizerPool × List PoolObservation :=
  let voiceName := (state.calls call).voiceName
  match state.idle voiceName with
  | some engine => ((state.setBusy engine true).moves call (.acquired engine), [])
  | none =>
      if state.voiceCount voiceName < 2 then
        if creates then ((state.create voiceName).moves call (.acquired state.created), [])
        else state.returns call false
      else (state.moves call .waiting, [])

/-- `ReleaseSynthesizer`. -/
def releaseSynthesizer (state : SynthesizerPool) (engine : ℕ) : SynthesizerPool :=
  state.setBusy engine false

/-! ## The call -/

variable (needAddingSpace : List UInt16 → List UInt16 → Bool)

def parsed (params : ProviderSpeakParams) : SsmlParseResult :=
  parse needAddingSpace (units "en-US") params.fragments

/-- `Speak` up to the first round of the loop. -/
def speak (state : SynthesizerPool) (call : ℕ) (creates : Bool) :
    SynthesizerPool × List PoolObservation :=
  let params := (state.calls call).params
  match params.voiceModel with
  | none => state.returns call false
  | some voiceName =>
      if (parsed needAddingSpace params).hasSpeakableText then
        (state.purge voiceName).acquireRound call creates
      else
        let returned := state.returns call true
        (returned.1, params.bookmarkEvents.map (.metaCallback call) ++ returned.2)

def attachContext (state : SynthesizerPool) (engine call : ℕ) : SynthesizerPool :=
  state.setHandler engine
    { params := some call
      offsetMap := (parsed needAddingSpace (state.calls call).params).offsetMap }

def detachContext (state : SynthesizerPool) (engine : ℕ) : SynthesizerPool :=
  state.setHandler engine { state.handler engine with params := none, offsetMap := [] }

/-- The SDK synthesizes for the call, at a synthesizer or no more. -/
def setSynthesis (state : SynthesizerPool) (call : ℕ) (synthesis : Option ℕ) : SynthesizerPool :=
  state.setCall call { state.calls call with synthesis }

/-! ## The callbacks -/

/-- A callback of the call runs. -/
def runs (state : SynthesizerPool) (engine : ℕ) (running : Option ℕ) : SynthesizerPool :=
  state.setHandler engine { state.handler engine with running }

def write (state : SynthesizerPool) (engine : ℕ) (dataBuffer : List UInt8) :
    SynthesizerPool × List PoolObservation :=
  let handler := state.handler engine
  match handler.params with
  | none => (state, [])
  | some call =>
      if (state.calls call).isAborted then (state, [])
      else
        let written := handler.audio.write dataBuffer
        let kept := state.setHandler engine { handler with audio := written.1 }
        if written.2 ≠ [] ∧ (state.calls call).params.hasAudioCallback = true then
          (kept.runs engine (some call), [.audioCallback call written.2])
        else (kept, [])

/-- `OnWordBoundary` and `OnBookmarkReached`. -/
def report (state : SynthesizerPool) (engine : ℕ) (event : SdkEvent) :
    SynthesizerPool × List PoolObservation :=
  let handler := state.handler engine
  match handler.params with
  | none => (state, [])
  | some call =>
      if (state.calls call).params.hasMetaCallback then
        (state.runs engine (some call), [.metaCallback call (event.toProvider handler.offsetMap)])
      else (state, [])

/-! ## The machine -/

def detach (state : SynthesizerPool) (call : ℕ) : Option (SynthesizerPool × List PoolObservation) :=
  match state.phase call with
  | .aborting engine =>
      if (state.handler engine).running = none then
        some ((state.detachContext engine).moves call (.stopping engine), [])
      else none
  | .ending engine result =>
      if (state.handler engine).running = none then
        some ((state.detachContext engine).moves call (.releasing engine result), [])
      else none
  | _ => none

/-- A thread is started that stops the synthesis, or the constructor throws. -/
def startStop (state : SynthesizerPool) (call engine : ℕ) (starts : Bool) :
    SynthesizerPool × List PoolObservation :=
  if starts then { state with stops := (engine, call) :: state.stops }.returns call true
  else (state.moves call (.ending engine false), [])

def step (state : SynthesizerPool) : PoolAction → Option (SynthesizerPool × List PoolObservation)
  | .enter call params =>
      if state.phase call = .uncalled then
        some (state.setCall call { state.calls call with params, phase := .entered },
          [.entered call])
      else none
  | .acquire call creates =>
      if state.phase call = .entered then some (state.speak needAddingSpace call creates) else none
  | .notified call creates =>
      if state.phase call = .waiting then some (state.acquireRound call creates) else none
  | .timesOut call creates =>
      if state.phase call = .waiting then
        some (if (state.calls call).isAborted then state.returns call true
          else state.acquireRound call creates)
      else none
  | .attach call =>
      match state.phase call with
      | .acquired engine =>
          if (state.handler engine).running = none then
            some ((state.attachContext needAddingSpace engine call).moves call (.attached engine),
              [])
          else none
      | _ => none
  | .speakSsml call starts =>
      match state.phase call with
      | .attached engine =>
          some (if starts then
              ((state.setSynthesis call (some engine)).moves call (.synthesizing engine), [])
            else (state.moves call (.ending engine false), []))
      | _ => none
  | .abort call =>
      if (state.phase call).isInside then
        some (state.setCall call { state.calls call with abortFlag := true }, [])
      else none
  | .abortSeen call =>
      match state.phase call with
      | .synthesizing engine =>
          if (state.calls call).isAborted then some (state.moves call (.aborting engine), [])
          else none
      | _ => none
  | .futureReady call succeeds =>
      match state.phase call with
      | .synthesizing engine => some (state.moves call (.ending engine succeeds), [])
      | _ => none
  | .detach call => state.detach call
  | .startStop call starts =>
      match state.phase call with
      | .stopping engine => some (state.startStop call engine starts)
      | _ => none
  | .release call =>
      match state.phase call with
      | .releasing engine result => some ((state.releaseSynthesizer engine).returns call result)
      | _ => none
  | .stopped engine call =>
      if (engine, call) ∈ state.stops then
        some ({ state.releaseSynthesizer engine with stops := state.stops.erase (engine, call) },
          [])
      else none
  | .write engine source dataBuffer =>
      if (state.handler engine).running = none then
        let written := state.write engine dataBuffer
        some (written.1, .wrote source dataBuffer :: written.2)
      else none
  | .report engine source event =>
      if (state.handler engine).running = none then
        let reported := state.report engine event
        some (reported.1, .reported source event :: reported.2)
      else none
  | .callbackReturns engine =>
      if (state.handler engine).running ≠ none then some (state.runs engine none, []) else none
  | .synthesisEnds source =>
      if (state.calls source).synthesis ≠ none then some (state.setSynthesis source none, [])
      else none

/-- What the provider relies on. The SDK calls the handler of a synthesizer back only for a
synthesis that goes on there, hands whole samples over, and makes a future ready when its
synthesis is over. The threads that stop a synthesis can be started. -/
def Orderly (state : SynthesizerPool) : PoolAction → Prop
  | .write engine source dataBuffer =>
      (state.calls source).synthesis = some engine ∧ 2 ∣ dataBuffer.length
  | .report engine source _ => (state.calls source).synthesis = some engine
  | .futureReady call _ => (state.calls call).synthesis = none
  | .stopped _ call => (state.calls call).synthesis = none
  | .startStop _ starts => starts = true
  | _ => True

instance : DecidableRel Orderly := fun state action => by
  cases action <;> unfold Orderly <;> infer_instance

end SynthesizerPool

/-- Some calls of `ProviderSpeak` with the pool they share. -/
def poolMachine (needAddingSpace : List UInt16 → List UInt16 → Bool) :
    Machine SynthesizerPool PoolAction PoolObservation where
  init state := state = {}
  step := SynthesizerPool.step needAddingSpace

end ModernSapi
