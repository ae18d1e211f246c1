import ModernSapi.Engine.FragmentSerializer

/-!
# The synthesis of the mock provider

`HandleSpeakAsync` speaks the fragments of one request. A word is announced, and after a
pause its sound is written: the sound of the first word at once, that of the others
behind the completion record. A cancellation ends the synthesis at the next operation that
looks at the token, with two late records.

The task stands at one awaited operation at a time. A write hands its data over to the
pipe, all of a record or a part of a buffer, before the task resumes. Cancelling the token
stops the write in flight, and every operation that takes the token refuses to begin.

The samples of the sine wave and the messages of the runtime's exceptions are parameters.
-/

set_option autoImplicit false

namespace ModernSapi

open Unicode

/-- What the runtime gives the provider. -/
structure ProviderRuntime where
  /-- The sample of the sine wave at an index. -/
  sample : ℕ → UInt16
  /-- The text of the exception a fragment is refused with. -/
  fragmentMessage : String

/-- `GenerateSineWave(200)`: 200 ms of 24 kHz mono samples of two bytes, the low one
first. -/
def generateSineWave (sample : ℕ → UInt16) : List UInt8 :=
  (List.range 4800).flatMap fun index => [(sample index).toUInt8, (sample index >>> 8).toUInt8]

theorem generateSineWave_length (sample : ℕ → UInt16) :
    (generateSineWave sample).length = 9600 := by
  have two (count : ℕ) : ((List.range count).flatMap fun index =>
      [(sample index).toUInt8, (sample index >>> 8).toUInt8]).length = count * 2 := by
    rw [List.length_flatMap]
    simp only [List.length_cons, List.length_nil, List.map_const', List.length_range,
      List.sum_replicate, smul_eq_mul]
  exact two 4800

/-! ## Reading the fragments -/

/-- What a fragment asks for. A text says whether it delays the late records. -/
inductive FragmentWork where
  | stall
  | text (delays : Bool) (words : List (List UInt16)) (charOffset : UInt32)
  | bookmark (name : List UInt16)
  | nothing
  deriving DecidableEq

/-- The `GetString` of an element, which is empty for `null`. Of other elements it throws. -/
def getString : Json → Option (List UInt16)
  | .string text => some (encode text.toList)
  | .null => some []
  | _ => none

/-- The `GetUInt32` of an element, which throws unless it is an integer in range. -/
def getUInt32 : Json → Option UInt32
  | .numberUnsigned number => if number < 2 ^ 32 then some (.ofNat number) else none
  | .numberInteger number =>
      if 0 ≤ number ∧ number < 2 ^ 32 then some (.ofNat number.toNat) else none
  | _ => none

def isWordSeparator (unit : UInt16) : Bool :=
  unit == 0x20 || unit == 0x09 || unit == 0x0A || unit == 0x0D

/-- `Split` without empty entries. -/
def splitWords (text : List UInt16) : List (List UInt16) :=
  (text.splitOnP isWordSeparator).filter (· ≠ [])

/-- What the provider reads of a fragment, or none when reading it throws. The names of its
members are distinct. -/
def readFragment : Json → Option FragmentWork
  | .object members =>
      match members.lookup "text" with
      | some textProp =>
          match getString textProp with
          | none => none
          | some text =>
              if (encode "[stall-synthesis]".toList).isPrefixOf text then some .stall
              else
                let delays := (encode "[delay-cancelled-event]".toList).isPrefixOf text
                match members.lookup "source_offset" with
                | none => some (.text delays (splitWords text) 0)
                | some sourceOffset =>
                    (getUInt32 sourceOffset).map (.text delays (splitWords text))
      | none =>
          match members.lookup "bookmark" with
          | some bookmarkProp => (getString bookmarkProp).map .bookmark
          | none => some .nothing
  | _ => none

/-! ## The records -/

/-- A number as the serializer writes an `int`. -/
def jsonInt (number : Int32) : Json :=
  if number < 0 then .numberInteger number.toInt else .numberUnsigned number.toInt.toNat

section Records

variable (speakId : ℕ)

/-- A record of a request. -/
def mockRecord (event : String) (members : List (String × Json)) : Json :=
  .object (("event", .string event) :: ("speak_id", .numberUnsigned speakId) :: members)

def wordBoundaryRecord (charOffset : UInt32) (word : List UInt16) (totalAudioMs : Int32) : Json :=
  mockRecord speakId "word_boundary" [("text_offset", .numberUnsigned charOffset.toNat),
    ("text_length", .numberUnsigned word.length), ("audio_offset_ms", jsonInt totalAudioMs)]

def bookmarkReachedRecord (name : List UInt16) (totalAudioMs : Int32) : Json :=
  mockRecord speakId "bookmark_reached" [("bookmark_name", .string (.ofList (decode name))),
    ("audio_offset_ms", jsonInt totalAudioMs)]

def synthesisCompleteRecord (totalAudioBytes : ℕ) : Json :=
  mockRecord speakId "synthesis_complete" [("total_audio_bytes", .numberUnsigned totalAudioBytes)]

def lateSentenceBoundaryRecord : Json :=
  mockRecord speakId "sentence_boundary" [("text_offset", .numberUnsigned 0),
    ("text_length", .numberUnsigned 1), ("audio_offset_ms", .numberUnsigned 0)]

def synthesisCancelledRecord (audioBytesWritten : ℕ) : Json :=
  mockRecord speakId "synthesis_cancelled"
    [("audio_bytes_written", .numberUnsigned audioBytesWritten)]

def errorLogRecord (message : String) : Json :=
  mockRecord speakId "log" [("severity", .string "error"), ("message", .string message)]

end Records

/-! ## The task -/

structure SynthesisSessionState where
  totalAudioMs : Int32 := 0
  totalAudioBytes : ℕ := 0
  audioBytesWritten : ℕ := 0
  isFirstAudioBuffer : Bool := true
  delayCancelledEvent : Bool := false
  audioBuffers : List (List UInt8) := []
  deriving DecidableEq

/-- A word being spoken, the words after it, and the fragments after its own. -/
structure SpokenWord where
  word : List UInt16
  charOffset : UInt32
  words : List (List UInt16)
  rest : List Json

/-- The operation the task awaits. -/
inductive SynthesisPlace where
  | stalled
  | wordBoundary (spoken : SpokenWord)
  | wordDelay (spoken : SpokenWord)
  | firstAudio (spoken : SpokenWord)
  | bookmark (rest : List Json)
  | completion
  | bufferedAudio (audioData : List UInt8) (later : List (List UInt8))
  | lateDelay
  | lateSentenceBoundary
  | lateCancelled
  | errorLog
  | completed

/-- What a write in flight has still to hand over to its pipe. -/
inductive PendingWrite where
  | nothing
  | record (json : Json)
  | audio (left : List UInt8)

structure SynthesisTask where
  speakId : ℕ
  state : SynthesisSessionState := {}
  place : SynthesisPlace
  pending : PendingWrite
  cancelled : Bool := false

/-- The steps of a task. -/
inductive TaskAction where
  | transferRecord
  | transferAudio (count : ℕ)
  | resume
  | resumeCancelled
  | resumeFailed (message : String)
  deriving DecidableEq

/-- What a step of a task puts into a pipe. -/
inductive TaskOutput where
  | record (json : Json)
  | audio (bytes : List UInt8)

namespace SynthesisPlace

/-- The awaited operation takes the token. -/
def usesToken : SynthesisPlace → Bool
  | .lateDelay | .lateSentenceBoundary | .lateCancelled | .errorLog | .completed => false
  | _ => true

/-- The awaited operation is a delay. -/
def isDelay : SynthesisPlace → Bool
  | .stalled | .wordDelay _ | .lateDelay => true
  | _ => false

end SynthesisPlace

/-- Nothing is left to hand over. -/
def PendingWrite.isDone : PendingWrite → Bool
  | .nothing | .audio [] => true
  | .record _ | .audio (_ :: _) => false

namespace SynthesisTask

/-- The task comes to an operation that hands nothing over. -/
def awaits (task : SynthesisTask) (place : SynthesisPlace) : SynthesisTask :=
  { task with place, pending := .nothing }

def writesRecord (task : SynthesisTask) (place : SynthesisPlace) (json : Json) : SynthesisTask :=
  { task with place, pending := .record json }

def writesAudio (task : SynthesisTask) (place : SynthesisPlace) (audioData : List UInt8) :
    SynthesisTask :=
  { task with place, pending := .audio audioData }

def lateSentenceBoundary (task : SynthesisTask) : SynthesisTask :=
  task.writesRecord .lateSentenceBoundary (lateSentenceBoundaryRecord task.speakId)

/-- The cancellation is caught: `EmitLateCancellationEventsAsync`. -/
def emitLateCancellationEvents (task : SynthesisTask) : SynthesisTask :=
  if task.state.delayCancelledEvent then task.awaits .lateDelay else task.lateSentenceBoundary

/-- Any other exception is caught. -/
def logError (task : SynthesisTask) (message : String) : SynthesisTask :=
  task.writesRecord .errorLog (errorLogRecord task.speakId message)

def synthesizeWord (task : SynthesisTask) (spoken : SpokenWord) : SynthesisTask :=
  if task.cancelled then task.emitLateCancellationEvents
  else
    task.writesRecord (.wordBoundary spoken)
      (wordBoundaryRecord task.speakId spoken.charOffset spoken.word task.state.totalAudioMs)

def completeSynthesis (task : SynthesisTask) : SynthesisTask :=
  if task.cancelled then task.emitLateCancellationEvents
  else
    task.writesRecord .completion
      (synthesisCompleteRecord task.speakId task.state.totalAudioBytes)

/-- A text may ask for the late records to be delayed. -/
def delaysLateEvents (task : SynthesisTask) (delays : Bool) : SynthesisTask :=
  { task with
    state := { task.state with
      delayCancelledEvent := task.state.delayCancelledEvent || delays } }

/-- The loop over the fragments, up to the next operation it awaits. -/
def synthesizeFragments (fragmentMessage : String) (task : SynthesisTask) :
    List Json → SynthesisTask
  | [] => task.completeSynthesis
  | fragment :: rest =>
      if task.cancelled then task.emitLateCancellationEvents
      else
        match readFragment fragment with
        | none => task.logError fragmentMessage
        | some .stall => task.awaits .stalled
        | some (.text delays words charOffset) =>
            match words with
            | [] => (task.delaysLateEvents delays).synthesizeFragments fragmentMessage rest
            | word :: words =>
                (task.delaysLateEvents delays).synthesizeWord { word, charOffset, words, rest }
        | some (.bookmark name) =>
            task.writesRecord (.bookmark rest)
              (bookmarkReachedRecord task.speakId name task.state.totalAudioMs)
        | some .nothing => task.synthesizeFragments fragmentMessage rest

/-- The loop over the words of a fragment, after one of them. -/
def nextWord (fragmentMessage : String) (task : SynthesisTask) (spoken : SpokenWord) :
    SynthesisTask :=
  match spoken.words with
  | [] => task.synthesizeFragments fragmentMessage spoken.rest
  | word :: words =>
      task.synthesizeWord
        { word, words, rest := spoken.rest,
          charOffset := spoken.charOffset + .ofNat (spoken.word.length + 1) }

/-- The sound of a word has been written or put by. -/
def countAudio (task : SynthesisTask) (audioData : List UInt8) : SynthesisTask :=
  { task with
    state := { task.state with
      totalAudioBytes := task.state.totalAudioBytes + audioData.length
      totalAudioMs := task.state.totalAudioMs + 200 } }

/-- The loop over the buffers put by. -/
def writeBuffers (task : SynthesisTask) : List (List UInt8) → SynthesisTask
  | [] => task.awaits .completed
  | audioData :: later =>
      if task.cancelled then task.emitLateCancellationEvents
      else task.writesAudio (.bufferedAudio audioData later) audioData

/-- The awaited operation has succeeded. -/
def continues (runtime : ProviderRuntime) (task : SynthesisTask) : SynthesisTask :=
  let audioData := generateSineWave runtime.sample
  match task.place with
  | .stalled => task
  | .wordBoundary spoken =>
      if task.cancelled then task.emitLateCancellationEvents else task.awaits (.wordDelay spoken)
  | .wordDelay spoken =>
      if task.state.isFirstAudioBuffer then
        if task.cancelled then task.emitLateCancellationEvents
        else task.writesAudio (.firstAudio spoken) audioData
      else
        let putBy := { task.state with audioBuffers := task.state.audioBuffers ++ [audioData] }
        ({ task with state := putBy }.countAudio audioData).nextWord runtime.fragmentMessage spoken
  | .firstAudio spoken =>
      let written := { task.state with
        audioBytesWritten := task.state.audioBytesWritten + audioData.length
        isFirstAudioBuffer := false }
      ({ task with state := written }.countAudio audioData).nextWord runtime.fragmentMessage spoken
  | .bookmark rest => task.synthesizeFragments runtime.fragmentMessage rest
  | .completion => task.writeBuffers task.state.audioBuffers
  | .bufferedAudio audioData later =>
      { task with
        state := { task.state with
          audioBytesWritten := task.state.audioBytesWritten + audioData.length } }.writeBuffers later
  | .lateDelay => task.lateSentenceBoundary
  | .lateSentenceBoundary =>
      task.writesRecord .lateCancelled
        (synthesisCancelledRecord task.speakId task.state.audioBytesWritten)
  | .lateCancelled | .errorLog | .completed => task.awaits .completed

/-- The awaited write has failed. An exception of the late records leaves the task. -/
def fails (task : SynthesisTask) (message : String) : SynthesisTask :=
  if task.place.usesToken then task.logError message else task.awaits .completed

def isCompleted (task : SynthesisTask) : Bool :=
  match task.place with
  | .completed => true
  | _ => false

/-- A write in flight goes on: the token has not stopped it. -/
def transfers (task : SynthesisTask) : Bool := !(task.place.usesToken && task.cancelled)

def step (runtime : ProviderRuntime) (task : SynthesisTask) :
    TaskAction → Option (SynthesisTask × Option TaskOutput)
  | .transferRecord =>
      match task.pending with
      | .record json =>
          if task.transfers then some ({ task with pending := .nothing }, some (.record json))
          else none
      | _ => none
  | .transferAudio count =>
      match task.pending with
      | .audio left =>
          if task.transfers && 0 < count && count ≤ left.length then
            some ({ task with pending := .audio (left.drop count) },
              some (.audio (left.take count)))
          else none
      | _ => none
  | .resume =>
      match task.place with
      | .stalled | .completed => none
      | _ => if task.pending.isDone then some (task.continues runtime, none) else none
  | .resumeCancelled =>
      if task.place.usesToken && task.cancelled && (task.place.isDelay || !task.pending.isDone) then
        some (task.emitLateCancellationEvents, none)
      else none
  | .resumeFailed message =>
      if task.place.isDelay || task.isCompleted then none
      else some (task.fails message, none)

/-- `HandleSpeakAsync` up to the first operation it awaits. -/
def handleSpeak (runtime : ProviderRuntime) (speakId : ℕ) (fragments : List Json) : SynthesisTask :=
  ({ speakId, place := .completed, pending := .nothing } : SynthesisTask).synthesizeFragments
    runtime.fragmentMessage fragments

end SynthesisTask

end ModernSapi
