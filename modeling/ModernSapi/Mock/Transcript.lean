import ModernSapi.Mock.Synthesis

/-!
# What a synthesis sends

The transcript of a request is the list of everything it sends when it is left alone:
the records of its words and bookmarks, each at the time the words before it take, the
sound of the first word behind its record, the completion, and the sound of the other
words.

The task comes to the transcript one operation at a time, in any order of transfers,
pauses and cancellations. `Sends` says at each operation what is left of it. A step hands
over a part of what is left, or gives it up for the two late records
(`Sends.step`, `Caught.step`).
-/

set_option autoImplicit false

namespace ModernSapi

open Interleaving

/-- One thing sent: a record, or a byte of audio. -/
inductive Output where
  | record (json : Json)
  | byte (value : UInt8)

/-- The outputs of a stretch of audio. -/
def audioOutputs (bytes : List UInt8) : List Output := bytes.map .byte

def TaskOutput.outputs : TaskOutput → List Output
  | .record json => [.record json]
  | .audio bytes => audioOutputs bytes

def PendingWrite.outputs : PendingWrite → List Output
  | .nothing => []
  | .record json => [.record json]
  | .audio left => audioOutputs left

/-- The bytes among some outputs. -/
def audioOf (outputs : List Output) : List UInt8 :=
  outputs.flatMap fun
    | .record _ => []
    | .byte value => [value]

section Outputs

variable (first second : List Output) (bytes more : List UInt8)

@[simp] theorem audioOutputs_nil : audioOutputs [] = [] := rfl

@[simp] theorem audioOutputs_append :
    audioOutputs (bytes ++ more) = audioOutputs bytes ++ audioOutputs more := List.map_append

@[simp] theorem audioOf_nil : audioOf [] = [] := rfl

@[simp] theorem audioOf_append : audioOf (first ++ second) = audioOf first ++ audioOf second :=
  List.flatMap_append

@[simp] theorem audioOf_record (json : Json) (rest : List Output) :
    audioOf (.record json :: rest) = audioOf rest := rfl

@[simp] theorem audioOf_audioOutputs : audioOf (audioOutputs bytes) = bytes := by
  induction bytes with
  | nil => rfl
  | cons byte bytes ih => exact congrArg (byte :: ·) ih

end Outputs

/-! ## The transcript -/

/-- The parts of a speech. -/
inductive SpeechItem where
  | word (charOffset : UInt32) (word : List UInt16)
  | bookmark (name : List UInt16)
  | stall
  | refused
  deriving DecidableEq

/-- The words of a text, each one separator behind the last. -/
def wordItems (charOffset : UInt32) : List (List UInt16) → List SpeechItem
  | [] => []
  | word :: words => .word charOffset word :: wordItems (charOffset + .ofNat (word.length + 1)) words

def fragmentItems : Option FragmentWork → List SpeechItem
  | none => [.refused]
  | some .stall => [.stall]
  | some (.text _ words charOffset) => wordItems charOffset words
  | some (.bookmark name) => [.bookmark name]
  | some .nothing => []

def speechItems (fragments : List Json) : List SpeechItem :=
  fragments.flatMap fun fragment => fragmentItems (readFragment fragment)

/-- The sound of some words, all of which sound alike. -/
def soundOf (wave : List UInt8) (words : ℕ) : List UInt8 := (List.replicate words wave).flatten

/-- The words of a speech. -/
def spokenWords : List SpeechItem → ℕ
  | [] => 0
  | .word .. :: items => spokenWords items + 1
  | .bookmark _ :: items | .stall :: items | .refused :: items => spokenWords items

section Transcript

variable (message : String) (wave : List UInt8) (speakId : ℕ)

/-- What is sent of a speech, after some of its words. -/
def transcript (spoken : ℕ) : List SpeechItem → List Output
  | [] =>
      .record (synthesisCompleteRecord speakId (spoken * wave.length)) ::
        audioOutputs (soundOf wave (spoken - 1))
  | .word charOffset word :: items =>
      .record (wordBoundaryRecord speakId charOffset word (.ofNat (200 * spoken))) ::
        (if spoken = 0 then audioOutputs wave else []) ++ transcript (spoken + 1) items
  | .bookmark name :: items =>
      .record (bookmarkReachedRecord speakId name (.ofNat (200 * spoken))) ::
        transcript spoken items
  | .stall :: _ => []
  | .refused :: _ => [.record (errorLogRecord speakId message)]

/-- What is sent of a word behind its record, and of the speech after it. -/
def afterBoundary (spoken : ℕ) (word : SpokenWord) : List Output :=
  (if spoken = 0 then audioOutputs wave else []) ++
    transcript message wave speakId (spoken + 1)
      (wordItems (word.charOffset + .ofNat (word.word.length + 1)) word.words ++
        speechItems word.rest)

end Transcript

/-- The state of a synthesis after some words, none of whose sounds but the first has been
written. -/
structure SpokenState (wave : List UInt8) (spoken : ℕ) (state : SynthesisSessionState) : Prop where
  ms : state.totalAudioMs = .ofNat (200 * spoken)
  bytes : state.totalAudioBytes = spoken * wave.length
  first : state.isFirstAudioBuffer = decide (spoken = 0)
  written : state.audioBytesWritten = if spoken = 0 then 0 else wave.length
  buffers : state.audioBuffers = List.replicate (spoken - 1) wave

/-- What is left of a record that was begun. -/
def PendingWrite.Hands (pending : PendingWrite) (json : Json) : Prop :=
  pending = .record json ∨ pending = .nothing

/-- What a task that has caught no exception has still to send, after it has written some
bytes. Once the completion is sent it has declared a total. -/
inductive Sends (message : String) (wave : List UInt8) (task : SynthesisTask)
    (declared : Option ℕ) (written : ℕ) (rest : List Output) : Prop where
  | stalled {spoken : ℕ} (state : SpokenState wave spoken task.state)
      (place : task.place = .stalled) (pending : task.pending = .nothing)
      (undeclared : declared = none) (count : written = task.state.audioBytesWritten)
      (left : rest = [])
  | wordBoundary {spoken : ℕ} {word : SpokenWord} (state : SpokenState wave spoken task.state)
      (place : task.place = .wordBoundary word)
      (pending : task.pending.Hands
        (wordBoundaryRecord task.speakId word.charOffset word.word (.ofNat (200 * spoken))))
      (undeclared : declared = none) (count : written = task.state.audioBytesWritten)
      (left : rest = task.pending.outputs ++ afterBoundary message wave task.speakId spoken word)
  | wordDelay {spoken : ℕ} {word : SpokenWord} (state : SpokenState wave spoken task.state)
      (place : task.place = .wordDelay word) (pending : task.pending = .nothing)
      (undeclared : declared = none) (count : written = task.state.audioBytesWritten)
      (left : rest = afterBoundary message wave task.speakId spoken word)
  | firstAudio {word : SpokenWord} {done unsent : List UInt8}
      (state : SpokenState wave 0 task.state) (place : task.place = .firstAudio word)
      (pending : task.pending = .audio unsent) (parts : wave = done ++ unsent)
      (undeclared : declared = none) (count : written = done.length)
      (left : rest = audioOutputs unsent ++ transcript message wave task.speakId 1
        (wordItems (word.charOffset + .ofNat (word.word.length + 1)) word.words ++
          speechItems word.rest))
  | bookmark {spoken : ℕ} {later : List Json} (name : List UInt16)
      (state : SpokenState wave spoken task.state) (place : task.place = .bookmark later)
      (pending : task.pending.Hands
        (bookmarkReachedRecord task.speakId name (.ofNat (200 * spoken))))
      (undeclared : declared = none) (count : written = task.state.audioBytesWritten)
      (left : rest = task.pending.outputs ++
        transcript message wave task.speakId spoken (speechItems later))
  | completing {spoken : ℕ} (state : SpokenState wave spoken task.state)
      (place : task.place = .completion)
      (pending : task.pending =
        .record (synthesisCompleteRecord task.speakId (spoken * wave.length)))
      (undeclared : declared = none) (count : written = task.state.audioBytesWritten)
      (left : rest = task.pending.outputs ++ audioOutputs (soundOf wave (spoken - 1)))
  | completion {spoken : ℕ} (state : SpokenState wave spoken task.state)
      (place : task.place = .completion) (pending : task.pending = .nothing)
      (total : declared = some (spoken * wave.length))
      (count : written = task.state.audioBytesWritten)
      (left : rest = audioOutputs (soundOf wave (spoken - 1)))
  | bufferedAudio {buffers : ℕ} {done unsent : List UInt8}
      (place : task.place = .bufferedAudio wave (List.replicate buffers wave))
      (pending : task.pending = .audio unsent) (parts : wave = done ++ unsent)
      (total : declared = some (task.state.audioBytesWritten + (buffers + 1) * wave.length))
      (count : written = task.state.audioBytesWritten + done.length)
      (left : rest = audioOutputs unsent ++ audioOutputs (soundOf wave buffers))
  | refused (place : task.place = .errorLog)
      (pending : task.pending.Hands (errorLogRecord task.speakId message))
      (undeclared : declared = none) (count : written = task.state.audioBytesWritten)
      (left : rest = task.pending.outputs)
  | completed (place : task.place = .completed) (pending : task.pending = .nothing)
      (count : written = task.state.audioBytesWritten)
      (total : declared = none ∨ declared = some written) (left : rest = [])

/-- What a task that has caught its cancellation has still to send. -/
inductive Caught (task : SynthesisTask) (rest : List Output) : Prop where
  | delay (place : task.place = .lateDelay) (pending : task.pending = .nothing)
      (left : rest = [.record (lateSentenceBoundaryRecord task.speakId),
        .record (synthesisCancelledRecord task.speakId task.state.audioBytesWritten)])
  | boundary (place : task.place = .lateSentenceBoundary)
      (pending : task.pending.Hands (lateSentenceBoundaryRecord task.speakId))
      (left : rest = task.pending.outputs ++
        [.record (synthesisCancelledRecord task.speakId task.state.audioBytesWritten)])
  | acknowledging (place : task.place = .lateCancelled)
      (pending : task.pending = .record
        (synthesisCancelledRecord task.speakId task.state.audioBytesWritten))
      (left : rest = task.pending.outputs)
  | acknowledged (place : task.place = .lateCancelled ∨ task.place = .completed)
      (pending : task.pending = .nothing) (left : rest = [])

/-! ## The steps of a task -/

namespace SpokenState

variable {wave : List UInt8} {spoken : ℕ} {state : SynthesisSessionState}

theorem delaying {task : SynthesisTask} (spokenState : SpokenState wave spoken task.state)
    (delays : Bool) : SpokenState wave spoken (task.delaysLateEvents delays).state :=
  ⟨spokenState.ms, spokenState.bytes, spokenState.first, spokenState.written, spokenState.buffers⟩

theorem next_ms (spokenState : SpokenState wave spoken state) :
    state.totalAudioMs + 200 = .ofNat (200 * (spoken + 1)) := by
  rw [spokenState.ms, Nat.mul_succ, Int32.ofNat_add]
  rfl

/-- The sound of the first word has been written. -/
theorem firstWritten {task : SynthesisTask} (spokenState : SpokenState wave 0 task.state) :
    SpokenState wave 1 (({ task with
      state := { task.state with
        audioBytesWritten := task.state.audioBytesWritten + wave.length
        isFirstAudioBuffer := false } } : SynthesisTask).countAudio wave).state where
  ms := spokenState.next_ms
  bytes := by simp [SynthesisTask.countAudio, spokenState.bytes]
  first := rfl
  written := by simp [SynthesisTask.countAudio, spokenState.written]
  buffers := by simp [SynthesisTask.countAudio, spokenState.buffers]

/-- The sound of a later word has been put by. -/
theorem putBy {task : SynthesisTask} (spokenState : SpokenState wave spoken task.state)
    (later : spoken ≠ 0) :
    SpokenState wave (spoken + 1) (({ task with
      state := { task.state with
        audioBuffers := task.state.audioBuffers ++ [wave] } } : SynthesisTask).countAudio wave).state
    where
  ms := spokenState.next_ms
  bytes := by simp [SynthesisTask.countAudio, spokenState.bytes, Nat.succ_mul]
  first := by simp [SynthesisTask.countAudio, spokenState.first, later]
  written := by simp [SynthesisTask.countAudio, spokenState.written, later]
  buffers := by
    have succ : spoken + 1 - 1 = (spoken - 1) + 1 := by omega
    simp [SynthesisTask.countAudio, spokenState.buffers, succ, List.replicate_succ']

end SpokenState

section Steps

variable {message : String} {wave : List UInt8} {task next : SynthesisTask} {spoken : ℕ}

/-- A word is announced. -/
theorem Sends.word (uncancelled : task.cancelled = false)
    (state : SpokenState wave spoken task.state) (word : SpokenWord) :
    Sends message wave (task.synthesizeWord word) none task.state.audioBytesWritten
      (transcript message wave task.speakId spoken
        (.word word.charOffset word.word ::
          (wordItems (word.charOffset + .ofNat (word.word.length + 1)) word.words ++
            speechItems word.rest))) := by
  rw [SynthesisTask.synthesizeWord, if_neg (by simp [uncancelled]), state.ms]
  exact .wordBoundary state rfl (.inl rfl) rfl rfl rfl

/-- **The loop over the fragments leaves what the transcript says of them.** -/
theorem Sends.fragments (uncancelled : task.cancelled = false)
    (state : SpokenState wave spoken task.state) (fragments : List Json) :
    Sends message wave (task.synthesizeFragments message fragments) none
      task.state.audioBytesWritten
      (transcript message wave task.speakId spoken (speechItems fragments)) := by
  induction fragments generalizing task with
  | nil =>
      simp only [SynthesisTask.synthesizeFragments, SynthesisTask.completeSynthesis, uncancelled,
        Bool.false_eq_true, if_false]
      rw [state.bytes]
      exact .completing state rfl rfl rfl rfl rfl
  | cons fragment rest ih =>
      have items : speechItems (fragment :: rest) =
          fragmentItems (readFragment fragment) ++ speechItems rest := List.flatMap_cons
      rw [items, SynthesisTask.synthesizeFragments, if_neg (by simp [uncancelled])]
      cases readFragment fragment with
      | none => exact .refused rfl (.inl rfl) rfl rfl rfl
      | some work =>
          cases work with
          | stall => exact .stalled state rfl rfl rfl rfl rfl
          | text delays words charOffset =>
              cases words with
              | nil => exact ih uncancelled (state.delaying delays)
              | cons word words =>
                  have unchanged : (task.delaysLateEvents delays).cancelled = false := uncancelled
                  exact .word unchanged (state.delaying delays) ⟨word, charOffset, words, rest⟩
          | bookmark name =>
              simp only [state.ms]
              exact .bookmark name state rfl (.inl rfl) rfl rfl rfl
          | nothing => exact ih uncancelled state

/-- The loop over the words goes on with the next one. -/
theorem Sends.nextWord (uncancelled : task.cancelled = false)
    (state : SpokenState wave spoken task.state) (word : SpokenWord) :
    Sends message wave (task.nextWord message word) none task.state.audioBytesWritten
      (transcript message wave task.speakId spoken
        (wordItems (word.charOffset + .ofNat (word.word.length + 1)) word.words ++
          speechItems word.rest)) := by
  unfold SynthesisTask.nextWord
  split
  · next none =>
      rw [none]
      exact .fragments uncancelled state word.rest
  · next first words more =>
      rw [more]
      exact .word uncancelled state ⟨first, _, words, word.rest⟩

/-- The buffers are written one after the other. -/
theorem Sends.buffers (uncancelled : task.cancelled = false) (buffers : ℕ) :
    Sends message wave (task.writeBuffers (List.replicate buffers wave))
      (some (task.state.audioBytesWritten + buffers * wave.length)) task.state.audioBytesWritten
      (audioOutputs (soundOf wave buffers)) := by
  cases buffers with
  | zero => exact .completed rfl rfl rfl (.inr (by rw [Nat.zero_mul, Nat.add_zero])) rfl
  | succ buffers =>
      rw [List.replicate_succ, SynthesisTask.writeBuffers, if_neg (by simp [uncancelled])]
      have parts : wave = [] ++ wave := (List.nil_append wave).symm
      refine .bufferedAudio rfl rfl parts rfl rfl ?_
      rw [soundOf, List.replicate_succ, List.flatten_cons, audioOutputs_append, soundOf]

/-- The records that follow a caught cancellation. -/
def lateRecords (task : SynthesisTask) : List Output :=
  [.record (lateSentenceBoundaryRecord task.speakId),
    .record (synthesisCancelledRecord task.speakId task.state.audioBytesWritten)]

theorem caught_emitLateCancellationEvents (task : SynthesisTask) :
    Caught task.emitLateCancellationEvents (lateRecords task) := by
  rw [SynthesisTask.emitLateCancellationEvents]
  split
  · exact .delay rfl rfl rfl
  · exact .boundary rfl (.inl rfl) rfl

end Steps

/-! ## What a step does to what is left -/

/-- The task has handed over a part of the buffer it writes, but not all of it. -/
def SynthesisTask.PartlyWritten (wave : List UInt8) (task : SynthesisTask) : Prop :=
  match task.pending with
  | .audio unsent => 0 < unsent.length ∧ unsent.length < wave.length
  | _ => False

instance (wave : List UInt8) (task : SynthesisTask) : Decidable (task.PartlyWritten wave) := by
  unfold SynthesisTask.PartlyWritten
  split <;> infer_instance

/-- What a step of a task hands over. -/
def handedOver (output : Option TaskOutput) : List Output :=
  output.elim [] TaskOutput.outputs

/-- The step is not the failure of a write. -/
def TaskAction.Succeeds : TaskAction → Prop
  | .resumeFailed _ => False
  | _ => True

instance : DecidablePred TaskAction.Succeeds
  | .resumeFailed _ => .isFalse id
  | .transferRecord | .transferAudio _ | .resume | .resumeCancelled => .isTrue trivial

/-- A record that ends no request. -/
def IsAnnouncement (json : Json) : Prop := (parseControlEvent json).isTerminal = false

/-- What a step leaves of a task that has caught nothing: it hands over a part of what is
left, declares its total, or catches its cancellation. -/
inductive SendsStep (message : String) (wave : List UInt8) (task : SynthesisTask)
    (declared : Option ℕ) (written : ℕ) (rest handed : List Output) (next : SynthesisTask) :
    Prop where
  | hands {left : List Output} (parts : rest = handed ++ left)
      (sends : Sends message wave next declared (written + (audioOf handed).length) left)
      (quiet : ∀ json, .record json ∈ handed → IsAnnouncement json)
  | declares {total : ℕ} {left : List Output} (parts : rest = handed ++ left)
      (record : handed = [.record (synthesisCompleteRecord task.speakId total)])
      (undeclared : declared = none) (within : written ≤ total)
      (sends : Sends message wave next (some total) written left)
  | catches (cancelled : task.cancelled = true) (silent : handed = [])
      (within : next.state.audioBytesWritten ≤ written)
      (exact : ¬task.PartlyWritten wave → next.state.audioBytesWritten = written)
      (unfinished : wave ≠ [] → ∀ total, declared = some total → written < total)
      (caught : Caught next (lateRecords next))

section Step

variable {runtime : ProviderRuntime} {task next : SynthesisTask} {output : Option TaskOutput}
  {declared : Option ℕ} {written : ℕ} {rest : List Output} {message : String} {wave : List UInt8}

theorem isAnnouncement_wordBoundary (speakId : ℕ) (charOffset : UInt32) (word : List UInt16)
    (ms : Int32) : IsAnnouncement (wordBoundaryRecord speakId charOffset word ms) := rfl

theorem isAnnouncement_bookmark (speakId : ℕ) (name : List UInt16) (ms : Int32) :
    IsAnnouncement (bookmarkReachedRecord speakId name ms) := rfl

theorem isAnnouncement_errorLog (speakId : ℕ) (message : String) :
    IsAnnouncement (errorLogRecord speakId message) := rfl

/-- A record that has been begun and is not done is the one begun. -/
theorem PendingWrite.Hands.eq_of_record {pending : PendingWrite} {json other : Json}
    (hands : pending.Hands json) (here : pending = .record other) : other = json := by
  rcases hands with same | done
  · rw [same, PendingWrite.record.injEq] at here
    exact here.symm
  · rw [done] at here
    cases here

theorem transferRecord_spec (taken : task.step runtime .transferRecord = some (next, output)) :
    ∃ json, task.pending = .record json ∧ task.transfers = true ∧
      next = { task with pending := .nothing } ∧ output = some (.record json) := by
  simp only [SynthesisTask.step] at taken
  split at taken
  · next json here =>
      split at taken
      · next transfers =>
          cases taken
          exact ⟨json, here, transfers, rfl, rfl⟩
      · cases taken
  · cases taken

theorem transferAudio_spec {count : ℕ}
    (taken : task.step runtime (.transferAudio count) = some (next, output)) :
    ∃ unsent, task.pending = .audio unsent ∧ task.transfers = true ∧ 0 < count ∧
      count ≤ unsent.length ∧ next = { task with pending := .audio (unsent.drop count) } ∧
      output = some (.audio (unsent.take count)) := by
  simp only [SynthesisTask.step] at taken
  split at taken
  · next unsent here =>
      split at taken
      · next possible =>
          simp only [Bool.and_eq_true, decide_eq_true_eq] at possible
          cases taken
          exact ⟨unsent, here, possible.1.1, possible.1.2, possible.2, rfl, rfl⟩
      · cases taken
  · cases taken

theorem Sends.transferRecord (sends : Sends message wave task declared written rest)
    (taken : task.step runtime .transferRecord = some (next, output)) :
    SendsStep message wave task declared written rest (handedOver output) next := by
  obtain ⟨json, here, -, rfl, rfl⟩ := transferRecord_spec taken
  have one : handedOver (some (.record json)) = [.record json] := rfl
  have quiet (announcement : IsAnnouncement json) :
      ∀ other, Output.record other ∈ handedOver (some (.record json)) → IsAnnouncement other := by
    intro other member
    rw [one, List.mem_singleton, Output.record.injEq] at member
    rw [member]
    exact announcement
  cases sends with
  | stalled _ _ pending | wordDelay _ _ pending | firstAudio _ _ pending | completion _ _ pending
  | bufferedAudio _ pending | completed _ pending =>
      rw [pending] at here
      cases here
  | wordBoundary state place pending undeclared count left =>
      have same := pending.eq_of_record here
      refine .hands (by rw [left, here]; rfl) (.wordBoundary state place (.inr rfl) undeclared count rfl)
        (quiet ?_)
      rw [same]
      exact isAnnouncement_wordBoundary ..
  | bookmark name state place pending undeclared count left =>
      have same := pending.eq_of_record here
      refine .hands (by rw [left, here]; rfl) (.bookmark name state place (.inr rfl) undeclared count rfl)
        (quiet ?_)
      rw [same]
      exact isAnnouncement_bookmark ..
  | refused place pending undeclared count left =>
      have same := pending.eq_of_record here
      refine .hands (by rw [left, here]; rfl) (.refused place (.inr rfl) undeclared count rfl)
        (quiet ?_)
      rw [same]
      exact isAnnouncement_errorLog ..
  | @completing spoken state place pending undeclared count left =>
      rw [pending, PendingWrite.record.injEq] at here
      refine .declares (by rw [left, pending, here]; rfl) (by rw [one, here]) undeclared ?_
        (.completion state place rfl rfl count rfl)
      rw [count, state.written]
      split
      · exact Nat.zero_le _
      · next some => exact Nat.le_mul_of_pos_left _ (Nat.pos_of_ne_zero some)

theorem Sends.transferAudio {count : ℕ} (sends : Sends message wave task declared written rest)
    (taken : task.step runtime (.transferAudio count) = some (next, output)) :
    SendsStep message wave task declared written rest (handedOver output) next := by
  obtain ⟨bytes, here, -, -, within, rfl, rfl⟩ := transferAudio_spec taken
  have audio : audioOf (handedOver (some (.audio (bytes.take count)))) = bytes.take count :=
    audioOf_audioOutputs _
  have quiet (json : Json) (member : .record json ∈ handedOver (some (.audio (bytes.take count)))) :
      IsAnnouncement json := by
    obtain ⟨_, -, other⟩ := List.mem_map.mp member
    cases other
  have split : audioOutputs bytes =
      handedOver (some (.audio (bytes.take count))) ++ audioOutputs (bytes.drop count) := by
    rw [← congrArg audioOutputs (List.take_append_drop count bytes), audioOutputs_append]
    rfl
  cases sends with
  | stalled _ _ pending | wordDelay _ _ pending | completion _ _ pending
  | completing _ _ pending | completed _ pending =>
      rw [pending] at here
      cases here
  | wordBoundary _ _ pending | bookmark _ _ _ pending | refused _ pending =>
      rcases pending with other | other
      · rw [other] at here
        cases here
      · rw [other] at here
        cases here
  | @firstAudio word done unsent state place pending parts undeclared counted left =>
      rw [pending, PendingWrite.audio.injEq] at here
      subst here
      have further : wave = (done ++ unsent.take count) ++ unsent.drop count := by
        rw [List.append_assoc, List.take_append_drop]
        exact parts
      refine .hands (by rw [left, split, List.append_assoc])
        (.firstAudio state place rfl further undeclared ?_ rfl) quiet
      rw [audio, counted, List.length_append]
  | @bufferedAudio buffers done unsent place pending parts total counted left =>
      rw [pending, PendingWrite.audio.injEq] at here
      subst here
      have further : wave = (done ++ unsent.take count) ++ unsent.drop count := by
        rw [List.append_assoc, List.take_append_drop]
        exact parts
      refine .hands (by rw [left, split, List.append_assoc])
        (.bufferedAudio place rfl further total ?_ rfl) quiet
      rw [audio, counted, List.length_append, Nat.add_assoc]

/-! ### Resuming -/

theorem PendingWrite.Hands.nothing_of_isDone {pending : PendingWrite} {json : Json}
    (hands : pending.Hands json) (done : pending.isDone = true) : pending = .nothing := by
  rcases hands with record | nothing
  · rw [record] at done
    cases done
  · exact nothing

theorem PendingWrite.audio_isDone {unsent : List UInt8}
    (done : (PendingWrite.audio unsent).isDone = true) : unsent = [] := by
  cases unsent with
  | nil => rfl
  | cons => cases done

@[simp] theorem emitLateCancellationEvents_speakId (task : SynthesisTask) :
    task.emitLateCancellationEvents.speakId = task.speakId := by
  unfold SynthesisTask.emitLateCancellationEvents
  split <;> rfl

@[simp] theorem emitLateCancellationEvents_state (task : SynthesisTask) :
    task.emitLateCancellationEvents.state = task.state := by
  unfold SynthesisTask.emitLateCancellationEvents
  split <;> rfl

theorem caught_late (task : SynthesisTask) :
    Caught task.emitLateCancellationEvents (lateRecords task.emitLateCancellationEvents) := by
  have same : lateRecords task.emitLateCancellationEvents = lateRecords task := by
    simp only [lateRecords, emitLateCancellationEvents_speakId, emitLateCancellationEvents_state]
  rw [same]
  exact caught_emitLateCancellationEvents task

/-- A cancelled task gives up where the count of what it has written is right. -/
theorem SendsStep.late {other : SynthesisTask} (cancelled : task.cancelled = true)
    (counted : other.state.audioBytesWritten = written)
    (unfinished : wave ≠ [] → ∀ total, declared = some total → written < total) :
    SendsStep message wave task declared written rest [] other.emitLateCancellationEvents := by
  have same : other.emitLateCancellationEvents.state.audioBytesWritten = written := by
    rw [emitLateCancellationEvents_state, counted]
  exact .catches cancelled rfl (Nat.le_of_eq same) (fun _ => same) unfinished (caught_late other)

/-- Before its completion a task has declared nothing it could have finished. -/
theorem unfinished_of_undeclared (undeclared : declared = none) :
    wave ≠ [] → ∀ total, declared = some total → written < total := by
  intro _ total here
  rw [undeclared] at here
  cases here

/-- A step that hands nothing over and leaves all there was. -/
theorem SendsStep.silent (sends : Sends message wave next declared written rest) :
    SendsStep message wave task declared written rest [] next :=
  .hands (List.nil_append rest).symm sends fun _ member => absurd member List.not_mem_nil

theorem synthesizeFragments_cancelled (cancelled : task.cancelled = true) (fragments : List Json) :
    task.synthesizeFragments message fragments = task.emitLateCancellationEvents := by
  cases fragments with
  | nil => exact if_pos cancelled
  | cons => exact if_pos cancelled

theorem nextWord_cancelled (cancelled : task.cancelled = true) (word : SpokenWord) :
    task.nextWord message word = task.emitLateCancellationEvents := by
  unfold SynthesisTask.nextWord
  split
  · exact synthesizeFragments_cancelled cancelled word.rest
  · exact if_pos cancelled

/-- A cancelled task writes no more buffers, when there are any. -/
theorem SendsStep.writeBuffers {other : SynthesisTask} {buffers : ℕ}
    (flag : other.cancelled = task.cancelled) (counted : other.state.audioBytesWritten = written)
    (total : declared = some (written + buffers * wave.length))
    (left : rest = audioOutputs (soundOf wave buffers)) :
    SendsStep message wave task declared written rest []
      (other.writeBuffers (List.replicate buffers wave)) := by
  by_cases cancelled : task.cancelled = true
  · cases buffers with
    | zero =>
        refine .silent (.completed rfl rfl counted.symm (.inr ?_) left)
        rw [total, Nat.zero_mul, Nat.add_zero]
    | succ buffers =>
        have late : other.writeBuffers (List.replicate (buffers + 1) wave) =
            other.emitLateCancellationEvents := if_pos (flag.trans cancelled)
        rw [late]
        refine .late cancelled counted fun nonempty sum here => ?_
        rw [total, Option.some.injEq] at here
        have positive : 0 < (buffers + 1) * wave.length :=
          Nat.mul_pos (Nat.succ_pos buffers) (List.length_pos_of_ne_nil nonempty)
        omega
  · rw [Bool.not_eq_true] at cancelled
    refine .silent ?_
    rw [total, left, ← counted]
    exact .buffers (flag.trans cancelled) buffers

/-- The loop over the words goes on, or gives up. -/
theorem SendsStep.nextWord {other : SynthesisTask} {spoken : ℕ} {word : SpokenWord}
    (flag : other.cancelled = task.cancelled) (state : SpokenState wave spoken other.state)
    (undeclared : declared = none) (counted : other.state.audioBytesWritten = written)
    (left : rest = transcript message wave other.speakId spoken
      (wordItems (word.charOffset + .ofNat (word.word.length + 1)) word.words ++
        speechItems word.rest)) :
    SendsStep message wave task declared written rest [] (other.nextWord message word) := by
  by_cases cancelled : task.cancelled = true
  · rw [nextWord_cancelled (flag.trans cancelled)]
    exact .late cancelled counted (unfinished_of_undeclared undeclared)
  · rw [Bool.not_eq_true] at cancelled
    refine .silent ?_
    rw [undeclared, left, ← counted]
    exact .nextWord (flag.trans cancelled) state word

theorem Sends.resume
    (sends : Sends runtime.fragmentMessage (generateSineWave runtime.sample) task declared written rest)
    (taken : task.step runtime .resume = some (next, output)) :
    SendsStep runtime.fragmentMessage (generateSineWave runtime.sample) task declared written rest
      (handedOver output) next := by
  have spec : task.pending.isDone = true ∧ next = task.continues runtime ∧ output = none ∧
      task.isCompleted = false ∧ task.place ≠ .stalled := by
    simp only [SynthesisTask.step] at taken
    split at taken
    · cases taken
    · cases taken
    · next notStalled notCompleted =>
        split at taken
        · next done =>
            cases taken
            refine ⟨done, rfl, rfl, ?_, notStalled⟩
            unfold SynthesisTask.isCompleted
            split
            · next here => exact absurd here notCompleted
            · rfl
        · cases taken
  obtain ⟨done, rfl, rfl, running, notStalled⟩ := spec
  clear taken
  change SendsStep _ _ task declared written rest [] _
  unfold SynthesisTask.continues
  generalize generateSineWave runtime.sample = wave at sends ⊢
  cases sends with
  | stalled _ place => exact absurd place notStalled
  | completing _ _ pending =>
      rw [pending] at done
      cases done
  | completed place =>
      rw [SynthesisTask.isCompleted, place] at running
      cases running
  | @wordBoundary spoken word state place pending undeclared counted left =>
      have nothing := pending.nothing_of_isDone done
      simp only [place]
      split
      · next cancelled => exact .late cancelled counted.symm (unfinished_of_undeclared undeclared)
      · rw [nothing] at left
        exact .silent (.wordDelay state rfl rfl undeclared counted left)
  | @wordDelay spoken word state place pending undeclared counted left =>
      simp only [place]
      by_cases first : spoken = 0
      · subst first
        rw [if_pos (state.first.trans (decide_eq_true rfl))]
        split
        · next cancelled => exact .late cancelled counted.symm (unfinished_of_undeclared undeclared)
        · have parts : wave = [] ++ wave := (List.nil_append wave).symm
          refine .silent (.firstAudio state rfl rfl parts undeclared ?_ left)
          rw [counted, state.written]
          rfl
      · rw [if_neg (by simp [state.first, first])]
        refine .nextWord rfl (state.putBy first) undeclared counted.symm ?_
        rw [left, afterBoundary, if_neg first]
        rfl
  | @firstAudio word written unsent state place pending parts undeclared counted left =>
      rw [pending] at done
      have all := PendingWrite.audio_isDone done
      subst all
      rw [List.append_nil] at parts
      simp only [place]
      refine .nextWord rfl state.firstWritten undeclared ?_ left
      rw [counted, ← parts]
      exact (congrArg (· + _) state.written).trans (Nat.zero_add _)
  | @bookmark spoken later name state place pending undeclared counted left =>
      have nothing := pending.nothing_of_isDone done
      simp only [place]
      by_cases cancelled : task.cancelled = true
      · rw [synthesizeFragments_cancelled cancelled]
        exact .late cancelled counted.symm (unfinished_of_undeclared undeclared)
      · rw [Bool.not_eq_true] at cancelled
        refine .silent ?_
        rw [undeclared, left, nothing, counted]
        exact .fragments cancelled state later
  | @completion spoken state place pending total counted left =>
      simp only [place]
      rw [state.buffers]
      refine .writeBuffers rfl counted.symm ?_ left
      rw [total, counted, state.written]
      split
      · next first => rw [first, Nat.zero_mul]
      · next some =>
          obtain ⟨words, rfl⟩ := Nat.exists_eq_succ_of_ne_zero some
          rw [Nat.succ_sub_one, Nat.succ_mul, Nat.add_comm]
  | @bufferedAudio buffers written unsent place pending parts total counted left =>
      rw [pending] at done
      have all := PendingWrite.audio_isDone done
      subst all
      rw [List.append_nil] at parts
      simp only [place]
      refine .writeBuffers rfl ?_ ?_ left
      · rw [counted, ← parts]
      · rw [total, counted, ← parts, Nat.succ_mul, Nat.add_assoc, Nat.add_comm (_ * _)]
  | refused place pending undeclared counted left =>
      have nothing := pending.nothing_of_isDone done
      simp only [place]
      refine .silent (.completed rfl rfl counted (.inl undeclared) ?_)
      rw [left, nothing]
      rfl

/-- What was handed over of a buffer that is given up is nothing, unless the buffer was
partly written. -/
theorem done_eq_nil {done unsent : List UInt8} (pending : task.pending = .audio unsent)
    (parts : wave = done ++ unsent) (left : task.pending.isDone = false)
    (whole : ¬task.PartlyWritten wave) : done = [] := by
  unfold SynthesisTask.PartlyWritten at whole
  rw [pending] at left whole
  have nonempty : unsent ≠ [] := by
    rintro rfl
    cases left
  have positive := List.length_pos_of_ne_nil nonempty
  have length : wave.length = done.length + unsent.length := by
    rw [parts, List.length_append]
  apply List.eq_nil_of_length_eq_zero
  simp only at whole
  omega

theorem Sends.resumeCancelled (sends : Sends message wave task declared written rest)
    (taken : task.step runtime .resumeCancelled = some (next, output)) :
    SendsStep message wave task declared written rest (handedOver output) next := by
  have spec : task.place.usesToken = true ∧ task.cancelled = true ∧
      (task.place.isDelay = true ∨ task.pending.isDone = false) ∧
      next = task.emitLateCancellationEvents ∧ output = none := by
    simp only [SynthesisTask.step] at taken
    split at taken
    · next possible =>
        simp only [Bool.and_eq_true, Bool.or_eq_true, Bool.not_eq_true'] at possible
        cases taken
        exact ⟨possible.1.1, possible.1.2, possible.2, rfl, rfl⟩
    · cases taken
  obtain ⟨usesToken, cancelled, waiting, rfl, rfl⟩ := spec
  change SendsStep _ _ task declared written rest [] _
  cases sends with
  | stalled _ _ _ undeclared counted | wordBoundary _ _ _ undeclared counted
  | wordDelay _ _ _ undeclared counted | bookmark _ _ _ _ undeclared counted
  | completing _ _ _ undeclared counted =>
      exact .late cancelled counted.symm (unfinished_of_undeclared undeclared)
  | completion _ place pending =>
      simp [place, pending, SynthesisPlace.isDelay, PendingWrite.isDone] at waiting
  | refused place | completed place =>
      rw [place] at usesToken
      cases usesToken
  | @firstAudio word done unsent state place pending parts undeclared counted =>
      have left : task.pending.isDone = false := by
        rw [place] at waiting
        exact waiting.resolve_left (by simp [SynthesisPlace.isDelay])
      have none : task.emitLateCancellationEvents.state.audioBytesWritten = 0 := by
        rw [emitLateCancellationEvents_state, state.written, if_pos rfl]
      refine .catches cancelled rfl (by omega) (fun whole => ?_)
        (unfinished_of_undeclared undeclared) (caught_late task)
      rw [none, counted, done_eq_nil pending parts left whole, List.length_nil]
  | @bufferedAudio buffers done unsent place pending parts total counted =>
      have left : task.pending.isDone = false := by
        rw [place] at waiting
        exact waiting.resolve_left (by simp [SynthesisPlace.isDelay])
      refine .catches cancelled rfl ?_ (fun whole => ?_) (fun _ sum here => ?_) (caught_late task)
      · rw [emitLateCancellationEvents_state]
        omega
      · rw [emitLateCancellationEvents_state, counted, done_eq_nil pending parts left whole,
          List.length_nil, Nat.add_zero]
      · have nonempty : unsent ≠ [] := by
          rintro rfl
          rw [pending] at left
          cases left
        have positive := List.length_pos_of_ne_nil nonempty
        have length : wave.length = done.length + unsent.length := by
          rw [parts, List.length_append]
        rw [total, Option.some.injEq, Nat.succ_mul] at here
        omega

/-- **A step hands over a part of what is left, or gives it up for the late records.** -/
theorem Sends.step {action : TaskAction}
    (sends : Sends runtime.fragmentMessage (generateSineWave runtime.sample) task declared written rest)
    (succeeds : action.Succeeds)
    (taken : task.step runtime action = some (next, output)) :
    SendsStep runtime.fragmentMessage (generateSineWave runtime.sample) task declared written rest
      (handedOver output) next := by
  cases action with
  | transferRecord => exact sends.transferRecord taken
  | transferAudio count => exact sends.transferAudio taken
  | resume => exact sends.resume taken
  | resumeCancelled => exact sends.resumeCancelled taken
  | resumeFailed message => exact succeeds.elim

/-- **A step after a caught cancellation hands over one of the late records, or nothing.** -/
theorem Caught.step {action : TaskAction} (caught : Caught task rest)
    (succeeds : action.Succeeds)
    (taken : task.step runtime action = some (next, output)) :
    (∃ left, rest = handedOver output ++ left ∧ Caught next left) ∧ next.state = task.state ∧
      ∀ bytes, output ≠ some (.audio bytes) := by
  cases action with
  | transferRecord =>
      obtain ⟨json, here, -, rfl, rfl⟩ := transferRecord_spec taken
      refine ⟨?_, rfl, by simp⟩
      cases caught with
      | delay _ pending | acknowledged _ pending =>
          rw [pending] at here
          cases here
      | boundary place pending left =>
          exact ⟨_, by rw [left, here]; rfl, .boundary place (.inr rfl) rfl⟩
      | acknowledging place pending left =>
          exact ⟨[], by rw [left, here]; rfl, .acknowledged (.inl place) rfl rfl⟩
  | transferAudio count =>
      obtain ⟨bytes, here, -⟩ := transferAudio_spec taken
      cases caught with
      | delay _ pending | acknowledged _ pending | acknowledging _ pending =>
          rw [pending] at here
          cases here
      | boundary _ pending =>
          rcases pending with other | other
          · rw [other] at here
            cases here
          · rw [other] at here
            cases here
  | resume =>
      simp only [SynthesisTask.step] at taken
      cases caught with
      | delay place pending left =>
          simp only [place, pending, PendingWrite.isDone, if_true, SynthesisTask.continues] at taken
          cases taken
          exact ⟨⟨_, left, .boundary rfl (.inl rfl) rfl⟩, rfl, by simp⟩
      | boundary place pending left =>
          simp only [place, SynthesisTask.continues] at taken
          split at taken
          · next done =>
              cases taken
              refine ⟨⟨rest, rfl, .acknowledging rfl rfl ?_⟩, rfl, by simp⟩
              rw [left, pending.nothing_of_isDone done]
              rfl
          · cases taken
      | acknowledging place pending left =>
          simp only [place, pending, PendingWrite.isDone, Bool.false_eq_true, if_false] at taken
          cases taken
      | acknowledged place pending left =>
          rcases place with place | place
          · simp only [place, pending, PendingWrite.isDone, if_true, SynthesisTask.continues] at taken
            cases taken
            exact ⟨⟨[], left, .acknowledged (.inr rfl) rfl rfl⟩, rfl, by simp⟩
          · simp only [place] at taken
            cases taken
  | resumeCancelled =>
      simp only [SynthesisTask.step] at taken
      cases caught with
      | delay place | boundary place | acknowledging place =>
          simp [place, SynthesisPlace.usesToken] at taken
      | acknowledged place =>
          rcases place with place | place <;> simp [place, SynthesisPlace.usesToken] at taken
  | resumeFailed message => exact succeeds.elim

end Step

end ModernSapi
