import ModernSapi.Mock.Transcript

/-!
# The schedules of a synthesis

A task runs beside the pipes it writes to and the reader that may cancel it. Its schedules
are the runs of `synthesisMachine`.

* `handleSpeak_transcript`: over every schedule whose writes do not fail, a task sends a
  first part of the transcript, all of it when it completes without a cancellation, or a
  first part and then the late records.
* `handleSpeak_acknowledged`: the late records acknowledge what was written, unless a
  buffer was partly written when the cancellation came.
-/

set_option autoImplicit false

namespace ModernSapi

open Interleaving

/-- The steps of a task, and its cancellation. -/
inductive SynthesisAction where
  | task (action : TaskAction)
  | cancel
  deriving DecidableEq

section Machine

variable (runtime : ProviderRuntime)

def SynthesisTask.run (task : SynthesisTask) :
    SynthesisAction → Option (SynthesisTask × List Output)
  | .task action =>
      match task.step runtime action with
      | some (next, output) => some (next, handedOver output)
      | none => none
  | .cancel => some ({ task with cancelled := true }, [])

/-- The machine of the synthesis of one request. -/
def synthesisMachine (speakId : ℕ) (fragments : List Json) :
    Machine SynthesisTask SynthesisAction Output where
  init task := task = .handleSpeak runtime speakId fragments
  step := SynthesisTask.run runtime

end Machine

/-- No write fails. -/
def WritesSucceed (_ : SynthesisTask) : SynthesisAction → Prop
  | .task action => action.Succeeds
  | .cancel => True

instance (task : SynthesisTask) : DecidablePred (WritesSucceed task)
  | .task action => inferInstanceAs (Decidable action.Succeeds)
  | .cancel => .isTrue trivial

/-- No write fails, and no cancellation comes when a buffer is partly written. -/
def CancelsWhole (wave : List UInt8) (task : SynthesisTask) : SynthesisAction → Prop
  | .task action => action.Succeeds
  | .cancel => ¬task.PartlyWritten wave

instance (wave : List UInt8) (task : SynthesisTask) : DecidablePred (CancelsWhole wave task)
  | .task action => inferInstanceAs (Decidable action.Succeeds)
  | .cancel => inferInstanceAs (Decidable (¬task.PartlyWritten wave))

theorem CancelsWhole.writesSucceed {wave : List UInt8} {task : SynthesisTask}
    {action : SynthesisAction} (whole : CancelsWhole wave task action) :
    WritesSucceed task action := by
  cases action with
  | task action => exact whole
  | cancel => trivial

/-! ## What no step changes -/

section Frame

variable {runtime : ProviderRuntime} {task next : SynthesisTask} {output : Option TaskOutput}

/-- The task is of the same request, and under the same token. -/
structure SameTask (task next : SynthesisTask) : Prop where
  speakId : next.speakId = task.speakId
  cancelled : next.cancelled = task.cancelled

/-- Nothing more is counted as written. -/
structure SameCount (task next : SynthesisTask) : Prop extends SameTask task next where
  counted : next.state.audioBytesWritten = task.state.audioBytesWritten

theorem SameTask.trans {last : SynthesisTask} (first : SameTask task next)
    (second : SameTask next last) : SameTask task last :=
  ⟨second.speakId.trans first.speakId, second.cancelled.trans first.cancelled⟩

theorem SameCount.trans {last : SynthesisTask} (first : SameCount task next)
    (second : SameCount next last) : SameCount task last :=
  ⟨first.toSameTask.trans second.toSameTask, second.counted.trans first.counted⟩

theorem SameCount.refl (task : SynthesisTask) : SameCount task task := ⟨⟨rfl, rfl⟩, rfl⟩

theorem SameCount.emitLateCancellationEvents (task : SynthesisTask) :
    SameCount task task.emitLateCancellationEvents := by
  unfold SynthesisTask.emitLateCancellationEvents
  split
  · exact ⟨⟨rfl, rfl⟩, rfl⟩
  · exact ⟨⟨rfl, rfl⟩, rfl⟩

theorem SameCount.synthesizeWord (task : SynthesisTask) (word : SpokenWord) :
    SameCount task (task.synthesizeWord word) := by
  unfold SynthesisTask.synthesizeWord
  split
  · exact .emitLateCancellationEvents task
  · exact ⟨⟨rfl, rfl⟩, rfl⟩

theorem SameCount.synthesizeFragments (message : String) (task : SynthesisTask)
    (fragments : List Json) : SameCount task (task.synthesizeFragments message fragments) := by
  induction fragments generalizing task with
  | nil =>
      unfold SynthesisTask.synthesizeFragments SynthesisTask.completeSynthesis
      split
      · exact .emitLateCancellationEvents task
      · exact ⟨⟨rfl, rfl⟩, rfl⟩
  | cons fragment rest ih =>
      unfold SynthesisTask.synthesizeFragments
      split
      · exact .emitLateCancellationEvents task
      · split
        · exact ⟨⟨rfl, rfl⟩, rfl⟩
        · exact ⟨⟨rfl, rfl⟩, rfl⟩
        · next delays words charOffset _ =>
            have flagged : SameCount task (task.delaysLateEvents delays) := ⟨⟨rfl, rfl⟩, rfl⟩
            split
            · exact flagged.trans (ih _)
            · exact flagged.trans (.synthesizeWord _ _)
        · exact ⟨⟨rfl, rfl⟩, rfl⟩
        · exact ih task

theorem SameCount.nextWord (message : String) (task : SynthesisTask) (word : SpokenWord) :
    SameCount task (task.nextWord message word) := by
  unfold SynthesisTask.nextWord
  split
  · exact .synthesizeFragments message task word.rest
  · exact .synthesizeWord task _

theorem SameCount.writeBuffers (task : SynthesisTask) (buffers : List (List UInt8)) :
    SameCount task (task.writeBuffers buffers) := by
  unfold SynthesisTask.writeBuffers
  split
  · exact ⟨⟨rfl, rfl⟩, rfl⟩
  · split
    · exact .emitLateCancellationEvents task
    · exact ⟨⟨rfl, rfl⟩, rfl⟩

/-- The buffer whose write the task awaits. -/
def SynthesisPlace.buffer (runtime : ProviderRuntime) : SynthesisPlace → List UInt8
  | .firstAudio _ => generateSineWave runtime.sample
  | .bufferedAudio audioData _ => audioData
  | _ => []

/-- A task that goes on counts the buffer it has written. -/
theorem continues_sameTask (runtime : ProviderRuntime) (task : SynthesisTask) :
    SameTask task (task.continues runtime) ∧
      (task.continues runtime).state.audioBytesWritten =
        task.state.audioBytesWritten + (task.place.buffer runtime).length := by
  have kept {after : SynthesisTask} (same : SameCount task after) :
      SameTask task after ∧ after.state.audioBytesWritten = task.state.audioBytesWritten + 0 :=
    ⟨same.toSameTask, same.counted⟩
  have further {counted after : SynthesisTask} {bytes : ℕ} (same : SameTask task counted)
      (count : counted.state.audioBytesWritten = task.state.audioBytesWritten + bytes)
      (more : SameCount counted after) :
      SameTask task after ∧
        after.state.audioBytesWritten = task.state.audioBytesWritten + bytes :=
    ⟨same.trans more.toSameTask, more.counted.trans count⟩
  cases here : task.place with
  | stalled =>
      rw [SynthesisTask.continues, here]
      exact kept (.refl task)
  | wordBoundary word =>
      rw [SynthesisTask.continues, here]
      dsimp only
      split
      · exact kept (.emitLateCancellationEvents task)
      · exact kept ⟨⟨rfl, rfl⟩, rfl⟩
  | wordDelay word =>
      rw [SynthesisTask.continues, here]
      dsimp only
      split
      · split
        · exact kept (.emitLateCancellationEvents task)
        · exact kept ⟨⟨rfl, rfl⟩, rfl⟩
      · refine further ?_ ?_ (.nextWord ..)
        · exact ⟨rfl, rfl⟩
        · rfl
  | firstAudio word =>
      rw [SynthesisTask.continues, here]
      dsimp only [SynthesisPlace.buffer]
      refine further ?_ ?_ (.nextWord ..)
      · exact ⟨rfl, rfl⟩
      · rfl
  | bookmark rest =>
      rw [SynthesisTask.continues, here]
      exact kept (.synthesizeFragments ..)
  | completion =>
      rw [SynthesisTask.continues, here]
      exact kept (.writeBuffers ..)
  | bufferedAudio audioData later =>
      rw [SynthesisTask.continues, here]
      dsimp only [SynthesisPlace.buffer]
      refine further ?_ ?_ (.writeBuffers ..)
      · exact ⟨rfl, rfl⟩
      · rfl
  | lateDelay | lateSentenceBoundary | lateCancelled | errorLog | completed =>
      rw [SynthesisTask.continues, here]
      exact kept ⟨⟨rfl, rfl⟩, rfl⟩

/-- A step counts nothing, or the buffer the task awaits. -/
theorem SynthesisTask.step_sameTask {action : TaskAction}
    (taken : task.step runtime action = some (next, output)) :
    SameTask task next ∧
      (next.state.audioBytesWritten = task.state.audioBytesWritten ∨
        next.state.audioBytesWritten =
          task.state.audioBytesWritten + (task.place.buffer runtime).length) := by
  cases action with
  | transferRecord =>
      obtain ⟨_, -, -, rfl, -⟩ := transferRecord_spec taken
      exact ⟨⟨rfl, rfl⟩, .inl rfl⟩
  | transferAudio count =>
      obtain ⟨_, -, -, -, -, rfl, -⟩ := transferAudio_spec taken
      exact ⟨⟨rfl, rfl⟩, .inl rfl⟩
  | resume =>
      simp only [SynthesisTask.step] at taken
      split at taken
      · cases taken
      · cases taken
      · split at taken
        · cases taken
          have goes := continues_sameTask runtime task
          exact ⟨goes.1, .inr goes.2⟩
        · cases taken
  | resumeCancelled =>
      simp only [SynthesisTask.step] at taken
      split at taken
      · cases taken
        have late := SameCount.emitLateCancellationEvents task
        exact ⟨late.toSameTask, .inl late.counted⟩
      · cases taken
  | resumeFailed message =>
      simp only [SynthesisTask.step, SynthesisTask.fails] at taken
      split at taken
      · cases taken
      · cases taken
        split
        · exact ⟨⟨rfl, rfl⟩, .inl rfl⟩
        · exact ⟨⟨rfl, rfl⟩, .inl rfl⟩

end Frame

/-! ## How far a task is -/

/-- How what a task has sent stands to the transcript of its speech. A clean task has not
been cancelled with a buffer partly written. -/
inductive Transcribed (message : String) (wave : List UInt8) (items : List SpeechItem)
    (clean : Prop) (sent : List Output) (task : SynthesisTask) : Prop where
  | speaking {declared : Option ℕ} {written : ℕ} {rest : List Output}
      (sends : Sends message wave task declared written rest)
      (parts : sent ++ rest = transcript message wave task.speakId 0 items)
      (count : (audioOf sent).length = written)
      (whole : clean → task.cancelled = true → ¬task.PartlyWritten wave)
  | caught {first late rest : List Output} (caught : Caught task rest)
      (cancelled : task.cancelled = true) (parts : sent = first ++ late)
      (cut : first <+: transcript message wave task.speakId 0 items)
      (records : late ++ rest = lateRecords task)
      (within : task.state.audioBytesWritten ≤ (audioOf first).length)
      (exact : clean → task.state.audioBytesWritten = (audioOf first).length)

section Transcribed

variable {runtime : ProviderRuntime} {task next : SynthesisTask} {output : Option TaskOutput}
  {message : String} {wave : List UInt8} {items : List SpeechItem} {clean : Prop}
  {sent : List Output}

theorem emitLateCancellationEvents_pending (task : SynthesisTask) (bytes : List UInt8) :
    task.emitLateCancellationEvents.pending ≠ .audio bytes := by
  unfold SynthesisTask.emitLateCancellationEvents
  split
  · simp [SynthesisTask.awaits]
  · simp [SynthesisTask.lateSentenceBoundary, SynthesisTask.writesRecord]

theorem writeBuffers_cancelled_pending (cancelled : task.cancelled = true)
    (buffers : List (List UInt8)) (bytes : List UInt8) :
    (task.writeBuffers buffers).pending ≠ .audio bytes := by
  cases buffers with
  | nil => simp [SynthesisTask.writeBuffers, SynthesisTask.awaits]
  | cons =>
      rw [SynthesisTask.writeBuffers, if_pos cancelled]
      exact emitLateCancellationEvents_pending task bytes

/-- A task under a cancelled token begins no buffer. -/
theorem continues_cancelled_pending (cancelled : task.cancelled = true)
    (notStalled : task.place ≠ .stalled) (bytes : List UInt8) :
    (task.continues runtime).pending ≠ .audio bytes := by
  unfold SynthesisTask.continues
  dsimp only
  split
  · next here => exact absurd here notStalled
  · rw [if_pos cancelled]
    exact emitLateCancellationEvents_pending _ _
  · split
    · exact emitLateCancellationEvents_pending _ _
    · rw [nextWord_cancelled (by exact cancelled)]
      exact emitLateCancellationEvents_pending _ _
  · rw [nextWord_cancelled (by exact cancelled)]
    exact emitLateCancellationEvents_pending _ _
  · rw [synthesizeFragments_cancelled cancelled]
    exact emitLateCancellationEvents_pending _ _
  · exact writeBuffers_cancelled_pending cancelled _ _
  · exact writeBuffers_cancelled_pending (by exact cancelled) _ _
  all_goals simp [SynthesisTask.lateSentenceBoundary, SynthesisTask.writesRecord,
    SynthesisTask.awaits]

theorem not_partlyWritten (none : ∀ bytes, task.pending ≠ .audio bytes) :
    ¬task.PartlyWritten wave := by
  unfold SynthesisTask.PartlyWritten
  split
  · next unsent here => exact absurd here (none unsent)
  · exact id

/-- The sound of a word is written under the token. -/
theorem Sends.usesToken {declared : Option ℕ} {written : ℕ} {rest : List Output}
    (sends : Sends message wave task declared written rest) {bytes : List UInt8}
    (here : task.pending = .audio bytes) : task.place.usesToken = true := by
  cases sends with
  | firstAudio _ place | bufferedAudio place | stalled _ place | wordBoundary _ place
  | wordDelay _ place | bookmark _ _ place | completing _ place | completion _ place =>
      rw [place]
      rfl
  | refused _ pending =>
      rcases pending with other | other
      · rw [other] at here
        cases here
      · rw [other] at here
        cases here
  | completed _ pending =>
      rw [pending] at here
      cases here

/-- **A cancelled task that is at no middle of a buffer stays so.** -/
theorem Sends.step_whole {declared : Option ℕ} {written : ℕ} {rest : List Output}
    {action : TaskAction} (sends : Sends message wave task declared written rest)
    (succeeds : action.Succeeds)
    (taken : task.step runtime action = some (next, output)) (cancelled : task.cancelled = true) :
    ¬next.PartlyWritten wave := by
  cases action with
  | transferRecord =>
      obtain ⟨_, -, -, rfl, -⟩ := transferRecord_spec taken
      exact not_partlyWritten fun _ => by simp
  | transferAudio count =>
      obtain ⟨_, here, transfers, -⟩ := transferAudio_spec taken
      rw [SynthesisTask.transfers, sends.usesToken here, cancelled] at transfers
      cases transfers
  | resume =>
      simp only [SynthesisTask.step] at taken
      split at taken
      · cases taken
      · cases taken
      · next notStalled _ =>
          split at taken
          · cases taken
            exact not_partlyWritten (continues_cancelled_pending cancelled notStalled)
          · cases taken
  | resumeCancelled =>
      simp only [SynthesisTask.step] at taken
      split at taken
      · cases taken
        exact not_partlyWritten (emitLateCancellationEvents_pending task)
      · cases taken
  | resumeFailed message => exact succeeds.elim

/-- Cancelling the token changes nothing of what is left. -/
theorem Sends.cancel {declared : Option ℕ} {written : ℕ} {rest : List Output}
    (sends : Sends message wave task declared written rest) :
    Sends message wave { task with cancelled := true } declared written rest := by
  cases sends with
  | stalled state place pending undeclared count left =>
      exact .stalled state place pending undeclared count left
  | wordBoundary state place pending undeclared count left =>
      exact .wordBoundary state place pending undeclared count left
  | wordDelay state place pending undeclared count left =>
      exact .wordDelay state place pending undeclared count left
  | firstAudio state place pending parts undeclared count left =>
      exact .firstAudio state place pending parts undeclared count left
  | bookmark name state place pending undeclared count left =>
      exact .bookmark name state place pending undeclared count left
  | completing state place pending undeclared count left =>
      exact .completing state place pending undeclared count left
  | completion state place pending total count left =>
      exact .completion state place pending total count left
  | bufferedAudio place pending parts total count left =>
      exact .bufferedAudio place pending parts total count left
  | refused place pending undeclared count left =>
      exact .refused place pending undeclared count left
  | completed place pending count total left =>
      exact .completed place pending count total left

theorem Transcribed.cancel (transcribed : Transcribed message wave items clean sent task)
    (whole : clean → ¬task.PartlyWritten wave) :
    Transcribed message wave items clean sent { task with cancelled := true } := by
  cases transcribed with
  | speaking sends parts count => exact .speaking sends.cancel parts count fun isClean _ => whole isClean
  | caught caught cancelled parts cut records within exact =>
      have same : ({ task with cancelled := true } : SynthesisTask) = task := by
        rw [← cancelled]
      rw [same]
      exact .caught caught cancelled parts cut records within exact

theorem Transcribed.step {action : TaskAction}
    (transcribed : Transcribed runtime.fragmentMessage (generateSineWave runtime.sample) items clean
      sent task) (succeeds : action.Succeeds)
    (taken : task.step runtime action = some (next, output)) :
    Transcribed runtime.fragmentMessage (generateSineWave runtime.sample) items clean
      (sent ++ handedOver output) next := by
  have same := (SynthesisTask.step_sameTask taken).1
  cases transcribed with
  | speaking sends parts count whole =>
      have before := sends
      cases sends.step succeeds taken with
      | @hands left split sends quiet =>
          refine .speaking sends ?_ ?_ ?_
          · rw [same.speakId, List.append_assoc, ← split, parts]
          · rw [audioOf_append, List.length_append, count]
          · exact fun _ cancelled => before.step_whole succeeds taken (same.cancelled ▸ cancelled)
      | @declares total left split record undeclared within sends =>
          refine .speaking sends ?_ ?_ ?_
          · rw [same.speakId, List.append_assoc, ← split, parts]
          · rw [record, audioOf_append, List.length_append, count]
            rfl
          · exact fun _ cancelled => before.step_whole succeeds taken (same.cancelled ▸ cancelled)
      | catches cancelled silent within exact _ caught =>
          rw [silent, List.append_nil]
          have all : sent = sent ++ [] := (List.append_nil sent).symm
          refine .caught caught (same.cancelled.trans cancelled) all ?_ rfl ?_ ?_
          · rw [same.speakId, ← parts]
            exact List.prefix_append ..
          · rw [count]
            exact within
          · intro isClean
            rw [count]
            exact exact (whole isClean cancelled)
  | @caught first late rest caught cancelled parts cut records within exact =>
      obtain ⟨⟨left, split, caught⟩, state, -⟩ := caught.step succeeds taken
      have late_same : lateRecords next = lateRecords task := by
        rw [lateRecords, same.speakId, state]
        rfl
      have more : sent ++ handedOver output = first ++ (late ++ handedOver output) := by
        rw [parts, List.append_assoc]
      refine .caught caught (same.cancelled.trans cancelled) more ?_ ?_ ?_ ?_
      · rw [same.speakId]
        exact cut
      · rw [List.append_assoc, ← split, late_same]
        exact records
      · rw [state]
        exact within
      · rw [state]
        exact exact

theorem Transcribed.handleSpeak (runtime : ProviderRuntime) (speakId : ℕ) (fragments : List Json)
    (clean : Prop) : Transcribed runtime.fragmentMessage (generateSineWave runtime.sample)
      (speechItems fragments) clean [] (.handleSpeak runtime speakId fragments) := by
  let begun : SynthesisTask := { speakId, place := .completed, pending := .nothing }
  have same := SameCount.synthesizeFragments runtime.fragmentMessage begun fragments
  have state : SpokenState (generateSineWave runtime.sample) 0 begun.state :=
    ⟨rfl, (Nat.zero_mul _).symm, rfl, rfl, rfl⟩
  refine .speaking (.fragments rfl state fragments) ?_ rfl fun _ cancelled => ?_
  · rw [SynthesisTask.handleSpeak, same.speakId]
    rfl
  · rw [SynthesisTask.handleSpeak, same.cancelled] at cancelled
    cases cancelled

theorem SynthesisTask.place_of_isCompleted (completed : task.isCompleted = true) :
    task.place = .completed := by
  unfold SynthesisTask.isCompleted at completed
  split at completed
  · assumption
  · cases completed

/-- A completed task has nothing left to send. -/
theorem Sends.rest_of_isCompleted {declared : Option ℕ} {written : ℕ} {rest : List Output}
    (sends : Sends message wave task declared written rest) (completed : task.isCompleted = true) :
    rest = [] := by
  have place := SynthesisTask.place_of_isCompleted completed
  cases sends with
  | completed _ _ _ _ left => exact left
  | refused other | bufferedAudio other | stalled _ other | wordBoundary _ other
  | wordDelay _ other | firstAudio _ other | bookmark _ _ other | completing _ other
  | completion _ other =>
      rw [place] at other
      cases other

theorem Caught.rest_of_isCompleted {rest : List Output} (caught : Caught task rest)
    (completed : task.isCompleted = true) : rest = [] := by
  have place := SynthesisTask.place_of_isCompleted completed
  cases caught with
  | acknowledged _ _ left => exact left
  | delay other | boundary other | acknowledging other =>
      rw [place] at other
      cases other

/-- How far a task of a request is, in every state of every schedule. -/
theorem transcribed {guard : SynthesisTask → SynthesisAction → Prop} {speakId : ℕ}
    {fragments : List Json} {clean : Prop}
    (succeeds : ∀ task action, guard task action → WritesSucceed task action)
    (whole : clean → ∀ task action, guard task action →
      CancelsWhole (generateSineWave runtime.sample) task action)
    (reached : (synthesisMachine runtime speakId fragments).Reaches guard sent task) :
    task.speakId = speakId ∧
      Transcribed runtime.fragmentMessage (generateSineWave runtime.sample)
        (speechItems fragments) clean sent task := by
  refine reached.induct (motive := fun sent task => task.speakId = speakId ∧
    Transcribed runtime.fragmentMessage (generateSineWave runtime.sample)
      (speechItems fragments) clean sent task) ?_ ?_
  · rintro _ rfl
    exact ⟨(SameCount.synthesizeFragments ..).speakId, .handleSpeak runtime speakId fragments clean⟩
  · intro sent events task next action _ holds allowed taken
    cases action with
    | task action =>
        simp only [synthesisMachine, SynthesisTask.run] at taken
        split at taken
        · next after output stepped =>
            cases taken
            refine ⟨(SynthesisTask.step_sameTask stepped).1.speakId.trans holds.1, ?_⟩
            exact holds.2.step (succeeds _ _ allowed) stepped
        · cases taken
    | cancel =>
        cases taken
        rw [List.append_nil]
        exact ⟨holds.1, holds.2.cancel fun isClean => whole isClean _ _ allowed⟩

end Transcribed

/-! ## The schedules -/

/-- The late records of a request that acknowledge a count of bytes. -/
def lateRecordsOf (speakId audioBytesWritten : ℕ) : List Output :=
  [.record (lateSentenceBoundaryRecord speakId),
    .record (synthesisCancelledRecord speakId audioBytesWritten)]

/-- What is sent under a schedule: a first part of the transcript, and behind it at most
the late records of a cancelled task, with the count they acknowledge. -/
structure SentUnder (speech sent : List Output) (task : SynthesisTask) (first late : List Output)
    (count : ℕ) : Prop where
  parts : sent = first ++ late
  inOrder : first <+: speech
  records : late <+: lateRecordsOf task.speakId count
  within : count ≤ (audioOf first).length
  cancelled : late ≠ [] → task.cancelled = true
  completed : task.isCompleted = true → first = speech ∧ late = [] ∨
    task.cancelled = true ∧ late = lateRecordsOf task.speakId count

section Schedules

variable {runtime : ProviderRuntime} {speakId : ℕ} {fragments : List Json}
  {task : SynthesisTask} {sent : List Output} {message : String} {wave : List UInt8}
  {items : List SpeechItem} {clean : Prop}

theorem Transcribed.sentUnder (transcribed : Transcribed message wave items clean sent task) :
    ∃ first late count,
      SentUnder (transcript message wave task.speakId 0 items) sent task first late count ∧
        (clean → count = (audioOf first).length) := by
  cases transcribed with
  | @speaking _ _ rest sends parts =>
      refine ⟨sent, [], (audioOf sent).length, ⟨(List.append_nil sent).symm, ⟨rest, parts⟩,
        List.nil_prefix, Nat.le_refl _, fun some => absurd rfl some, fun completed => ?_⟩, fun _ => rfl⟩
      rw [sends.rest_of_isCompleted completed, List.append_nil] at parts
      exact .inl ⟨parts, rfl⟩
  | @caught first late rest caught cancelled parts cut records within exact =>
      refine ⟨first, late, task.state.audioBytesWritten, ⟨parts, cut, ⟨rest, records⟩, within,
        fun _ => cancelled, fun completed => ?_⟩, exact⟩
      rw [caught.rest_of_isCompleted completed, List.append_nil] at records
      exact .inr ⟨cancelled, records⟩

/-- **Over every schedule a task sends its transcript, or breaks off and says so.** What is
sent of the transcript is a first part, in order and without a gap; behind it come at most
the two late records, when the task was cancelled, and they acknowledge no byte that was
not written. A completed task has sent the one or the other to its end. -/
theorem handleSpeak_transcript
    (reached : (synthesisMachine runtime speakId fragments).Reaches WritesSucceed sent task) :
    ∃ first late count,
      SentUnder (transcript runtime.fragmentMessage (generateSineWave runtime.sample) speakId 0
        (speechItems fragments)) sent task first late count := by
  obtain ⟨rfl, holds⟩ := transcribed (fun _ _ allowed => allowed)
    (fun impossible : False => impossible.elim) reached
  obtain ⟨first, late, count, under, -⟩ := holds.sentUnder
  exact ⟨first, late, count, under⟩

/-- A word is spoken, in two parts, and the task cancelled behind it. -/
def cancelledBehindWord : List SynthesisAction :=
  [.task .transferRecord, .task .resume, .task .resume, .task (.transferAudio 4000),
    .task (.transferAudio 5600), .cancel, .task .resume, .task .transferRecord, .task .resume,
    .task .transferRecord, .task .resume]

/-- A runtime whose samples are silent. -/
def silentRuntime : ProviderRuntime where
  sample _ := 0
  fragmentMessage := ""

/-- The fragments of one word, as the engine sends them. -/
def oneWord : List Json :=
  [.object [("pitch", .numberInteger 0), ("rate", .numberInteger 0),
    ("source_offset", .numberUnsigned 0), ("text", .string "a"), ("volume", .numberUnsigned 100)]]

/-- The synthesis of one word. -/
def wordSynthesis : Machine SynthesisTask SynthesisAction Output :=
  synthesisMachine silentRuntime 1 oneWord

def wordTask : SynthesisTask := .handleSpeak silentRuntime 1 oneWord

/-- What is sent of the word when it is left alone. -/
def wordTranscript : List Output :=
  transcript "" (generateSineWave silentRuntime.sample) 1 0 (speechItems oneWord)

/-- What the run shows, evaluated once. -/
theorem cancelledBehindWord_possible :
    wordSynthesis.Along (fun task action _ =>
      CancelsWhole (generateSineWave silentRuntime.sample) task action) wordTask
      cancelledBehindWord ∧
    (wordSynthesis.exec wordTask cancelledBehindWord).isSome = true ∧
    (wordSynthesis.finalState wordTask cancelledBehindWord).isCompleted = true ∧
    (audioOf (wordSynthesis.emitted wordTask cancelledBehindWord)).length = 9600 := by
  decide +kernel

theorem cancelledBehindWord_run :
    wordSynthesis.Run (CancelsWhole (generateSineWave silentRuntime.sample)) wordTask
      (wordSynthesis.emitted wordTask cancelledBehindWord)
      (wordSynthesis.finalState wordTask cancelledBehindWord) := by
  obtain ⟨whole, possible, -⟩ := cancelledBehindWord_possible
  exact wordSynthesis.run_finalState wordTask cancelledBehindWord whole possible

theorem handleSpeak_transcript_cancelled :
    let sent := wordSynthesis.emitted wordTask cancelledBehindWord
    let task := wordSynthesis.finalState wordTask cancelledBehindWord
    task.isCompleted = true ∧ (audioOf sent).length = 9600 ∧
      ∃ first late count, SentUnder wordTranscript sent task first late count := by
  obtain ⟨-, -, completed, sound⟩ := cancelledBehindWord_possible
  have run := cancelledBehindWord_run.mono fun _ _ allowed => allowed.writesSucceed
  exact ⟨completed, sound, handleSpeak_transcript ⟨_, rfl, run⟩⟩

/-- **The late records acknowledge exactly what was written**, over every schedule on which
no cancellation comes when a buffer is partly written. -/
theorem handleSpeak_acknowledged
    (reached : (synthesisMachine runtime speakId fragments).Reaches
      (CancelsWhole (generateSineWave runtime.sample)) sent task) :
    ∃ first late,
      SentUnder (transcript runtime.fragmentMessage (generateSineWave runtime.sample) speakId 0
        (speechItems fragments)) sent task first late (audioOf first).length := by
  obtain ⟨rfl, holds⟩ := transcribed (fun _ _ allowed => allowed.writesSucceed)
    (fun (_ : True) _ _ allowed => allowed) reached
  obtain ⟨first, late, count, under, exact⟩ := holds.sentUnder
  rw [exact trivial] at under
  exact ⟨first, late, under⟩

theorem handleSpeak_acknowledged_cancelled :
    let sent := wordSynthesis.emitted wordTask cancelledBehindWord
    let task := wordSynthesis.finalState wordTask cancelledBehindWord
    task.isCompleted = true ∧ (audioOf sent).length = 9600 ∧
      ∃ first late, SentUnder wordTranscript sent task first late (audioOf first).length := by
  obtain ⟨-, -, completed, sound⟩ := cancelledBehindWord_possible
  exact ⟨completed, sound, handleSpeak_acknowledged ⟨_, rfl, cancelledBehindWord_run⟩⟩

end Schedules

end ModernSapi
