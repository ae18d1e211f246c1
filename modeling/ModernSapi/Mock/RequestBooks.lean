import ModernSapi.Mock.MockSession
import ModernSapi.Mock.Records

/-!
# A task and the books of its request

The books of a session say of a request how many bytes were committed, which terminal
records were sent, and the phase these led to. `KeepsBooks` says how they stand to the task
that serves the request. `KeepsBooks.step` is the argument: whatever the task hands over is
allowed by the lifecycle, and its books stay in step.
-/

set_option autoImplicit false

namespace ModernSapi

open Interleaving

/-- The phase of a request whose task has caught nothing. -/
def phaseOf (declared : Option ℕ) (written : ℕ) (cancelled : Bool) : RequestPhase :=
  match declared with
  | none => if cancelled then .cancelling else .active
  | some total => if cancelled ∧ written < total then .cancelling else .completionDeclared total

/-- How the books of a request stand to the task that serves it and to what it has sent. -/
inductive KeepsBooks (message : String) (wave : List UInt8) (items : List SpeechItem)
    (request : RequestSession) (sent : List Output) (task : SynthesisTask) : Prop where
  | speaking {declared : Option ℕ} {written : ℕ} {rest : List Output}
      (sends : Sends message wave task declared written rest)
      (parts : sent ++ rest = transcript message wave task.speakId 0 items)
      (count : (audioOf sent).length = written)
      (whole : task.cancelled = true → ¬task.PartlyWritten wave)
      (buffers : wave.length ∣ task.state.audioBytesWritten)
      (committed : request.committed = written)
      (terminals : request.terminals = (declared.map (completionEvent task.speakId)).toList)
      (phase : request.phase = phaseOf declared written task.cancelled)
  | caught {first late rest : List Output} (caught : Caught task rest)
      (cancelled : task.cancelled = true) (parts : sent = first ++ late)
      (cut : first <+: transcript message wave task.speakId 0 items)
      (records : late ++ rest = lateRecords task)
      (exact : task.state.audioBytesWritten = (audioOf first).length)
      (buffers : wave.length ∣ task.state.audioBytesWritten)
      (committed : request.committed = task.state.audioBytesWritten)
      (phase : rest ≠ [] → request.phase = .cancelling)
      (heard : request.phase ≠ .unknown)

/-- The books after something was handed over. -/
def RequestSession.take (request : RequestSession) : TaskOutput → RequestSession
  | .record json =>
      if (parseControlEvent json).isTerminal then request.declare (parseControlEvent json)
      else request
  | .audio bytes => request.commit bytes.length

/-- The lifecycle allows what is handed over, and a completion declares the given total. -/
def RequestSession.Allows (request : RequestSession) (speakId total : ℕ) : TaskOutput → Prop
  | .record json =>
      (parseControlEvent json).speakId = speakId ∧ (parseControlEvent json).type ≠ .log ∧
        WellFormedRecord 2 (parseControlEvent json) ∧
        ((parseControlEvent json).type = .synthesisComplete →
          request.phase = .active ∧
            request.committed ≤ (parseControlEvent json).terminalAudioBytes ∧
            (parseControlEvent json).terminalAudioBytes = total) ∧
        ((parseControlEvent json).type = .synthesisCancelled →
          request.phase = .cancelling ∧
            (parseControlEvent json).terminalAudioBytes = request.committed)
  | .audio bytes =>
      request.phase ≠ .unknown ∧ request.phase ≠ .cancelled ∧
        ∀ event ∈ request.terminals,
          request.committed + bytes.length ≤ event.terminalAudioBytes

section KeepsBooks

variable {runtime : ProviderRuntime} {message : String} {wave : List UInt8}
  {items : List SpeechItem} {request : RequestSession} {sent : List Output}
  {task next : SynthesisTask} {output : Option TaskOutput} {declared : Option ℕ} {written : ℕ}
  {rest : List Output}

theorem phaseOf_ne_unknown (declared : Option ℕ) (written : ℕ) (cancelled : Bool) :
    phaseOf declared written cancelled ≠ .unknown := by
  unfold phaseOf
  cases declared with
  | none => cases cancelled <;> simp
  | some total =>
      simp only
      split <;> simp

theorem phaseOf_ne_cancelled (declared : Option ℕ) (written : ℕ) (cancelled : Bool) :
    phaseOf declared written cancelled ≠ .cancelled := by
  unfold phaseOf
  cases declared with
  | none => cases cancelled <;> simp
  | some total =>
      simp only
      split <;> simp

theorem KeepsBooks.heard (served : KeepsBooks message wave items request sent task) :
    request.phase ≠ .unknown := by
  cases served with
  | speaking _ _ _ _ _ _ _ phase =>
      rw [phase]
      exact phaseOf_ne_unknown _ _ _
  | caught _ _ _ _ _ _ _ _ _ heard => exact heard

/-- What is declared is what is written and what is left. -/
theorem Sends.sum (sends : Sends message wave task declared written rest) {total : ℕ}
    (here : declared = some total) : written + (audioOf rest).length = total := by
  have undeclared (none : declared = none) : False := by
    rw [none] at here
    cases here
  cases sends with
  | stalled _ _ _ none | wordBoundary _ _ _ none | wordDelay _ _ _ none | firstAudio _ _ _ _ none
  | bookmark _ _ _ _ none | completing _ _ _ none | refused _ _ none => exact (undeclared none).elim
  | @completion spoken state place pending sum count left =>
      rw [here, Option.some.injEq] at sum
      rw [sum, count, left, audioOf_audioOutputs, state.written]
      simp only [soundOf, List.length_flatten, List.map_replicate, List.sum_replicate, smul_eq_mul]
      split
      · next first => simp [first]
      · next some =>
          obtain ⟨words, rfl⟩ := Nat.exists_eq_succ_of_ne_zero some
          rw [Nat.succ_sub_one, Nat.succ_mul, Nat.add_comm]
  | @bufferedAudio buffers done unsent place pending parts sum count left =>
      rw [here, Option.some.injEq] at sum
      have length : wave.length = done.length + unsent.length := by
        rw [parts, List.length_append]
      rw [sum, count, left, audioOf_append, List.length_append, audioOf_audioOutputs,
        audioOf_audioOutputs]
      simp only [soundOf, List.length_flatten, List.map_replicate, List.sum_replicate, smul_eq_mul,
        Nat.succ_mul]
      omega
  | completed _ _ _ sum left =>
      rcases sum with none | some
      · exact (undeclared none).elim
      · rw [here, Option.some.injEq] at some
        rw [left, some]
        rfl

/-- Nothing but an error is handed over under a cancelled token. -/
theorem Sends.uncancelled {action : TaskAction} {output : TaskOutput}
    (sends : Sends message wave task declared written rest) (succeeds : action.Succeeds)
    (taken : task.step runtime action = some (next, some output))
    (noLog : ∀ json, output = .record json → (parseControlEvent json).type ≠ .log) :
    task.cancelled = false := by
  have usesToken : task.place.usesToken = true ∧ task.transfers = true := by
    cases action with
    | transferRecord =>
        obtain ⟨json, here, transfers, -, same⟩ := transferRecord_spec taken
        refine ⟨?_, transfers⟩
        cases sends with
        | refused place pending =>
            have log := pending.eq_of_record here
            rw [Option.some.injEq] at same
            exact absurd (by rw [log]; rfl) (noLog json same)
        | completed _ pending | stalled _ _ pending | wordDelay _ _ pending
        | firstAudio _ _ pending | completion _ _ pending | bufferedAudio _ pending =>
            rw [pending] at here
            cases here
        | wordBoundary _ place | bookmark _ _ place | completing _ place =>
            rw [place]
            rfl
    | transferAudio count =>
        obtain ⟨_, here, transfers, -⟩ := transferAudio_spec taken
        exact ⟨sends.usesToken here, transfers⟩
    | resume =>
        simp only [SynthesisTask.step] at taken
        split at taken
        · cases taken
        · cases taken
        · split at taken <;> cases taken
    | resumeCancelled =>
        simp only [SynthesisTask.step] at taken
        split at taken <;> cases taken
    | resumeFailed => exact succeeds.elim
  obtain ⟨token, transfers⟩ := usesToken
  rw [SynthesisTask.transfers, token] at transfers
  simpa using transfers

/-- A record that is sent of a transcript is one of its records. -/
theorem WithinBounds.record {json : Json} {left : List Output}
    (bounds : WithinBounds wave items task.speakId)
    (parts : sent ++ (.record json :: left) = transcript message wave task.speakId 0 items) :
    SpeechRecord wave task.speakId items items.length json := by
  have member : .record json ∈ transcript message wave task.speakId 0 items := by
    rw [← parts]
    exact List.mem_append_right _ List.mem_cons_self
  have record := transcript_records bounds.readable member
  rw [Nat.zero_add] at record
  exact record

/-- Some of what a transcript has in sound fits a count. -/
theorem WithinBounds.audio {first : List Output} (bounds : WithinBounds wave items task.speakId)
    (cut : first <+: transcript message wave task.speakId 0 items) :
    (audioOf first).length < 2 ^ 64 := by
  obtain ⟨rest, whole⟩ := cut
  have all := (transcript_sound message wave task.speakId items).length_le
  rw [← whole, audioOf_append, List.length_append, soundOf_length] at all
  have words := Nat.mul_le_mul_right wave.length (spokenWords_le items)
  have := bounds.bytes
  omega

/-- The bytes counted as written are whole buffers. -/
theorem Sends.step_buffers {action : TaskAction}
    (sends : Sends message (generateSineWave runtime.sample) task declared written rest)
    (taken : task.step runtime action = some (next, output))
    (buffers : (generateSineWave runtime.sample).length ∣ task.state.audioBytesWritten) :
    (generateSineWave runtime.sample).length ∣ next.state.audioBytesWritten := by
  have buffer : (generateSineWave runtime.sample).length ∣ (task.place.buffer runtime).length := by
    cases sends with
    | firstAudio _ place | bufferedAudio place =>
        rw [place]
        exact dvd_rfl
    | refused place | completed place | stalled _ place | wordBoundary _ place
    | wordDelay _ place | bookmark _ _ place | completing _ place | completion _ place =>
        rw [place]
        exact dvd_zero _
  rcases (SynthesisTask.step_sameTask taken).2 with same | more
  · exact same ▸ buffers
  · exact more ▸ Nat.dvd_add buffers buffer

/-- What hands over one record is that record. -/
theorem output_of_handedOver {output : TaskOutput} {json : Json}
    (one : handedOver (some output) = [.record json]) : output = .record json := by
  cases output with
  | record other =>
      have same := List.head_eq_of_cons_eq one
      rw [Output.record.inj same]
  | audio bytes =>
      have member : .record json ∈ audioOutputs bytes := by
        change audioOutputs bytes = _ at one
        rw [one]
        exact List.mem_singleton_self _
      obtain ⟨_, -, other⟩ := List.mem_map.mp member
      cases other

/-- **A task that has caught nothing hands over what the lifecycle allows, and its books
stay in step.** -/
theorem KeepsBooks.speaking_step {action : TaskAction}
    (bounds : WithinBounds (generateSineWave runtime.sample) items task.speakId)
    (sends : Sends runtime.fragmentMessage (generateSineWave runtime.sample) task declared written
      rest)
    (parts : sent ++ rest = transcript runtime.fragmentMessage (generateSineWave runtime.sample)
      task.speakId 0 items)
    (count : (audioOf sent).length = written)
    (whole : task.cancelled = true → ¬task.PartlyWritten (generateSineWave runtime.sample))
    (buffers : (generateSineWave runtime.sample).length ∣ task.state.audioBytesWritten)
    (committed : request.committed = written)
    (terminals : request.terminals = (declared.map (completionEvent task.speakId)).toList)
    (phase : request.phase = phaseOf declared written task.cancelled)
    (succeeds : action.Succeeds) (taken : task.step runtime action = some (next, output)) :
    (∀ some ∈ output, request.Allows task.speakId
        (spokenWords items * (generateSineWave runtime.sample).length) some) ∧
      KeepsBooks runtime.fragmentMessage (generateSineWave runtime.sample) items
        (output.elim request request.take) (sent ++ handedOver output) next := by
  have same := (SynthesisTask.step_sameTask taken).1
  have stays : next.cancelled = true → ¬next.PartlyWritten (generateSineWave runtime.sample) :=
    fun cancelled => sends.step_whole succeeds taken (same.cancelled ▸ cancelled)
  have stillBuffers := sends.step_buffers taken buffers
  have before := sends
  cases sends.step succeeds taken with
  | catches cancelled silent within exact unfinished caught =>
      cases output with
      | some output =>
          have uncancelled := before.uncancelled succeeds taken fun json here => by
            rw [here] at silent
            cases silent
          rw [cancelled] at uncancelled
          cases uncancelled
      | none =>
          have acknowledged := exact (whole cancelled)
          have all : sent ++ handedOver none = sent ++ [] := rfl
          refine ⟨by simp, ?_⟩
          refine .caught caught (same.cancelled.trans cancelled) all ?_ rfl ?_ stillBuffers ?_ ?_ ?_
          · rw [same.speakId, ← parts]
            exact List.prefix_append ..
          · rw [acknowledged, count]
          · exact committed.trans acknowledged.symm
          · intro _
            rw [Option.elim_none, phase, cancelled]
            unfold phaseOf
            split
            · rfl
            · next total => exact if_pos ⟨rfl, unfinished bounds.sounds total rfl⟩
          · rw [Option.elim_none, phase]
            exact phaseOf_ne_unknown _ _ _
  | @declares total left split record undeclared within after =>
      cases output with
      | none => cases record
      | some output =>
          have json := output_of_handedOver record
          subst json
          rw [record] at split
          rw [split] at parts
          have declares := bounds.record parts
          have fits : total < 2 ^ 64 := declares.complete_lt bounds
          have member : .record (synthesisCompleteRecord task.speakId total) ∈
              transcript runtime.fragmentMessage (generateSineWave runtime.sample) task.speakId 0
                items := by
            rw [← parts]
            exact List.mem_append_right _ List.mem_cons_self
          have all := transcript_complete member
          rw [Nat.zero_add] at all
          have wellFormed := (declares.read bounds).2.2.2
          have read := read_synthesisComplete bounds.bounded fits
          rw [read] at wellFormed
          have uncancelled := before.uncancelled succeeds taken fun other here => by
            rw [TaskOutput.record.injEq] at here
            rw [← here]
            exact (declares.read bounds).2.1
          have active : request.phase = .active := by
            rw [phase, undeclared, uncancelled]
            rfl
          refine ⟨?_, .speaking after ?_ ?_ stays stillBuffers ?_ ?_ ?_⟩
          · intro some here
            cases here
            refine ⟨?_, ?_, ?_, ?_, ?_⟩
            · rw [read]
              rfl
            · rw [read]
              simp [completionEvent]
            · rw [read]
              exact wellFormed
            · rw [read]
              exact fun _ => ⟨active, committed ▸ within, all⟩
            · rw [read]
              exact fun other => by cases other
          · rw [same.speakId, List.append_assoc, record]
            exact parts
          · rw [record, audioOf_append, List.length_append, count]
            rfl
          · simp [RequestSession.take, read, completionEvent, ProviderControlEvent.isTerminal,
              ProviderEventType.isTerminal, committed]
          · simp [RequestSession.take, read, completionEvent, ProviderControlEvent.isTerminal,
              ProviderEventType.isTerminal, terminals, undeclared, same.speakId]
          · simp [RequestSession.take, read, completionEvent, ProviderControlEvent.isTerminal,
              ProviderEventType.isTerminal, active, RequestSession.declare, phaseOf, same.cancelled,
              uncancelled]
  | @hands left split after quiet =>
      cases output with
      | none =>
          refine ⟨by simp, .speaking after ?_ ?_ stays stillBuffers ?_ ?_ ?_⟩
          · rw [same.speakId, List.append_assoc, ← split, parts]
          · rw [audioOf_append, List.length_append, count]
          · exact committed
          · rw [same.speakId]
            exact terminals
          · rw [same.cancelled]
            exact phase
      | some output =>
          cases output with
          | record json =>
              have whole : sent ++ (.record json :: left) = transcript runtime.fragmentMessage
                  (generateSineWave runtime.sample) task.speakId 0 items := by
                rw [← parts, split]
                rfl
              have read := (bounds.record whole).read bounds
              have notTerminal : (parseControlEvent json).isTerminal = false :=
                quiet json (List.mem_singleton_self _)
              have silent : audioOf (handedOver (some (.record json))) = [] := rfl
              refine ⟨?_, .speaking after ?_ ?_ stays stillBuffers ?_ ?_ ?_⟩
              · intro some here
                cases here
                refine ⟨read.1, read.2.1, read.2.2.2, fun complete => ?_,
                  fun other => absurd other read.2.2.1⟩
                rw [ProviderControlEvent.isTerminal, complete] at notTerminal
                cases notTerminal
              · rw [same.speakId, List.append_assoc, ← split, parts]
              · rw [audioOf_append, List.length_append, count]
              · simpa [RequestSession.take, notTerminal, silent] using committed
              · simpa [RequestSession.take, notTerminal, same.speakId] using terminals
              · simpa [RequestSession.take, notTerminal, same.cancelled, silent] using phase
          | audio bytes =>
              have uncancelled := before.uncancelled succeeds taken fun _ here => by cases here
              have length : (audioOf (handedOver (some (.audio bytes)))).length = bytes.length :=
                congrArg List.length (audioOf_audioOutputs bytes)
              refine ⟨?_, .speaking after ?_ ?_ stays stillBuffers ?_ ?_ ?_⟩
              · intro some here
                cases here
                refine ⟨?_, ?_, fun event member => ?_⟩
                · rw [phase]
                  exact phaseOf_ne_unknown _ _ _
                · rw [phase]
                  exact phaseOf_ne_cancelled _ _ _
                · rw [terminals] at member
                  cases declared with
                  | none => cases member
                  | some total =>
                      have sum := after.sum rfl
                      rw [length] at sum
                      rw [List.mem_singleton.mp member, committed]
                      change written + bytes.length ≤ total
                      omega
              · rw [same.speakId, List.append_assoc, ← split, parts]
              · rw [audioOf_append, List.length_append, count]
              · rw [length]
                exact congrArg (· + bytes.length) committed
              · rw [same.speakId]
                exact terminals
              · rw [same.cancelled, uncancelled]
                rw [uncancelled] at phase
                refine phase.trans ?_
                cases declared <;> rfl

/-- The first of what is left of the late records. -/
theorem lateRecords_cases {late left : List Output} {json : Json}
    (records : late ++ (.record json :: left) = lateRecords task) :
    (json = lateSentenceBoundaryRecord task.speakId ∧ left ≠ []) ∨
      (json = synthesisCancelledRecord task.speakId task.state.audioBytesWritten ∧ left = []) := by
  rcases late with - | ⟨first, - | ⟨second, more⟩⟩
  · rw [lateRecords, List.nil_append, List.cons.injEq, Output.record.injEq] at records
    exact .inl ⟨records.1, by rw [records.2]; simp⟩
  · rw [lateRecords, List.cons_append, List.nil_append, List.cons.injEq, List.cons.injEq,
      Output.record.injEq] at records
    exact .inr records.2
  · have length := congrArg List.length records
    simp [lateRecords] at length

/-- **After a caught cancellation the task acknowledges what was committed, and its books
stay in step.** -/
theorem KeepsBooks.caught_step {action : TaskAction} {first late rest : List Output}
    (bounds : WithinBounds wave items task.speakId) (caught : Caught task rest)
    (cancelled : task.cancelled = true) (parts : sent = first ++ late)
    (cut : first <+: transcript message wave task.speakId 0 items)
    (records : late ++ rest = lateRecords task)
    (exact : task.state.audioBytesWritten = (audioOf first).length)
    (buffers : wave.length ∣ task.state.audioBytesWritten)
    (committed : request.committed = task.state.audioBytesWritten)
    (phase : rest ≠ [] → request.phase = .cancelling) (heard : request.phase ≠ .unknown)
    (succeeds : action.Succeeds) (taken : task.step runtime action = some (next, output)) :
    (∀ some ∈ output, request.Allows task.speakId (spokenWords items * wave.length) some) ∧
      KeepsBooks message wave items (output.elim request request.take) (sent ++ handedOver output)
        next := by
  have same := (SynthesisTask.step_sameTask taken).1
  obtain ⟨⟨left, split, caught⟩, state, noAudio⟩ := caught.step succeeds taken
  have sameRecords : lateRecords next = lateRecords task := by
    rw [lateRecords, same.speakId, state]
    rfl
  have more : sent ++ handedOver output = first ++ (late ++ handedOver output) := by
    rw [parts, List.append_assoc]
  have follows : late ++ handedOver output ++ left = lateRecords next := by
    rw [List.append_assoc, ← split, sameRecords]
    exact records
  have stillCut : first <+: transcript message wave next.speakId 0 items := by
    rw [same.speakId]
    exact cut
  have build {books : RequestSession} (committed : books.committed = task.state.audioBytesWritten)
      (phase : left ≠ [] → books.phase = .cancelling) (heard : books.phase ≠ .unknown) :
      KeepsBooks message wave items books (sent ++ handedOver output) next :=
    .caught caught (same.cancelled.trans cancelled) more stillCut follows (by rw [state, exact])
      (by rw [state]; exact buffers) (by rw [state, committed]) phase heard
  cases output with
  | none => exact ⟨by simp, build committed (fun some => phase (by rw [split]; exact some)) heard⟩
  | some output =>
      cases output with
      | audio bytes => exact absurd rfl (noAudio bytes)
      | record json =>
          have nonempty : rest ≠ [] := by
            rw [split]
            exact List.cons_ne_nil _ _
          have cancelling := phase nonempty
          rw [split] at records
          rcases lateRecords_cases records with ⟨rfl, some⟩ | ⟨rfl, none⟩
          · have read := read_lateSentenceBoundary bounds.bounded
            have notTerminal : (parseControlEvent
                (lateSentenceBoundaryRecord task.speakId)).isTerminal = false := by
              rw [read]
              rfl
            refine ⟨?_, ?_⟩
            · intro output here
              cases here
              simp [RequestSession.Allows, read, WellFormedRecord, bounds.positive,
                ProviderControlEvent.isTerminal, ProviderEventType.isTerminal]
            · simp only [Option.elim_some, RequestSession.take, notTerminal, Bool.false_eq_true,
                if_false]
              exact build committed (fun _ => cancelling) heard
          · have fits : task.state.audioBytesWritten < 2 ^ 64 := exact ▸ bounds.audio cut
            have read := read_synthesisCancelled bounds.bounded fits
            refine ⟨?_, ?_⟩
            · intro output here
              cases here
              have frames := bounds.frames.trans buffers
              simp [RequestSession.Allows, read, acknowledgementEvent, cancelling, committed,
                WellFormedRecord, bounds.positive, frames, ProviderControlEvent.isSpeechBoundary,
                ProviderEventType.isSpeechBoundary]
            · have terminal : (acknowledgementEvent task.speakId
                  task.state.audioBytesWritten).isTerminal = true := rfl
              simp only [Option.elim_some, RequestSession.take, read, terminal, if_true]
              refine build committed (fun some => ?_) ?_
              · exact absurd none some
              · exact mt (RequestSession.declare_phase_eq_unknown _).mp heard

/-- **Whatever a task hands over is allowed by the lifecycle, and its books stay in
step.** -/
theorem KeepsBooks.step {action : TaskAction}
    (bounds : WithinBounds (generateSineWave runtime.sample) items task.speakId)
    (served : KeepsBooks runtime.fragmentMessage (generateSineWave runtime.sample) items request sent
      task)
    (succeeds : action.Succeeds) (taken : task.step runtime action = some (next, output)) :
    (∀ some ∈ output, request.Allows task.speakId
        (spokenWords items * (generateSineWave runtime.sample).length) some) ∧
      KeepsBooks runtime.fragmentMessage (generateSineWave runtime.sample) items
        (output.elim request request.take) (sent ++ handedOver output) next := by
  cases served with
  | speaking sends parts count whole buffers committed terminals phase =>
      exact KeepsBooks.speaking_step bounds sends parts count whole buffers committed terminals phase
        succeeds taken
  | caught caught cancelled parts cut records exact buffers committed phase heard =>
      exact KeepsBooks.caught_step bounds caught cancelled parts cut records exact buffers committed
        phase heard succeeds taken

/-- The request a task begins with. -/
theorem KeepsBooks.begin {request : RequestSession} (speakId : ℕ) (fragments : List Json)
    (phase : request.phase = .unknown) (committed : request.committed = 0)
    (terminals : request.terminals = []) :
    KeepsBooks runtime.fragmentMessage (generateSineWave runtime.sample) (speechItems fragments)
      request.receiveSpeak [] (.handleSpeak runtime speakId fragments) := by
  let begun : SynthesisTask := { speakId, place := .completed, pending := .nothing }
  have same := SameCount.synthesizeFragments runtime.fragmentMessage begun fragments
  have state : SpokenState (generateSineWave runtime.sample) 0 begun.state :=
    ⟨rfl, (Nat.zero_mul _).symm, rfl, rfl, rfl⟩
  have uncancelled : (SynthesisTask.handleSpeak runtime speakId fragments).cancelled = false :=
    same.cancelled
  refine .speaking (.fragments rfl state fragments) ?_ rfl ?_ ?_ committed terminals ?_
  · rw [SynthesisTask.handleSpeak, same.speakId]
    rfl
  · rw [uncancelled]
    exact fun other => by cases other
  · rw [SynthesisTask.handleSpeak, same.counted]
    exact dvd_zero _
  · rw [uncancelled]
    simp [RequestSession.receiveSpeak, phase, phaseOf]

/-- **A cancel of the request is in the books as it is in the task**, when no buffer is
partly written. -/
theorem KeepsBooks.cancel (served : KeepsBooks message wave items request sent task)
    (whole : ¬task.PartlyWritten wave) :
    KeepsBooks message wave items request.receiveCancel sent { task with cancelled := true } := by
  cases served with
  | @speaking declared written rest sends parts count _ buffers committed terminals phase =>
      refine .speaking sends.cancel parts count (fun _ => whole) buffers committed terminals ?_
      cases declared with
      | none =>
          cases flag : task.cancelled with
          | false => simp [RequestSession.receiveCancel, phase, flag, phaseOf]
          | true => simp [RequestSession.receiveCancel, phase, flag, phaseOf]
      | some total =>
          cases flag : task.cancelled with
          | false => simp [RequestSession.receiveCancel, phase, flag, phaseOf, committed]
          | true =>
              by_cases within : written < total
              · simp [RequestSession.receiveCancel, phase, flag, phaseOf, within]
              · simp [RequestSession.receiveCancel, phase, flag, phaseOf, committed, within]
  | caught caught cancelled parts cut records exact buffers committed phase heard =>
      have same : ({ task with cancelled := true } : SynthesisTask) = task := by
        rw [← cancelled]
      rw [same]
      refine .caught caught cancelled parts cut records exact buffers committed (fun some => ?_) ?_
      · simp [RequestSession.receiveCancel, phase some]
      · exact mt RequestSession.receiveCancel_phase_eq_unknown.mp heard

end KeepsBooks

end ModernSapi
