import ModernSapi.V1.CacheIntegrity

/-!
# The cache file restores the cache

The file is read by the steps it is written by: each field, each event and each record is
read back by the reader of its own (`reads_event`, `reads_events`, `reads_record`,
`reads_records`), whatever follows it in the file. A string, a buffer and a list of events
stand behind their 32-bit length, so all of them must be shorter than 2^32.

The snapshot that is saved lists the keys in the order of the list, and a load adds the
records at the back, so the order comes back too (`cache_round_trip`).
-/

set_option autoImplicit false

namespace ModernSapi

open Interleaving ByteStream ByteStream.Layout

/-! ## What is read back -/

/-- An event as it is read back. Its padding is zero again, and an empty string is none. -/
def ProviderSpeechEvent.readBack (event : ProviderSpeechEvent) : ProviderSpeechEvent :=
  { event with
    reserved := 0
    stringData := if event.string = [] then none else event.stringData }

/-- A payload as it is read back. Its store holds the strings of its events. -/
def CachePayload.readBack (payload : CachePayload) : CachePayload where
  audioData := payload.audioData
  events := payload.events.map ProviderSpeechEvent.readBack
  stringStore := (payload.events.map ProviderSpeechEvent.string).filter (· ≠ [])

def CacheRecord.readBack (record : CacheRecord) : CacheRecord := (record.1, record.2.readBack)

/-- The strings and the audio of a record are shorter than 2^32. -/
structure CacheRecord.Short (record : CacheRecord) : Prop where
  voiceName : record.1.voiceName.length < 2 ^ 32
  text : record.1.text.length < 2 ^ 32
  audioData : record.2.audioData.length < 2 ^ 32
  strings : ∀ event ∈ record.2.events, event.string.length < 2 ^ 32

/-- A record of fewer than 2^32 events. -/
def CacheRecord.FewEvents (record : CacheRecord) : Prop := record.2.events.length < 2 ^ 32

/-! ## Reading what was written -/

/-- The payload after one more event was read. -/
def CachePayload.add (payload : CachePayload) (event : ProviderSpeechEvent) : CachePayload :=
  { payload with
    events := payload.events ++ [event.readBack]
    stringStore := payload.stringStore ++ [event.string].filter (· ≠ []) }

variable {event : ProviderSpeechEvent} {events : List ProviderSpeechEvent}
  {payload : CachePayload} {record : CacheRecord} {records : List CacheRecord}

@[ext] theorem TerminatedString.ext {first second : TerminatedString}
    (same : first.units = second.units) : first = second := by
  cases first
  cases second
  cases same
  rfl

/-- An event that has a string points at it. -/
theorem stringData_of_string (filled : event.string ≠ []) :
    event.stringData = some (cStr event.string) := by
  unfold ProviderSpeechEvent.string at filled ⊢
  cases points : event.stringData with
  | none => simp [points] at filled
  | some string => exact congrArg some (TerminatedString.ext (units_cStr string.noNul).symm)

theorem add_of_empty (payload : CachePayload) (empty : event.string = []) :
    payload.add event =
      { payload with
        events := payload.events ++ [⟨event.eventType, event.textOffset, event.textLength, 0,
          event.audioByteOffset, none⟩] } := by
  simp [CachePayload.add, ProviderSpeechEvent.readBack, empty]

theorem add_of_filled (payload : CachePayload) (filled : event.string ≠ []) :
    payload.add event =
      { payload with
        stringStore := payload.stringStore ++ [event.string]
        events := payload.events ++ [⟨event.eventType, event.textOffset, event.textLength, 0,
          event.audioByteOffset, some (cStr event.string)⟩] } := by
  simp [CachePayload.add, ProviderSpeechEvent.readBack, filled, stringData_of_string filled]

theorem reads_event (payload : CachePayload) (short : event.string.length < 2 ^ 32) :
    Reads (readEvent payload) (saveEvent event) (payload.add event) := by
  unfold readEvent saveEvent
  simp only [List.append_assoc]
  refine (Reads.read uint32 0 event.eventType).bind ?_
  refine (Reads.read uint32 0 event.textOffset).bind ?_
  refine (Reads.read uint32 0 event.textLength).bind ?_
  refine (Reads.read uint64 0 event.audioByteOffset).bind ?_
  refine (Reads.readCounted uint16 short).bind_nil ?_
  by_cases empty : event.string = []
  · have noLength : ¬ event.string.length > 0 := by simp [empty]
    rw [if_neg noLength, add_of_empty payload empty]
    exact Reads.pure _
  · rw [if_pos (List.length_pos_of_ne_nil empty), add_of_filled payload empty]
    exact Reads.pure _

/-- The events of a payload, one after the other. -/
theorem reads_events (payload : CachePayload)
    (short : ∀ event ∈ events, event.string.length < 2 ^ 32) :
    Reads (readEvents events.length payload) (events.flatMap saveEvent)
      (events.foldl CachePayload.add payload) := by
  induction events generalizing payload with
  | nil => exact Reads.pure payload
  | cons event events ih =>
      rw [List.length_cons, List.flatMap_cons, List.foldl_cons]
      exact (reads_event payload (short event List.mem_cons_self)).bind
        (ih (payload.add event) fun other member => short other (List.mem_cons_of_mem _ member))

theorem foldl_add (events : List ProviderSpeechEvent) (payload : CachePayload) :
    events.foldl CachePayload.add payload =
      { payload with
        events := payload.events ++ events.map ProviderSpeechEvent.readBack
        stringStore := payload.stringStore ++
          (events.map ProviderSpeechEvent.string).filter (· ≠ []) } := by
  induction events generalizing payload with
  | nil => simp
  | cons event events ih =>
      rw [List.foldl_cons, ih]
      simp only [CachePayload.add, List.map_cons, List.append_assoc, List.singleton_append,
        List.filter_cons, List.filter_nil]
      split <;> simp

theorem reads_record (memory : KeyMemory) (short : CacheRecord.Short record)
    (few : CacheRecord.FewEvents record) :
    Reads (readRecord memory) (saveRecord record) (CacheRecord.readBack record) := by
  unfold readRecord saveRecord
  simp only [List.append_assoc]
  refine (Reads.readCounted uint16 short.voiceName).bind ?_
  refine (Reads.read int32 memory.rate _).bind ?_
  refine (Reads.read int32 memory.pitch _).bind ?_
  refine (Reads.read int32 memory.volume _).bind ?_
  refine (Reads.readCounted uint16 short.text).bind ?_
  refine (Reads.readCounted uint8 short.audioData).bind ?_
  refine (Reads.read uint32 0 _).bind ?_
  rw [Reads.toNat_count few]
  refine (reads_events _ short.strings).bind_nil ?_
  rw [foldl_add]
  exact Reads.pure _

/-- The records of a file, one after the other. -/
theorem reads_records (memory : ℕ → KeyMemory) (index : ℕ)
    (short : ∀ record ∈ records, CacheRecord.Short record)
    (few : ∀ record ∈ records, CacheRecord.FewEvents record) :
    Reads (readRecords memory index records.length) (records.flatMap saveRecord)
      (records.map CacheRecord.readBack) := by
  induction records generalizing index with
  | nil => exact Reads.pure []
  | cons record records ih =>
      rw [List.length_cons, List.flatMap_cons, List.map_cons]
      refine (reads_record (memory index) (short record List.mem_cons_self)
        (few record List.mem_cons_self)).bind ?_
      refine (ih (index + 1) (fun other member => short other (List.mem_cons_of_mem _ member))
        fun other member => few other (List.mem_cons_of_mem _ member)).bind_nil ?_
      exact Reads.pure _

/-- The records of a file stand behind its header and their count. -/
theorem recordsFound_of_readRecords {memory : ℕ → KeyMemory} {bytes : List UInt8}
    (count : records.length < 2 ^ 32) {found : List CacheRecord}
    (bytesAre : records.flatMap saveRecord = bytes)
    (reads : (readRecords memory 0 records.length ⟨bytes, true⟩).1 = found) :
    recordsFound (some (saveRecords records)) memory = some found := by
  have number : (UInt32.ofNat records.length).toNat = records.length := Reads.toNat_count count
  unfold recordsFound fileRecords saveRecords
  simp only [List.append_assoc]
  rw [bind_apply, Reads.read uint32 0 cacheMagic _]
  simp only [ne_eq, not_true_eq_false, if_false]
  rw [bind_apply, Reads.read uint32 0 cacheVersion _]
  simp only [not_true_eq_false, if_false]
  rw [bind_apply, Reads.read uint32 0 _ _, bind_apply, pure_apply, number, bytesAre, reads]

/-- **A saved file holds the records that were saved.** -/
theorem recordsFound_saveRecords (memory : ℕ → KeyMemory) (count : records.length < 2 ^ 32)
    (short : ∀ record ∈ records, CacheRecord.Short record)
    (few : ∀ record ∈ records, CacheRecord.FewEvents record) :
    recordsFound (some (saveRecords records)) memory =
      some (records.map CacheRecord.readBack) := by
  refine recordsFound_of_readRecords count (List.append_nil _).symm ?_
  rw [reads_records memory 0 short few []]

/-! ## The cache that is restored -/

namespace PcmCache

/-- The payload cached for a key. -/
def payloadOf (cache : PcmCache) (key : CacheKey) : Option CachePayload :=
  (cache.cacheMap.lookup key).map Prod.fst

/-- Whatever cache loads the file that is saved for this one gets its keys in their order
and its payloads. -/
def RoundTrips (cache : PcmCache) : Prop :=
  ∀ (memory : ℕ → KeyMemory) (other : PcmCache),
    (other.loadFromDisk (some cache.saveToDisk) memory).keys = cache.keys ∧
      ∀ key, (other.loadFromDisk (some cache.saveToDisk) memory).payloadOf key =
        (cache.payloadOf key).map CachePayload.readBack

variable {cache : PcmCache} {key : CacheKey}

theorem snapshot_eq (cache : PcmCache) :
    cache.snapshot = cache.keys.filterMap fun key => (cache.payloadOf key).map (Prod.mk key) := by
  unfold snapshot payloadOf keys
  congr 1
  funext key
  cases cache.cacheMap.lookup key <;> rfl

theorem Linked.payloadOf_isSome (linked : cache.Linked) (member : key ∈ cache.keys) :
    ∃ payload, cache.payloadOf key = some payload := by
  obtain ⟨payload, iterator, found⟩ := lookup_of_mem ((linked.sameKeys key).mp member)
  exact ⟨payload, by rw [payloadOf, found]; rfl⟩

theorem Linked.payloadOf_eq_none (linked : cache.Linked) (absent : key ∉ cache.keys) :
    cache.payloadOf key = none := by
  rw [payloadOf, Finmap.lookup_eq_none.mpr (mt (linked.sameKeys key).mpr absent)]
  rfl

/-- The snapshot has an entry for each key, in the order of the list. -/
theorem Linked.keys_snapshot (linked : cache.Linked) :
    cache.snapshot.map Prod.fst = cache.keys := by
  have each : ∀ key ∈ cache.keys, ∃ payload, cache.payloadOf key = some payload :=
    fun key member => linked.payloadOf_isSome member
  rw [snapshot_eq]
  generalize cache.keys = keys at each ⊢
  induction keys with
  | nil => rfl
  | cons key keys ih =>
      obtain ⟨payload, found⟩ := each key List.mem_cons_self
      rw [List.filterMap_cons, found, Option.map_some, List.map_cons,
        ih fun other member => each other (List.mem_cons_of_mem _ member)]

theorem mem_snapshot {payload : CachePayload} :
    (key, payload) ∈ cache.snapshot ↔ key ∈ cache.keys ∧ cache.payloadOf key = some payload := by
  rw [snapshot_eq, List.mem_filterMap]
  constructor
  · rintro ⟨other, member, found⟩
    obtain ⟨stored, payloadFound, same⟩ := Option.map_eq_some_iff.mp found
    cases same
    exact ⟨member, payloadFound⟩
  · rintro ⟨member, found⟩
    exact ⟨key, member, by rw [found]; rfl⟩

/-- A record that is added with a new key is found under it, and hides nothing. -/
theorem payloadOf_insertBack (cache : PcmCache) (record : CacheRecord)
    (absent : record.1 ∉ cache.cacheMap) :
    (cache.insertBack record).payloadOf key =
      if key = record.1 then some record.2 else cache.payloadOf key := by
  simp only [payloadOf, PcmCache.insertBack, emplace_of_notMem absent]
  by_cases same : key = record.1
  · subst same
    rw [Finmap.lookup_insert, if_pos rfl]
    rfl
  · rw [Finmap.lookup_insert_of_ne _ same, if_neg same]

theorem mem_of_payloadOf {payload : CachePayload} (found : cache.payloadOf key = some payload) :
    key ∈ cache.cacheMap := by
  rw [← Finmap.lookup_isSome, ← Option.isSome_map (f := Prod.fst)]
  exact Option.isSome_iff_exists.mpr ⟨payload, found⟩

/-- Records with new and different keys are all found after they were added, and what was
cached before is still found. -/
theorem payloadOf_foldl_insertBack {payload : CachePayload} (linked : cache.Linked)
    (distinct : (cache.keys ++ records.map Prod.fst).Nodup)
    (before : cache.payloadOf key = some payload ∨ (key, payload) ∈ records) :
    (records.foldl insertBack cache).payloadOf key = some payload := by
  induction records generalizing cache with
  | nil => simpa using before
  | cons record records ih =>
      have absent := linked.absent distinct
      rw [List.foldl_cons]
      refine ih (linked.insertBack absent) ?_ ?_
      · rw [keys_insertBack, List.append_assoc]
        exact distinct
      · rw [payloadOf_insertBack cache record absent]
        rcases before with cached | recorded
        · have differs : key ≠ record.1 := fun same => absent (same ▸ mem_of_payloadOf cached)
          rw [if_neg differs]
          exact .inl cached
        · rcases List.mem_cons.mp recorded with rfl | later
          · exact .inl (if_pos rfl)
          · exact .inr later

/-- A file that holds the records of the snapshot as they are read back restores the cache. -/
theorem Linked.restores (linked : cache.Linked) (other : PcmCache)
    {file : Option (List UInt8)} {memory : ℕ → KeyMemory}
    (found : recordsFound file memory = some (cache.snapshot.map CacheRecord.readBack)) :
    (other.loadFromDisk file memory).keys = cache.keys ∧
      ∀ key, (other.loadFromDisk file memory).payloadOf key =
        (cache.payloadOf key).map CachePayload.readBack := by
  have sameKeys : (cache.snapshot.map CacheRecord.readBack).map Prod.fst = cache.keys := by
    rw [List.map_map, ← linked.keys_snapshot]
    rfl
  have keysAfter := (keys_load other (cache.snapshot.map CacheRecord.readBack)).trans sameKeys
  have distinct : ((cache.snapshot.map CacheRecord.readBack).map Prod.fst).Nodup :=
    sameKeys ▸ linked.distinct
  rw [loadFromDisk_eq, found]
  refine ⟨keysAfter, ?_⟩
  intro key
  have relinked := (Linked.clear other).foldl_insertBack distinct
  by_cases member : key ∈ cache.keys
  · obtain ⟨payload, cached⟩ := linked.payloadOf_isSome member
    rw [cached, Option.map_some]
    refine payloadOf_foldl_insertBack (Linked.clear other) distinct (.inr ?_)
    exact List.mem_map_of_mem (mem_snapshot.mpr ⟨member, cached⟩)
  · have stillAbsent : key ∉ _ := keysAfter.symm ▸ member
    rw [linked.payloadOf_eq_none member, relinked.payloadOf_eq_none stillAbsent]
    rfl

end PcmCache

/-- The operations that change the cache in memory only. -/
def CacheOperation.InMemory : CacheOperation → Prop
  | .tryGet _ | .put _ _ => True
  | .loadFromDisk _ _ => False

theorem CacheOperation.InMemory.sound {operation : CacheOperation}
    (inMemory : operation.InMemory) : operation.Sound := by
  cases operation with
  | tryGet key => trivial
  | put key payload => trivial
  | loadFromDisk file memory => exact inMemory.elim

variable {uses : List CacheKey} {cache : PcmCache}

/-- What puts and gets reach keeps the invariant of the cache. -/
theorem CacheInvariant.of_reaches
    (reached : cacheMachine.Reaches (fun _ operation => operation.InMemory) uses cache) :
    CacheInvariant uses cache := by
  refine reached.induct ?_ ?_
  · rintro start rfl
    exact CacheInvariant.empty
  · intro trace events state next operation before invariant allowed taken
    obtain ⟨after, applies, kept, -⟩ := invariant.step allowed.sound
    simp only [cacheMachine, applies, Option.map_some] at taken
    cases taken
    exact kept

/-- **The cache file restores the cache.** -/
theorem cache_round_trip
    (reached : cacheMachine.Reaches (fun _ operation => operation.InMemory) uses cache)
    (short : ∀ record ∈ cache.snapshot, CacheRecord.Short record)
    (few : ∀ record ∈ cache.snapshot, CacheRecord.FewEvents record) :
    cache.RoundTrips := by
  intro memory other
  have invariant := CacheInvariant.of_reaches reached
  have linked := invariant.intact.toLinked
  have count : cache.snapshot.length < 2 ^ 32 := by
    have same : cache.snapshot.length = cache.keys.length := by
      rw [← linked.keys_snapshot, List.length_map]
    rw [same]
    exact lt_of_le_of_lt invariant.length_le (by decide)
  exact linked.restores other (recordsFound_saveRecords memory count short few)

/-- An entry with an event that has a name, and one whose name is empty. -/
def bookmarkedRecord : CacheRecord :=
  (⟨[0x4A, 0x65], 0, 5, 100, [0x48, 0x69]⟩,
    ⟨[1, 2, 3], [⟨4, 0, 2, 7, 2, some ⟨[0x61], by decide⟩⟩, ⟨1, 0, 2, 0, 0, some ⟨[], by decide⟩⟩],
      [[0x61], []]⟩)

/-- An entry of another voice, with no events. -/
def silentRecord : CacheRecord := (⟨[0x4B], 1, 0, 90, [0x4F]⟩, ⟨[4, 5], [], []⟩)

/-- Two entries are put, and the older one is used again. -/
def usedAgain : List CacheOperation :=
  [.put bookmarkedRecord.1 bookmarkedRecord.2, .put silentRecord.1 silentRecord.2,
    .tryGet bookmarkedRecord.1]

/-- The file of a cache restores both entries, the one used last in front. -/
theorem cache_round_trip_bookmark :
    let cache := cacheMachine.finalState .empty usedAgain
    cache.RoundTrips ∧ cache.keys = [bookmarkedRecord.1, silentRecord.1] := by
  intro cache
  have both : cache.snapshot = [bookmarkedRecord, silentRecord] := by decide +kernel
  have inMemory : cacheMachine.Along (fun _ operation _ => operation.InMemory) .empty usedAgain :=
    ⟨trivial, trivial, trivial, trivial⟩
  have run := cacheMachine.run_finalState .empty usedAgain inMemory (by decide +kernel)
  refine ⟨cache_round_trip ⟨.empty, rfl, run⟩ ?_ ?_, by decide +kernel⟩
  · rw [both]
    rintro record (- | ⟨-, - | ⟨-, ⟨⟩⟩⟩)
    · exact ⟨by decide, by decide, by decide, by decide⟩
    · exact ⟨by decide, by decide, by decide, by decide⟩
  · rw [both]
    rintro record (- | ⟨-, - | ⟨-, ⟨⟩⟩⟩)
    · exact (by decide : 2 < 2 ^ 32)
    · exact (by decide : 0 < 2 ^ 32)

/-- A record whose count of events is cast to zero is read back without its events. -/
theorem reads_record_wrapped (memory : KeyMemory) (short : CacheRecord.Short record)
    (wraps : UInt32.ofNat record.2.events.length = 0) (rest : List UInt8) :
    readRecord memory ⟨saveRecord record ++ rest, true⟩ =
      ((record.1, ⟨record.2.audioData, [], []⟩),
        ⟨record.2.events.flatMap saveEvent ++ rest, true⟩) := by
  unfold saveRecord
  rw [List.append_assoc _ (record.2.events.flatMap saveEvent) rest, wraps]
  refine (?_ : Reads (readRecord memory) _ _) _
  unfold readRecord
  simp only [List.append_assoc]
  refine (Reads.readCounted uint16 short.voiceName).bind ?_
  refine (Reads.read int32 memory.rate _).bind ?_
  refine (Reads.read int32 memory.pitch _).bind ?_
  refine (Reads.read int32 memory.volume _).bind ?_
  refine (Reads.readCounted uint16 short.text).bind ?_
  refine (Reads.readCounted uint8 short.audioData).bind ?_
  exact (Reads.read uint32 0 0).bind_nil (Reads.pure _)

/-- The count of 2^32 events is written as zero, and the entry comes back without them. -/
theorem event_count_wraps :
    ¬ ∀ (uses : List CacheKey) (cache : PcmCache),
      cacheMachine.Reaches (fun _ operation => operation.InMemory) uses cache →
      (∀ record ∈ cache.snapshot, CacheRecord.Short record) → cache.RoundTrips := by
  intro claimed
  obtain ⟨events, count, blank⟩ : ∃ events : List ProviderSpeechEvent,
      events.length = 2 ^ 32 ∧ ∀ event ∈ events, event = ⟨0, 0, 0, 0, 0, none⟩ :=
    ⟨List.replicate (2 ^ 32) _, List.length_replicate, fun _ => List.eq_of_mem_replicate⟩
  let record : CacheRecord := (⟨[], 0, 0, 0, []⟩, ⟨[], events, []⟩)
  let cache : PcmCache := PcmCache.empty.insertFront record.1 record.2
  have cached : cache.payloadOf record.1 = some record.2 := rfl
  have one : cache.snapshot = [record] := by
    rw [PcmCache.snapshot_eq]
    change [record.1].filterMap _ = _
    rw [List.filterMap_cons, cached]
    rfl
  have short : CacheRecord.Short record := by
    refine ⟨Nat.two_pow_pos 32, Nat.two_pow_pos 32, Nat.two_pow_pos 32, ?_⟩
    intro event member
    rw [blank event member]
    decide
  have roundTrips : cache.RoundTrips := by
    refine claimed [record.1] cache ⟨.empty, rfl, Machine.Run.single
      (show CacheOperation.InMemory (.put record.1 record.2) from trivial) rfl⟩ ?_
    intro other member
    rw [one, List.mem_singleton] at member
    exact member ▸ short
  have wraps : UInt32.ofNat record.2.events.length = 0 := by
    rw [show record.2.events.length = 2 ^ 32 from count]
    decide
  let memory : ℕ → KeyMemory := fun _ => ⟨0, 0, 0⟩
  have found : recordsFound (some cache.saveToDisk) memory =
      some [(record.1, ⟨[], [], []⟩)] := by
    rw [PcmCache.saveToDisk, one]
    refine recordsFound_of_readRecords (Nat.one_lt_two_pow (by decide))
      (List.flatMap_singleton _ _) ?_
    have reads := reads_record_wrapped (memory 0) short wraps []
    rw [List.append_nil] at reads
    rw [List.length_singleton, readRecords, bind_apply, reads]
    rfl
  have restored := (roundTrips memory .empty).2 record.1
  rw [PcmCache.loadFromDisk_eq, found, cached] at restored
  have lost : some ⟨[], [], []⟩ = some record.2.readBack := restored
  have sameCount : ([] : List ProviderSpeechEvent).length = record.2.readBack.events.length :=
    congrArg (fun payload => payload.events.length) (Option.some.inj lost)
  rw [CachePayload.readBack, List.length_map] at sameCount
  exact absurd (sameCount.trans count) (by decide)

end ModernSapi
