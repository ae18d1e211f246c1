import ModernSapi.Library.Recency
import ModernSapi.V1.PcmCache

/-!
# The integrity of the speech cache

List and map of the cache are linked (`PcmCache.Linked`) when the list has no key twice,
the map has exactly the keys of the list, and every iterator in the map points at its own
key. A linked cache has its keys in the map as often as in the list (`Linked.size_eq`),
every operation on it is defined, and all of them keep it linked, save a load.

A load adds the records of the file one by one without looking whether the key is there,
and without a bound. So the cache is intact after it exactly when the file has no key
twice and no more records than the cache has places (`Intact.load`,
`soundFile_of_intact`). `cache_intact_iff` says the same of whole runs, with what a full
cache evicts.
-/

set_option autoImplicit false

namespace ModernSapi

open Interleaving ByteStream Recency

namespace PcmCache

/-- List and map belong together. -/
structure Linked (cache : PcmCache) : Prop where
  distinct : cache.keys.Nodup
  sameKeys : ∀ key, key ∈ cache.keys ↔ key ∈ cache.cacheMap
  ownKey : ∀ key payload iterator, cache.cacheMap.lookup key = some (payload, iterator) →
    cache.lruList.read iterator = some key

/-- The cache as every operation should leave it. -/
structure Intact (cache : PcmCache) : Prop extends Linked cache where
  bounded : cache.size ≤ maxCacheEntries

/-- Of the keys cached before, only the one that was used least recently is gone. -/
def EvictsLeastRecent (uses : List CacheKey) (cache next : PcmCache) : Prop :=
  ∃ oldest, LeastRecent uses cache.keys oldest ∧
    ∀ key ∈ cache.cacheMap, key ∉ next.cacheMap ↔ key = oldest

variable {cache next evicted : PcmCache} {key other : CacheKey} {payload : CachePayload}
  {iterator : ℕ} {uses : List CacheKey} {records : List CacheRecord}
  {map : Finmap fun _ : CacheKey => CachePayload × ℕ} {list : NodeList CacheKey}

theorem emplace_of_notMem {value : CachePayload × ℕ} (absent : key ∉ map) :
    emplace key value map = map.insert key value := if_neg absent

namespace Linked

/-- The map has as many entries as the list has keys. -/
theorem size_eq (linked : cache.Linked) : cache.size = cache.keys.length := by
  have same : cache.cacheMap.keys = cache.keys.toFinset := by
    ext key
    rw [Finmap.mem_keys, List.mem_toFinset, linked.sameKeys]
  rw [size, same, List.toFinset_card_of_nodup linked.distinct]

theorem empty : PcmCache.empty.Linked where
  distinct := List.nodup_nil
  sameKeys key := by simp [PcmCache.empty, keys, Finmap.notMem_empty]
  ownKey key payload iterator found := by simp [PcmCache.empty] at found

theorem clear (cache : PcmCache) : cache.clear.Linked where
  distinct := List.nodup_nil
  sameKeys key := by simp [PcmCache.clear, keys, Finmap.notMem_empty]
  ownKey key payload iterator found := by simp [PcmCache.clear] at found

/-- A cached key can be moved to the front, and its payload exchanged. -/
theorem moveToFront (linked : cache.Linked)
    (found : cache.cacheMap.lookup key = some (payload, iterator)) :
    ∃ moved, cache.lruList.moveToFront iterator = some moved ∧
      moved.values = key :: cache.keys.erase key ∧
      ∀ map : Finmap fun _ : CacheKey => CachePayload × ℕ,
        (∀ other, (map.lookup other).map Prod.snd =
          (cache.cacheMap.lookup other).map Prod.snd) → Linked ⟨moved, map⟩ := by
  have reads := linked.ownKey key payload iterator found
  obtain ⟨moved, moves⟩ := Option.isSome_iff_exists.mp
    (NodeList.moveToFront_isSome_iff.mpr ⟨key, reads⟩)
  have values : moved.values = key :: cache.keys.erase key :=
    NodeList.values_moveToFront linked.distinct moves reads
  have member : key ∈ cache.keys := NodeList.mem_values_of_read reads
  have reordered : moved.values.Perm cache.keys := by
    rw [values]
    exact (List.perm_cons_erase member).symm
  refine ⟨moved, moves, values, ?_⟩
  intro map same
  refine ⟨reordered.nodup_iff.mpr linked.distinct, ?_, ?_⟩
  · intro other
    have inMap : other ∈ map ↔ other ∈ cache.cacheMap := by
      rw [← Finmap.lookup_isSome, ← Finmap.lookup_isSome, ← Option.isSome_map (f := Prod.snd),
        same, Option.isSome_map]
    rw [inMap, ← linked.sameKeys]
    exact reordered.mem_iff
  · intro other stored second lookup
    have before := same other
    rw [lookup, Option.map_some] at before
    obtain ⟨⟨old, third⟩, lookupBefore, here⟩ := Option.map_eq_some_iff.mp before.symm
    have here : third = second := here
    rw [here] at lookupBefore
    exact NodeList.read_moveToFront moves (linked.ownKey other old second lookupBefore)

theorem insertFront (linked : cache.Linked) (absent : key ∉ cache.cacheMap)
    (payload : CachePayload) : (cache.insertFront key payload).Linked where
  distinct := List.nodup_cons.mpr ⟨mt (linked.sameKeys key).mp absent, linked.distinct⟩
  sameKeys other := by
    simp only [PcmCache.insertFront, keys, emplace_of_notMem absent, NodeList.values_pushFront,
      List.mem_cons, Finmap.mem_insert]
    exact or_congr Iff.rfl (linked.sameKeys other)
  ownKey other stored iterator found := by
    simp only [PcmCache.insertFront, emplace_of_notMem absent] at found ⊢
    by_cases same : other = key
    · subst same
      rw [Finmap.lookup_insert] at found
      cases found
      exact NodeList.read_pushFront_fresh
    · rw [Finmap.lookup_insert_of_ne _ same] at found
      exact NodeList.read_pushFront (linked.ownKey other stored iterator found)

theorem insertBack (linked : cache.Linked) {record : CacheRecord}
    (absent : record.1 ∉ cache.cacheMap) : (cache.insertBack record).Linked where
  distinct := by
    have notListed : record.1 ∉ cache.keys := mt (linked.sameKeys record.1).mp absent
    rw [keys, PcmCache.insertBack, NodeList.values_pushBack]
    exact List.nodup_append.mpr ⟨linked.distinct, List.nodup_singleton _, by
      intro other member last here same
      exact notListed (List.mem_singleton.mp here ▸ same ▸ member)⟩
  sameKeys other := by
    simp only [PcmCache.insertBack, keys, emplace_of_notMem absent, NodeList.values_pushBack,
      List.mem_append, List.mem_singleton, Finmap.mem_insert]
    rw [or_comm]
    exact or_congr Iff.rfl (linked.sameKeys other)
  ownKey other stored iterator found := by
    simp only [PcmCache.insertBack, emplace_of_notMem absent] at found ⊢
    by_cases same : other = record.1
    · subst same
      rw [Finmap.lookup_insert] at found
      cases found
      exact NodeList.read_pushBack_fresh
    · rw [Finmap.lookup_insert_of_ne _ same] at found
      exact NodeList.read_pushBack (linked.ownKey other stored iterator found)

/-- A cache that holds something can evict its last key. -/
theorem evict (linked : cache.Linked) (filled : 0 < cache.size) :
    ∃ evicted before last, cache.evict = some evicted ∧ cache.keys = before ++ [last] ∧
      evicted.keys = before ∧ evicted.Linked ∧
      ∀ key, key ∈ evicted.cacheMap ↔ key ≠ last ∧ key ∈ cache.cacheMap := by
  rw [linked.size_eq] at filled
  obtain ⟨before, last, split⟩ : ∃ before last, cache.keys = before ++ [last] :=
    (List.eq_nil_or_concat' cache.keys).resolve_left (List.ne_nil_of_length_pos filled)
  have back : cache.lruList.back = some last := NodeList.back_eq_some_iff.mpr ⟨before, split⟩
  have popped : cache.lruList.popBack.values = before := by
    have values : cache.lruList.values = before ++ [last] := split
    rw [NodeList.values_popBack, values, List.dropLast_concat]
  have distinct : (before ++ [last]).Nodup := split ▸ linked.distinct
  have lastApart : ∀ key ∈ before, key ≠ last := by
    intro key member
    exact (List.nodup_append.mp distinct).2.2 key member last (by simp)
  refine ⟨⟨cache.lruList.popBack, cache.cacheMap.erase last⟩, before, last, ?_, split, popped,
    ⟨?_, ?_, ?_⟩, fun key => Finmap.mem_erase⟩
  · simp only [PcmCache.evict, back]
    rfl
  · rw [keys, popped]
    exact (List.nodup_append.mp distinct).1
  · intro key
    rw [keys, popped, Finmap.mem_erase, ← linked.sameKeys, split]
    constructor
    · intro member
      exact ⟨lastApart key member, List.mem_append_left _ member⟩
    · rintro ⟨differs, member⟩
      exact (List.mem_append.mp member).resolve_right (by simpa using differs)
  · intro key stored iterator found
    have differs : key ≠ last := by
      rintro rfl
      rw [Finmap.lookup_erase] at found
      cases found
    rw [Finmap.lookup_erase_ne differs] at found
    have other : cache.lruList.back ≠ some key := by
      rw [back]
      exact fun same => differs (Option.some.inj same).symm
    exact NodeList.read_popBack (linked.ownKey key stored iterator found) other

end Linked

/-! ## What the operations do to the keys -/

theorem lookup_of_mem (member : key ∈ map) :
    ∃ payload iterator, map.lookup key = some (payload, iterator) := by
  obtain ⟨⟨payload, iterator⟩, found⟩ := Finmap.mem_iff.mp member
  exact ⟨payload, iterator, found⟩

/-- A hit moves its key to the front, and a miss changes nothing. -/
theorem tryGet_spec (linked : cache.Linked) (key : CacheKey) :
    ∃ next result, cache.tryGet key = some (next, result) ∧ next.Linked ∧
      next.keys = if key ∈ cache.cacheMap then key :: cache.keys.erase key else cache.keys := by
  by_cases member : key ∈ cache.cacheMap
  · obtain ⟨payload, iterator, found⟩ := lookup_of_mem member
    obtain ⟨moved, moves, values, relinked⟩ := linked.moveToFront found
    refine ⟨⟨moved, cache.cacheMap⟩, some payload, ?_, relinked _ fun _ => rfl, ?_⟩
    · simp only [tryGet, found, moves]
      rfl
    · rw [if_pos member, keys, values]
  · refine ⟨cache, none, ?_, linked, (if_neg member).symm⟩
    rw [tryGet, Finmap.lookup_eq_none.mpr member]

/-- A put of a cached key moves it to the front. -/
theorem put_cached (linked : cache.Linked) (member : key ∈ cache.cacheMap)
    (payload : CachePayload) :
    ∃ next, cache.put key payload = some next ∧ next.Linked ∧
      next.keys = key :: cache.keys.erase key := by
  obtain ⟨old, iterator, found⟩ := lookup_of_mem member
  obtain ⟨moved, moves, values, relinked⟩ := linked.moveToFront found
  refine ⟨⟨moved, cache.cacheMap.insert key (payload, iterator)⟩, ?_, relinked _ ?_, values⟩
  · simp only [put, found, moves]
    rfl
  · intro other
    by_cases same : other = key
    · subst same
      rw [Finmap.lookup_insert, found]
      rfl
    · rw [Finmap.lookup_insert_of_ne _ same]

/-- A put of a new key adds it where there is room. -/
theorem put_new (linked : cache.Linked) (absent : key ∉ cache.cacheMap)
    (room : cache.size < maxCacheEntries) (payload : CachePayload) :
    ∃ next, cache.put key payload = some next ∧ next.Linked ∧ next.keys = key :: cache.keys := by
  refine ⟨cache.insertFront key payload, ?_, linked.insertFront absent payload, rfl⟩
  rw [put, Finmap.lookup_eq_none.mpr absent]
  exact if_neg (Nat.not_le.mpr room)

/-- A put of a new key drops the last key of a full cache. -/
theorem put_full (linked : cache.Linked) (absent : key ∉ cache.cacheMap)
    (full : cache.size ≥ maxCacheEntries) (payload : CachePayload) :
    ∃ next before last, cache.put key payload = some next ∧ next.Linked ∧
      cache.keys = before ++ [last] ∧ next.keys = key :: before := by
  have filled : 0 < cache.size := lt_of_lt_of_le (by decide) full
  obtain ⟨evicted, before, last, evicts, split, rest, relinked, members⟩ := linked.evict filled
  have stillAbsent : key ∉ evicted.cacheMap := fun member => absent ((members key).mp member).2
  refine ⟨evicted.insertFront key payload, before, last, ?_,
    relinked.insertFront stillAbsent payload, split, ?_⟩
  · simp only [put, Finmap.lookup_eq_none.mpr absent, if_pos full, evicts]
    rfl
  · rw [← rest]
    rfl

/-! ## What a load does -/

theorem keys_insertBack (record : CacheRecord) (cache : PcmCache) :
    (cache.insertBack record).keys = cache.keys ++ [record.1] := NodeList.values_pushBack

theorem keys_foldl_insertBack (records : List CacheRecord) (cache : PcmCache) :
    (records.foldl insertBack cache).keys = cache.keys ++ records.map Prod.fst := by
  induction records generalizing cache with
  | nil => simp
  | cons record records ih =>
      rw [List.foldl_cons, ih, keys_insertBack, List.append_assoc, List.map_cons, List.singleton_append]

/-- The first of several records with new and different keys. -/
theorem Linked.absent (linked : cache.Linked) {record : CacheRecord}
    (distinct : (cache.keys ++ (record :: records).map Prod.fst).Nodup) :
    record.1 ∉ cache.cacheMap := by
  rw [← linked.sameKeys]
  intro member
  exact (List.nodup_append.mp distinct).2.2 _ member record.1 (by simp) rfl

/-- Adding records with new and different keys keeps list and map linked. -/
theorem Linked.foldl_insertBack (linked : cache.Linked)
    (distinct : (cache.keys ++ records.map Prod.fst).Nodup) :
    (records.foldl PcmCache.insertBack cache).Linked := by
  induction records generalizing cache with
  | nil => exact linked
  | cons record records ih =>
      rw [List.foldl_cons]
      refine ih (linked.insertBack (linked.absent distinct)) ?_
      rw [keys_insertBack, List.append_assoc]
      exact distinct

theorem loadRecords_apply (memory : ℕ → KeyMemory) (index count : ℕ) (cache : PcmCache)
    (stream : Stream) :
    (loadRecords memory index count cache stream).1 =
      (readRecords memory index count stream).1.foldl insertBack cache := by
  induction count generalizing index cache stream with
  | zero => rfl
  | succ count ih =>
      simp only [loadRecords, readRecords, bind_apply, pure_apply]
      exact ih _ _ _

/-- A load replaces the entries by the records of the file. -/
theorem loadFromDisk_eq (file : Option (List UInt8)) (memory : ℕ → KeyMemory)
    (cache : PcmCache) :
    cache.loadFromDisk file memory =
      match recordsFound file memory with
      | none => cache
      | some records => records.foldl insertBack cache.clear := by
  cases file with
  | none => rfl
  | some bytes =>
      simp only [loadFromDisk, recordsFound, loadStream, fileRecords, bind_apply]
      split
      · rfl
      · simp only [bind_apply]
        split
        · rfl
        · simp only [bind_apply, pure_apply]
          exact loadRecords_apply memory 0 _ _ _

end PcmCache

/-! ## Runs -/

/-- The file of a load has room in the cache and no key twice. A file the load cannot open,
or that has another header, is not loaded. -/
def SoundFile (file : Option (List UInt8)) (memory : ℕ → KeyMemory) : Prop :=
  ∀ records, recordsFound file memory = some records →
    records.length ≤ maxCacheEntries ∧ (records.map Prod.fst).Nodup

/-- The loads of the operation find sound files. -/
def CacheOperation.Sound : CacheOperation → Prop
  | .loadFromDisk file memory => SoundFile file memory
  | _ => True

/-- The invariant of the runs: the keys stand in the order of their uses. -/
structure CacheInvariant (uses : List CacheKey) (cache : PcmCache) : Prop where
  intact : cache.Intact
  ordered : Ordered uses.reverse cache.keys

namespace PcmCache

variable {cache next : PcmCache} {uses : List CacheKey} {file : Option (List UInt8)}
  {memory : ℕ → KeyMemory}

/-- What the list holds after a load that finds a cache file. -/
theorem keys_load (cache : PcmCache) (records : List CacheRecord) :
    (records.foldl insertBack cache.clear).keys = records.map Prod.fst :=
  keys_foldl_insertBack records cache.clear

/-- A load that leaves an intact cache found a sound file. -/
theorem soundFile_of_intact (after : (cache.loadFromDisk file memory).Intact) :
    SoundFile file memory := by
  intro records found
  rw [loadFromDisk_eq, found] at after
  have distinct := after.distinct
  have bounded := after.bounded
  rw [after.size_eq] at bounded
  rw [keys_load] at distinct bounded
  rw [List.length_map] at bounded
  exact ⟨bounded, distinct⟩

/-- A load of a sound file leaves an intact cache. -/
theorem Intact.load (intact : cache.Intact) (sound : SoundFile file memory) :
    (cache.loadFromDisk file memory).Intact := by
  rw [loadFromDisk_eq]
  cases found : recordsFound file memory with
  | none => exact intact
  | some records =>
      obtain ⟨bounded, distinct⟩ := sound records found
      have linked : (records.foldl insertBack cache.clear).Linked :=
        (Linked.clear cache).foldl_insertBack distinct
      refine ⟨linked, ?_⟩
      rw [linked.size_eq, keys_load, List.length_map]
      exact bounded

end PcmCache

variable {cache next : PcmCache} {uses : List CacheKey} {key : CacheKey}
  {operation : CacheOperation}

namespace CacheInvariant

theorem empty : CacheInvariant [] .empty where
  intact := ⟨PcmCache.Linked.empty, PcmCache.Linked.empty.size_eq ▸ Nat.zero_le _⟩
  ordered := Ordered.nil

/-- A key in use moves to the front of the keys that stay. -/
theorem of_use {stay : List CacheKey} (linked : next.Linked)
    (invariant : CacheInvariant uses cache) (part : stay.Sublist cache.keys)
    (keysAfter : next.keys = key :: stay.erase key)
    (bounded : next.keys.length ≤ maxCacheEntries) :
    CacheInvariant (uses ++ [key]) next where
  intact := ⟨linked, by rw [linked.size_eq]; exact bounded⟩
  ordered := by
    rw [List.reverse_append, List.reverse_singleton, List.singleton_append, keysAfter]
    exact (invariant.ordered.sublist part).use key

theorem listed_iff (invariant : CacheInvariant uses cache) :
    key ∈ cache.keys ↔ key ∈ cache.cacheMap := invariant.intact.sameKeys key

theorem length_le (invariant : CacheInvariant uses cache) :
    cache.keys.length ≤ maxCacheEntries := by
  rw [← invariant.intact.size_eq]
  exact invariant.intact.bounded

/-- A cached key in use moves to the front. -/
theorem of_hit (linked : next.Linked) (invariant : CacheInvariant uses cache)
    (member : key ∈ cache.cacheMap) (keysAfter : next.keys = key :: cache.keys.erase key) :
    CacheInvariant (uses ++ [key]) next := by
  refine of_use linked invariant (List.Sublist.refl _) keysAfter ?_
  have same := (List.perm_cons_erase (invariant.listed_iff.mpr member)).length_eq
  rw [keysAfter, ← same]
  exact invariant.length_le

theorem tryGet (invariant : CacheInvariant uses cache) (key : CacheKey) :
    ∃ next, (CacheOperation.tryGet key).apply cache = some next ∧
      CacheInvariant (uses ++ (CacheOperation.tryGet key).uses cache) next := by
  obtain ⟨next, result, gets, linked, keysAfter⟩ :=
    PcmCache.tryGet_spec invariant.intact.toLinked key
  refine ⟨next, by rw [CacheOperation.apply, gets]; rfl, ?_⟩
  rw [CacheOperation.uses]
  by_cases member : key ∈ cache.cacheMap
  · rw [if_pos member] at keysAfter ⊢
    exact of_hit linked invariant member keysAfter
  · rw [if_neg member] at keysAfter ⊢
    rw [List.append_nil]
    refine ⟨⟨linked, ?_⟩, by rw [keysAfter]; exact invariant.ordered⟩
    rw [linked.size_eq, keysAfter]
    exact invariant.length_le

theorem put (invariant : CacheInvariant uses cache) (key : CacheKey) (payload : CachePayload) :
    ∃ next, cache.put key payload = some next ∧ CacheInvariant (uses ++ [key]) next := by
  by_cases member : key ∈ cache.cacheMap
  · obtain ⟨next, puts, linked, keysAfter⟩ :=
      PcmCache.put_cached invariant.intact.toLinked member payload
    exact ⟨next, puts, of_hit linked invariant member keysAfter⟩
  · have unlisted : key ∉ cache.keys := mt invariant.listed_iff.mp member
    by_cases full : cache.size ≥ maxCacheEntries
    · obtain ⟨next, before, last, puts, linked, split, keysAfter⟩ :=
        PcmCache.put_full invariant.intact.toLinked member full payload
      have part : before.Sublist cache.keys := split ▸ List.sublist_append_left _ _
      have absent : key ∉ before := fun inBefore => unlisted (part.subset inBefore)
      refine ⟨next, puts, of_use linked invariant part ?_ ?_⟩
      · rw [keysAfter, List.erase_of_not_mem absent]
      · have length := invariant.length_le
        rw [split, List.length_append, List.length_singleton] at length
        rw [keysAfter, List.length_cons]
        exact length
    · have room : cache.size < maxCacheEntries := Nat.not_le.mp full
      obtain ⟨next, puts, linked, keysAfter⟩ :=
        PcmCache.put_new invariant.intact.toLinked member room payload
      refine ⟨next, puts, of_use linked invariant (List.Sublist.refl _) ?_ ?_⟩
      · rw [keysAfter, List.erase_of_not_mem unlisted]
      · rw [invariant.intact.size_eq] at room
        rw [keysAfter, List.length_cons]
        exact room

/-- What a full cache drops for a new key is its least recently used key. -/
theorem put_evicts (invariant : CacheInvariant uses cache) {payload : CachePayload}
    (puts : cache.put key payload = some next) (absent : key ∉ cache.cacheMap)
    (full : maxCacheEntries ≤ cache.size) :
    cache.EvictsLeastRecent uses.reverse next := by
  obtain ⟨after, before, last, putsAfter, linked, split, keysAfter⟩ :=
    PcmCache.put_full invariant.intact.toLinked absent full payload
  have same : after = next := Option.some.inj (putsAfter.symm.trans puts)
  subst same
  have leastRecent : LeastRecent uses.reverse cache.keys last :=
    invariant.ordered.leastRecent (List.getLast?_eq_some_iff.mpr ⟨before, split⟩)
  have distinct : (before ++ [last]).Nodup := split ▸ invariant.intact.distinct
  refine ⟨last, leastRecent, ?_⟩
  intro other member
  have listed : other ∈ before ++ [last] := split ▸ invariant.listed_iff.mpr member
  have differs : other ≠ key := fun same => absent (same ▸ member)
  rw [← linked.sameKeys, keysAfter, List.mem_cons, not_or]
  constructor
  · rintro ⟨-, dropped⟩
    simpa using (List.mem_append.mp listed).resolve_left dropped
  · rintro rfl
    refine ⟨differs, fun inBefore => ?_⟩
    exact (List.nodup_append.mp distinct).2.2 other inBefore other (by simp) rfl

theorem load (invariant : CacheInvariant uses cache) {file : Option (List UInt8)}
    {memory : ℕ → KeyMemory} (sound : SoundFile file memory) :
    CacheInvariant (uses ++ (CacheOperation.loadFromDisk file memory).uses cache)
      (cache.loadFromDisk file memory) where
  intact := invariant.intact.load sound
  ordered := by
    rw [PcmCache.loadFromDisk_eq, CacheOperation.uses]
    cases found : recordsFound file memory with
    | none =>
        rw [List.append_nil]
        exact invariant.ordered
    | some records =>
        rw [List.reverse_append, List.reverse_reverse]
        exact PcmCache.keys_load cache records ▸
          Ordered.of_nodup (sound records found).2 uses.reverse

/-- **One operation.** It is defined, keeps the invariant, and a put evicts what it should. -/
theorem step (invariant : CacheInvariant uses cache) (sound : operation.Sound) :
    ∃ next, operation.apply cache = some next ∧
      CacheInvariant (uses ++ operation.uses cache) next ∧
      ∀ key payload, operation = .put key payload → key ∉ cache.cacheMap →
        maxCacheEntries ≤ cache.size → cache.EvictsLeastRecent uses.reverse next := by
  cases operation with
  | tryGet key =>
      obtain ⟨next, gets, after⟩ := invariant.tryGet key
      refine ⟨next, gets, after, ?_⟩
      intro other payload same
      cases same
  | put key payload =>
      obtain ⟨next, puts, after⟩ := invariant.put key payload
      refine ⟨next, puts, after, ?_⟩
      intro other second same absent full
      cases same
      exact invariant.put_evicts puts absent full
  | loadFromDisk file memory =>
      refine ⟨cache.loadFromDisk file memory, rfl, invariant.load sound, ?_⟩
      intro other payload same
      cases same

/-- **The operations one after the other.** -/
theorem exec {operations : List CacheOperation} (invariant : CacheInvariant uses cache)
    (sound : ∀ operation ∈ operations, operation.Sound) :
    ∃ next later, cacheMachine.exec cache operations = some (next, later) ∧
      CacheInvariant (uses ++ later) next := by
  induction operations generalizing cache uses with
  | nil => exact ⟨cache, [], rfl, by rw [List.append_nil]; exact invariant⟩
  | cons operation operations ih =>
      obtain ⟨next, applies, after, -⟩ := invariant.step (sound operation List.mem_cons_self)
      obtain ⟨final, later, executes, atEnd⟩ :=
        ih after fun other member => sound other (List.mem_cons_of_mem _ member)
      have stepped : cacheMachine.step cache operation =
          some (next, operation.uses cache) := by
        simp only [cacheMachine, applies, Option.map_some]
      refine ⟨final, operation.uses cache ++ later, ?_, ?_⟩
      · simp only [Machine.exec, stepped, executes]
      · rw [← List.append_assoc]
        exact atEnd

end CacheInvariant

/-- Every operation of the run is defined and leaves list and map with the same keys, no
key twice, each iterator at its own key and at most `MAX_CACHE_ENTRIES` entries; and a put
of a new key into a full cache evicts the key that was used least recently. -/
def StaysIntact (operations : List CacheOperation) : Prop :=
  ∀ before operation after, operations = before ++ operation :: after →
    ∃ cache uses next, cacheMachine.exec .empty before = some (cache, uses) ∧
      operation.apply cache = some next ∧ next.Intact ∧
      ∀ key payload, operation = .put key payload → key ∉ cache.cacheMap →
        maxCacheEntries ≤ cache.size → cache.EvictsLeastRecent uses.reverse next

/-- **The cache stays intact through a run exactly when every file it loads is sound.** -/
theorem cache_intact_iff (operations : List CacheOperation) :
    StaysIntact operations ↔
      ∀ file memory, .loadFromDisk file memory ∈ operations → SoundFile file memory := by
  constructor
  · intro intact file memory member
    obtain ⟨before, after, split⟩ := List.append_of_mem member
    obtain ⟨cache, uses, next, -, applies, intactAfter, -⟩ := intact before _ after split
    cases applies
    exact PcmCache.soundFile_of_intact intactAfter
  · intro soundFiles before operation after split
    have sound : ∀ other ∈ operations, other.Sound := by
      intro other member
      cases other with
      | tryGet key => trivial
      | put key payload => trivial
      | loadFromDisk file memory => exact soundFiles file memory member
    obtain ⟨cache, uses, executes, invariant⟩ :=
      CacheInvariant.empty.exec fun other member =>
        sound other (split ▸ List.mem_append_left _ member)
    obtain ⟨next, applies, invariantAfter, evicts⟩ :=
      invariant.step (sound operation (by rw [split]; simp))
    rw [List.nil_append] at evicts
    exact ⟨cache, uses, next, executes, applies, invariantAfter.intact, evicts⟩

/-- A cache file with two records that both have the blank key, and no audio. -/
def repeatedKeyFile : List UInt8 :=
  [0xBE, 0xBA, 0xFE, 0xCA, 3, 0, 0, 0, 2, 0, 0, 0] ++ List.replicate 56 0

/-- A load adds the key of `repeatedKeyFile` to the list twice. -/
theorem repeated_key_listed_twice :
    ¬ StaysIntact [.loadFromDisk (some repeatedKeyFile) fun _ => ⟨0, 0, 0⟩] := by
  intro intact
  obtain ⟨cache, uses, next, -, applies, intactAfter, -⟩ := intact [] _ [] rfl
  cases applies
  have sound := PcmCache.soundFile_of_intact intactAfter
  have found : recordsFound (some repeatedKeyFile) (fun _ => ⟨0, 0, 0⟩) =
      some [(⟨[], 0, 0, 0, []⟩, ⟨[], [], []⟩), (⟨[], 0, 0, 0, []⟩, ⟨[], [], []⟩)] := by
    decide +kernel
  exact absurd (sound _ found).2 (by decide)

end ModernSapi
