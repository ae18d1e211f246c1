import ModernSapi.Library.Machine
import ModernSapi.Library.NodeList
import ModernSapi.V1.CacheFile

/-!
# The speech cache

The cache keeps its keys in a linked list, the latest used first, and a map from a key to
its payload and to an iterator of the list. `tryGet`, `put` and `loadFromDisk` change
both under one lock, so a run of the cache is a sequence of these operations.
`saveToDisk` takes a snapshot under the lock and writes it.

An operation that moves a node by an iterator whose node is gone, or that reads the back
of an empty list, has no defined behaviour; it has no step. The events of the machine are
the keys as they are used: a hit and a put use their key, and a load uses the keys of the
file from the last one to the first.
-/

set_option autoImplicit false

namespace ModernSapi

open Interleaving ByteStream ByteStream.Layout

/-- `MAX_CACHE_ENTRIES`. -/
def maxCacheEntries : ℕ := 4000

/-- The list of the keys and the map. -/
structure PcmCache where
  lruList : NodeList CacheKey
  cacheMap : Finmap fun _ : CacheKey => CachePayload × ℕ

namespace PcmCache

/-- The cache the program starts with. -/
def empty : PcmCache where
  lruList := .empty
  cacheMap := ∅

/-- The keys, the latest used first. -/
def keys (cache : PcmCache) : List CacheKey := cache.lruList.values

def size (cache : PcmCache) : ℕ := cache.cacheMap.keys.card

/-- `emplace` leaves a key that the map has already as it is. -/
def emplace (key : CacheKey) (value : CachePayload × ℕ)
    (map : Finmap fun _ : CacheKey => CachePayload × ℕ) :
    Finmap fun _ : CacheKey => CachePayload × ℕ :=
  if key ∈ map then map else map.insert key value

/-- The payload of a key; a hit moves the key to the front. -/
def tryGet (cache : PcmCache) (key : CacheKey) : Option (PcmCache × Option CachePayload) :=
  match cache.cacheMap.lookup key with
  | none => some (cache, none)
  | some (payload, iterator) => do
      let moved ← cache.lruList.moveToFront iterator
      return ({ cache with lruList := moved }, some payload)

/-- Removes the least recently used entry. -/
def evict (cache : PcmCache) : Option PcmCache := do
  let last ← cache.lruList.back
  return { lruList := cache.lruList.popBack, cacheMap := cache.cacheMap.erase last }

/-- Adds an entry at the front of the list. -/
def insertFront (cache : PcmCache) (key : CacheKey) (payload : CachePayload) : PcmCache where
  lruList := cache.lruList.pushFront key
  cacheMap := emplace key (payload, cache.lruList.fresh) cache.cacheMap

/-- Stores a payload, in the place of another or, in a full cache, of the least recently
used entry. -/
def put (cache : PcmCache) (key : CacheKey) (payload : CachePayload) : Option PcmCache :=
  match cache.cacheMap.lookup key with
  | some (_, iterator) => do
      let moved ← cache.lruList.moveToFront iterator
      return { lruList := moved, cacheMap := cache.cacheMap.insert key (payload, iterator) }
  | none =>
      if cache.size ≥ maxCacheEntries then do
        let evicted ← cache.evict
        return evicted.insertFront key payload
      else return cache.insertFront key payload

/-- Adds a record of the file at the back of the list. -/
def insertBack (cache : PcmCache) (record : CacheRecord) : PcmCache where
  lruList := cache.lruList.pushBack record.1
  cacheMap := emplace record.1 (record.2, cache.lruList.fresh) cache.cacheMap

def clear (cache : PcmCache) : PcmCache where
  lruList := cache.lruList.clear
  cacheMap := ∅

/-- The loop of `loadFromDisk`. -/
def loadRecords (memory : ℕ → KeyMemory) : ℕ → ℕ → PcmCache → Reader PcmCache
  | _, 0, cache => return cache
  | index, count + 1, cache => do
      let record ← readRecord (memory index)
      loadRecords memory (index + 1) count (cache.insertBack record)

/-- Replaces the entries by the records of an open file that has the right header. -/
def loadStream (memory : ℕ → KeyMemory) (cache : PcmCache) : Reader PcmCache := do
  let magic ← read uint32 0
  if magic ≠ cacheMagic then return cache
  else
    let version ← read uint32 0
    if version ≠ cacheVersion then return cache
    else
      let count ← read uint32 0
      loadRecords memory 0 count.toNat cache.clear

/-- Loads the file, if it can be opened. -/
def loadFromDisk (file : Option (List UInt8)) (memory : ℕ → KeyMemory) (cache : PcmCache) :
    PcmCache :=
  match file with
  | none => cache
  | some bytes => (loadStream memory cache ⟨bytes, true⟩).1

/-- The entries in the order of the list. -/
def snapshot (cache : PcmCache) : List CacheRecord :=
  cache.lruList.values.filterMap fun key =>
    match cache.cacheMap.lookup key with
    | some (payload, _) => some (key, payload)
    | none => none

/-- The file written for the cache. -/
def saveToDisk (cache : PcmCache) : List UInt8 := saveRecords cache.snapshot

end PcmCache

/-! ## Runs -/

/-- What a thread does with the cache. A load finds some file, or none, and some values in
the memory it reads keys into. -/
inductive CacheOperation
  | tryGet (key : CacheKey)
  | put (key : CacheKey) (payload : CachePayload)
  | loadFromDisk (file : Option (List UInt8)) (memory : ℕ → KeyMemory)

/-- The records of the file that a load finds; none if it finds no file with the header of
a cache file. -/
def recordsFound (file : Option (List UInt8)) (memory : ℕ → KeyMemory) :
    Option (List CacheRecord) :=
  match file with
  | none => none
  | some bytes => (fileRecords memory ⟨bytes, true⟩).1

/-- The keys an operation uses, in this order. -/
def CacheOperation.uses (cache : PcmCache) : CacheOperation → List CacheKey
  | .tryGet key => if key ∈ cache.cacheMap then [key] else []
  | .put key _ => [key]
  | .loadFromDisk file memory =>
      match recordsFound file memory with
      | none => []
      | some records => (records.map Prod.fst).reverse

def CacheOperation.apply (cache : PcmCache) : CacheOperation → Option PcmCache
  | .tryGet key => (cache.tryGet key).map Prod.fst
  | .put key payload => cache.put key payload
  | .loadFromDisk file memory => some (cache.loadFromDisk file memory)

/-- The cache under its operations. -/
def cacheMachine : Machine PcmCache CacheOperation CacheKey where
  init cache := cache = .empty
  step cache operation :=
    (operation.apply cache).map fun next => (next, operation.uses cache)

end ModernSapi
