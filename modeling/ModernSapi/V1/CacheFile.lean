import ModernSapi.Library.ByteStream

/-!
# The cache file

The speech cache of the first adapter keeps synthesised audio under the voice, the
prosody and the text it was made from, and stores it in one file: a header, a count, and
the records one after the other. `saveRecords` writes such a file and `readRecord` reads
one record of it, both as the source does: lengths are cast to 32 bits, a string comes
behind its length, and an event string that is empty is written as no string.

A record is read into fresh variables. The integers of a key are not initialised, so
where the file ends early they hold what the memory held before (`KeyMemory`); all the
other variables start as zero. Buffers of every length are taken to be allocated.
-/

set_option autoImplicit false

namespace ModernSapi

open ByteStream ByteStream.Layout

/-- What the audio was made from. -/
structure CacheKey where
  voiceName : List UInt16
  rate : Int32
  pitch : Int32
  volume : Int32
  text : List UInt16
  deriving DecidableEq

/-- A string in memory, up to the NUL that ends it. -/
structure TerminatedString where
  units : List UInt16
  noNul : 0 ∉ units
  deriving DecidableEq

/-- The string a caller finds at `c_str()`: it ends at the first NUL. -/
def cStr (string : List UInt16) : TerminatedString where
  units := string.takeWhile (· != 0)
  noNul member := by simpa using List.mem_takeWhile_imp member

theorem units_cStr {string : List UInt16} (noNul : 0 ∉ string) : (cStr string).units = string := by
  refine List.takeWhile_eq_self_iff.mpr ?_
  intro unit member
  simpa using ne_of_mem_of_not_mem member noNul

/-- An event the provider reported while it synthesised. -/
structure ProviderSpeechEvent where
  eventType : UInt32
  textOffset : UInt32
  textLength : UInt32
  reserved : UInt32
  audioByteOffset : UInt64
  stringData : Option TerminatedString
  deriving DecidableEq

/-- The audio, its events, and the strings that events read from a file point into. -/
structure CachePayload where
  audioData : List UInt8
  events : List ProviderSpeechEvent
  stringStore : List (List UInt16)
  deriving DecidableEq

/-- A record of the file. -/
abbrev CacheRecord := CacheKey × CachePayload

def cacheMagic : UInt32 := 0xCAFEBABE

def cacheVersion : UInt32 := 3

/-! ## Writing -/

/-- The units of the string an event points at; none where it points at nothing. -/
def ProviderSpeechEvent.string (event : ProviderSpeechEvent) : List UInt16 :=
  match event.stringData with
  | none => []
  | some string => string.units

def saveEvent (event : ProviderSpeechEvent) : List UInt8 :=
  uint32.encode event.eventType ++ uint32.encode event.textOffset ++
    uint32.encode event.textLength ++ uint64.encode event.audioByteOffset ++
    uint16.encodeCounted event.string

/-- A record. The count of the events is cast to 32 bits, and all of them follow. -/
def saveRecord (record : CacheRecord) : List UInt8 :=
  uint16.encodeCounted record.1.voiceName ++ int32.encode record.1.rate ++
    int32.encode record.1.pitch ++ int32.encode record.1.volume ++
    uint16.encodeCounted record.1.text ++ uint8.encodeCounted record.2.audioData ++
    uint32.encode (UInt32.ofNat record.2.events.length) ++ record.2.events.flatMap saveEvent

def saveRecords (records : List CacheRecord) : List UInt8 :=
  uint32.encode cacheMagic ++ uint32.encode cacheVersion ++
    uint32.encode (UInt32.ofNat records.length) ++ records.flatMap saveRecord

/-! ## Reading -/

/-- What uninitialised key integers hold. -/
structure KeyMemory where
  rate : Int32
  pitch : Int32
  volume : Int32

/-- Reads an event and adds it to the payload. A string of some length goes to the string
store, and the event points at its copy there. -/
def readEvent (payload : CachePayload) : Reader CachePayload := do
  let eventType ← read uint32 0
  let textOffset ← read uint32 0
  let textLength ← read uint32 0
  let audioByteOffset ← read uint64 0
  let strData ← readCounted uint16
  let event : ProviderSpeechEvent := ⟨eventType, textOffset, textLength, 0, audioByteOffset, none⟩
  if strData.length > 0 then
    return { payload with
      stringStore := payload.stringStore ++ [strData]
      events := payload.events ++ [{ event with stringData := some (cStr strData) }] }
  else return { payload with events := payload.events ++ [event] }

def readEvents : ℕ → CachePayload → Reader CachePayload
  | 0, payload => return payload
  | count + 1, payload => do readEvents count (← readEvent payload)

def readRecord (memory : KeyMemory) : Reader CacheRecord := do
  let voiceName ← readCounted uint16
  let rate ← read int32 memory.rate
  let pitch ← read int32 memory.pitch
  let volume ← read int32 memory.volume
  let text ← readCounted uint16
  let audioData ← readCounted uint8
  let evCount ← read uint32 0
  let payload ← readEvents evCount.toNat ⟨audioData, [], []⟩
  return (⟨voiceName, rate, pitch, volume, text⟩, payload)

/-- The next `count` records; `memory` tells what the integers of each key hold before. -/
def readRecords (memory : ℕ → KeyMemory) : ℕ → ℕ → Reader (List CacheRecord)
  | _, 0 => return []
  | index, count + 1 => do
      let record ← readRecord (memory index)
      return record :: (← readRecords memory (index + 1) count)

/-- The records a file holds, if it has the header of a cache file. Records that the count
announces and the file has no bytes for read as blank. -/
def fileRecords (memory : ℕ → KeyMemory) : Reader (Option (List CacheRecord)) := do
  let magic ← read uint32 0
  if magic ≠ cacheMagic then return none
  else
    let version ← read uint32 0
    if version ≠ cacheVersion then return none
    else
      let count ← read uint32 0
      return some (← readRecords memory 0 count.toNat)

end ModernSapi
