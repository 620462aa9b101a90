import RecordAccess.Program

/-!
# The cache beside the store

The store has the truth; the cache holds texts of records as they were stored. A read asks the
cache first and fills an empty key with what it then reads from the store. A write refreshes the
key after it has taken effect. A delete leaves a tombstone before and after, which reads as a miss
and keeps reads under way from filling the key again.

A cache call that fails or takes too long counts as a miss, or as not made. Without a cache no
cache call is made at all.
-/

namespace RecordAccess

/-- Whether there is a cache beside the store. -/
structure CacheAside where
  enabled : Bool
deriving DecidableEq, Repr

/-- What a look-up in the cache found. -/
inductive CacheLookup where
  | record (record : Record)
  /-- The key of a deleted record. -/
  | tombstone
  /-- A text that is no record. -/
  | corrupt
  /-- Nothing, or no answer. -/
  | absent
deriving DecidableEq, Repr

namespace CacheAside

/-- The text under the key of a deleted record. -/
def tombstoneText : String := "null"

/-- What a cached text says. -/
def decodeEntry (text : String) : CacheLookup :=
  if text = tombstoneText then .tombstone
  else
    match Record.decode.ofText text with
    | .ok record => .record record
    | .error _ => .corrupt

/-- Looks up a key. -/
def lookup (aside : CacheAside) (key : String) : Program CacheLookup :=
  if aside.enabled then do
    match ← Program.askCache (.get key) with
    | .ok (some text) => return decodeEntry text
    | _ => return .absent
  else return .absent

/-- Writes a record under a key, whatever is there. -/
def put (aside : CacheAside) (key : String) (record : Record) : Program Unit :=
  if aside.enabled then do
    let _ ← Program.askCache (.set key record.text)
  else return ()

/-- Writes a record under a key if nothing is there. -/
def fill (aside : CacheAside) (key : String) (record : Record) : Program Unit :=
  if aside.enabled then do
    let _ ← Program.askCache (.setIfAbsent key record.text)
  else return ()

/-- Leaves a tombstone under a key. -/
def bury (aside : CacheAside) (key : String) : Program Unit :=
  if aside.enabled then do
    let _ ← Program.askCache (.set key tombstoneText)
  else return ()

/-- Writes each of some records if nothing is under its key. -/
def fillAll (aside : CacheAside) (kind : String) : List Record → Program Unit
  | [] => return ()
  | record :: rest => do
    aside.fill (Record.cacheKey kind record.id) record
    aside.fillAll kind rest

/-! ## What reads and writes do -/

/-- Fetches a record, from the cache if it is there and else from the store. What comes from the
store replaces a text that is no record, and otherwise only fills an empty key. -/
def fetchOne (aside : CacheAside) (schema : Schema) (id : String) :
    Program (Except StoreError Record) := do
  let key := Record.cacheKey schema.kind id
  match ← aside.lookup key with
  | .record record => return .ok record
  | cached =>
    match ← Program.askStore (.findOne schema id) with
    | .error error => return .error error
    | .ok record => do
      if cached = .corrupt then aside.put key record else aside.fill key record
      return .ok record

/-- After a query: fills the keys of its records, unless they carry relations. -/
def onFetched (aside : CacheAside) (schema : Schema) (filter : CompiledFilter)
    (records : List Record) : Program Unit :=
  if aside.enabled && filter.includes.isEmpty then aside.fillAll schema.kind records
  else return ()

/-- After a create or an update has taken effect: writes the record. Of a revisioned kind, an
entry of a later revision is kept. -/
def onCreateOrUpdate (aside : CacheAside) (schema : Schema) (record : Record) : Program Unit := do
  let key := Record.cacheKey schema.kind record.id
  if schema.revisioned then
    match ← aside.lookup key with
    | .record cached =>
      if record.revision < cached.revision then return () else aside.put key record
    | _ => aside.put key record
  else aside.put key record

/-- Before a delete: reads the record again and leaves a tombstone under its key. -/
def onBeforeDelete (aside : CacheAside) (schema : Schema) (id : String) :
    Program (Except StoreError Record) := do
  match ← Program.askStore (.findOne schema id) with
  | .error error => return .error error
  | .ok current => do
    aside.bury (Record.cacheKey schema.kind current.id)
    return .ok current

/-- After a delete has taken effect: leaves a tombstone again. -/
def onAfterDelete (aside : CacheAside) (schema : Schema) (id : String) : Program Unit :=
  aside.bury (Record.cacheKey schema.kind id)

/-- Whether the cache holds a record under a key. -/
def contains (aside : CacheAside) (kind id : String) : Program Bool := do
  match ← aside.lookup (Record.cacheKey kind id) with
  | .record _ => return true
  | _ => return false

/-- Closes the cache. -/
def close (aside : CacheAside) : Program Unit :=
  if aside.enabled then do
    let _ ← Program.askCache .close
  else return ()

end CacheAside

end RecordAccess
