import RecordAccess.Keyed

/-!
# The cache

Texts under keys, each alive for a lifetime after it was written. Times are in milliseconds. An
entry that is no longer alive may still be listed, but no call sees it; it makes room for what is
written next. A closed cache refuses every call and keeps what it holds.
-/

namespace RecordAccess

/-- Why a cache call has no result. -/
inductive CacheError where
  | connection (reason : String)
  | serialization (reason : String)
  | backend (reason : String)
  /-- The call took too long. -/
  | timeout
  /-- The cache was closed. -/
  | closed
deriving DecidableEq, Repr, Inhabited

/-- The wording of a cache error. -/
def CacheError.message : CacheError → String
  | connection reason => "Connection error: " ++ reason
  | serialization reason => "Serialization error: " ++ reason
  | backend reason => "Cache backend error: " ++ reason
  | timeout => "Cache call timed out"
  | closed => "Cache closed"

/-- How often a cache found and missed keys, wrote and removed them. -/
structure CacheStats where
  hits : Nat
  misses : Nat
  sets : Nat
  deletes : Nat
deriving DecidableEq, Repr

/-- A cached text, and the time at which it expires, if it does. -/
structure CacheEntry where
  value : String
  expiresAt : Option Nat
deriving DecidableEq, Repr

/-- A cache of texts. -/
structure Cache where
  entries : Keyed CacheEntry
  lifetime : Option Nat
  closed : Bool
  stats : CacheStats
deriving DecidableEq, Repr

/-- Whether an entry is alive at a time. -/
def CacheEntry.isLive (entry : CacheEntry) (now : Nat) : Bool :=
  match entry.expiresAt with
  | some time => now < time
  | none => true

/-! ## Calls -/

/-- A call of a cache. -/
inductive CacheCall where
  /-- Looks up a value. -/
  | get (key : String)
  /-- Writes a value. -/
  | set (key value : String)
  /-- Writes a value unless the key holds one, and tells whether it wrote. -/
  | setIfAbsent (key value : String)
  /-- Removes a value. -/
  | delete (key : String)
  /-- Tells whether the key holds a value. -/
  | contains (key : String)
  /-- Closes the cache. -/
  | close
deriving DecidableEq, Repr

namespace CacheCall

/-- What a call results in when it succeeds. -/
def Result : CacheCall → Type
  | get _ => Option String
  | set _ _ | delete _ | close => Unit
  | setIfAbsent _ _ | contains _ => Bool

/-- What a call is answered with. -/
abbrev Reply (call : CacheCall) : Type := Except CacheError call.Result

end CacheCall

namespace Cache

/-- How long an entry lives unless another lifetime is chosen: five minutes. -/
def defaultLifetime : Nat := 300000

/-- A cache without entries. A lifetime of zero lets entries live until they are removed. -/
def empty (lifetime : Nat) : Cache :=
  ⟨[], if lifetime = 0 then none else some lifetime, false, ⟨0, 0, 0, 0⟩⟩

/-- The value that a key holds at a time. -/
def live? (cache : Cache) (now : Nat) (key : String) : Option String :=
  ((cache.entries.find? key).filter fun entry => entry.isLive now).map CacheEntry.value

/-- How many keys hold a value at a time. -/
def size (cache : Cache) (now : Nat) : Nat :=
  (cache.entries.filter fun entry => entry.2.isLive now).length

/-- Writes a value at a time. -/
def write (cache : Cache) (now : Nat) (key value : String) : Cache :=
  { cache with
    entries := cache.entries.insert key ⟨value, cache.lifetime.map (now + ·)⟩
    stats := { cache.stats with sets := cache.stats.sets + 1 } }

/-- A value is there when it has been written, until its lifetime is over. -/
theorem live?_write_self (cache : Cache) (written now : Nat) (key value : String) :
    (cache.write written key value).live? now key =
      if cache.lifetime.all fun lifetime => now < written + lifetime then some value else none := by
  cases h : cache.lifetime <;> simp [live?, write, CacheEntry.isLive, Option.filter, h]

/-- A write under one key does not touch another. -/
theorem live?_write_of_ne (cache : Cache) (written now : Nat) {key other : String}
    (value : String) (different : key ≠ other) :
    (cache.write written key value).live? now other = cache.live? now other := by
  simp [live?, write, Keyed.find?_insert_of_ne _ _ different]

/-- Counts a look-up. -/
def countLookup (cache : Cache) (found : Bool) : Cache :=
  { cache with
    stats :=
      if found then { cache.stats with hits := cache.stats.hits + 1 }
      else { cache.stats with misses := cache.stats.misses + 1 } }

/-- Removes a key, and counts that if it was listed. -/
def remove (cache : Cache) (key : String) : Cache :=
  if cache.entries.contains key then
    { cache with
      entries := cache.entries.erase key
      stats := { cache.stats with deletes := cache.stats.deletes + 1 } }
  else cache

/-- Answers a call of an open cache. -/
def answerOpen (cache : Cache) (now : Nat) : (call : CacheCall) → call.Reply × Cache
  | .get key =>
    let found := cache.live? now key
    (.ok found, cache.countLookup found.isSome)
  | .set key value => (.ok (), cache.write now key value)
  | .setIfAbsent key value =>
    if (cache.live? now key).isSome then (.ok false, cache)
    else (.ok true, cache.write now key value)
  | .delete key => (.ok (), cache.remove key)
  | .contains key => (.ok (cache.live? now key).isSome, cache)
  | .close => (.ok (), { cache with closed := true })

/-- Answers a call. A closed cache can only be closed again. -/
def answer (cache : Cache) (now : Nat) (call : CacheCall) : call.Reply × Cache :=
  if cache.closed && call != .close then (.error .closed, cache)
  else cache.answerOpen now call

theorem answer_of_isOpen {cache : Cache} (isOpen : cache.closed = false) (now : Nat)
    (call : CacheCall) : cache.answer now call = cache.answerOpen now call := by
  simp [answer, isOpen]

end Cache

end RecordAccess
