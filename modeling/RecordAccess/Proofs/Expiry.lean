import Mathlib.Logic.Function.Iterate
import RecordAccess.Cache.Basic
import RecordAccess.Proofs.Tables

/-!
# Expiry

A cache lists entries that are over and hides them. It cannot be told from a plain map that has nothing
to hide, because each entry is taken out of it at the instant at which its lifetime is over
(`Cache.sightings_eager`). What is compared are the answers to all calls, the number of values, and how
often a key was found, missed and written. How many keys were removed is not the same: an entry that is
over and still listed counts when its key is removed.

The map is told of time instant by instant. Its entries are those of the cache that are alive
(`Cache.IsMirrored`), which passing time and every call keep so.
-/

namespace RecordAccess

/-! ## Uses and what is seen of them -/

/-- What a cache is used for: a call, or the number of its values. -/
inductive CacheUse where
  | call (call : CacheCall)
  | size
deriving DecidableEq, Repr

/-- What a use is answered with. -/
def CacheUse.Reply : CacheUse → Type
  | .call asked => asked.Reply
  | .size => Nat

/-- What is seen of a use: its answer, and how often a key was found, missed and written by then. -/
structure Sighting where
  use : CacheUse
  reply : use.Reply
  hits : Nat
  misses : Nat
  sets : Nat

namespace Cache

/-- Answers a use. -/
def serve (cache : Cache) (now : Nat) : (use : CacheUse) → use.Reply × Cache
  | .call call => cache.answer now call
  | .size => (cache.size now, cache)

/-- The cache after some uses, each with its time. -/
def after (cache : Cache) (uses : List (Nat × CacheUse)) : Cache :=
  uses.foldl (fun cache use => (cache.serve use.1 use.2).2) cache

/-- What is seen of some uses, each with its time. -/
def sightings (cache : Cache) : List (Nat × CacheUse) → List Sighting
  | [] => []
  | (now, use) :: rest =>
    let (reply, next) := cache.serve now use
    ⟨use, reply, next.stats.hits, next.stats.misses, next.stats.sets⟩ :: next.sightings rest

end Cache

/-! ## The plain map -/

/-- A value and the time at which it was written. -/
structure Kept where
  value : String
  written : Nat
deriving DecidableEq, Repr

/-- A plain map of values, and the present time. -/
structure EagerCache where
  kept : Keyed Kept
  now : Nat
  lifetime : Option Nat
  closed : Bool
  hits : Nat
  misses : Nat
  sets : Nat
deriving DecidableEq, Repr

namespace EagerCache

/-- A map without entries. A lifetime of zero lets entries stay until they are removed. -/
def empty (lifetime : Nat) : EagerCache :=
  ⟨[], 0, if lifetime = 0 then none else some lifetime, false, 0, 0, 0⟩

/-- An instant passes, and the entries whose lifetime is then over are taken out. -/
def tick (map : EagerCache) : EagerCache :=
  { map with
    kept := map.kept.filter fun entry =>
      map.lifetime.all fun lifetime => entry.2.written + lifetime != map.now + 1
    now := map.now + 1 }

/-- Instants pass up to a time. -/
def wait (map : EagerCache) (time : Nat) : EagerCache :=
  tick^[time - map.now] map

/-- The value under a key. -/
def value? (map : EagerCache) (key : String) : Option String :=
  (map.kept.find? key).map Kept.value

/-- Puts a value under a key. -/
def write (map : EagerCache) (key value : String) : EagerCache :=
  { map with kept := map.kept.insert key ⟨value, map.now⟩, sets := map.sets + 1 }

/-- Answers a call of an open map at the present time. -/
def answerOpen (map : EagerCache) : (call : CacheCall) → call.Reply × EagerCache
  | .get key =>
    match map.value? key with
    | some value => (.ok (some value), { map with hits := map.hits + 1 })
    | none => (.ok none, { map with misses := map.misses + 1 })
  | .set key value => (.ok (), map.write key value)
  | .setIfAbsent key value =>
    match map.value? key with
    | some _ => (.ok false, map)
    | none => (.ok true, map.write key value)
  | .delete key => (.ok (), { map with kept := map.kept.erase key })
  | .contains key => (.ok (map.value? key).isSome, map)
  | .close => (.ok (), { map with closed := true })

/-- Answers a call at the present time. A closed map can only be closed again. -/
def answer (map : EagerCache) (call : CacheCall) : call.Reply × EagerCache :=
  if map.closed && call != .close then (.error .closed, map) else map.answerOpen call

/-- Answers a use at the present time. -/
def serve (map : EagerCache) : (use : CacheUse) → use.Reply × EagerCache
  | .call call => map.answer call
  | .size => (map.kept.length, map)

/-- What is seen of some uses, each with its time. -/
def sightings (map : EagerCache) : List (Nat × CacheUse) → List Sighting
  | [] => []
  | (time, use) :: rest =>
    let (reply, next) := (map.wait time).serve use
    ⟨use, reply, next.hits, next.misses, next.sets⟩ :: next.sightings rest

end EagerCache

/-! ## The living entries -/

/-- The entry of a cache for a value that was written at a time. -/
def Kept.entry (lifetime : Option Nat) (kept : Kept) : CacheEntry :=
  ⟨kept.value, lifetime.map (kept.written + ·)⟩

/-- An entry that is alive was so before. -/
theorem CacheEntry.isLive_of_le {entry : CacheEntry} {now later : Nat} (early : now ≤ later)
    (alive : entry.isLive later = true) : entry.isLive now = true := by
  obtain ⟨value, _ | expiry⟩ := entry
  · rfl
  · simp only [CacheEntry.isLive, decide_eq_true_eq] at alive ⊢
    omega

/-- An entry is alive for a lifetime after it was written. -/
theorem Kept.isLive_entry (kept : Kept) (lifetime : Option Nat) (now : Nat) :
    (kept.entry lifetime).isLive now = lifetime.all fun lifetime => now < kept.written + lifetime := by
  cases lifetime <;> rfl

/-- An entry that is alive is so an instant later, unless its lifetime is over just then. -/
theorem Kept.isLive_succ {kept : Kept} {lifetime : Option Nat} {now : Nat}
    (alive : (kept.entry lifetime).isLive now = true) :
    (kept.entry lifetime).isLive (now + 1) =
      lifetime.all fun lifetime => kept.written + lifetime != now + 1 := by
  rw [Kept.isLive_entry] at alive ⊢
  cases lifetime with
  | none => rfl
  | some lifetime =>
    rw [Bool.eq_iff_iff]
    simp only [Option.all_some, decide_eq_true_eq, bne_iff_ne] at alive ⊢
    omega

namespace Cache

variable {cache : Cache} {map : EagerCache} {key value : String}

/-- The entries of a map are those of a cache that are alive, and all else that is seen is the same. -/
structure IsMirrored (cache : Cache) (map : EagerCache) : Prop where
  lifetime : map.lifetime = cache.lifetime
  positive : cache.lifetime ≠ some 0
  closed : map.closed = cache.closed
  hits : map.hits = cache.stats.hits
  misses : map.misses = cache.stats.misses
  sets : map.sets = cache.stats.sets
  nodup : cache.entries.keys.Nodup
  nodupKept : map.kept.keys.Nodup
  living : ∀ key, (map.kept.find? key).map (Kept.entry cache.lifetime) =
    (cache.entries.find? key).filter fun entry => entry.isLive map.now

theorem isMirrored_empty (lifetime : Nat) : (empty lifetime).IsMirrored (.empty lifetime) where
  lifetime := rfl
  positive := by
    by_cases endless : lifetime = 0 <;> simp [empty, endless]
  closed := rfl
  hits := rfl
  misses := rfl
  sets := rfl
  nodup := List.nodup_nil
  nodupKept := List.nodup_nil
  living _ := rfl

/-- The map has the values that the cache shows. -/
theorem IsMirrored.value?_eq (mirrored : cache.IsMirrored map) (key : String) :
    map.value? key = cache.live? map.now key := by
  have living := congrArg (Option.map CacheEntry.value) (mirrored.living key)
  rw [Option.map_map] at living
  exact living

/-! ### Time -/

theorem IsMirrored.tick (mirrored : cache.IsMirrored map) : cache.IsMirrored map.tick where
  lifetime := mirrored.lifetime
  positive := mirrored.positive
  closed := mirrored.closed
  hits := mirrored.hits
  misses := mirrored.misses
  sets := mirrored.sets
  nodup := mirrored.nodup
  nodupKept := Keyed.nodup_filter mirrored.nodupKept _
  living key := by
    have living := mirrored.living key
    simp only [EagerCache.tick]
    rw [Keyed.find?_filter mirrored.nodupKept fun kept =>
      map.lifetime.all fun lifetime => kept.written + lifetime != map.now + 1]
    cases found : map.kept.find? key with
    | none =>
      rw [found] at living
      rw [Option.filter_none, Option.map_none]
      refine (Option.filter_eq_none_iff.2 fun entry listed alive => ?_).symm
      exact Option.filter_eq_none_iff.1 living.symm entry listed
        (CacheEntry.isLive_of_le (Nat.le_succ _) alive)
    | some kept =>
      rw [found] at living
      obtain ⟨listed, alive⟩ := Option.filter_eq_some_iff.1 living.symm
      rw [listed, Option.filter_some, Option.filter_some, Kept.isLive_succ alive, mirrored.lifetime]
      split <;> rfl

theorem IsMirrored.wait (mirrored : cache.IsMirrored map) (time : Nat) :
    cache.IsMirrored (map.wait time) := by
  rw [EagerCache.wait]
  induction time - map.now with
  | zero => exact mirrored
  | succ n ih =>
    rw [Function.iterate_succ_apply']
    exact ih.tick

/-! ### Calls -/

/-- What is written now is alive now. -/
theorem all_lt_add {lifetime : Option Nat} (positive : lifetime ≠ some 0) (now : Nat) :
    (lifetime.all fun lifetime => now < now + lifetime) = true := by
  cases lifetime with
  | none => rfl
  | some lifetime =>
    have nonzero : lifetime ≠ 0 := fun zero => positive (congrArg some zero)
    simpa using Nat.pos_of_ne_zero nonzero

theorem IsMirrored.write (mirrored : cache.IsMirrored map) (key value : String) :
    (cache.write map.now key value).IsMirrored (map.write key value) where
  lifetime := mirrored.lifetime
  positive := mirrored.positive
  closed := mirrored.closed
  hits := mirrored.hits
  misses := mirrored.misses
  sets := congrArg (· + 1) mirrored.sets
  nodup := Keyed.nodup_insert mirrored.nodup
  nodupKept := Keyed.nodup_insert mirrored.nodupKept
  living other := by
    simp only [EagerCache.write, Cache.write]
    by_cases same : key = other
    · subst same
      have alive : (Kept.entry cache.lifetime ⟨value, map.now⟩).isLive map.now = true := by
        rw [Kept.isLive_entry]
        exact all_lt_add mirrored.positive map.now
      rw [Keyed.find?_insert_self, Keyed.find?_insert_self]
      exact (if_pos alive).symm
    · rw [Keyed.find?_insert_of_ne _ _ same, Keyed.find?_insert_of_ne _ _ same]
      exact mirrored.living other

/-- A key is taken out of both, whether its entry was alive or over or there was none. -/
theorem IsMirrored.of_removed (mirrored : cache.IsMirrored map) {entries : Keyed CacheEntry}
    (nodup : entries.keys.Nodup) (gone : entries.find? key = none)
    (others : ∀ other, key ≠ other → entries.find? other = cache.entries.find? other) (deletes : Nat) :
    IsMirrored { cache with entries, stats := { cache.stats with deletes } }
      { map with kept := map.kept.erase key } where
  lifetime := mirrored.lifetime
  positive := mirrored.positive
  closed := mirrored.closed
  hits := mirrored.hits
  misses := mirrored.misses
  sets := mirrored.sets
  nodup := nodup
  nodupKept := Keyed.nodup_erase mirrored.nodupKept key
  living other := by
    by_cases same : key = other
    · subst same
      rw [Keyed.find?_erase_self mirrored.nodupKept, gone]
      rfl
    · rw [Keyed.find?_erase_of_ne _ same, others other same]
      exact mirrored.living other

theorem IsMirrored.remove (mirrored : cache.IsMirrored map) (key : String) :
    (cache.remove key).IsMirrored { map with kept := map.kept.erase key } := by
  unfold Cache.remove
  split
  · exact mirrored.of_removed (Keyed.nodup_erase mirrored.nodup key)
      (Keyed.find?_erase_self mirrored.nodup key) (fun _ => Keyed.find?_erase_of_ne _) _
  · next unlisted =>
    have gone : cache.entries.find? key = none := by simpa [Keyed.contains] using unlisted
    exact mirrored.of_removed mirrored.nodup gone (fun _ _ => rfl) cache.stats.deletes

/-- As many entries are alive as there are values in the map. -/
theorem IsMirrored.size_eq (mirrored : cache.IsMirrored map) : cache.size map.now = map.kept.length := by
  have sameKeys : (Keyed.keys (cache.entries.filter fun entry => entry.2.isLive map.now)).Perm
      map.kept.keys := by
    refine (List.perm_ext_iff_of_nodup (Keyed.nodup_filter mirrored.nodup _) mirrored.nodupKept).2
      fun key => ?_
    rw [Keyed.mem_keys_iff, Keyed.mem_keys_iff, Keyed.find?_filter mirrored.nodup fun entry =>
      entry.isLive map.now, ← mirrored.living key]
    simp
  calc cache.size map.now
      = (Keyed.keys (cache.entries.filter fun entry => entry.2.isLive map.now)).length :=
        (List.length_map _).symm
    _ = map.kept.keys.length := sameKeys.length_eq
    _ = map.kept.length := List.length_map _

theorem IsMirrored.answerOpen (mirrored : cache.IsMirrored map) (asked : CacheCall) :
    (cache.answerOpen map.now asked).1 = (map.answerOpen asked).1 ∧
      (cache.answerOpen map.now asked).2.IsMirrored (map.answerOpen asked).2 := by
  cases asked with
  | get key =>
    simp only [Cache.answerOpen, EagerCache.answerOpen, mirrored.value?_eq]
    cases cache.live? map.now key with
    | none => exact ⟨rfl, { mirrored with misses := congrArg (· + 1) mirrored.misses }⟩
    | some value => exact ⟨rfl, { mirrored with hits := congrArg (· + 1) mirrored.hits }⟩
  | set key value => exact ⟨rfl, mirrored.write key value⟩
  | setIfAbsent key value =>
    simp only [Cache.answerOpen, EagerCache.answerOpen, mirrored.value?_eq]
    cases cache.live? map.now key with
    | none => exact ⟨rfl, mirrored.write key value⟩
    | some old => exact ⟨rfl, mirrored⟩
  | delete key => exact ⟨rfl, mirrored.remove key⟩
  | contains key =>
    simp only [Cache.answerOpen, EagerCache.answerOpen, mirrored.value?_eq]
    exact ⟨trivial, mirrored⟩
  | close => exact ⟨rfl, { mirrored with closed := rfl }⟩

theorem IsMirrored.answer (mirrored : cache.IsMirrored map) (asked : CacheCall) :
    (cache.answer map.now asked).1 = (map.answer asked).1 ∧
      (cache.answer map.now asked).2.IsMirrored (map.answer asked).2 := by
  rw [Cache.answer, EagerCache.answer, mirrored.closed]
  by_cases shut : (cache.closed && asked != .close) = true
  · rw [if_pos shut, if_pos shut]
    exact ⟨rfl, mirrored⟩
  · rw [if_neg shut, if_neg shut]
    exact mirrored.answerOpen asked

/-- A cache and its map answer a use alike, and are a cache and its map after it. -/
theorem IsMirrored.serve (mirrored : cache.IsMirrored map) (use : CacheUse) :
    (cache.serve map.now use).1 = (map.serve use).1 ∧
      (cache.serve map.now use).2.IsMirrored (map.serve use).2 := by
  cases use with
  | size => exact ⟨mirrored.size_eq, mirrored⟩
  | call asked => exact mirrored.answer asked

end Cache

namespace EagerCache

theorem now_iterate_tick (map : EagerCache) (n : Nat) : (tick^[n] map).now = map.now + n := by
  induction n with
  | zero => rfl
  | succ n ih =>
    rw [Function.iterate_succ_apply']
    exact congrArg (· + 1) ih

theorem now_wait {map : EagerCache} {time : Nat} (later : map.now ≤ time) : (map.wait time).now = time := by
  rw [wait, now_iterate_tick]
  omega

theorem now_answer (map : EagerCache) (asked : CacheCall) : (map.answer asked).2.now = map.now := by
  unfold answer
  split
  · rfl
  · cases asked with
    | get key =>
      rw [answerOpen]
      cases map.value? key <;> rfl
    | setIfAbsent key value =>
      rw [answerOpen]
      cases map.value? key <;> rfl
    | _ => rfl

/-- Uses take no time. -/
theorem now_serve (map : EagerCache) (use : CacheUse) : (map.serve use).2.now = map.now := by
  cases use with
  | size => rfl
  | call asked => exact map.now_answer asked

end EagerCache

namespace Cache

variable {cache : Cache} {map : EagerCache} {uses : List (Nat × CacheUse)}

/-- Of uses in the order of time the same is seen in a cache and in its map. -/
theorem IsMirrored.sightings_eq (mirrored : cache.IsMirrored map)
    (ordered : (uses.map Prod.fst).Pairwise (· ≤ ·)) (later : ∀ use ∈ uses, map.now ≤ use.1) :
    cache.sightings uses = map.sightings uses := by
  induction uses generalizing cache map with
  | nil => rfl
  | cons first rest ih =>
    obtain ⟨time, use⟩ := first
    obtain ⟨least, orderedRest⟩ := List.pairwise_cons.1 ordered
    have now : (map.wait time).now = time := EagerCache.now_wait (later _ (List.mem_cons_self ..))
    obtain ⟨same, after⟩ := (mirrored.wait time).serve use
    have laterRest : ∀ next ∈ rest, ((map.wait time).serve use).2.now ≤ next.1 := by
      intro next member
      rw [EagerCache.now_serve, now]
      exact least next.1 (List.mem_map_of_mem member)
    rw [now] at same after
    simp only [sightings, EagerCache.sightings, same, after.hits, after.misses, after.sets,
      ih after orderedRest laterRest]

/-! ### The lifetime, and closing -/

/-- A call leaves the lifetime as it is, and only closing closes a cache. -/
theorem answer_setting (cache : Cache) (now : Nat) (asked : CacheCall) :
    (cache.answer now asked).2.lifetime = cache.lifetime ∧
      ((cache.answer now asked).2.closed = true ↔ cache.closed = true ∨ asked = .close) := by
  unfold answer
  split
  · next refused =>
    exact ⟨rfl, (or_iff_left_of_imp fun _ => (Bool.and_eq_true_iff.1 refused).1).symm⟩
  · cases asked with
    | setIfAbsent key value =>
      rw [answerOpen]
      split <;> exact ⟨rfl, by simp [write]⟩
    | delete key =>
      change (cache.remove key).lifetime = _ ∧ ((cache.remove key).closed = true ↔ _)
      unfold remove
      split <;> exact ⟨rfl, by simp⟩
    | close => exact ⟨rfl, by simp [answerOpen]⟩
    | get key => exact ⟨rfl, by simp [answerOpen, countLookup]⟩
    | set key value => exact ⟨rfl, by simp [answerOpen, write]⟩
    | contains key => exact ⟨rfl, by simp [answerOpen]⟩

theorem lifetime_after (cache : Cache) (uses : List (Nat × CacheUse)) :
    (cache.after uses).lifetime = cache.lifetime := by
  induction uses generalizing cache with
  | nil => rfl
  | cons first rest ih =>
    refine (ih (cache.serve first.1 first.2).2).trans ?_
    obtain ⟨now, asked | -⟩ := first
    · exact (cache.answer_setting now asked).1
    · rfl

/-- A cache is closed when it was told to at any time before. -/
theorem closed_after (cache : Cache) (uses : List (Nat × CacheUse)) :
    (cache.after uses).closed = true ↔ cache.closed = true ∨ ∃ time, (time, .call .close) ∈ uses := by
  induction uses generalizing cache with
  | nil => simp [after]
  | cons first rest ih =>
    have step : (cache.serve first.1 first.2).2.closed = true ↔
        cache.closed = true ∨ first.2 = .call .close := by
      obtain ⟨now, asked | -⟩ := first
      · exact (cache.answer_setting now asked).2.trans (by simp)
      · simp [serve]
    refine (ih (cache.serve first.1 first.2).2).trans ?_
    rw [step, or_assoc]
    simp only [List.mem_cons, Prod.ext_iff, exists_or, exists_eq_left, eq_comm]

theorem answer_of_closed (shut : cache.closed = true) {asked : CacheCall} (other : asked ≠ .close)
    (now : Nat) : cache.answer now asked = (.error .closed, cache) :=
  if_pos (by simp [shut, other])

/-! ### Conditional writes -/

/-- A conditional write writes if a look-up misses, and then its value is found. -/
theorem setIfAbsent_of_isOpen (isOpen : cache.closed = false) (positive : cache.lifetime ≠ some 0)
    (now : Nat) (key value : String) :
    ∃ found, (cache.answer now (.get key)).1 = .ok found ∧
      (cache.answer now (.setIfAbsent key value)).1 = .ok found.isNone ∧
      ((cache.answer now (.setIfAbsent key value)).2.answer now (.get key)).1 =
        .ok (some (found.getD value)) := by
  have looked : ∀ {cache : Cache}, cache.closed = false →
      (cache.answer now (.get key)).1 = .ok (cache.live? now key) := fun isOpen =>
    congrArg Prod.fst (answer_of_isOpen isOpen now (.get key))
  have conditional : cache.answer now (.setIfAbsent key value) =
      if (cache.live? now key).isSome then (.ok false, cache)
      else (.ok true, cache.write now key value) := answer_of_isOpen isOpen ..
  refine ⟨cache.live? now key, looked isOpen, ?_⟩
  cases held : cache.live? now key with
  | some old =>
    rw [conditional.trans (if_pos (by rw [held]; rfl))]
    exact ⟨rfl, (looked isOpen).trans (congrArg Except.ok held)⟩
  | none =>
    rw [conditional.trans (if_neg (by rw [held]; exact Bool.false_ne_true))]
    have shown := (cache.live?_write_self now now key value).trans (if_pos (all_lt_add positive now))
    have stillOpen : (cache.write now key value).closed = false := isOpen
    exact ⟨rfl, (looked stillOpen).trans (congrArg Except.ok shown)⟩

/-! ### Lazy and eager expiry -/

/-- Whatever a cache is used for in the order of time, the same is seen as in a plain map from which each
entry is taken out when its lifetime is over. As long as it is not closed, a look-up is answered at any time,
and a conditional write writes if the look-up misses, and only then. Once it has been closed it refuses every
other call and stays as it is. -/
theorem sightings_eager (lifetime : Nat) {uses : List (Nat × CacheUse)}
    (ordered : (uses.map Prod.fst).Pairwise (· ≤ ·)) :
    (empty lifetime).sightings uses = (EagerCache.empty lifetime).sightings uses ∧
      ((∀ time, (time, .call .close) ∉ uses) → ∀ now key value, ∃ found,
        (((empty lifetime).after uses).answer now (.get key)).1 = .ok found ∧
          (((empty lifetime).after uses).answer now (.setIfAbsent key value)).1 = .ok found.isNone ∧
          ((((empty lifetime).after uses).answer now (.setIfAbsent key value)).2.answer now
            (.get key)).1 = .ok (some (found.getD value))) ∧
      ∀ time, (time, .call .close) ∈ uses → ∀ now asked, asked ≠ .close →
        ((empty lifetime).after uses).answer now asked =
          (.error .closed, (empty lifetime).after uses) := by
  have mirrored := isMirrored_empty lifetime
  have positive : ((empty lifetime).after uses).lifetime ≠ some 0 := by
    rw [lifetime_after]
    exact mirrored.positive
  refine ⟨mirrored.sightings_eq ordered fun _ _ => Nat.zero_le _, fun never => ?_, fun time closing => ?_⟩
  · have isOpen : ((empty lifetime).after uses).closed = false := by
      rw [← Bool.not_eq_true, closed_after]
      rintro (initially | ⟨time, closing⟩)
      · cases initially
      · exact never time closing
    exact setIfAbsent_of_isOpen isOpen positive
  · have shut := ((empty lifetime).closed_after uses).2 (.inr ⟨time, closing⟩)
    exact fun now asked other => answer_of_closed shut other now

/-- Uses of a cache whose entries live for ten milliseconds. A value is overwritten before its lifetime is
over, and missed at the instant at which it is over. -/
def noteUses : List (Nat × CacheUse) :=
  [(0, .call (.set "a" "x")), (4, .call (.set "a" "y")), (13, .call (.get "a")), (14, .size),
    (14, .call (.get "a"))]

/-- What is seen of them. -/
def noteSightings : List Sighting :=
  [⟨.call (.set "a" "x"), Except.ok (), 0, 0, 1⟩, ⟨.call (.set "a" "y"), Except.ok (), 0, 0, 2⟩,
    ⟨.call (.get "a"), Except.ok (some "y"), 1, 0, 2⟩, ⟨.size, (0 : Nat), 1, 0, 2⟩,
    ⟨.call (.get "a"), Except.ok none, 1, 1, 2⟩]

/-- The value that is over does not keep another from being written in its place. When the cache is closed
in the end, nothing is removed any more. -/
theorem sightings_eager_note : (noteUses.map Prod.fst).Pairwise (· ≤ ·) ∧
    (empty 10).sightings noteUses = (EagerCache.empty 10).sightings noteUses ∧
    (EagerCache.empty 10).sightings noteUses = noteSightings ∧
    (((empty 10).after noteUses).answer 14 (.setIfAbsent "a" "z")).1 = .ok true ∧
    (((empty 10).after (noteUses ++ [(15, CacheUse.call .close)])).answer 16 (.delete "a")).1 =
      .error .closed := by
  have ordered : (noteUses.map Prod.fst).Pairwise (· ≤ ·) := by decide
  have orderedClosing : ((noteUses ++ [(15, CacheUse.call .close)]).map Prod.fst).Pairwise (· ≤ ·) := by
    decide
  obtain ⟨same, conditional, -⟩ := sightings_eager 10 ordered
  obtain ⟨-, -, shut⟩ := sightings_eager 10 orderedClosing
  obtain ⟨found, missed, written, -⟩ := conditional (by simp [noteUses]) 14 "a" "z"
  obtain rfl : none = found := Except.ok.inj missed
  have refused := shut 15 (by simp) 16 (.delete "a") (by decide)
  exact ⟨ordered, same, rfl, written, congrArg Prod.fst refused⟩

end Cache

end RecordAccess
