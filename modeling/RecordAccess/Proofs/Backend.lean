import RecordAccess.Proofs.StorableRecords

/-!
# Backends

A store and a cache, without any task that is under way. When no request is, what the cache lists
for a record is a tombstone or the text of the record as it is stored, alive or not
(`Backend.IsCoherent`). While a write is being made, that may fail for the one record that is
written. How long entries live does not matter: time is told by any clock.
-/

namespace RecordAccess

/-! ## Stores that agree -/

namespace Store

/-- Two stores have the same records and get the same ids. -/
structure Agrees (store other : Store) : Prop where
  tables : store.tables = other.tables
  generated : store.generated = other.generated
  newId : store.newId = other.newId

theorem Agrees.refl (store : Store) : store.Agrees store := ⟨rfl, rfl, rfl⟩

variable {store other : Store}

theorem Agrees.symm (agrees : store.Agrees other) : other.Agrees store :=
  ⟨agrees.tables.symm, agrees.generated.symm, agrees.newId.symm⟩

theorem Agrees.trans {third : Store} (agrees : store.Agrees other) (further : other.Agrees third) :
    store.Agrees third :=
  ⟨agrees.tables.trans further.tables, agrees.generated.trans further.generated,
    agrees.newId.trans further.newId⟩

theorem Agrees.rows_eq (agrees : store.Agrees other) : store.rows = other.rows := by
  funext kind
  rw [rows, rows, agrees.tables]

/-- A look-up changes statistics only. -/
theorem agrees_findOne (store : Store) (schema : Schema) (id : String) :
    store.Agrees (store.answer (.findOne schema id)).2 :=
  ⟨rfl, rfl, rfl⟩

/-- Stores that agree answer a call alike, and still agree after it. -/
theorem answer_of_agrees (agrees : store.Agrees other) (call : StoreCall) :
    (store.answer call).1 = (other.answer call).1 ∧
      (store.answer call).2.Agrees (other.answer call).2 := by
  obtain ⟨tables, stats, generated, newId⟩ := store
  obtain ⟨otherTables, otherStats, otherGenerated, otherNewId⟩ := other
  obtain ⟨rfl, rfl, rfl⟩ := agrees
  cases call with
  | findMany schema filter => exact ⟨rfl, rfl, rfl, rfl⟩
  | findOne schema id => exact ⟨rfl, rfl, rfl, rfl⟩
  | create schema record =>
    simp only [answer, create, rows]
    by_cases anonymous : record.id.isEmpty = true
    · simp only [anonymous, ↓reduceIte]
      cases Rows.find? _ (Record.id _) <;> exact ⟨rfl, rfl, rfl, rfl⟩
    · simp only [anonymous, Bool.false_eq_true, ↓reduceIte]
      cases Rows.find? _ (Record.id _) <;> exact ⟨rfl, rfl, rfl, rfl⟩
  | update schema proposed expected =>
    simp only [answer, update, rows]
    cases Rows.find? _ proposed.id with
    | none => exact ⟨rfl, rfl, rfl, rfl⟩
    | some stored =>
      by_cases fits : (expected.all fun revision => stored.revision == revision) = true
      · simp only [fits, if_true]
        exact ⟨rfl, rfl, rfl, rfl⟩
      · simp only [fits, Bool.false_eq_true, if_false]
        exact ⟨rfl, rfl, rfl, rfl⟩
  | delete schema id =>
    simp only [answer, delete, rows]
    cases Rows.find? _ id <;> exact ⟨rfl, rfl, rfl, rfl⟩

end Store

/-! ## Listed texts -/

namespace Cache

variable {cache : Cache} {now : Nat} {key value : String}

/-- The text that is listed under a key, alive or not. -/
def listed? (cache : Cache) (key : String) : Option String :=
  (cache.entries.find? key).map CacheEntry.value

theorem listed?_of_live? (alive : cache.live? now key = some value) :
    cache.listed? key = some value := by
  obtain ⟨entry, found, rfl⟩ := Option.map_eq_some_iff.1 alive
  rw [listed?, (Option.filter_eq_some_iff.1 found).1]
  rfl

theorem listed?_write_self : (cache.write now key value).listed? key = some value := by
  simp [listed?, write]

theorem listed?_write_of_ne {other : String} (different : key ≠ other) :
    (cache.write now key value).listed? other = cache.listed? other := by
  simp [listed?, write, Keyed.find?_insert_of_ne _ _ different]

end Cache

/-! ## Backends -/

/-- A store and a cache, and the number of calls that they have answered. -/
structure Backend where
  store : Store
  cache : Cache
  calls : Nat

namespace Backend

/-- Answers a call. A clock tells at what time each call is made. -/
def answer (clock : Nat → Nat) : (call : Call) → Backend → call.Reply × Backend
  | .store call, backend =>
    let (reply, store) := backend.store.answer call
    (reply, ⟨store, backend.cache, backend.calls + 1⟩)
  | .cache call, backend =>
    let (reply, cache) := backend.cache.answer (clock backend.calls) call
    (reply, ⟨backend.store, cache, backend.calls + 1⟩)

theorem run_findOne (clock : Nat → Nat) (schema : Schema) (id : String) (backend : Backend) :
    Program.run (answer clock) (Program.askStore (.findOne schema id)) backend =
      (backend.store.findOne schema id, (answer clock (.store (.findOne schema id)) backend).2) := rfl

theorem run_findMany (clock : Nat → Nat) (schema : Schema) (filter : CompiledFilter)
    (backend : Backend) :
    Program.run (answer clock) (Program.askStore (.findMany schema filter)) backend =
      (backend.store.findMany schema filter,
        (answer clock (.store (.findMany schema filter)) backend).2) := rfl

/-- A text that may be cached for a record: a tombstone, or the text of the record as it is
stored. -/
def IsCacheable (backend : Backend) (kind id text : String) : Prop :=
  text = CacheAside.tombstoneText ∨
    ∃ row, backend.store.row? kind id = some row ∧ text = row.text

/-- A backend whose cache is open and lists only what may be cached, except for a record that is
being written. -/
structure IsCoherent (backend : Backend) (pending : Option (String × String)) : Prop where
  isOpen : backend.cache.closed = false
  distinct : backend.store.Distinct
  storable : backend.store.IsStorable
  cacheable : ∀ kind id text, ':' ∉ kind.toList → pending ≠ some (kind, id) →
    backend.cache.listed? (Record.cacheKey kind id) = some text → backend.IsCacheable kind id text

variable {backend : Backend} {pending : Option (String × String)} {kind id text : String}

theorem isCoherent_empty (newId : Nat → String) (lifetime calls : Nat) :
    IsCoherent ⟨.empty newId, .empty lifetime, calls⟩ none where
  isOpen := rfl
  distinct _ := List.nodup_nil
  storable _ _ _ found := nomatch found
  cacheable _ _ _ _ _ listed := nomatch listed

namespace IsCoherent

/-- A record that is listed is stored. -/
theorem row?_of_listed? (coherent : backend.IsCoherent pending) (unmarked : ':' ∉ kind.toList)
    (settled : pending ≠ some (kind, id)) {record : Record}
    (listed : backend.cache.listed? (Record.cacheKey kind id) = some text)
    (decoded : CacheAside.decodeEntry text = .record record) :
    backend.store.row? kind id = some record := by
  rcases coherent.cacheable kind id text unmarked settled listed with rfl | ⟨row, there, rfl⟩
  · cases decoded
  · rcases CacheAside.decodeEntry_of_isStorable (coherent.storable kind id row there) with
      same | corrupt
    · cases decoded.symm.trans same
      exact there
    · cases decoded.symm.trans corrupt

/-- After a call of the store, what is cached is coherent except for the record that was written. -/
theorem answer_store (coherent : backend.IsCoherent none) {call : StoreCall} (plain : call.IsPlain)
    (calls : Nat) : IsCoherent ⟨(backend.store.answer call).2, backend.cache, calls⟩
      (call.written? (backend.store.answer call).1) where
  isOpen := coherent.isOpen
  distinct := Store.distinct_answer coherent.distinct call
  storable := Store.isStorable_answer coherent.distinct coherent.storable plain
  cacheable kind id text unmarked elsewhere listed := by
    rw [IsCacheable, Store.row?_answer_of_ne elsewhere]
    exact coherent.cacheable kind id text unmarked nofun listed

/-- A look-up leaves the cache as it is. -/
theorem countLookup (coherent : backend.IsCoherent pending) (found : Bool) (calls : Nat) :
    IsCoherent ⟨backend.store, backend.cache.countLookup found, calls⟩ pending where
  isOpen := coherent.isOpen
  distinct := coherent.distinct
  storable := coherent.storable
  cacheable := coherent.cacheable

/-- When what may be cached is written, nothing is pending any more. -/
theorem write (coherent : backend.IsCoherent pending) (own : ∀ record ∈ pending, record = (kind, id))
    (unmarked : ':' ∉ kind.toList) (cacheable : backend.IsCacheable kind id text)
    (now calls : Nat) : IsCoherent
      ⟨backend.store, backend.cache.write now (Record.cacheKey kind id) text, calls⟩ none where
  isOpen := coherent.isOpen
  distinct := coherent.distinct
  storable := coherent.storable
  cacheable other otherId value otherUnmarked _ listed := by
    by_cases same : Record.cacheKey kind id = Record.cacheKey other otherId
    · obtain ⟨rfl, rfl⟩ := cacheKey_inj unmarked otherUnmarked same
      rw [Cache.listed?_write_self] at listed
      cases listed
      exact cacheable
    · rw [Cache.listed?_write_of_ne same] at listed
      refine coherent.cacheable other otherId value otherUnmarked (fun isPending => ?_) listed
      cases own _ isPending
      exact same rfl

/-- When a key is filled unless it is alive, nothing becomes pending. -/
theorem fill (coherent : backend.IsCoherent none) (unmarked : ':' ∉ kind.toList)
    (cacheable : backend.IsCacheable kind id text) (now calls : Nat) :
    IsCoherent ⟨backend.store,
      (backend.cache.answerOpen now (.setIfAbsent (Record.cacheKey kind id) text)).2, calls⟩
      none := by
  simp only [Cache.answerOpen]
  split
  · exact { coherent with }
  · exact coherent.write nofun unmarked cacheable now calls

end IsCoherent

/-! ## Records that are being written -/

/-- A record that was written, and that the cache has not been told about: what it lists for it is
of an earlier revision. -/
structure IsWritten (backend : Backend) (schema : Schema) (record : Record) : Prop where
  coherent : backend.IsCoherent (some (schema.kind, record.id))
  stored : backend.store.row? schema.kind record.id = some record
  earlier : schema.revisioned = true → ∀ text cached,
    backend.cache.listed? (Record.cacheKey schema.kind record.id) = some text →
    CacheAside.decodeEntry text = .record cached → cached.revision < record.revision

/-- What a create or an update stores is then written. -/
theorem isWritten_of_stored? (coherent : backend.IsCoherent none) {call : StoreCall}
    (plain : call.IsPlain) (unmarked : ':' ∉ call.schema.kind.toList) {record : Record}
    (stored : call.stored? (backend.store.answer call).1 = some (call.schema.kind, record))
    (calls : Nat) :
    IsWritten ⟨(backend.store.answer call).2, backend.cache, calls⟩ call.schema record where
  coherent := by
    rw [← StoreCall.written?_of_stored? stored]
    exact coherent.answer_store plain calls
  stored := Store.row?_of_stored? stored
  earlier revisioned text cached listed decoded :=
    Store.revision_lt_of_stored? stored revisioned
      (coherent.row?_of_listed? unmarked nofun listed decoded)

end Backend

end RecordAccess
