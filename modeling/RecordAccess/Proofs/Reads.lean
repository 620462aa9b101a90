import RecordAccess.Proofs.Backend
import RecordAccess.Proofs.Stages.Operations

/-!
# What a read finds

A read that is made at once answers by what the cache says under one key, and when that is no record,
by the one record that is stored (`Backend.run_read`). Nothing else of a backend matters to it.
-/

namespace RecordAccess

open Service

/-- A request that one operation answers is answered with the written form of its result. -/
theorem Service.handle_eq_of_map {α : Type} {service : Service} {caller : Option Principal}
    {request : Request} {work : Work α} {form : α → Json}
    (does : service.dispatch caller request = form <$> work) :
    service.handle caller request =
      work.run.bind fun outcome => .done (Response.ofOutcome form outcome) := by
  unfold handle
  rw [does]
  refine (Program.bind_assoc _ _ _).trans (congrArg work.run.bind (funext fun outcome => ?_))
  cases outcome <;> rfl

namespace Backend

variable {clock : Nat → Nat} {backend : Backend} {aside : CacheAside} {key : String}

/-- What a look-up of a key is told. -/
def lookup (clock : Nat → Nat) (aside : CacheAside) (key : String) (backend : Backend) : CacheLookup :=
  if aside.enabled then
    CacheLookup.ofReply (backend.cache.answer (clock backend.calls) (.get key)).1
  else .absent

/-- What a fetch of a record answers. -/
def fetched (clock : Nat → Nat) (aside : CacheAside) (schema : Schema) (id : String)
    (backend : Backend) : Except StoreError Record :=
  match backend.lookup clock aside (Record.cacheKey schema.kind id) with
  | .record record => .ok record
  | _ => backend.store.findOne schema id

/-- What a read answers. -/
def readAnswer (clock : Nat → Nat) (service : Service) (caller : Option Principal) (kind id : String)
    (backend : Backend) : Except ServiceError Record := do
  let schema ← service.registry.authorize kind .read
  requireId id
  Service.readAnswer schema caller (backend.fetched clock service.aside schema id)

/-- A look-up leaves the store as it is. -/
theorem run_lookup (clock : Nat → Nat) (aside : CacheAside) (key : String) (backend : Backend) :
    (Program.run (answer clock) (aside.lookup key) backend).1 = backend.lookup clock aside key ∧
      (Program.run (answer clock) (aside.lookup key) backend).2.store = backend.store := by
  cases enabled : aside.enabled with
  | false =>
    rw [CacheAside.lookup_eq_of_disabled enabled, lookup, enabled]
    exact ⟨rfl, rfl⟩
  | true =>
    rw [CacheAside.lookup_eq enabled, lookup, enabled]
    exact ⟨rfl, rfl⟩

theorem run_fetchOne (clock : Nat → Nat) (aside : CacheAside) (schema : Schema) (id : String)
    (backend : Backend) :
    (Program.run (answer clock) (aside.fetchOne schema id) backend).1 =
      backend.fetched clock aside schema id := by
  obtain ⟨told, kept⟩ := run_lookup clock aside (Record.cacheKey schema.kind id) backend
  rw [CacheAside.fetchOne_eq, Program.run_bind, told, fetched]
  generalize backend.lookup clock aside (Record.cacheKey schema.kind id) = cached
  have stored : (Program.run (answer clock) (aside.fetchStored schema id cached)
      (Program.run (answer clock) (aside.lookup (Record.cacheKey schema.kind id)) backend).2).1 =
        backend.store.findOne schema id := by
    rw [CacheAside.fetchStored, Program.run_bind, run_findOne, kept]
    cases backend.store.findOne schema id with
    | error error => rfl
    | ok record => rw [Program.run_bind]; rfl
  cases cached with
  | record record => rfl
  | tombstone | corrupt | absent => exact stored

/-- A read that is made at once answers by what it finds. -/
theorem run_read (clock : Nat → Nat) (service : Service) (caller : Option Principal)
    (kind id : String) (backend : Backend) :
    (Program.run (answer clock) (service.read caller kind id).run backend).1 =
      backend.readAnswer clock service caller kind id := by
  unfold readAnswer
  cases granted : service.registry.authorize kind .read with
  | error error =>
    unfold Service.read
    rw [granted]
    rfl
  | ok schema =>
    cases named : requireId id with
    | error error =>
      unfold Service.read
      rw [granted, named]
      rfl
    | ok _ =>
      rw [read_eq granted named, Program.run_bind, run_fetchOne]
      rfl

/-- A read of a dispatcher answers by what it finds. -/
theorem run_handle_read (clock : Nat → Nat) (service : Service) (caller : Option Principal)
    (kind id : String) (backend : Backend) :
    (Program.run (answer clock) (service.handle caller (.read kind id)) backend).1 =
      Response.ofOutcome Record.toJson (backend.readAnswer clock service caller kind id) := by
  rw [handle_eq_of_map rfl, Program.run_bind]
  exact congrArg (Response.ofOutcome _) (run_read clock service caller kind id backend)

/-! ## What matters to a read -/

/-- A look-up is told what the text says that the key holds, while the cache is open. -/
theorem lookup_eq (clock : Nat → Nat) (aside : CacheAside) (key : String) (backend : Backend) :
    backend.lookup clock aside key =
      if aside.enabled && !backend.cache.closed then
        match backend.cache.live? (clock backend.calls) key with
        | some text => CacheAside.decodeEntry text
        | none => .absent
      else .absent := by
  unfold lookup
  cases closed : backend.cache.closed with
  | false =>
    rw [Cache.answer_of_isOpen closed]
    cases held : backend.cache.live? (clock backend.calls) key <;>
      simp [Cache.answerOpen, held, CacheLookup.ofReply]
  | true =>
    simp [Cache.answer, closed, CacheLookup.ofReply]

theorem lookup_of_live? {text : String} (enabled : aside.enabled = true)
    (isOpen : backend.cache.closed = false)
    (held : backend.cache.live? (clock backend.calls) key = some text) :
    backend.lookup clock aside key = CacheAside.decodeEntry text := by
  simp [lookup_eq, enabled, isOpen, held]

theorem lookup_of_missed (missed : backend.cache.live? (clock backend.calls) key = none) :
    backend.lookup clock aside key = .absent := by
  simp [lookup_eq, missed]

/-- A record that a look-up is told is fetched. -/
theorem fetched_of_lookup {schema : Schema} {id : String} {record : Record}
    (told : backend.lookup clock aside (Record.cacheKey schema.kind id) = .record record) :
    backend.fetched clock aside schema id = .ok record := by
  rw [fetched, told]

/-- When a look-up is told of no record, what is stored is fetched. -/
theorem fetched_of_missed {schema : Schema} {id : String}
    (missed : backend.cache.live? (clock backend.calls) (Record.cacheKey schema.kind id) = none) :
    backend.fetched clock aside schema id = backend.store.findOne schema id := by
  rw [fetched, lookup_of_missed missed]

/-- A read that is not refused decides by what is fetched. -/
theorem readAnswer_of_granted {service : Service} {kind id : String} {schema : Schema}
    (granted : service.registry.authorize kind .read = .ok schema) (named : requireId id = .ok ())
    (caller : Option Principal) :
    backend.readAnswer clock service caller kind id =
      Service.readAnswer schema caller (backend.fetched clock service.aside schema id) := by
  rw [readAnswer, granted, named]
  rfl

/-- A read answers with the record that an open cache says under its key, if the caller may read
it. -/
theorem run_handle_read_of_live? (clock : Nat → Nat) (backend : Backend) {service : Service}
    (caller : Option Principal) {kind id : String} {schema : Schema} {record : Record} {text : String}
    (granted : service.registry.authorize kind .read = .ok schema) (named : requireId id = .ok ())
    (enabled : service.aside.enabled = true) (isOpen : backend.cache.closed = false)
    (held : backend.cache.live? (clock backend.calls) (Record.cacheKey schema.kind id) = some text)
    (decodes : CacheAside.decodeEntry text = .record record)
    (allowed : checkAccess schema caller .read record = .ok ()) :
    (Program.run (answer clock) (service.handle caller (.read kind id)) backend).1 =
      .ok record.toJson := by
  have told := (lookup_of_live? enabled isOpen held).trans decodes
  rw [run_handle_read, readAnswer_of_granted granted named, fetched_of_lookup told,
    Service.readAnswer, allowed]
  rfl

/-- A read of a record that is neither cached nor stored answers that there is none. -/
theorem run_handle_read_of_absent (clock : Nat → Nat) (backend : Backend) {service : Service}
    (caller : Option Principal) {kind id : String} {schema : Schema}
    (granted : service.registry.authorize kind .read = .ok schema)
    (named : requireId id = .ok ())
    (missed : backend.cache.live? (clock backend.calls) (Record.cacheKey schema.kind id) = none)
    (absent : backend.store.row? schema.kind id = none) :
    (Program.run (answer clock) (service.handle caller (.read kind id)) backend).1 =
      .ofError (.ofStore (.notFound schema.kind id)) := by
  rw [run_handle_read, readAnswer_of_granted granted named, fetched_of_missed missed,
    Store.findOne_of_row?_eq_none absent]
  rfl

/-- Two reads answer alike when their fetches do. -/
theorem readAnswer_congr {service : Service} {caller : Option Principal} {kind id : String}
    {otherClock : Nat → Nat} {other : Backend}
    (same : ∀ schema, service.registry.authorize kind .read = .ok schema →
      backend.fetched clock service.aside schema id =
        other.fetched otherClock service.aside schema id) :
    backend.readAnswer clock service caller kind id =
      other.readAnswer otherClock service caller kind id := by
  unfold readAnswer
  cases granted : service.registry.authorize kind .read with
  | error error => rfl
  | ok schema =>
    change (requireId id >>= fun _ => _) = (requireId id >>= fun _ => _)
    rw [same schema granted]

end Backend

end RecordAccess
