import RecordAccess.Proofs.Reads
import RecordAccess.Proofs.Sorting

/-!
# Work that leaves a record alone

What there is of a record is its row in the store and what the cache lists under its key
(`Backend.SameAt`). A part of the work of a request touches one row and one key, and leaves alone every
record with another key (`Backend.Frames`). So requests that are for one record (`Request.IsOn`) leave
all of these alone, however many they are (`Backend.sameAt_after`), and what a fetch finds of them stays
the same (`Backend.SameAt.fetched_eq`).
-/

namespace RecordAccess

open Service

namespace Backend

variable {α β : Type} {clock : Nat → Nat} {kind id : String}

/-! ## Work that leaves a record alone -/

/-- Two backends have the same of a record: its row, and what the cache lists for it. -/
structure SameAt (kind id : String) (backend other : Backend) : Prop where
  row : other.store.row? kind id = backend.store.row? kind id
  entry : other.cache.entries.find? (Record.cacheKey kind id) =
    backend.cache.entries.find? (Record.cacheKey kind id)
  closed : other.cache.closed = backend.cache.closed

theorem SameAt.refl (backend : Backend) : backend.SameAt kind id backend := ⟨rfl, rfl, rfl⟩

theorem SameAt.trans {backend other third : Backend} (same : backend.SameAt kind id other)
    (further : other.SameAt kind id third) : backend.SameAt kind id third :=
  ⟨further.row.trans same.row, further.entry.trans same.entry, further.closed.trans same.closed⟩

/-- Whatever the backend, a program leaves a record alone, and has a result of some kind. -/
def Frames (clock : Nat → Nat) (kind id : String) (program : Program α) (after : α → Prop) : Prop :=
  ∀ backend : Backend, backend.SameAt kind id (program.run (answer clock) backend).2 ∧
    after (program.run (answer clock) backend).1

theorem frames_done {value : α} {after : α → Prop} (holds : after value) :
    Frames clock kind id (.done value) after :=
  fun backend => ⟨.refl backend, holds⟩

theorem frames_bind {program : Program α} {f : α → Program β} {between : α → Prop} {after : β → Prop}
    (first : Frames clock kind id program between)
    (second : ∀ value, between value → Frames clock kind id (f value) after) :
    Frames clock kind id (program.bind f) after := by
  intro backend
  obtain ⟨same, reached⟩ := first backend
  obtain ⟨further, holds⟩ := second _ reached (program.run (answer clock) backend).2
  rw [Program.run_bind]
  exact ⟨same.trans further, holds⟩

/-- A call of the store that does not write a record leaves it alone. -/
theorem frames_askStore {call : StoreCall} {after : call.Reply → Prop}
    (elsewhere : ∀ store : Store, call.written? (store.answer call).1 ≠ some (kind, id))
    (replies : ∀ store : Store, after (store.answer call).1) :
    Frames clock kind id (Program.askStore call) after :=
  fun backend =>
    ⟨⟨Store.row?_answer_of_ne (elsewhere backend.store), rfl, rfl⟩, replies backend.store⟩

/-- A call of the cache leaves a record alone when an open cache lists the same for it after the
call. -/
theorem frames_askCache {call : CacheCall}
    (spares : ∀ (cache : Cache) (now : Nat),
      (cache.answerOpen now call).2.entries.find? (Record.cacheKey kind id) =
        cache.entries.find? (Record.cacheKey kind id) ∧
      (cache.answerOpen now call).2.closed = cache.closed) :
    Frames clock kind id (Program.askCache call) fun _ => True := by
  intro backend
  have kept : (backend.cache.answer (clock backend.calls) call).2.entries.find?
      (Record.cacheKey kind id) = backend.cache.entries.find? (Record.cacheKey kind id) ∧
      (backend.cache.answer (clock backend.calls) call).2.closed = backend.cache.closed := by
    unfold Cache.answer
    split
    · exact ⟨rfl, rfl⟩
    · exact spares _ _
  exact ⟨⟨rfl, kept.1, kept.2⟩, trivial⟩

/-! ### The cache -/

variable {aside : CacheAside} {key : String} {record : Record}

theorem frames_lookup (aside : CacheAside) (key : String) :
    Frames clock kind id (aside.lookup key) fun _ => True := by
  cases enabled : aside.enabled with
  | false =>
    rw [CacheAside.lookup_eq_of_disabled enabled]
    exact frames_done trivial
  | true =>
    rw [CacheAside.lookup_eq enabled]
    exact frames_bind (frames_askCache fun _ _ => ⟨rfl, rfl⟩) fun _ _ => frames_done trivial

/-- A text is written under another key. -/
theorem frames_set (apart : key ≠ Record.cacheKey kind id) (text : String) :
    Frames clock kind id (.call (.cache (.set key text)) fun _ => .done ()) fun _ => True := by
  refine frames_bind (frames_askCache fun cache now => ?_) fun _ _ => frames_done trivial
  exact ⟨Keyed.find?_insert_of_ne _ _ apart, rfl⟩

theorem frames_put (apart : key ≠ Record.cacheKey kind id) (aside : CacheAside) (record : Record) :
    Frames clock kind id (aside.put key record) fun _ => True := by
  rw [CacheAside.put_eq]
  split
  · exact frames_set apart _
  · exact frames_done trivial

theorem frames_bury (apart : key ≠ Record.cacheKey kind id) (aside : CacheAside) :
    Frames clock kind id (aside.bury key) fun _ => True := by
  rw [CacheAside.bury_eq]
  split
  · exact frames_set apart _
  · exact frames_done trivial

theorem frames_fill (apart : key ≠ Record.cacheKey kind id) (aside : CacheAside) (record : Record) :
    Frames clock kind id (aside.fill key record) fun _ => True := by
  rw [CacheAside.fill_eq]
  split
  · refine frames_bind (frames_askCache fun cache now => ?_) fun _ _ => frames_done trivial
    simp only [Cache.answerOpen]
    split
    · exact ⟨rfl, rfl⟩
    · exact ⟨Keyed.find?_insert_of_ne _ _ apart, rfl⟩
  · exact frames_done trivial

variable {schema : Schema} {otherId : String}

/-- A look-up in the store finds the record of the id that it looks for. -/
theorem frames_findOne (schema : Schema) (otherId : String) :
    Frames clock kind id (Program.askStore (.findOne schema otherId)) fun reply =>
      ∀ found, reply = .ok found → found.id = otherId :=
  frames_askStore (fun _ => nofun) fun _ _ found => Store.id_of_row? (Store.findOne_eq_ok.1 found)

/-- A create of a record that has an id creates it with this id. -/
theorem frames_create {payload : Record}
    (apart : Record.cacheKey schema.kind payload.id ≠ Record.cacheKey kind id)
    (named : payload.id ≠ "") :
    Frames clock kind id (Program.askStore (.create schema payload)) fun reply =>
      ∀ created, reply = .ok created → created.id = payload.id := by
  have own (store : Store) created (succeeded : (store.create schema payload).1 = .ok created) :
      created.id = payload.id := (Store.create_ok succeeded).2.1 named
  refine frames_askStore (fun store written => ?_) own
  obtain ⟨created, succeeded, rfl, rfl⟩ := StoreCall.written?_create written
  exact apart (congrArg _ (own store created succeeded).symm)

/-- An update writes the record that has the id of the proposed one. -/
theorem frames_update {proposed : Record}
    (apart : Record.cacheKey schema.kind proposed.id ≠ Record.cacheKey kind id)
    (expected : Option Int) :
    Frames clock kind id (Program.askStore (.update schema proposed expected)) fun reply =>
      ∀ updated, reply = .ok updated → updated.id = proposed.id := by
  have own (store : Store) updated
      (succeeded : (store.update schema proposed expected).1 = .ok updated) :
      updated.id = proposed.id := by
    obtain ⟨stored, found, -, rfl, -⟩ := Store.update_ok succeeded
    rw [Record.merge_id]
    exact Store.id_of_row? found
  refine frames_askStore (fun store written => ?_) own
  obtain ⟨updated, succeeded, rfl, rfl⟩ := StoreCall.written?_update written
  exact apart (congrArg _ (own store updated succeeded).symm)

theorem frames_delete (apart : Record.cacheKey schema.kind otherId ≠ Record.cacheKey kind id) :
    Frames clock kind id (Program.askStore (.delete schema otherId)) fun _ => True := by
  refine frames_askStore (fun store written => ?_) fun _ => trivial
  obtain ⟨-, rfl, rfl⟩ := StoreCall.written?_delete written
  exact apart rfl

/-- A search that includes no relations finds records that its filter accepts. -/
theorem frames_findMany (schema : Schema) (filter : CompiledFilter) :
    Frames clock kind id (Program.askStore (.findMany schema filter)) fun reply =>
      filter.includes.isEmpty = true → ∀ records : List Record, reply = .ok records →
        ∀ record ∈ records, filter.predicate.accepts (record.row schema) = true := by
  refine frames_askStore (fun _ => nofun) fun store plain records found record member => ?_
  cases (Store.findMany_of_plain plain).symm.trans found
  exact Store.accepts_of_mem_select member

theorem frames_fetchOne (apart : Record.cacheKey schema.kind otherId ≠ Record.cacheKey kind id)
    (aside : CacheAside) : Frames clock kind id (aside.fetchOne schema otherId) fun _ => True := by
  rw [CacheAside.fetchOne_eq]
  refine frames_bind (frames_lookup _ _) fun cached _ => ?_
  have stored : Frames clock kind id (aside.fetchStored schema otherId cached) fun _ => True := by
    refine frames_bind (frames_findOne _ _) fun reply _ => ?_
    cases reply with
    | error error => exact frames_done trivial
    | ok record =>
      have noted : Frames clock kind id
          (if cached = .corrupt then aside.put (Record.cacheKey schema.kind otherId) record
            else aside.fill (Record.cacheKey schema.kind otherId) record) fun _ => True := by
        split
        · exact frames_put apart _ _
        · exact frames_fill apart _ _
      exact frames_bind noted fun _ _ => frames_done trivial
  cases cached with
  | record record => exact frames_done trivial
  | tombstone | corrupt | absent => exact stored

theorem frames_onCreateOrUpdate
    (apart : Record.cacheKey schema.kind record.id ≠ Record.cacheKey kind id) (aside : CacheAside) :
    Frames clock kind id (aside.onCreateOrUpdate schema record) fun _ => True := by
  unfold CacheAside.onCreateOrUpdate
  split
  · refine frames_bind (frames_lookup _ _) fun found _ => ?_
    split
    · split
      · exact frames_done trivial
      · exact frames_put apart _ _
    · exact frames_put apart _ _
  · exact frames_put apart _ _

theorem frames_onBeforeDelete (apart : Record.cacheKey schema.kind otherId ≠ Record.cacheKey kind id)
    (aside : CacheAside) : Frames clock kind id (aside.onBeforeDelete schema otherId) fun reply =>
      ∀ current, reply = .ok current → current.id = otherId := by
  refine frames_bind (frames_findOne _ _) fun reply found => ?_
  cases reply with
  | error error => exact frames_done nofun
  | ok current =>
    have same : current.id = otherId := found current rfl
    refine frames_bind (frames_bury (same ▸ apart) _) fun _ _ => frames_done ?_
    rintro _ ⟨⟩
    exact same

theorem frames_onFetched {filter : CompiledFilter} {records : List Record}
    (apart : filter.includes.isEmpty = true → ∀ record ∈ records,
      Record.cacheKey schema.kind record.id ≠ Record.cacheKey kind id) (aside : CacheAside) :
    Frames clock kind id (aside.onFetched schema filter records) fun _ => True := by
  unfold CacheAside.onFetched
  split
  · next caches =>
    replace apart := apart (Bool.and_eq_true_iff.1 caches).2
    clear caches
    induction records with
    | nil => exact frames_done trivial
    | cons record rest ih =>
      obtain ⟨first, others⟩ := List.forall_mem_cons.1 apart
      exact frames_bind (frames_fill first _ _) fun _ _ => ih others
  · exact frames_done trivial

/-! ### The operations -/

/-- Whatever the backend, work leaves a record alone. -/
def FramesWork (clock : Nat → Nat) (kind id : String) (work : Work α) : Prop :=
  Frames clock kind id work.run fun _ => True

theorem framesWork_decided {outcome : Except ServiceError α} {f : α → Work β}
    (allowed : ∀ value, outcome = .ok value → FramesWork clock kind id (f value)) :
    FramesWork clock kind id (decided outcome >>= f) := by
  cases outcome with
  | ok value => exact allowed value rfl
  | error error => exact frames_done trivial

theorem framesWork_storing {program : Program (Except StoreError α)} {f : α → Work β}
    {between : Except StoreError α → Prop} (first : Frames clock kind id program between)
    (succeeded : ∀ value, between (.ok value) → FramesWork clock kind id (f value)) :
    FramesWork clock kind id (storing program >>= f) := by
  unfold FramesWork
  rw [storing_bind]
  refine frames_bind first fun reply holds => ?_
  cases reply with
  | ok value => exact succeeded value holds
  | error error => exact frames_done trivial

theorem framesWork_caching {program : Program Unit} {value : β}
    (last : Frames clock kind id program fun _ => True) :
    FramesWork clock kind id (caching program >>= fun _ => pure value) := by
  unfold FramesWork
  rw [caching_pure]
  exact frames_bind last fun _ _ => frames_done trivial

theorem framesWork_map {work : Work α} (form : α → β) (frames : FramesWork clock kind id work) :
    FramesWork clock kind id (form <$> work) := by
  refine frames_bind frames fun outcome _ => ?_
  cases outcome <;> exact frames_done trivial

theorem framesWork_pure (value : α) : FramesWork clock kind id (pure value) := frames_done trivial

variable {service : Service} {other : String}

theorem framesWork_read (built : service.registry.IsBuilt)
    (apart : Record.cacheKey other otherId ≠ Record.cacheKey kind id) (caller : Option Principal) :
    FramesWork clock kind id (service.read caller other otherId) := by
  unfold Service.read
  refine framesWork_decided fun schema granted => framesWork_decided fun _ _ => ?_
  obtain rfl := built.kind_eq granted
  refine framesWork_storing (frames_fetchOne apart _) fun record _ => ?_
  exact framesWork_decided fun _ _ => framesWork_pure record

theorem framesWork_create (built : service.registry.IsBuilt)
    (apart : Record.cacheKey other otherId ≠ Record.cacheKey kind id) (named : otherId ≠ "")
    (caller : Option Principal) {body : Json}
    (own : ∀ payload, decodePayload body = .ok payload → payload.id = otherId) :
    FramesWork clock kind id (service.create caller other body) := by
  unfold Service.create
  refine framesWork_decided fun schema granted => framesWork_decided fun payload decoded =>
    framesWork_decided fun _ _ => ?_
  obtain rfl := built.kind_eq granted
  obtain rfl := own payload decoded
  refine framesWork_storing (frames_create apart named) fun created same => ?_
  rw [← same created rfl] at apart
  exact framesWork_caching (frames_onCreateOrUpdate apart _)

theorem framesWork_update (built : service.registry.IsBuilt)
    (apart : Record.cacheKey other otherId ≠ Record.cacheKey kind id) (caller : Option Principal)
    (body : Json) : FramesWork clock kind id (service.update caller other otherId body) := by
  unfold Service.update
  refine framesWork_decided fun schema granted => framesWork_decided fun _ _ =>
    framesWork_decided fun payload _ => ?_
  obtain rfl := built.kind_eq granted
  refine framesWork_storing (frames_findOne schema otherId) fun current _ => ?_
  refine framesWork_decided fun _ _ => framesWork_decided fun expected _ => ?_
  refine framesWork_storing (frames_update apart expected) fun updated same => ?_
  have named : updated.id = otherId := same updated rfl
  rw [← named] at apart
  exact framesWork_caching (frames_onCreateOrUpdate apart _)

theorem framesWork_delete (built : service.registry.IsBuilt)
    (apart : Record.cacheKey other otherId ≠ Record.cacheKey kind id) (caller : Option Principal) :
    FramesWork clock kind id (service.delete caller other otherId) := by
  unfold Service.delete
  refine framesWork_decided fun schema granted => framesWork_decided fun _ _ => ?_
  obtain rfl := built.kind_eq granted
  refine framesWork_storing (frames_findOne schema otherId) fun found same => ?_
  have named : found.id = otherId := same found rfl
  rw [← named] at apart
  refine framesWork_decided fun _ _ => ?_
  refine framesWork_storing (frames_onBeforeDelete apart _) fun current same => ?_
  rw [← same current rfl] at apart
  refine framesWork_storing (frames_delete apart) fun _ _ => ?_
  exact framesWork_caching (frames_bury apart _)

theorem framesWork_query (built : service.registry.IsBuilt)
    (apart : Record.cacheKey other otherId ≠ Record.cacheKey kind id) (caller : Option Principal)
    {expression : FilterExpression}
    (own : ∀ schema filter (record : Record), service.registry.authorize other .query = .ok schema →
      expression.compile schema.columns = .ok filter →
      filter.predicate.accepts (record.row schema) = true → record.id = otherId) :
    FramesWork clock kind id (service.query caller other expression) := by
  unfold Service.query
  refine framesWork_decided fun schema granted => framesWork_decided fun filter compiled => ?_
  obtain rfl := built.kind_eq granted
  refine framesWork_storing (frames_findMany schema filter) fun records found => ?_
  refine framesWork_caching (frames_onFetched (fun plain record member => ?_) _)
  have accepted := found plain records rfl record member
  rw [own schema filter record granted (ok_of_mapError compiled) accepted]
  exact apart

end Backend

/-! ## Requests for one record -/

/-- A request is for the record of a kind with an id: it names the record, or brings a payload of it,
or asks with a filter that lets no other record pass. -/
def Request.IsOn (service : Service) (kind id : String) (request : Request) : Prop :=
  request.kind = kind ∧
    match request.operation with
    | .read | .update | .delete => request.id = some id
    | .create => ∀ payload, decodePayload (request.body.getD .null) = .ok payload → payload.id = id
    | .query => ∀ expression schema filter (record : Record),
        decodeFilter request.body = .ok expression →
        service.registry.authorize kind .query = .ok schema →
        expression.compile schema.columns = .ok filter →
        filter.predicate.accepts (record.row schema) = true → record.id = id

theorem Request.isOn_create {service : Service} {kind id : String} {body : Json} {payload : Record}
    (decoded : decodePayload body = .ok payload) (named : payload.id = id) :
    (Request.create kind body).IsOn service kind id := by
  refine ⟨rfl, fun other read => ?_⟩
  cases decoded.symm.trans read
  exact named

/-- A filter for an id lets no record pass that has another. -/
theorem Record.id_of_accepts {schema : Schema} {record : Record} {id : String}
    (apart : Schema.revisionColumn ≠ schema.idColumn)
    (accepted : Comparison.accepts ⟨schema.idColumn, .equal, .string id⟩ (record.row schema) = true) :
    record.id = id := by
  have held : Row.value? (record.row schema) schema.idColumn = some (.string record.id) := by
    unfold Row.value? Record.row
    split
    · rw [Keyed.find?_insert_of_ne _ _ apart, Keyed.find?_insert_self]
      rfl
    · rw [Keyed.find?_insert_self]
      rfl
  simp only [Comparison.accepts, held, Operator.holds, Json.compare?, compareTexts_eq] at accepted
  exact compare_eq_iff_eq.1 (Option.some.inj (beq_iff_eq.1 accepted))

namespace Backend

variable {clock : Nat → Nat} {service : Service} {backend : Backend} {kind id other otherId : String}
  {requests : List (Option Principal × Request)}

/-- A request for one record leaves every record alone that has another key. -/
theorem frames_handle (built : service.registry.IsBuilt)
    (apart : Record.cacheKey other otherId ≠ Record.cacheKey kind id) (named : otherId ≠ "")
    (caller : Option Principal) {request : Request} (isOn : request.IsOn service other otherId) :
    Frames clock kind id (service.handle caller request) fun _ => True := by
  have frames : FramesWork clock kind id (service.dispatch caller request) := by
    obtain ⟨operation, _, requestId, body⟩ := request
    obtain ⟨rfl, own⟩ := isOn
    unfold Service.dispatch
    cases operation with
    | read =>
      obtain rfl : requestId = some otherId := own
      exact framesWork_map _ (framesWork_read built apart caller)
    | create => exact framesWork_map _ (framesWork_create built apart named caller own)
    | update =>
      obtain rfl : requestId = some otherId := own
      exact framesWork_map _ (framesWork_update built apart caller _)
    | delete =>
      obtain rfl : requestId = some otherId := own
      exact framesWork_map _ (framesWork_delete built apart caller)
    | query =>
      refine framesWork_decided fun _ _ => framesWork_decided fun expression decoded => ?_
      exact framesWork_map _ (framesWork_query built apart caller fun schema filter record =>
        own expression schema filter record decoded)
  exact frames_bind frames fun _ _ => frames_done trivial

/-- A backend after requests that were handled one after another. -/
def after (clock : Nat → Nat) (service : Service) :
    List (Option Principal × Request) → Backend → Backend
  | [], backend => backend
  | (caller, request) :: rest, backend =>
    after clock service rest ((service.handle caller request).run (answer clock) backend).2

/-- Requests for one record leave every record alone that has another key. -/
theorem sameAt_after (built : service.registry.IsBuilt)
    (apart : Record.cacheKey other otherId ≠ Record.cacheKey kind id) (named : otherId ≠ "")
    (own : ∀ entry ∈ requests, entry.2.IsOn service other otherId) (backend : Backend) :
    backend.SameAt kind id (backend.after clock service requests) := by
  induction requests generalizing backend with
  | nil => exact .refl backend
  | cons entry rest ih =>
    obtain ⟨isOn, others⟩ := List.forall_mem_cons.1 own
    obtain ⟨caller, request⟩ := entry
    have frames : Frames clock kind id (service.handle caller request) fun _ => True :=
      frames_handle built apart named caller isOn
    exact (frames backend).1.trans (ih others _)

/-- What a fetch finds at a time is decided by the row of the record and by its entry. -/
theorem SameAt.fetched_eq {schema : Schema} {later : Backend}
    (same : backend.SameAt schema.kind id later) (aside : CacheAside) (now : Nat) :
    later.fetched (fun _ => now) aside schema id = backend.fetched (fun _ => now) aside schema id := by
  have told : later.lookup (fun _ => now) aside (Record.cacheKey schema.kind id) =
      backend.lookup (fun _ => now) aside (Record.cacheKey schema.kind id) := by
    simp only [lookup_eq, same.closed, Cache.live?, same.entry]
  have stored : later.store.findOne schema id = backend.store.findOne schema id := by
    have same := same.row
    unfold Store.row? at same
    unfold Store.findOne
    rw [same]
  rw [fetched, told, stored, fetched]

end Backend

end RecordAccess
