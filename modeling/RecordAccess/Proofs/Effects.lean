import RecordAccess.Proofs.Reads
import RecordAccess.Proofs.Tables
import RecordAccess.Proofs.UntrustedCache

/-!
# Effects

What a request does to the rows of all kinds, and that it does nothing else. A request that fails, a
read and a query leave every row as it is. A create appends one row to those of its kind, an update
changes one row in its place, and a delete takes one row out (`UntrustedCache.handle_effect`). What an
update makes of a row is told column by column (`Record.IsMerged`). None of this depends on the cache,
which may answer as it pleases.
-/

namespace RecordAccess

/-! ## Merged records -/

namespace Schema

variable {schema : Schema} {column name : String}

/-- A column is not that of the id or the revision. -/
def isData (schema : Schema) (column : String) : Bool :=
  column != schema.idColumn && column != revisionColumn

/-- The value of the last of some fields whose name stands for a column. -/
def lastNamed? (schema : Schema) (fields : List (String × Json)) (column : String) : Option Json :=
  (fields.reverse.find? fun field => schema.resolve? field.1 = some column).map Prod.snd

theorem dataColumn?_eq_some_iff :
    schema.dataColumn? name = some column ↔
      schema.resolve? name = some column ∧ schema.isData column = true :=
  Option.filter_eq_some_iff

/-- Of fields that go by the names of their data columns, the first that is found under a column is the
first whose name stands for it. -/
theorem find?_filterMap_dataColumn? (data : schema.isData column = true)
    (fields : List (String × Json)) :
    Keyed.find? (fields.filterMap fun field =>
        (schema.dataColumn? field.1).map fun column => (column, field.2)) column =
      (fields.find? fun field => schema.resolve? field.1 = some column).map Prod.snd := by
  induction fields with
  | nil => rfl
  | cons field rest ih =>
    rw [List.filterMap_cons, List.find?_cons]
    by_cases named : schema.resolve? field.1 = some column
    · rw [dataColumn?_eq_some_iff.2 ⟨named, data⟩]
      simp [Keyed.find?, named]
    · have other : schema.dataColumn? field.1 ≠ some column := fun same =>
        named (dataColumn?_eq_some_iff.1 same).1
      simp only [named, decide_false]
      cases found : schema.dataColumn? field.1 with
      | none => exact ih
      | some kept =>
        have different : kept ≠ column := fun same => other (same ▸ found)
        simpa [Keyed.find?, different] using ih

/-- Under a data column, the last field is retained whose name stands for it. -/
theorem find?_retainColumns (data : schema.isData column = true) (fields : Keyed Json) :
    (schema.retainColumns fields).find? column = schema.lastNamed? fields column := by
  rw [retainColumns, Keyed.ofList, Keyed.find?_insertAll, Keyed.find?_nil, Option.or_none,
    ← List.filterMap_reverse]
  exact find?_filterMap_dataColumn? data _

/-- Under no other column a field is retained. -/
theorem find?_retainColumns_of_not_isData (other : schema.isData column = false)
    (fields : Keyed Json) : (schema.retainColumns fields).find? column = none := by
  cases found : (schema.retainColumns fields).find? column with
  | none => rfl
  | some value =>
    obtain ⟨name, -, named⟩ := of_mem_retainColumns (Keyed.mem_of_find? found)
    rw [(dataColumn?_eq_some_iff.1 named).2] at other
    cases other

end Schema

namespace Record

/-- A record is what an update makes of a stored one. A data column has the value of the last field of
the payload that names it, unless there is none or it is null. -/
structure IsMerged (schema : Schema) (stored payload updated : Record) : Prop where
  id : updated.id = stored.id
  given : ∀ column value, schema.isData column = true →
    schema.lastNamed? payload.fields column = some value → value ≠ .null →
    updated.get? column = some value
  kept : ∀ column, (schema.isData column = true → ∀ value,
      schema.lastNamed? payload.fields column = some value → value = .null) →
    updated.get? column = stored.get? column
  permission : updated.permission = payload.permission.or stored.permission
  revision : updated.revision = stored.revision + if schema.revisioned then 1 else 0

/-- A merged record shows what is retained of the payload and is not null, and else what was stored. -/
theorem get?_merge (schema : Schema) (stored payload : Record) (column : String) :
    (stored.merge payload schema).get? column =
      (((schema.retainColumns payload.fields).find? column).filter fun value =>
        !value.isNull).or (stored.get? column) := by
  have nodup : (schema.retainColumns payload.fields).keys.Nodup := Keyed.nodup_ofList _
  change (stored.fields.insertAll _).find? column = _
  rw [Keyed.find?_insertAll, Keyed.find?_reverse (Keyed.nodup_filter nodup _),
    Keyed.find?_filter nodup fun value => !value.isNull]
  rfl

theorem isMerged_merge (schema : Schema) (stored payload : Record) :
    stored.IsMerged schema payload (stored.merge payload schema) where
  id := rfl
  given column value data named given := by
    have notNull : (!value.isNull) = true := by
      cases value <;> first | rfl | exact absurd rfl given
    rw [get?_merge, Schema.find?_retainColumns data, named, Option.filter_some, if_pos notNull,
      Option.some_or]
  kept column absent := by
    rw [get?_merge]
    cases data : schema.isData column with
    | false => rw [Schema.find?_retainColumns_of_not_isData data, Option.filter_none, Option.none_or]
    | true =>
      rw [Schema.find?_retainColumns data]
      cases named : schema.lastNamed? payload.fields column with
      | none => rw [Option.filter_none, Option.none_or]
      | some value =>
        rw [absent data value named]
        rfl
  permission := by
    change (payload.permission <|> stored.permission) = _
    cases payload.permission <;> rfl
  revision := by
    change (if schema.revisioned then stored.revision + 1 else stored.revision) = _
    split <;> simp

end Record

/-! ## Changes in place -/

namespace Rows

variable {earlier later : List Record} {stored record : Record} {id : String}

/-- Some rows of a kind give way to others in their place. No other row of the kind has the id of one
of these, and all other rows of all kinds are the same in the same order. -/
structure Splice (kind : String) (before after : String → List Record)
    (earlier old new later : List Record) : Prop where
  source : before kind = earlier ++ old ++ later
  target : after kind = earlier ++ new ++ later
  apart : ∀ row ∈ earlier ++ later, ∀ changed ∈ old ++ new, row.id ≠ changed.id
  others : ∀ other, other ≠ kind → after other = before other

theorem exists_of_find? {rows : List Record} (found : find? rows id = some stored) :
    ∃ earlier later, rows = earlier ++ stored :: later ∧ stored.id = id ∧
      ∀ row ∈ earlier, row.id ≠ id := by
  obtain ⟨same, earlier, later, rfl, before⟩ := List.find?_eq_some_iff_append.1 found
  refine ⟨earlier, later, rfl, of_decide_eq_true same, fun row member => ?_⟩
  simpa using before row member

theorem replace_append (same : stored.id = record.id) (before : ∀ row ∈ earlier, row.id ≠ record.id) :
    replace (earlier ++ stored :: later) record = earlier ++ record :: later := by
  induction earlier with
  | nil => simp [replace, same]
  | cons first rest ih =>
    obtain ⟨other, rest_before⟩ := List.forall_mem_cons.1 before
    rw [List.cons_append, replace, if_neg other, ih rest_before, List.cons_append]

theorem remove_append (same : stored.id = id) (before : ∀ row ∈ earlier, row.id ≠ id) :
    remove (earlier ++ stored :: later) id = earlier ++ later := by
  induction earlier with
  | nil => simp [remove, same]
  | cons first rest ih =>
    obtain ⟨other, rest_before⟩ := List.forall_mem_cons.1 before
    rw [List.cons_append, remove, if_neg other, ih rest_before, List.cons_append]

/-- No other row has the id of a row. -/
theorem Distinct.apart (distinct : Distinct (earlier ++ stored :: later)) :
    ∀ row ∈ earlier ++ later, row.id ≠ stored.id := by
  intro row member same
  rw [Distinct, List.map_append, List.map_cons, List.nodup_middle, ← List.map_append] at distinct
  exact (List.nodup_cons.1 distinct).1 (same ▸ List.mem_map_of_mem member)

end Rows

namespace Store

variable {store : Store} {schema : Schema} {id : String}

/-- A call that fails leaves every row as it is. -/
theorem rows_answer_of_error {call : StoreCall} {error : StoreError}
    (failed : (store.answer call).1 = .error error) : (store.answer call).2.rows = store.rows := by
  cases call with
  | findMany schema filter => rfl
  | findOne schema id => rfl
  | create schema record =>
    obtain ⟨n, same⟩ := create_error failed
    change (store.create schema record).2.rows = _
    rw [same]
    rfl
  | update schema proposed expected => exact congrArg rows (update_error failed).1
  | delete schema removed => exact congrArg rows (delete_error failed).1

/-- Rows of a kind are put in the place of others. -/
theorem splice_setRows {kind : String} {rows earlier old new later : List Record}
    (source : store.rows kind = earlier ++ old ++ later) (target : rows = earlier ++ new ++ later)
    (apart : ∀ row ∈ earlier ++ later, ∀ changed ∈ old ++ new, row.id ≠ changed.id) :
    Rows.Splice kind store.rows (store.setRows kind rows).countWrite.rows earlier old new later where
  source := source
  target := (rows_setRows_self ..).trans target
  apart := apart
  others _ different := rows_setRows_of_ne _ _ different.symm

/-- A create appends the row that it answers with. -/
theorem splice_create {record created : Record}
    (succeeded : (store.create schema record).1 = .ok created) :
    Rows.Splice schema.kind store.rows (store.create schema record).2.rows
      (store.rows schema.kind) [] [created] [] := by
  obtain ⟨fresh, -, n, same⟩ := create_ok succeeded
  have unused : ∀ row ∈ store.rows schema.kind, row.id ≠ created.id := by
    simpa using List.find?_eq_none.1 fresh
  rw [same]
  refine @splice_setRows { store with generated := n } _ _ _ _ _ _ (by simp [Store.rows])
    (List.append_nil _).symm fun row member changed among => ?_
  rw [List.mem_singleton.1 among]
  exact unused row (List.append_nil (store.rows _) ▸ member)

/-- An update puts the merged row in the place of the stored one. -/
theorem splice_update (distinct : store.Distinct) {proposed updated : Record} {expected : Option Int}
    (succeeded : (store.update schema proposed expected).1 = .ok updated) :
    ∃ stored earlier later, stored.id = proposed.id ∧ updated = stored.merge proposed schema ∧
      Rows.Splice schema.kind store.rows (store.update schema proposed expected).2.rows
        earlier [stored] [updated] later := by
  obtain ⟨stored, found, -, rfl, same⟩ := update_ok succeeded
  obtain ⟨earlier, later, split, named, before⟩ := Rows.exists_of_find? found
  have apart := (split ▸ distinct schema.kind).apart
  have replaced : Rows.replace (store.rows schema.kind) (stored.merge proposed schema) =
      earlier ++ stored.merge proposed schema :: later := by
    rw [split]
    exact Rows.replace_append (Record.merge_id ..).symm (named ▸ before)
  refine ⟨stored, earlier, later, named, rfl, ?_⟩
  rw [same]
  refine splice_setRows (split.trans (List.append_cons ..)) (replaced.trans (List.append_cons ..)) ?_
  -- The merged row has the id of the stored one.
  intro row member changed among
  rcases List.mem_pair.1 among with rfl | rfl <;> exact apart row member

/-- A delete takes out the row with its id. -/
theorem splice_delete (distinct : store.Distinct) {removed : Record}
    (found : store.row? schema.kind id = some removed)
    (succeeded : (store.delete schema id).1 = .ok ()) :
    ∃ earlier later, Rows.Splice schema.kind store.rows (store.delete schema id).2.rows
      earlier [removed] [] later := by
  obtain ⟨earlier, later, split, named, before⟩ := Rows.exists_of_find? found
  have apart := (split ▸ distinct schema.kind).apart
  have kept : Rows.remove (store.rows schema.kind) id = earlier ++ [] ++ later := by
    rw [split, Rows.remove_append named before, List.append_nil]
  refine ⟨earlier, later, ?_⟩
  rw [(delete_ok succeeded).2]
  refine splice_setRows (split.trans (List.append_cons ..)) kept fun row member changed among => ?_
  exact List.mem_singleton.1 among ▸ apart row member

end Store

/-! ## The effect of work -/

/-- What a request that succeeds does to the rows of all kinds, and what it answers. -/
inductive Request.Effect (registry : Registry) (request : Request) (before : String → List Record) :
    Json → (String → List Record) → Prop
  /-- A read and a query change no row. -/
  | looks {body : Json} (operation : request.operation = .read ∨ request.operation = .query) :
      Effect registry request before body before
  /-- A create appends a row with a new id. -/
  | creates {created : Record} {after : String → List Record} (operation : request.operation = .create)
      (splice : Rows.Splice request.kind before after (before request.kind) [] [created] []) :
      Effect registry request before created.toJson after
  /-- An update merges its payload into the row with the id that was asked for. -/
  | updates {schema : Schema} {payload stored updated : Record} {earlier later : List Record}
      {after : String → List Record} (operation : request.operation = .update)
      (granted : registry.authorize request.kind .update = .ok schema)
      (decoded : Service.decodePayload (request.body.getD .null) = .ok payload)
      (named : request.id = some stored.id)
      (splice : Rows.Splice request.kind before after earlier [stored] [updated] later)
      (merged : stored.IsMerged schema payload updated) :
      Effect registry request before updated.toJson after
  /-- A delete takes out the row with the id that was asked for. -/
  | deletes {removed : Record} {earlier later : List Record} {after : String → List Record}
      (operation : request.operation = .delete) (named : request.id = some removed.id)
      (splice : Rows.Splice request.kind before after earlier [removed] [] later) :
      Effect registry request before removed.toJson after

namespace UntrustedCache

open Service

variable {α β σ : Type} {cache : UntrustedCache σ} {before : String → List Record} {now : Store}
  {effect : α → (String → List Record) → Prop}

/-- How work may end that has an effect: with a result, to which the rows stand in a relation, or with
an error, and the rows as they were before. -/
def Leaves (before : String → List Record) (effect : α → (String → List Record) → Prop) :
    Except ServiceError α → (String → List Record) → Prop
  | .ok result, after => effect result after
  | .error _, after => after = before

/-- Work that goes on from a store has an effect, whatever the cache remembers. -/
def HasEffect (cache : UntrustedCache σ) (before : String → List Record)
    (effect : α → (String → List Record) → Prop) (work : Work α) (now : Store) : Prop :=
  ∀ memory, Leaves before effect (work.run.run cache.answer (now, memory)).1
    (work.run.run cache.answer (now, memory)).2.1.rows

theorem hasEffect_decided (kept : now.rows = before) {outcome : Except ServiceError β}
    {f : β → Work α}
    (allowed : ∀ value, outcome = .ok value → cache.HasEffect before effect (f value) now) :
    cache.HasEffect before effect (decided outcome >>= f) now := by
  cases outcome with
  | ok value => exact allowed value rfl
  | error error => exact fun memory => kept

theorem hasEffect_storing (kept : now.rows = before) {call : StoreCall} {f : call.Result → Work α}
    (succeeded : ∀ value, (now.answer call).1 = .ok value →
      cache.HasEffect before effect (f value) (now.answer call).2) :
    cache.HasEffect before effect (storing (Program.askStore call) >>= f) now := by
  intro memory
  have answered : (Program.askStore call).run cache.answer (now, memory) =
      ((now.answer call).1, (now.answer call).2, memory) := rfl
  rw [storing_bind, Program.run_bind, answered]
  cases finished : (now.answer call).1 with
  | ok value => exact succeeded value finished memory
  | error error => exact (Store.rows_answer_of_error finished).trans kept

/-- Work that ends without a call of the cache has an effect if its result has it. -/
theorem hasEffect_caching {program : Program Unit} {value : α} (idle : program = .done ())
    (reached : effect value now.rows) :
    cache.HasEffect before effect (caching program >>= fun _ => pure value) now := by
  subst idle
  exact fun _ => reached

theorem hasEffect_map {work : Work β} {form : β → α}
    (reached : cache.HasEffect before (fun result => effect (form result)) work now) :
    cache.HasEffect before effect (form <$> work) now := by
  intro memory
  have left := reached memory
  rw [run_map, Program.run_bind]
  generalize (work.run.run cache.answer (now, memory)).1 = outcome at left ⊢
  cases outcome <;> exact left

/-! ## The operations -/

/-- An id that is there was given. -/
theorem eq_some_of_requireId {id : Option String} (named : requireId (id.getD "") = .ok ()) :
    id = some (id.getD "") := by
  cases id with
  | none => cases named
  | some id => rfl

section Operations

variable {registry : Registry} (built : registry.IsBuilt) {store : Store} (caller : Option Principal)
  {request : Request}

theorem hasEffect_query (expression : FilterExpression) (operation : request.operation = .query) :
    cache.HasEffect store.rows
      (fun records => request.Effect registry store.rows (recordsToJson records))
      (query ⟨registry, ⟨false⟩⟩ caller request.kind expression) store := by
  refine hasEffect_decided rfl fun schema _ => hasEffect_decided rfl fun filter _ => ?_
  refine hasEffect_storing rfl fun records _ => ?_
  exact hasEffect_caching rfl (.looks (.inr operation))

include built

theorem hasEffect_create (operation : request.operation = .create) :
    cache.HasEffect store.rows (fun created => request.Effect registry store.rows created.toJson)
      (create ⟨registry, ⟨false⟩⟩ caller request.kind (request.body.getD .null)) store := by
  refine hasEffect_decided rfl fun schema granted => hasEffect_decided rfl fun payload _ =>
    hasEffect_decided rfl fun _ _ => ?_
  refine hasEffect_storing rfl fun created succeeded => ?_
  refine hasEffect_caching (CacheAside.onCreateOrUpdate_of_disabled rfl created) ?_
  have splice := Store.splice_create succeeded
  rw [built.kind_eq granted] at splice
  exact .creates operation splice

variable (distinct : store.Distinct)
include distinct

theorem hasEffect_update (operation : request.operation = .update) :
    cache.HasEffect store.rows (fun updated => request.Effect registry store.rows updated.toJson)
      (update ⟨registry, ⟨false⟩⟩ caller request.kind (request.id.getD "") (request.body.getD .null))
      store := by
  refine hasEffect_decided rfl fun schema granted => hasEffect_decided rfl fun _ named =>
    hasEffect_decided rfl fun payload decoded => ?_
  refine hasEffect_storing rfl fun current _ => ?_
  refine hasEffect_decided rfl fun _ _ => hasEffect_decided rfl fun expected _ => ?_
  refine hasEffect_storing rfl fun updated succeeded => ?_
  refine hasEffect_caching (CacheAside.onCreateOrUpdate_of_disabled rfl updated) ?_
  have looked := Store.distinct_answer distinct (.findOne schema (request.id.getD ""))
  obtain ⟨stored, earlier, later, same, rfl, splice⟩ := Store.splice_update looked succeeded
  rw [built.kind_eq granted] at splice
  have given : request.id = some stored.id := same ▸ eq_some_of_requireId named
  exact .updates operation granted decoded given splice (Record.isMerged_merge schema stored _)

theorem hasEffect_delete (operation : request.operation = .delete) :
    cache.HasEffect store.rows (fun removed => request.Effect registry store.rows removed.toJson)
      (delete ⟨registry, ⟨false⟩⟩ caller request.kind (request.id.getD "")) store := by
  refine hasEffect_decided rfl fun schema granted => hasEffect_decided rfl fun _ named => ?_
  refine hasEffect_storing rfl fun found looked => hasEffect_decided rfl fun _ _ => ?_
  rw [CacheAside.onBeforeDelete_of_disabled]
  refine hasEffect_storing rfl fun removed reloaded => ?_
  refine hasEffect_storing rfl fun _ succeeded => ?_
  refine hasEffect_caching rfl ?_
  have there := Store.findOne_eq_ok.1 reloaded
  have same : removed.id = request.id.getD "" :=
    (Store.id_of_row? there).trans (Store.id_of_row? (Store.findOne_eq_ok.1 looked))
  have given : request.id = some removed.id := same ▸ eq_some_of_requireId named
  -- The record has been looked up twice by now.
  have first := Store.distinct_answer distinct (.findOne schema (request.id.getD ""))
  have second := Store.distinct_answer first (.findOne schema found.id)
  obtain ⟨earlier, later, splice⟩ := Store.splice_delete second
    ((Store.id_of_row? there).symm ▸ there) succeeded
  rw [built.kind_eq granted] at splice
  exact .deletes operation given splice

theorem hasEffect_dispatch (writes : request.operation ≠ .read) :
    cache.HasEffect store.rows (request.Effect registry store.rows)
      (dispatch ⟨registry, ⟨false⟩⟩ caller request) store := by
  unfold dispatch
  cases operation : request.operation with
  | read => exact absurd operation writes
  | create => exact hasEffect_map (hasEffect_create built caller operation)
  | update => exact hasEffect_map (hasEffect_update built caller distinct operation)
  | delete => exact hasEffect_map (hasEffect_delete built caller distinct operation)
  | query =>
    refine hasEffect_decided rfl fun _ _ => hasEffect_decided rfl fun expression _ => ?_
    exact hasEffect_map (hasEffect_query caller expression operation)

end Operations

theorem handle_eq_bind (service : Service) (caller : Option Principal) (request : Request) :
    service.handle caller request = (service.dispatch caller request).run.bind fun outcome =>
      .done (Response.ofOutcome id outcome) := rfl

/-- A request that is no read has the same response and leaves the same rows as without a cache. -/
theorem run_handle_alone (cache : UntrustedCache σ) (service : Service) (caller : Option Principal)
    {request : Request} (writes : request.operation ≠ .read) (backend : Store × σ) :
    ((service.handle caller request).run cache.answer backend).1 =
        ((handle ⟨service.registry, ⟨false⟩⟩ caller request).run cache.answer backend).1 ∧
      ((service.handle caller request).run cache.answer backend).2.1.rows =
        ((handle ⟨service.registry, ⟨false⟩⟩ caller request).run cache.answer backend).2.1.rows := by
  obtain ⟨registry, ⟨enabled⟩⟩ := service
  cases enabled with
  | false => exact ⟨rfl, rfl⟩
  | true =>
    obtain ⟨agrees, same⟩ := @run_handle _ cache registry caller request backend backend (.refl _)
    exact ⟨same (.inl writes), agrees.rows_eq⟩

/-- No error is answered like a success. -/
theorem status_ofError_ne (error : ServiceError) : (Response.ofError error).status ≠ 200 := by
  cases error <;> exact nofun

/-- Beside a cache that answers as it pleases, a request whose response does not have the status of a
success leaves the rows of all kinds as they are, and one whose response does has its effect on them
and no other. No two records of a kind may have the same id before, which every call of the store keeps
so (`Store.distinct_answer`). -/
theorem handle_effect (cache : UntrustedCache σ) {service : Service}
    (built : service.registry.IsBuilt) (caller : Option Principal) (request : Request) {store : Store}
    (distinct : store.Distinct) (memory : σ) {response : Response} {after : Store × σ}
    (answered : (service.handle caller request).run cache.answer (store, memory) = (response, after)) :
    (response.status ≠ 200 → after.1.rows = store.rows) ∧
      (response.status = 200 →
        request.Effect service.registry store.rows response.body after.1.rows) := by
  by_cases reads : request.operation = .read
  · have looked := run_of_onlyLooks cache (onlyLooks_handle service caller reads) (store, memory)
    rw [answered] at looked
    exact ⟨fun _ => looked.rows_eq, fun _ => looked.rows_eq ▸ .looks (.inl reads)⟩
  · obtain ⟨same, rows⟩ := run_handle_alone cache service caller reads (store, memory)
    rw [answered] at same rows
    dsimp only at same rows
    have left := @hasEffect_dispatch _ cache _ built _ caller _ distinct reads memory
    rw [same, rows, handle_eq_bind, Program.run_bind]
    generalize ((dispatch ⟨service.registry, ⟨false⟩⟩ caller request).run.run cache.answer
      (store, memory)).1 = outcome at left ⊢
    cases outcome with
    | ok body => exact ⟨fun failed => absurd rfl failed, fun _ => left⟩
    | error error => exact ⟨fun _ => left, fun ok => absurd ok (status_ofError_ne error)⟩

/-- A store with two notes. -/
def twoNotes : Store :=
  ⟨[("note", [⟨"1", none, 1, [("title", .string "a")]⟩, ⟨"2", none, 1, []⟩])], ⟨0, 0, 0⟩, 0, Store.uuid⟩

/-- An update of the first note that has the id of the other one in its body, and the title in three
spellings, the second of them null. -/
def respelledUpdate : Request :=
  .update "note" "1" (.object [("id", .string "2"), ("Title", .string "b"), ("title", .null),
    ("revision", .integer 1), ("TITLE", .string "c")])

theorem distinct_twoNotes : twoNotes.Distinct := by
  intro kind
  unfold Store.rows twoNotes Keyed.find?
  split
  · unfold Rows.Distinct
    decide
  · exact List.nodup_nil

/-- The update changes the first note alone, to the last title, beside a cache that tells every look-up
of a forged note. -/
theorem handle_respelledUpdate : Service.notes.registry.IsBuilt ∧ twoNotes.Distinct ∧
    ∃ response after,
      (Service.notes.handle none respelledUpdate).run forgery.answer (twoNotes, ()) =
        (response, after) ∧ response.status = 200 ∧
      respelledUpdate.Effect Service.notes.registry twoNotes.rows response.body after.1.rows ∧
      after.1.rows "note" = [⟨"1", none, 2, [("title", .string "c")]⟩, ⟨"2", none, 1, []⟩] := by
  have succeeded : ((Service.notes.handle none respelledUpdate).run forgery.answer
      (twoNotes, ())).1.status = 200 := by
    decide +kernel
  have changed := (handle_effect forgery Service.isBuilt_notes none respelledUpdate distinct_twoNotes ()
    rfl).2 succeeded
  exact ⟨Service.isBuilt_notes, distinct_twoNotes, _, _, rfl, succeeded, changed, by decide +kernel⟩

end UntrustedCache

end RecordAccess
