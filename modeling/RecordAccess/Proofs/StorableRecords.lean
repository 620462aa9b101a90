import RecordAccess.Proofs.RecordText
import RecordAccess.Proofs.Registration
import RecordAccess.Proofs.Rows
import RecordAccess.Proofs.WellFormedFilters

/-!
# Storable records

What is stored can be read back from its text. The fields of a stored record are named by data
columns of its kind, and their values came in with payloads, so it is enough that no data column
has the name of one of a record's own members (`Schema.HasPlainColumns`) and that the numbers in
the payloads are read back as they were written (`Json.IsFaithful`). Every call of the store keeps
all records storable (`Store.isStorable_answer`).
-/

namespace RecordAccess

/-! ## Columns -/

/-- No data column is named like the id or the permission of a record. -/
def Schema.HasPlainColumns (schema : Schema) : Prop :=
  ∀ column ∈ schema.columns, column ≠ schema.idColumn → column ≠ "id" ∧ column ≠ "permission"

/-- No kind has a data column that is named like the id or the permission of a record. -/
def Registry.HasPlainColumns (registry : Registry) : Prop :=
  ∀ kind descriptor, registry.get? kind = some descriptor → descriptor.schema.HasPlainColumns

theorem Registry.HasPlainColumns.of_authorize {registry : Registry} {kind : String}
    {operation : Operation} {schema : Schema} (plain : registry.HasPlainColumns)
    (granted : registry.authorize kind operation = .ok schema) : schema.HasPlainColumns := by
  obtain ⟨descriptor, known, rfl⟩ := get?_of_authorize granted
  exact plain kind descriptor known

theorem Service.hasPlainColumns_notes : Service.notes.registry.HasPlainColumns := by
  intro kind descriptor known
  change (if "note" = kind then some _ else none) = some descriptor at known
  split at known
  · cases known
    unfold Schema.HasPlainColumns
    decide
  · cases known

namespace Schema

variable {schema : Schema}

theorem mem_columns_of_resolve? {name column : String} (found : schema.resolve? name = some column) :
    column ∈ schema.columns :=
  mem_of_resolveColumn? found

/-- A data column is declared, and neither that of the id nor that of the revision. -/
theorem declared_of_dataColumn? {name column : String}
    (found : schema.dataColumn? name = some column) :
    column ∈ schema.columns ∧ column ≠ schema.idColumn ∧ column ≠ revisionColumn := by
  obtain ⟨resolved, allowed⟩ := Option.filter_eq_some_iff.1 found
  simp only [Bool.and_eq_true, bne_iff_ne] at allowed
  exact ⟨mem_columns_of_resolve? resolved, allowed⟩

/-- A data column of plain columns has none of the names of a record's own members. -/
theorem HasPlainColumns.foreign (plain : schema.HasPlainColumns) {name column : String}
    (found : schema.dataColumn? name = some column) :
    column ≠ "id" ∧ column ≠ "permission" ∧ column ≠ "revision" := by
  obtain ⟨declared, not_id_column, not_revision⟩ := declared_of_dataColumn? found
  obtain ⟨not_id, not_permission⟩ := plain column declared not_id_column
  exact ⟨not_id, not_permission, not_revision⟩

/-- A field that is retained is one of those that were given, under the name of a data column. -/
theorem of_mem_retainColumns {fields : Keyed Json} {field : String × Json}
    (member : field ∈ schema.retainColumns fields) :
    ∃ name, (name, field.2) ∈ fields ∧ schema.dataColumn? name = some field.1 := by
  obtain ⟨given, there, named⟩ := List.mem_filterMap.1 (Keyed.mem_ofList member)
  obtain ⟨column, found, rfl⟩ := Option.map_eq_some_iff.1 named
  exact ⟨given.1, there, found⟩

end Schema

/-! ## Payloads -/

namespace Record

/-- All fields have stable values. -/
def HasStableFields (record : Record) : Prop :=
  ∀ field ∈ record.fields, field.2.IsStable

end Record

/-- A field of a payload was decoded from a member of the body that is none of the record's own. -/
theorem Service.member_of_decodePayload {body : Json} {payload : Record}
    (decoded : decodePayload body = .ok payload) :
    ∃ members, body = .object members ∧ ∀ field ∈ payload.fields, ∃ value,
      (field.1, value) ∈ members ∧ value.toDocument.toJson? = some field.2 := by
  cases body with
  | object members =>
    refine ⟨members, rfl, ?_⟩
    change Except.mapError _ (Record.decode (.object (Json.membersToDocument members))) = _ at decoded
    intro field member
    obtain ⟨-, _, same, document, there, read⟩ :=
      Record.member_of_decode (ok_of_mapError decoded) member
    cases same
    obtain ⟨value, given, rfl⟩ := Json.mem_membersToDocument there
    exact ⟨value, given, read⟩
  | _ => cases decoded

/-- A payload whose numbers are faithful describes a record with stable fields. -/
theorem Service.stable_of_decodePayload {body : Json} {payload : Record}
    (faithful : body.IsFaithful) (decoded : decodePayload body = .ok payload) :
    payload.HasStableFields := by
  obtain ⟨members, rfl, given⟩ := member_of_decodePayload decoded
  intro field member
  obtain ⟨value, there, read⟩ := given field member
  exact Json.isStable_of_toJson? (fun n among => faithful n (Json.mem_memberNumbers there among)) read

/-! ## What is stored of a payload -/

namespace Record

variable {schema : Schema}

/-- A record is storable when it is stored first. -/
theorem isStorable_initial {record : Record} (plain : schema.HasPlainColumns)
    (stable : record.HasStableFields) : (record.initial schema).IsStorable where
  nodup := Keyed.nodup_ofList _
  foreign field member := by
    obtain ⟨name, -, named⟩ := Schema.of_mem_retainColumns member
    exact plain.foreign named
  stable field member := by
    obtain ⟨name, given, -⟩ := Schema.of_mem_retainColumns member
    exact stable (name, field.2) given

/-- A storable record stays storable when a payload is merged into it. -/
theorem IsStorable.merge {stored proposed : Record} (storable : stored.IsStorable)
    (plain : schema.HasPlainColumns) (stable : proposed.HasStableFields) :
    (stored.merge proposed schema).IsStorable where
  nodup := Keyed.nodup_insertAll storable.nodup _
  foreign field member := by
    rcases Keyed.mem_insertAll member with old | changed
    · exact storable.foreign field old
    · obtain ⟨name, -, named⟩ := Schema.of_mem_retainColumns (List.mem_of_mem_filter changed)
      exact plain.foreign named
  stable field member := by
    rcases Keyed.mem_insertAll member with old | changed
    · exact storable.stable field old
    · obtain ⟨name, given, -⟩ := Schema.of_mem_retainColumns (List.mem_of_mem_filter changed)
      exact stable (name, field.2) given

end Record

/-! ## The store -/

namespace StoreCall

/-- A call brings only stable values, and stores them under plain columns. -/
def IsPlain : StoreCall → Prop
  | create schema record | update schema record _ =>
    schema.HasPlainColumns ∧ record.HasStableFields
  | _ => True

/-- A record that was written is there or was deleted. -/
theorem stored?_of_written? {call : StoreCall} {reply : call.Reply} {kind id : String}
    (written : call.written? reply = some (kind, id)) :
    (∃ record, call.stored? reply = some (kind, record) ∧ record.id = id) ∨
      ∃ schema, call = .delete schema id ∧ schema.kind = kind := by
  match call, reply with
  | .create _ _, .ok _ => cases written; exact .inl ⟨_, rfl, rfl⟩
  | .update _ _ _, .ok _ => cases written; exact .inl ⟨_, rfl, rfl⟩
  | .delete _ _, .ok _ => cases written; exact .inr ⟨_, rfl, rfl⟩
  | .findMany _ _, _ | .findOne _ _, _ | .create _ _, .error _ | .update _ _ _, .error _
  | .delete _ _, .error _ => cases written

end StoreCall

namespace Store

variable {store : Store} {schema : Schema}

/-- All records are storable. -/
def IsStorable (store : Store) : Prop :=
  ∀ kind id row, store.row? kind id = some row → row.IsStorable

/-- What is created is the given record, perhaps under an id that the store made. -/
theorem eq_initial_of_create {record created : Record}
    (succeeded : (store.create schema record).1 = .ok created) :
    ∃ id, created = { record with id := id }.initial schema := by
  unfold create at succeeded
  by_cases anonymous : record.id.isEmpty = true
  · simp only [anonymous, ↓reduceIte] at succeeded
    split at succeeded <;> cases succeeded
    exact ⟨_, rfl⟩
  · simp only [anonymous, Bool.false_eq_true, ↓reduceIte] at succeeded
    split at succeeded <;> cases succeeded
    exact ⟨_, rfl⟩

/-- What a call stores is made of what it brings: of a create that alone, of an update by merging it
into what is stored. -/
theorem cases_of_stored? {call : StoreCall} {kind : String} {record : Record}
    (stored : call.stored? (store.answer call).1 = some (kind, record)) :
    (∃ schema payload id, call = .create schema payload ∧ schema.kind = kind ∧
        record = { payload with id := id }.initial schema) ∨
      ∃ schema proposed expected before, call = .update schema proposed expected ∧
        schema.kind = kind ∧ store.row? schema.kind proposed.id = some before ∧
        record = before.merge proposed schema := by
  cases call with
  | create schema payload =>
    obtain ⟨finished, rfl⟩ := StoreCall.stored?_create stored
    obtain ⟨id, same⟩ := eq_initial_of_create finished
    exact .inl ⟨schema, payload, id, rfl, rfl, same⟩
  | update schema proposed expected =>
    obtain ⟨finished, rfl⟩ := StoreCall.stored?_update stored
    obtain ⟨before, there, -, same, -⟩ := update_ok finished
    exact .inr ⟨schema, proposed, expected, before, rfl, rfl, there, same⟩
  | _ => cases stored

/-- What holds of all records and of what a call stores holds of all records after the call. -/
theorem forall_rows_answer {holds : String → Record → Prop} (distinct : store.Distinct)
    (before : ∀ kind id row, store.row? kind id = some row → holds kind row) {call : StoreCall}
    (stores : ∀ kind record, call.stored? (store.answer call).1 = some (kind, record) →
      holds kind record) :
    ∀ kind id row, (store.answer call).2.row? kind id = some row → holds kind row := by
  intro kind id row there
  by_cases written : call.written? (store.answer call).1 = some (kind, id)
  · rcases StoreCall.stored?_of_written? written with ⟨record, stored, rfl⟩ | ⟨schema, rfl, rfl⟩
    · rw [row?_of_stored? stored] at there
      cases there
      exact stores _ _ stored
    · have succeeded := (StoreCall.written?_delete written).1
      cases (row?_delete (distinct schema.kind) succeeded).symm.trans there
  · rw [row?_answer_of_ne written] at there
    exact before kind id row there

/-- What a call stores is storable. -/
theorem isStorable_of_stored? (storable : store.IsStorable) {call : StoreCall}
    (plain : call.IsPlain) {kind : String} {record : Record}
    (stored : call.stored? (store.answer call).1 = some (kind, record)) : record.IsStorable := by
  rcases cases_of_stored? stored with ⟨schema, payload, id, rfl, -, rfl⟩ |
    ⟨schema, proposed, expected, before, rfl, -, there, rfl⟩
  · exact Record.isStorable_initial plain.1 plain.2
  · exact (storable _ _ _ there).merge plain.1 plain.2

/-- A call keeps all records storable. -/
theorem isStorable_answer (distinct : store.Distinct) (storable : store.IsStorable)
    {call : StoreCall} (plain : call.IsPlain) : (store.answer call).2.IsStorable :=
  forall_rows_answer distinct storable fun _ _ stored => isStorable_of_stored? storable plain stored

end Store

end RecordAccess
