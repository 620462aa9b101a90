import Mathlib.Data.List.Induction
import RecordAccess.Proofs.StorableRecords

/-!
# What a store holds

What is true of every record of a store that is only ever changed by calls, if each kind is always
used with the same schema and the generator makes no empty ids. No two records of a kind have the same
id, and none is without an id. The fields of a record are data columns of its kind under their declared
names, so that its row shows all of them. And the revision of a record counts the updates since it was
created; of a kind without revisions it is zero (`Store.representation_after`).
-/

namespace RecordAccess

/-! ## Fields -/

/-- A record has an id, and its fields are data columns of its kind under their declared names, each at
most once. -/
structure Record.IsCanonical (schema : Schema) (record : Record) : Prop where
  named : record.id ≠ ""
  nodup : record.fields.keys.Nodup
  declared : ∀ field ∈ record.fields, field.1 ∈ schema.columns ∧ field.1 ≠ schema.idColumn ∧
    field.1 ≠ Schema.revisionColumn

namespace Record

variable {schema : Schema} {record stored : Record}

/-- What a schema retains of any fields are data columns under their declared names. -/
theorem declared_of_mem_retainColumns {fields : Keyed Json} {field : String × Json}
    (member : field ∈ schema.retainColumns fields) :
    field.1 ∈ schema.columns ∧ field.1 ≠ schema.idColumn ∧ field.1 ≠ Schema.revisionColumn := by
  obtain ⟨name, -, found⟩ := Schema.of_mem_retainColumns member
  exact Schema.declared_of_dataColumn? found

theorem isCanonical_initial (named : record.id ≠ "") : (record.initial schema).IsCanonical schema where
  named := named
  nodup := Keyed.nodup_ofList _
  declared _ member := declared_of_mem_retainColumns member

theorem IsCanonical.merge (canonical : stored.IsCanonical schema) (proposed : Record) :
    (stored.merge proposed schema).IsCanonical schema where
  named := canonical.named
  nodup := Keyed.nodup_insertAll canonical.nodup _
  declared field member := by
    rcases Keyed.mem_insertAll member with old | changed
    · exact canonical.declared field old
    · exact declared_of_mem_retainColumns (List.mem_of_mem_filter changed)

/-- The row of a record shows every field as it is stored. -/
theorem IsCanonical.find?_row (canonical : record.IsCanonical schema) {field : String × Json}
    (member : field ∈ record.fields) : Keyed.find? (record.row schema) field.1 = some field.2 := by
  obtain ⟨-, notId, notRevision⟩ := canonical.declared field member
  have shown : Keyed.find? (record.fields.insert schema.idColumn (.string record.id)) field.1 =
      some field.2 := by
    rw [Keyed.find?_insert_of_ne _ _ notId.symm]
    exact Keyed.find?_eq_some_of_mem canonical.nodup member
  unfold row
  split
  · rw [Keyed.find?_insert_of_ne _ _ notRevision.symm]
    exact shown
  · exact shown

end Record

/-! ## The history of a store -/

/-- A write that took effect. -/
inductive Write where
  | create (kind id : String)
  | update (kind id : String)
  | delete (kind id : String)
deriving DecidableEq, Repr

/-- The kind and the id of the record that was written. -/
def Write.record : Write → String × String
  | create kind id | update kind id | delete kind id => (kind, id)

/-- How many updates of a record there are among some writes since it was created last. -/
def Write.updatesSince (kind id : String) (writes : List Write) : Nat :=
  (writes.reverse.takeWhile fun write => write ≠ .create kind id).count (.update kind id)

namespace Write

variable {kind id : String} {writes : List Write} {write : Write}

@[simp] theorem updatesSince_create :
    updatesSince kind id (writes ++ [.create kind id]) = 0 := by
  simp [updatesSince]

@[simp] theorem updatesSince_update :
    updatesSince kind id (writes ++ [.update kind id]) = updatesSince kind id writes + 1 := by
  simp [updatesSince]

/-- A write of another record adds no update. -/
theorem updatesSince_of_ne (other : write.record ≠ (kind, id)) :
    updatesSince kind id (writes ++ [write]) = updatesSince kind id writes := by
  have notCreate : write ≠ .create kind id := by
    rintro rfl
    exact other rfl
  have notUpdate : write ≠ .update kind id := by
    rintro rfl
    exact other rfl
  simp [updatesSince, notCreate, notUpdate]

end Write

/-- The write that a call has made, by its answer. -/
def StoreCall.write? : (call : StoreCall) → call.Reply → Option Write
  | .create schema _, .ok created => some (.create schema.kind (Record.id created))
  | .update schema _ _, .ok updated => some (.update schema.kind (Record.id updated))
  | .delete schema id, .ok _ => some (.delete schema.kind id)
  | _, _ => none

theorem StoreCall.written?_eq (call : StoreCall) (reply : call.Reply) :
    call.written? reply = (call.write? reply).map Write.record := by
  match call, reply with
  | .create _ _, .ok _ | .update _ _ _, .ok _ | .delete _ _, .ok _ => rfl
  | .create _ _, .error _ | .update _ _ _, .error _ | .delete _ _, .error _ => rfl
  | .findOne _ _, _ | .findMany _ _, _ => rfl

/-- A call that has not written a record adds none to its updates. -/
theorem StoreCall.updatesSince_of_unwritten {call : StoreCall} {reply : call.Reply} {kind id : String}
    (elsewhere : call.written? reply ≠ some (kind, id)) (writes : List Write) :
    Write.updatesSince kind id (writes ++ (call.write? reply).toList) =
      Write.updatesSince kind id writes := by
  rw [written?_eq] at elsewhere
  cases made : call.write? reply with
  | none => rw [Option.toList_none, List.append_nil]
  | some write =>
    rw [made] at elsewhere
    exact Write.updatesSince_of_ne fun same => elsewhere (congrArg some same)

namespace Store

/-- A store after some calls. -/
def after (store : Store) (calls : List StoreCall) : Store :=
  calls.foldl (fun store call => (store.answer call).2) store

/-- The writes that some calls make, in order. -/
def log (store : Store) : List StoreCall → List Write
  | [] => []
  | call :: rest =>
    (call.write? (store.answer call).1).toList ++ (store.answer call).2.log rest

theorem after_snoc (store : Store) (calls : List StoreCall) (call : StoreCall) :
    store.after (calls ++ [call]) = ((store.after calls).answer call).2 :=
  List.foldl_append

theorem log_snoc (store : Store) (calls : List StoreCall) (call : StoreCall) :
    store.log (calls ++ [call]) =
      store.log calls ++ (call.write? ((store.after calls).answer call).1).toList := by
  induction calls generalizing store with
  | nil => exact List.append_nil _
  | cons first rest ih =>
    rw [List.cons_append, log, ih, log, List.append_assoc]
    rfl

/-! ## What is always true -/

/-- What is true of a store after some writes, where each kind has one schema. -/
structure IsSound (schemas : String → Schema) (writes : List Write) (store : Store) : Prop where
  nonempty : ∀ n, store.newId n ≠ ""
  distinct : store.Distinct
  canonical : ∀ kind id row, store.row? kind id = some row → row.IsCanonical (schemas kind)
  revision : ∀ kind id row, store.row? kind id = some row →
    row.revision =
      if (schemas kind).revisioned then 1 + (Write.updatesSince kind id writes : Int) else 0

variable {schemas : String → Schema} {writes : List Write} {store : Store} {newId : Nat → String}

theorem isSound_empty (nonempty : ∀ n, newId n ≠ "") : IsSound schemas [] (.empty newId) where
  nonempty := nonempty
  distinct _ := List.nodup_nil
  canonical _ _ _ found := nomatch found
  revision _ _ _ found := nomatch found

/-- What is created has an id. -/
theorem named_of_create (nonempty : ∀ n, store.newId n ≠ "") {schema : Schema}
    {record created : Record}
    (succeeded : (store.create schema record).1 = .ok created) : created.id ≠ "" := by
  unfold create at succeeded
  by_cases anonymous : record.id.isEmpty = true
  · simp only [anonymous, ↓reduceIte] at succeeded
    split at succeeded <;> cases succeeded
    exact nonempty _
  · simp only [anonymous, Bool.false_eq_true, ↓reduceIte] at succeeded
    split at succeeded <;> cases succeeded
    simpa using anonymous

/-- What a call stores is canonical. -/
theorem isCanonical_of_stored? (sound : store.IsSound schemas writes) {call : StoreCall}
    (uses : call.schema = schemas call.schema.kind) {kind : String} {record : Record}
    (stored : call.stored? (store.answer call).1 = some (kind, record)) :
    record.IsCanonical (schemas kind) := by
  cases call with
  | create schema payload =>
    obtain ⟨finished, rfl⟩ := StoreCall.stored?_create stored
    have named := named_of_create sound.nonempty finished
    obtain ⟨id, rfl⟩ := eq_initial_of_create finished
    change schema = schemas schema.kind at uses
    rw [← uses]
    exact Record.isCanonical_initial named
  | update schema proposed expected =>
    obtain ⟨finished, rfl⟩ := StoreCall.stored?_update stored
    obtain ⟨before, there, -, rfl, -⟩ := update_ok finished
    have canonical := sound.canonical _ _ _ there
    change schema = schemas schema.kind at uses
    rw [← uses] at canonical ⊢
    exact canonical.merge proposed
  | _ => cases stored

/-- A call keeps the revisions: each counts the updates since the record was created. -/
theorem revision_answer (sound : store.IsSound schemas writes) {call : StoreCall}
    (uses : call.schema = schemas call.schema.kind) {kind id : String} {row : Record}
    (there : (store.answer call).2.row? kind id = some row) :
    row.revision = if (schemas kind).revisioned then
      1 + (Write.updatesSince kind id
        (writes ++ (call.write? (store.answer call).1).toList) : Int) else 0 := by
  by_cases written : call.written? (store.answer call).1 = some (kind, id)
  case neg =>
    rw [StoreCall.updatesSince_of_unwritten written]
    rw [row?_answer_of_ne written] at there
    exact sound.revision kind id row there
  cases call with
  | create schema payload =>
    obtain ⟨created, succeeded, rfl, rfl⟩ := StoreCall.written?_create written
    have made : (StoreCall.create schema payload).write? (store.answer (.create schema payload)).1 =
        some (.create schema.kind created.id) := by
      rw [succeeded]
      rfl
    cases (row?_create succeeded).symm.trans there
    obtain ⟨id, rfl⟩ := eq_initial_of_create succeeded
    change schema = schemas schema.kind at uses
    rw [made, Option.toList_some, Write.updatesSince_create, ← uses]
    simp [Record.initial]
  | update schema proposed expected =>
    obtain ⟨updated, succeeded, rfl, rfl⟩ := StoreCall.written?_update written
    have made : (StoreCall.update schema proposed expected).write?
        (store.answer (.update schema proposed expected)).1 =
          some (.update schema.kind updated.id) := by
      rw [succeeded]
      rfl
    cases (row?_update succeeded).symm.trans there
    obtain ⟨before, found, -, rfl, -⟩ := update_ok succeeded
    have counted := sound.revision _ _ _ found
    change schema = schemas schema.kind at uses
    rw [← uses] at counted ⊢
    rw [made, Option.toList_some, Write.updatesSince_update, Record.merge_id, id_of_row? found]
    simp only [Record.merge, counted]
    split <;> omega
  | delete schema removed =>
    obtain ⟨succeeded, rfl, rfl⟩ := StoreCall.written?_delete written
    cases (row?_delete (sound.distinct schema.kind) succeeded).symm.trans there
  | findMany => cases written
  | findOne => cases written

/-- A call keeps a store sound, if it uses the schema of its kind. -/
theorem isSound_answer (sound : store.IsSound schemas writes) {call : StoreCall}
    (uses : call.schema = schemas call.schema.kind) :
    IsSound schemas (writes ++ (call.write? (store.answer call).1).toList) (store.answer call).2 where
  nonempty n := by
    rw [newId_answer]
    exact sound.nonempty n
  distinct := distinct_answer sound.distinct call
  canonical := forall_rows_answer sound.distinct sound.canonical fun _ _ stored =>
    isCanonical_of_stored? sound uses stored
  revision _ _ _ there := revision_answer sound uses there

/-- A store that was empty at first is sound after any calls. -/
theorem isSound_after (nonempty : ∀ n, newId n ≠ "") {calls : List StoreCall}
    (uniform : ∀ call ∈ calls, call.schema = schemas call.schema.kind) :
    IsSound schemas ((Store.empty newId).log calls) ((Store.empty newId).after calls) := by
  induction calls using List.reverseRecOn with
  | nil => exact isSound_empty nonempty
  | append_singleton calls call ih =>
    rw [after_snoc, log_snoc]
    have sound := ih fun other member => uniform other (List.mem_append_left _ member)
    exact isSound_answer sound (uniform call (List.mem_append_right _ (List.mem_singleton.2 rfl)))

/-- In a store that was empty at first, whose generator makes no empty ids, and after any calls which use
one schema for each kind, no two records of a kind have the same id, and none is without an id. The fields
of a record are data columns of its kind under their declared names, and all of them are seen in its row.
Its revision counts the updates since it was created, or is zero if the kind has no revisions. -/
theorem representation_after (nonempty : ∀ n, newId n ≠ "") {calls : List StoreCall}
    (uniform : ∀ call ∈ calls, call.schema = schemas call.schema.kind) (kind : String) :
    ((((Store.empty newId).after calls).rows kind).map Record.id).Nodup ∧
    ∀ row ∈ ((Store.empty newId).after calls).rows kind,
      row.id ≠ "" ∧
      (∀ field ∈ row.fields, field.1 ∈ (schemas kind).columns ∧
        field.1 ≠ (schemas kind).idColumn ∧ field.1 ≠ Schema.revisionColumn) ∧
      row.revision = (if (schemas kind).revisioned then
        1 + (Write.updatesSince kind row.id ((Store.empty newId).log calls) : Int) else 0) ∧
      ∀ field ∈ row.fields, Keyed.find? (row.row (schemas kind)) field.1 = some field.2 := by
  have sound := isSound_after nonempty uniform
  refine ⟨sound.distinct kind, fun row member => ?_⟩
  have there : ((Store.empty newId).after calls).row? kind row.id = some row :=
    Rows.find?_eq_some_of_mem (sound.distinct kind) member
  have canonical := sound.canonical kind row.id row there
  exact ⟨canonical.named, canonical.declared, sound.revision kind row.id row there,
    fun field shown => canonical.find?_row shown⟩

/-- A note is created with a revision, an id that is also a field and a column in another spelling,
updated twice, deleted, and created and updated again. Another one is created without an id. -/
def twoLives : List StoreCall :=
  let payload : Record := ⟨"1", none, 7, [("ID", .string "2"), ("Title", .string "a"), ("color", .null)]⟩
  let renamed : Record := ⟨"1", none, 9, [("TITLE", .string "b"), ("REVISION", .integer 5)]⟩
  [.create .note payload, .update .note renamed none, .update .note renamed (some 2),
    .delete .note "1", .create .note payload, .update .note renamed (some 1),
    .create .note ⟨"", none, 0, [("title", .string "c")]⟩]

/-- The note is at revision 2 in the end, and its title is seen in its row. The other one has got an id
of the generator, and is at revision 1. -/
theorem representation_twoLives :
    (∀ n, uuid n ≠ "") ∧ (∀ call ∈ twoLives, call.schema = (fun _ => Schema.note) call.schema.kind) ∧
      ∃ first second, ((Store.empty uuid).after twoLives).rows "note" = [first, second] ∧
        first.id = "1" ∧ first.revision = 2 ∧ first.fields = [("title", .string "b")] ∧
        Keyed.find? (first.row .note) "title" = some (.string "b") ∧
        second.id = "0198c3f2-7a00-7000-8000-000000000001" ∧ second.id ≠ "" ∧
        second.revision = 1 := by
  have uniform : ∀ call ∈ twoLives, call.schema = (fun _ => Schema.note) call.schema.kind := by
    decide +kernel
  obtain ⟨-, each⟩ :=
    @representation_after (fun _ => .note) uuid uuid_ne_empty twoLives uniform "note"
  have rows : ((Store.empty uuid).after twoLives).rows "note" =
      [⟨"1", none, 2, [("title", .string "b")]⟩,
        ⟨"0198c3f2-7a00-7000-8000-000000000001", none, 1, [("title", .string "c")]⟩] := by
    decide +kernel
  rw [rows] at each
  obtain ⟨-, -, revision, shown⟩ := each _ (List.mem_cons_self ..)
  obtain ⟨named, -, created, -⟩ := each _ (List.mem_cons_of_mem _ (List.mem_singleton.2 rfl))
  have updates : Write.updatesSince "note" "1" ((Store.empty uuid).log twoLives) = 1 := by
    decide +kernel
  have none : Write.updatesSince "note" "0198c3f2-7a00-7000-8000-000000000001"
      ((Store.empty uuid).log twoLives) = 0 := by
    decide +kernel
  refine ⟨uuid_ne_empty, uniform, _, _, rows, rfl, ?_, rfl,
    shown ("title", _) (List.mem_singleton.2 rfl), rfl, named, ?_⟩
  · rw [revision, updates]
    rfl
  · rw [created, none]
    rfl

end Store

end RecordAccess
