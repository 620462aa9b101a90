import Mathlib.Data.List.Nodup
import RecordAccess.Store.Basic

/-!
# Stored rows

What each call of the store does to the record of a kind with an id. A call changes at most one
record (`StoreCall.written?`), and every other record is found after it as before
(`Store.row?_answer_of_ne`). No call makes two records of a kind with the same id
(`Store.distinct_answer`).
-/

namespace RecordAccess

/-! ## Rows of one kind -/

namespace Rows

variable {rows : List Record} {record stored : Record} {id : String}

theorem id_of_find? (found : find? rows id = some record) : record.id = id := by
  simpa using List.find?_some found

theorem mem_of_find? (found : find? rows id = some record) : record ∈ rows :=
  List.mem_of_find?_eq_some found

theorem find?_append (rows : List Record) (record : Record) (id : String) :
    find? (rows ++ [record]) id =
      (find? rows id).or (if record.id = id then some record else none) := by
  simp only [find?, List.find?_append]
  by_cases same : record.id = id <;> simp [same]

theorem find?_replace_of_ne (other : record.id ≠ id) :
    find? (replace rows record) id = find? rows id := by
  induction rows with
  | nil => rfl
  | cons first rest ih =>
    unfold replace
    split
    · next same => simp [find?, other, same ▸ other]
    · simp only [find?, List.find?_cons] at ih ⊢
      rw [ih]

theorem find?_replace_self (found : find? rows record.id = some stored) :
    find? (replace rows record) record.id = some record := by
  induction rows with
  | nil => cases found
  | cons first rest ih =>
    unfold replace
    split
    · simp [find?]
    · next other =>
      simp only [find?, List.find?_cons, other, decide_false] at found ih ⊢
      exact ih found

theorem find?_remove_of_ne {other : String} (different : id ≠ other) :
    find? (remove rows id) other = find? rows other := by
  induction rows with
  | nil => rfl
  | cons first rest ih =>
    unfold remove
    split
    · next same => simp [find?, same, different]
    · simp only [find?, List.find?_cons] at ih ⊢
      rw [ih]

/-! ### Distinct ids -/

/-- No two rows have the same id. -/
def Distinct (rows : List Record) : Prop :=
  (rows.map Record.id).Nodup

theorem find?_eq_some_of_mem (distinct : Distinct rows) (member : record ∈ rows) :
    find? rows record.id = some record := by
  cases found : find? rows record.id with
  | none => simpa using List.find?_eq_none.1 found record member
  | some other =>
    exact congrArg some (List.inj_on_of_nodup_map distinct (mem_of_find? found) member
      (id_of_find? found))

theorem find?_remove_self (distinct : Distinct rows) : find? (remove rows id) id = none := by
  induction rows with
  | nil => rfl
  | cons first rest ih =>
    obtain ⟨fresh, rest_distinct⟩ := List.nodup_cons.1 distinct
    unfold remove
    split
    · next same =>
      subst same
      refine List.find?_eq_none.2 fun record member same => fresh ?_
      rw [← of_decide_eq_true same]
      exact List.mem_map_of_mem member
    · next other =>
      simp only [find?, List.find?_cons, other, decide_false] at ih ⊢
      exact ih rest_distinct

theorem Distinct.append (distinct : Distinct rows) (fresh : find? rows record.id = none) :
    Distinct (rows ++ [record]) := by
  simp only [Distinct, List.map_append, List.map_cons, List.map_nil]
  refine List.nodup_append.2 ⟨distinct, List.nodup_singleton _, fun id member last same => ?_⟩
  obtain ⟨other, there, rfl⟩ := List.mem_map.1 member
  rw [List.mem_singleton] at same
  simpa [same] using List.find?_eq_none.1 fresh other there

theorem map_id_replace (rows : List Record) (record : Record) :
    (replace rows record).map Record.id = rows.map Record.id := by
  induction rows with
  | nil => rfl
  | cons first rest ih =>
    unfold replace
    split
    · next same => simp [same]
    · simp [ih]

theorem Distinct.replace (distinct : Distinct rows) : Distinct (Rows.replace rows record) := by
  rw [Distinct, map_id_replace]
  exact distinct

theorem remove_sublist (rows : List Record) (id : String) : (remove rows id).Sublist rows := by
  induction rows with
  | nil => exact .slnil
  | cons first rest ih =>
    unfold remove
    split
    · exact List.sublist_cons_self first rest
    · exact ih.cons_cons first

theorem Distinct.remove (distinct : Distinct rows) : Distinct (Rows.remove rows id) :=
  List.Nodup.sublist ((remove_sublist rows id).map _) distinct

end Rows

@[simp] theorem Record.initial_id (record : Record) (schema : Schema) :
    (record.initial schema).id = record.id := rfl

@[simp] theorem Record.merge_id (stored proposed : Record) (schema : Schema) :
    (stored.merge proposed schema).id = stored.id := rfl

/-! ## Calls -/

/-- The kind and the id of the record that a call changed, by its answer. -/
def StoreCall.written? : (call : StoreCall) → call.Reply → Option (String × String)
  | .create schema _, .ok created => some (schema.kind, Record.id created)
  | .update schema _ _, .ok updated => some (schema.kind, Record.id updated)
  | .delete schema id, .ok _ => some (schema.kind, id)
  | _, _ => none

/-- The kind and the record that a write left behind, by its answer. -/
def StoreCall.stored? : (call : StoreCall) → call.Reply → Option (String × Record)
  | .create schema _, .ok created => some (schema.kind, created)
  | .update schema _ _, .ok updated => some (schema.kind, updated)
  | _, _ => none

namespace StoreCall

/-- The schema that a call is made with. -/
def schema : StoreCall → Schema
  | findMany schema _ | findOne schema _ | create schema _ | update schema _ _ | delete schema _ =>
    schema

variable {schema : Schema} {kind id : String}

theorem written?_of_stored? {call : StoreCall} {reply : call.Reply} {record : Record}
    (stored : call.stored? reply = some (kind, record)) :
    call.written? reply = some (kind, record.id) := by
  match call, reply with
  | .create _ _, .ok _ => cases stored; rfl
  | .update _ _ _, .ok _ => cases stored; rfl
  | .create _ _, .error _ => cases stored
  | .update _ _ _, .error _ => cases stored
  | .delete _ _, _ => cases stored
  | .findOne _ _, _ => cases stored
  | .findMany _ _, _ => cases stored

theorem stored?_create {payload record : Record} {reply : Except StoreError Record}
    (stored : (create schema payload).stored? reply = some (kind, record)) :
    reply = .ok record ∧ schema.kind = kind := by
  cases reply with
  | error error => cases stored
  | ok created =>
    cases stored
    exact ⟨rfl, rfl⟩

theorem stored?_update {proposed record : Record} {expected : Option Int}
    {reply : Except StoreError Record}
    (stored : (update schema proposed expected).stored? reply = some (kind, record)) :
    reply = .ok record ∧ schema.kind = kind := by
  cases reply with
  | error error => cases stored
  | ok updated =>
    cases stored
    exact ⟨rfl, rfl⟩

theorem written?_create {record : Record} {reply : Except StoreError Record}
    (written : (create schema record).written? reply = some (kind, id)) :
    ∃ created, reply = .ok created ∧ schema.kind = kind ∧ created.id = id := by
  cases reply with
  | error error => cases written
  | ok created =>
    cases written
    exact ⟨created, rfl, rfl, rfl⟩

theorem written?_update {proposed : Record} {expected : Option Int}
    {reply : Except StoreError Record}
    (written : (update schema proposed expected).written? reply = some (kind, id)) :
    ∃ updated, reply = .ok updated ∧ schema.kind = kind ∧ updated.id = id := by
  cases reply with
  | error error => cases written
  | ok updated =>
    cases written
    exact ⟨updated, rfl, rfl, rfl⟩

theorem written?_delete {removed : String} {reply : Except StoreError Unit}
    (written : (delete schema removed).written? reply = some (kind, id)) :
    reply = .ok () ∧ schema.kind = kind ∧ removed = id := by
  cases reply with
  | error error => cases written
  | ok _ =>
    cases written
    exact ⟨rfl, rfl, rfl⟩

end StoreCall

namespace Store

variable {store : Store} {schema : Schema} {kind id : String}

/-- The record of a kind with an id, if one is stored. -/
def row? (store : Store) (kind id : String) : Option Record :=
  Rows.find? (store.rows kind) id

theorem id_of_row? {record : Record} (found : store.row? kind id = some record) :
    record.id = id :=
  Rows.id_of_find? found

@[simp] theorem row?_countWrite : store.countWrite.row? kind id = store.row? kind id := rfl

@[simp] theorem row?_generated (n : Nat) :
    ({ store with generated := n }).row? kind id = store.row? kind id := rfl

theorem row?_setRows_self (rows : List Record) :
    (store.setRows kind rows).row? kind id = Rows.find? rows id := by
  rw [row?, rows_setRows_self]

theorem row?_setRows_of_ne {other : String} (rows : List Record) (different : kind ≠ other) :
    (store.setRows kind rows).row? other id = store.row? other id := by
  rw [row?, rows_setRows_of_ne _ _ different, row?]

theorem findOne_eq_ok {record : Record} :
    store.findOne schema id = .ok record ↔ store.row? schema.kind id = some record := by
  unfold findOne row?
  split <;> simp_all

theorem findOne_eq_error {error : StoreError} (failed : store.findOne schema id = .error error) :
    store.row? schema.kind id = none ∧ error = .notFound schema.kind id := by
  unfold findOne at failed
  split at failed
  · cases failed
  · next missing =>
    cases failed
    exact ⟨missing, rfl⟩

theorem findOne_of_row?_eq_none (missing : store.row? schema.kind id = none) :
    store.findOne schema id = .error (.notFound schema.kind id) := by
  cases found : store.findOne schema id with
  | ok record => cases missing.symm.trans (findOne_eq_ok.1 found)
  | error error => rw [(findOne_eq_error found).2]

/-! ### The three writes -/

/-- A create that succeeds appends a record whose id was not there. -/
theorem create_ok {record created : Record}
    (succeeded : (store.create schema record).1 = .ok created) :
    store.row? schema.kind created.id = none ∧ (record.id ≠ "" → created.id = record.id) ∧
      ∃ n, (store.create schema record).2 = (({ store with generated := n }).setRows schema.kind
        (store.rows schema.kind ++ [created])).countWrite := by
  unfold create at succeeded ⊢
  by_cases anonymous : record.id.isEmpty = true
  · simp only [anonymous, ↓reduceIte] at succeeded ⊢
    split at succeeded
    · cases succeeded
    · next missing =>
      cases succeeded
      exact ⟨missing, fun named => absurd (String.isEmpty_iff.1 anonymous) named, _, rfl⟩
  · simp only [anonymous, Bool.false_eq_true, ↓reduceIte] at succeeded ⊢
    split at succeeded
    · cases succeeded
    · next missing =>
      cases succeeded
      exact ⟨missing, fun _ => rfl, store.generated, rfl⟩

/-- A create that fails changes no row. -/
theorem create_error {record : Record} {error : StoreError}
    (failed : (store.create schema record).1 = .error error) :
    ∃ n, (store.create schema record).2 = { store with generated := n } := by
  unfold create at failed ⊢
  by_cases anonymous : record.id.isEmpty = true
  · simp only [anonymous, ↓reduceIte] at failed ⊢
    split at failed
    · exact ⟨_, rfl⟩
    · cases failed
  · simp only [anonymous, Bool.false_eq_true, ↓reduceIte] at failed ⊢
    split at failed
    · exact ⟨store.generated, rfl⟩
    · cases failed

theorem update_eq (store : Store) (schema : Schema) (proposed : Record) (expected : Option Int) :
    store.update schema proposed expected =
      match store.row? schema.kind proposed.id with
      | none => (.error (.notFound schema.kind proposed.id), store)
      | some stored =>
        if expected.all fun revision => stored.revision == revision then
          (.ok (stored.merge proposed schema), (store.setRows schema.kind
            (Rows.replace (store.rows schema.kind) (stored.merge proposed schema))).countWrite)
        else (.error (.revisionMismatch stored), store) := rfl

/-- An update that succeeds merges into the stored record, which has the expected revision. -/
theorem update_ok {proposed updated : Record} {expected : Option Int}
    (succeeded : (store.update schema proposed expected).1 = .ok updated) :
    ∃ stored, store.row? schema.kind proposed.id = some stored ∧
      (∀ revision ∈ expected, stored.revision = revision) ∧
      updated = stored.merge proposed schema ∧
      (store.update schema proposed expected).2 = (store.setRows schema.kind
        (Rows.replace (store.rows schema.kind) updated)).countWrite := by
  rw [update_eq] at succeeded ⊢
  cases found : store.row? schema.kind proposed.id with
  | none =>
    rw [found] at succeeded
    cases succeeded
  | some stored =>
    simp only [found] at succeeded ⊢
    split at succeeded
    · next current =>
      cases succeeded
      refine ⟨stored, rfl, fun revision wanted => ?_, rfl, by rw [if_pos current]⟩
      simpa [Option.mem_def.1 wanted] using current
    · cases succeeded

/-- An update that fails changes nothing. What it conflicts with is the stored record. -/
theorem update_error {proposed : Record} {expected : Option Int} {error : StoreError}
    (failed : (store.update schema proposed expected).1 = .error error) :
    (store.update schema proposed expected).2 = store ∧
      (error = .notFound schema.kind proposed.id ∨
        ∃ stored, store.row? schema.kind proposed.id = some stored ∧
          error = .revisionMismatch stored) := by
  rw [update_eq] at failed ⊢
  cases found : store.row? schema.kind proposed.id with
  | none =>
    rw [found] at failed
    cases failed
    exact ⟨rfl, .inl rfl⟩
  | some stored =>
    simp only [found] at failed ⊢
    split at failed
    · cases failed
    · next stale =>
      cases failed
      exact ⟨by rw [if_neg stale], .inr ⟨stored, rfl, rfl⟩⟩

theorem delete_eq (store : Store) (schema : Schema) (id : String) :
    store.delete schema id =
      match store.row? schema.kind id with
      | none => (.error (.notFound schema.kind id), store)
      | some _ => (.ok (), (store.setRows schema.kind
          (Rows.remove (store.rows schema.kind) id)).countWrite) := rfl

/-- A delete that succeeds removes the record that was there. -/
theorem delete_ok (succeeded : (store.delete schema id).1 = .ok ()) :
    (store.row? schema.kind id).isSome ∧ (store.delete schema id).2 =
      (store.setRows schema.kind (Rows.remove (store.rows schema.kind) id)).countWrite := by
  rw [delete_eq] at succeeded ⊢
  cases found : store.row? schema.kind id with
  | none =>
    rw [found] at succeeded
    cases succeeded
  | some stored => exact ⟨rfl, rfl⟩

/-- A delete that fails changes nothing. -/
theorem delete_error {error : StoreError} (failed : (store.delete schema id).1 = .error error) :
    (store.delete schema id).2 = store ∧ store.row? schema.kind id = none ∧
      error = .notFound schema.kind id := by
  rw [delete_eq] at failed ⊢
  cases found : store.row? schema.kind id with
  | none =>
    rw [found] at failed
    cases failed
    exact ⟨rfl, rfl, rfl⟩
  | some stored =>
    rw [found] at failed
    cases failed

/-! ### The rows after a call -/

/-- The record that a create made is stored. -/
theorem row?_create {record created : Record}
    (succeeded : (store.create schema record).1 = .ok created) :
    (store.create schema record).2.row? schema.kind created.id = some created := by
  obtain ⟨missing, -, n, same⟩ := create_ok succeeded
  rw [same, row?_countWrite, row?_setRows_self, Rows.find?_append, ← row?, missing]
  simp

/-- The merged record is stored. -/
theorem row?_update {proposed updated : Record} {expected : Option Int}
    (succeeded : (store.update schema proposed expected).1 = .ok updated) :
    (store.update schema proposed expected).2.row? schema.kind updated.id = some updated := by
  obtain ⟨stored, found, -, rfl, same⟩ := update_ok succeeded
  rw [same, row?_countWrite, row?_setRows_self, Record.merge_id]
  have there : Rows.find? (store.rows schema.kind) (stored.merge proposed schema).id =
      some stored := by
    rwa [Record.merge_id, id_of_row? found]
  exact Rows.find?_replace_self there

/-- An update that has written a record merged into what was stored under its id, which had the
expected revision. -/
theorem merged_of_written? {proposed row : Record} {expected : Option Int}
    (written : (StoreCall.update schema proposed expected).written?
      (store.update schema proposed expected).1 = some (kind, id))
    (there : store.row? kind id = some row) :
    schema.kind = kind ∧ (∀ revision ∈ expected, row.revision = revision) ∧
      (store.update schema proposed expected).2.row? kind id =
        some (row.merge proposed schema) := by
  obtain ⟨updated, succeeded, rfl, rfl⟩ := StoreCall.written?_update written
  obtain ⟨stored, found, matching, rfl, -⟩ := update_ok succeeded
  rw [Record.merge_id, id_of_row? found, found] at there
  cases there
  exact ⟨rfl, matching, row?_update succeeded⟩

/-- A record that was deleted is gone, if ids are distinct. -/
theorem row?_delete (distinct : Rows.Distinct (store.rows schema.kind))
    (succeeded : (store.delete schema id).1 = .ok ()) :
    (store.delete schema id).2.row? schema.kind id = none := by
  rw [(delete_ok succeeded).2, row?_countWrite, row?_setRows_self]
  exact Rows.find?_remove_self distinct

theorem row?_setRows_of {other : String} {rows : List Record}
    (unchanged : kind = other → Rows.find? rows id = store.row? other id) :
    (store.setRows kind rows).row? other id = store.row? other id := by
  by_cases same : kind = other
  · subst same
    rw [row?_setRows_self, unchanged rfl]
  · exact row?_setRows_of_ne rows same

/-- A create leaves every record as it was but the one that it made. -/
theorem row?_create_of_ne {record : Record}
    (elsewhere : (StoreCall.create schema record).written? (store.create schema record).1 ≠
      some (kind, id)) :
    (store.create schema record).2.row? kind id = store.row? kind id := by
  cases finished : (store.create schema record).1 with
  | error error =>
    obtain ⟨n, same⟩ := create_error finished
    rw [same, row?_generated]
  | ok created =>
    rw [finished] at elsewhere
    obtain ⟨-, -, n, same⟩ := create_ok finished
    rw [same, row?_countWrite, row?_setRows_of, row?_generated]
    rintro rfl
    have other : created.id ≠ id := fun same => elsewhere (same ▸ rfl)
    rw [Rows.find?_append, if_neg other, Option.or_none]
    rfl

/-- An update leaves every record as it was but the one that it wrote. -/
theorem row?_update_of_ne {proposed : Record} {expected : Option Int}
    (elsewhere : (StoreCall.update schema proposed expected).written?
      (store.update schema proposed expected).1 ≠ some (kind, id)) :
    (store.update schema proposed expected).2.row? kind id = store.row? kind id := by
  cases finished : (store.update schema proposed expected).1 with
  | error error => rw [(update_error finished).1]
  | ok updated =>
    rw [finished] at elsewhere
    obtain ⟨stored, -, -, -, same⟩ := update_ok finished
    rw [same, row?_countWrite, row?_setRows_of]
    rintro rfl
    exact Rows.find?_replace_of_ne fun same => elsewhere (same ▸ rfl)

/-- A delete leaves every record as it was but the one that it removed. -/
theorem row?_delete_of_ne {removed : String}
    (elsewhere : (StoreCall.delete schema removed).written? (store.delete schema removed).1 ≠
      some (kind, id)) :
    (store.delete schema removed).2.row? kind id = store.row? kind id := by
  cases finished : (store.delete schema removed).1 with
  | error error => rw [(delete_error finished).1]
  | ok _ =>
    rw [finished] at elsewhere
    rw [(delete_ok finished).2, row?_countWrite, row?_setRows_of]
    rintro rfl
    exact Rows.find?_remove_of_ne fun same => elsewhere (same ▸ rfl)

/-- A call leaves every record as it was that it did not write. -/
theorem row?_answer_of_ne {call : StoreCall}
    (elsewhere : call.written? (store.answer call).1 ≠ some (kind, id)) :
    (store.answer call).2.row? kind id = store.row? kind id := by
  cases call with
  | findMany schema filter => rfl
  | findOne schema id => rfl
  | create schema record => exact row?_create_of_ne elsewhere
  | update schema proposed expected => exact row?_update_of_ne elsewhere
  | delete schema removed => exact row?_delete_of_ne elsewhere

/-- What a write left behind is stored. -/
theorem row?_of_stored? {call : StoreCall} {record : Record}
    (stored : call.stored? (store.answer call).1 = some (kind, record)) :
    (store.answer call).2.row? kind record.id = some record := by
  cases call with
  | create schema payload =>
    obtain ⟨finished, rfl⟩ := StoreCall.stored?_create stored
    exact row?_create finished
  | update schema proposed expected =>
    obtain ⟨finished, rfl⟩ := StoreCall.stored?_update stored
    exact row?_update finished
  | _ => cases stored

/-- A write of a record that is not stored is a create. -/
theorem create_of_written? {call : StoreCall} (absent : store.row? kind id = none)
    (written : call.written? (store.answer call).1 = some (kind, id)) :
    ∃ schema record, call = .create schema record := by
  cases call with
  | create schema record => exact ⟨schema, record, rfl⟩
  | update schema proposed expected =>
    obtain ⟨updated, finished, rfl, rfl⟩ := StoreCall.written?_update written
    obtain ⟨stored, found, -, rfl, -⟩ := update_ok finished
    rw [Record.merge_id, id_of_row? found, found] at absent
    cases absent
  | delete schema removed =>
    obtain ⟨finished, rfl, rfl⟩ := StoreCall.written?_delete written
    have there := (delete_ok finished).1
    rw [absent] at there
    cases there
  | _ => cases written

/-- A write of a revisioned kind raises the revision of what was stored, if anything was. -/
theorem revision_lt_of_stored? {call : StoreCall} {record before : Record}
    (stored : call.stored? (store.answer call).1 = some (kind, record))
    (revisioned : call.schema.revisioned = true)
    (there : store.row? kind record.id = some before) : before.revision < record.revision := by
  cases call with
  | create schema payload =>
    obtain ⟨finished, rfl⟩ := StoreCall.stored?_create stored
    cases (create_ok finished).1.symm.trans there
  | update schema proposed expected =>
    obtain ⟨finished, rfl⟩ := StoreCall.stored?_update stored
    obtain ⟨same, found, -, rfl, -⟩ := update_ok finished
    rw [Record.merge_id, id_of_row? found, found] at there
    cases there
    change schema.revisioned = true at revisioned
    simp only [Record.merge, revisioned, ↓reduceIte]
    omega
  | _ => cases stored

/-! ### Distinct ids -/

/-- No two records of a kind have the same id. -/
def Distinct (store : Store) : Prop :=
  ∀ kind, Rows.Distinct (store.rows kind)

theorem Distinct.setRows (distinct : store.Distinct) {rows : List Record}
    (rows_distinct : Rows.Distinct rows) : (store.setRows kind rows).Distinct := by
  intro other
  by_cases same : kind = other
  · subst same
    rwa [rows_setRows_self]
  · rw [rows_setRows_of_ne _ _ same]
    exact distinct other

/-- No call makes two records of a kind with the same id. -/
theorem distinct_answer (distinct : store.Distinct) (call : StoreCall) :
    (store.answer call).2.Distinct := by
  cases call with
  | findMany schema filter => exact distinct
  | findOne schema id => exact distinct
  | create schema record =>
    change (store.create schema record).2.Distinct
    cases finished : (store.create schema record).1 with
    | error error =>
      obtain ⟨n, same⟩ := create_error finished
      rw [same]
      exact distinct
    | ok created =>
      obtain ⟨fresh, -, n, same⟩ := create_ok finished
      rw [same]
      have same_rows : ({ store with generated := n } : Store).Distinct := distinct
      exact same_rows.setRows ((distinct schema.kind).append fresh)
  | update schema proposed expected =>
    change (store.update schema proposed expected).2.Distinct
    cases finished : (store.update schema proposed expected).1 with
    | error error => rwa [(update_error finished).1]
    | ok updated =>
      obtain ⟨stored, -, -, -, same⟩ := update_ok finished
      rw [same]
      exact distinct.setRows (distinct schema.kind).replace
  | delete schema removed =>
    change (store.delete schema removed).2.Distinct
    cases finished : (store.delete schema removed).1 with
    | error error => rwa [(delete_error finished).1]
    | ok _ =>
      rw [(delete_ok finished).2]
      exact distinct.setRows (distinct schema.kind).remove

/-! ### Queries -/

theorem mem_of_mem_page {α : Type} {skip limit : Option Nat} {items : List α} {item : α}
    (member : item ∈ page skip limit items) : item ∈ items := by
  unfold page at member
  cases limit with
  | none => exact List.mem_of_mem_drop member
  | some limit => exact List.mem_of_mem_drop (List.mem_of_mem_take member)

/-- What a query selects is stored. -/
theorem mem_rows_of_mem_select {filter : CompiledFilter} {record : Record}
    (member : record ∈ store.select schema filter) : record ∈ store.rows schema.kind :=
  List.mem_of_mem_filter (List.mem_mergeSort.1 (mem_of_mem_page member))

/-- What a query selects is accepted. -/
theorem accepts_of_mem_select {filter : CompiledFilter} {record : Record}
    (member : record ∈ store.select schema filter) :
    filter.predicate.accepts (record.row schema) = true :=
  (List.mem_filter.1 (List.mem_mergeSort.1 (mem_of_mem_page member))).2

/-- A query without relations gives what it selects. -/
theorem findMany_of_plain {filter : CompiledFilter} (plain : filter.includes.isEmpty = true) :
    store.findMany schema filter = .ok (store.select schema filter) := by
  rw [findMany, List.isEmpty_iff.1 plain]
  exact congrArg Except.ok (List.map_id' _)

/-- A query without relations gives records as they are stored. -/
theorem row?_of_findMany {filter : CompiledFilter} {records : List Record} {record : Record}
    (distinct : store.Distinct) (plain : filter.includes.isEmpty = true)
    (found : store.findMany schema filter = .ok records) (member : record ∈ records) :
    store.row? schema.kind record.id = some record := by
  cases (findMany_of_plain plain).symm.trans found
  exact Rows.find?_eq_some_of_mem (distinct schema.kind) (mem_rows_of_mem_select member)

/-! ### The generator -/

/-- No call changes where ids come from. -/
theorem newId_answer (store : Store) (call : StoreCall) :
    (store.answer call).2.newId = store.newId := by
  cases call with
  | findMany schema filter => rfl
  | findOne schema id => rfl
  | create schema record =>
    simp only [answer, create]
    split <;> split <;> rfl
  | update schema proposed expected =>
    simp only [answer, update]
    split
    · rfl
    · split <;> rfl
  | delete schema id =>
    simp only [answer, delete]
    split <;> rfl

/-- Ids in the form of UUIDs of version 7, all of one moment, that count up. -/
def uuid (n : Nat) : String :=
  let digits := Nat.toDigits 10 n
  "0198c3f2-7a00-7000-8000-" ++ String.ofList (List.replicate (12 - digits.length) '0' ++ digits)

example : uuid 42 = "0198c3f2-7a00-7000-8000-000000000042" := by decide +kernel

theorem uuid_ne_empty (n : Nat) : uuid n ≠ "" := fun empty =>
  absurd (String.append_eq_empty_iff.1 empty).1 (by decide)

end Store

end RecordAccess
