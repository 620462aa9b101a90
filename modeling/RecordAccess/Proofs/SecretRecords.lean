import Mathlib.Data.List.Forall2
import RecordAccess.Proofs.Permits
import RecordAccess.Proofs.Rows
import RecordAccess.Proofs.Sorting

/-!
# Secret records

A record that a caller may neither read nor write is secret to it. Two stores look the same to a
caller if they hold the same ids in the same order with the same permissions, and differ only in the
data and the revisions of secret records (`Store.LooksLike`). Then they still do after each has
answered the same write, as long as an update is of a record that both hold alike; and what a query
selects of them differs only in records that are dropped, since the order of the others does not
depend on those (`Store.LooksLike.filter_select`).
-/

namespace RecordAccess

/-! ## Rows -/

namespace Rows

variable {R : Record → Record → Prop} {rows others : List Record}

/-- Related rows have related records with an id. -/
theorem rel_find? (ids : ∀ one two, R one two → one.id = two.id) (alike : List.Forall₂ R rows others)
    (id : String) : Option.Rel R (find? rows id) (find? others id) := by
  induction alike with
  | nil => exact .none
  | @cons one two rows others related _ ih =>
    rw [find?, find?, List.find?_cons, List.find?_cons, ← ids one two related]
    by_cases same : one.id = id
    · simp only [same, decide_true]
      exact .some related
    · simp only [same, decide_false]
      exact ih

theorem forall₂_replace (ids : ∀ one two, R one two → one.id = two.id)
    (alike : List.Forall₂ R rows others) {record : Record} (own : R record record) :
    List.Forall₂ R (replace rows record) (replace others record) := by
  induction alike with
  | nil => exact .nil
  | @cons one two rows others related rest ih =>
    rw [replace, replace, ← ids one two related]
    split
    · exact .cons own rest
    · exact .cons related ih

theorem forall₂_remove (ids : ∀ one two, R one two → one.id = two.id)
    (alike : List.Forall₂ R rows others) (id : String) :
    List.Forall₂ R (remove rows id) (remove others id) := by
  induction alike with
  | nil => exact .nil
  | @cons one two rows others related rest ih =>
    rw [remove, remove, ← ids one two related]
    split
    · exact rest
    · exact .cons related ih

/-- Rows that are related are equal when all are dropped that may differ. -/
theorem filter_eq_of_forall₂ {p : Record → Bool}
    (kept : ∀ one two, R one two → p one = p two ∧ (p one = true → one = two))
    (alike : List.Forall₂ R rows others) : rows.filter p = others.filter p := by
  induction alike with
  | nil => rfl
  | @cons one two rows others related _ ih =>
    obtain ⟨same, equal⟩ := kept one two related
    rw [List.filter_cons, List.filter_cons, ← same, ih]
    split
    · next keeps => rw [equal keeps]
    · rfl

end Rows

/-- Adds a record, unless there is one with its id. -/
def Store.insert (store : Store) (schema : Schema) (record : Record) :
    Except StoreError Record × Store :=
  match store.row? schema.kind record.id with
  | some _ => (.error (.duplicate schema.kind record.id), store)
  | none =>
    (.ok record, (store.setRows schema.kind (store.rows schema.kind ++ [record])).countWrite)

/-- A create adds a record under the id that was given or the next one of the generator. -/
theorem Store.create_eq (store : Store) (schema : Schema) (record : Record) :
    store.create schema record =
      if record.id.isEmpty then
        ({ store with generated := store.generated + 1 }).insert schema
          (({ record with id := store.newId (store.generated + 1) } : Record).initial schema)
      else store.insert schema (record.initial schema) := by
  unfold create
  split <;> rfl

/-! ## Records and stores that look the same -/

/-- Two records of a kind are the same to a caller: they are equal, or they have the same id and the
same permission, by which the caller may neither read nor write them. -/
def Registry.LooksLike (registry : Registry) (caller : Option Principal) (kind : String)
    (one two : Record) : Prop :=
  one = two ∨ one.id = two.id ∧ one.permission = two.permission ∧
    ∀ access, ¬registry.Permits kind caller access one

/-- Two stores are the same to a caller: they hold records that are, in the same order, and get the
same ids. -/
structure Store.LooksLike (registry : Registry) (caller : Option Principal) (one two : Store) :
    Prop where
  generated : one.generated = two.generated
  newId : one.newId = two.newId
  rows : ∀ kind, List.Forall₂ (registry.LooksLike caller kind) (one.rows kind) (two.rows kind)

section

variable {registry : Registry} {caller : Option Principal} {kind id : String} {schema : Schema}

namespace Registry

variable {record other : Record}

theorem LooksLike.refl (record : Record) : registry.LooksLike caller kind record record := .inl rfl

theorem LooksLike.id_eq (alike : registry.LooksLike caller kind record other) :
    record.id = other.id := by
  rcases alike with rfl | ⟨ids, -⟩
  · rfl
  · exact ids

theorem LooksLike.permission_eq (alike : registry.LooksLike caller kind record other) :
    record.permission = other.permission := by
  rcases alike with rfl | ⟨-, permissions, -⟩
  · rfl
  · exact permissions

/-- What a caller may have any access to is equal. -/
theorem LooksLike.eq_of_permits (alike : registry.LooksLike caller kind record other)
    {access : Access} (allowed : registry.Permits kind caller access record) : record = other := by
  rcases alike with same | ⟨-, -, secret⟩
  · exact same
  · exact absurd allowed (secret access)

end Registry

namespace Store.LooksLike

variable {one two : Store} {record current proposed : Record}

/-- Stores that are the same to a caller hold records that are under each id. -/
theorem row? (alike : one.LooksLike registry caller two) (kind id : String) :
    Option.Rel (registry.LooksLike caller kind) (one.row? kind id) (two.row? kind id) :=
  Rows.rel_find? (fun _ _ related => related.id_eq) (alike.rows kind) id

theorem setRows (alike : one.LooksLike registry caller two) {rows others : List Record}
    (related : List.Forall₂ (registry.LooksLike caller kind) rows others) :
    (one.setRows kind rows).LooksLike registry caller (two.setRows kind others) where
  generated := alike.generated
  newId := alike.newId
  rows name := by
    by_cases same : kind = name
    · subst same
      rw [rows_setRows_self, rows_setRows_self]
      exact related
    · rw [rows_setRows_of_ne _ _ same, rows_setRows_of_ne _ _ same]
      exact alike.rows name

/-- Statistics are not looked at. -/
theorem withStats (alike : one.LooksLike registry caller two) (stats others : StoreStats) :
    ({ one with stats } : Store).LooksLike registry caller { two with stats := others } :=
  ⟨alike.generated, alike.newId, alike.rows⟩

theorem countWrite (alike : one.LooksLike registry caller two) :
    one.countWrite.LooksLike registry caller two.countWrite :=
  alike.withStats _ _

/-! ### Writes -/

theorem insert (alike : one.LooksLike registry caller two) (schema : Schema) (record : Record) :
    (one.insert schema record).1 = (two.insert schema record).1 ∧
      (one.insert schema record).2.LooksLike registry caller (two.insert schema record).2 := by
  have found := alike.row? schema.kind record.id
  unfold Store.insert
  generalize one.row? schema.kind record.id = here, two.row? schema.kind record.id = there at found
  cases found with
  | some _ => exact ⟨rfl, alike⟩
  | none =>
    exact ⟨rfl, (alike.setRows (List.rel_append (alike.rows schema.kind)
      (.cons (.refl record) .nil))).countWrite⟩

theorem create (alike : one.LooksLike registry caller two) (schema : Schema) (record : Record) :
    (one.create schema record).1 = (two.create schema record).1 ∧
      (one.create schema record).2.LooksLike registry caller (two.create schema record).2 := by
  have made : one.newId (one.generated + 1) = two.newId (two.generated + 1) := by
    rw [alike.newId, alike.generated]
  rw [create_eq, create_eq, ← made, ← alike.generated]
  have numbered : ∀ n, ({ one with generated := n } : Store).LooksLike registry caller
      { two with generated := n } := fun n => ⟨rfl, alike.newId, alike.rows⟩
  split
  · exact (numbered _).insert schema _
  · exact alike.insert schema _

theorem update (alike : one.LooksLike registry caller two)
    (first : one.row? schema.kind proposed.id = some current)
    (second : two.row? schema.kind proposed.id = some current) (expected : Option Int) :
    (one.update schema proposed expected).1 = (two.update schema proposed expected).1 ∧
      (one.update schema proposed expected).2.LooksLike registry caller
        (two.update schema proposed expected).2 := by
  rw [update_eq, update_eq, first, second]
  dsimp only
  split
  · exact ⟨rfl, (alike.setRows (Rows.forall₂_replace (fun _ _ related => related.id_eq)
      (alike.rows schema.kind) (.refl _))).countWrite⟩
  · exact ⟨rfl, alike⟩

theorem delete (alike : one.LooksLike registry caller two) (schema : Schema) (id : String) :
    (one.delete schema id).1 = (two.delete schema id).1 ∧
      (one.delete schema id).2.LooksLike registry caller (two.delete schema id).2 := by
  have found := alike.row? schema.kind id
  rw [delete_eq, delete_eq]
  generalize one.row? schema.kind id = here, two.row? schema.kind id = there at found
  cases found with
  | none => exact ⟨rfl, alike⟩
  | some _ =>
    exact ⟨rfl, (alike.setRows (Rows.forall₂_remove (fun _ _ related => related.id_eq)
      (alike.rows schema.kind) id)).countWrite⟩

/-! ### Queries -/

/-- What a caller may read is the same of both. -/
theorem filter_rows (alike : one.LooksLike registry caller two) {operation : Operation}
    (granted : registry.authorize kind operation = .ok schema) :
    (one.rows kind).filter (Service.isReadable schema caller) =
      (two.rows kind).filter (Service.isReadable schema caller) := by
  refine Rows.filter_eq_of_forall₂ (fun record other related => ⟨?_, fun readable => ?_⟩)
    (alike.rows kind)
  · rw [Bool.eq_iff_iff, Schema.isReadable_eq_true, Schema.isReadable_eq_true,
      Schema.permits_congr related.permission_eq]
  · exact related.eq_of_permits ((Registry.permits_of_authorize granted).2
      (Schema.isReadable_eq_true.1 readable))

/-- What a query selects of both is the same to one who drops what the caller may not read. -/
theorem filter_select (alike : one.LooksLike registry caller two) (built : registry.IsBuilt)
    {operation : Operation} (granted : registry.authorize kind operation = .ok schema)
    {filter : CompiledFilter} (unlimited : filter.limit = none) (unskipped : filter.skip = none)
    (uniform : ∀ store ∈ [one, two], ∀ key ∈ filter.order,
      IsUniform (columnValues schema (store.rows schema.kind) key.column)) :
    (one.select schema filter).filter (Service.isReadable schema caller) =
      (two.select schema filter).filter (Service.isReadable schema caller) := by
  have selected : ∀ store ∈ [one, two],
      (store.select schema filter).filter (Service.isReadable schema caller) =
        sortRecords schema filter.order (((store.rows kind).filter
          (Service.isReadable schema caller)).filter fun record =>
            filter.predicate.accepts (record.row schema)) := by
    intro store among
    have whole : store.select schema filter = sortRecords schema filter.order
        ((store.rows schema.kind).filter fun record =>
          filter.predicate.accepts (record.row schema)) := by
      rw [select, unlimited, unskipped]
      rfl
    rw [whole, filter_sortRecords fun key member =>
      (uniform store among key member).of_sublist List.filter_sublist]
    rw [List.filter_comm, built.kind_eq granted]
  rw [selected one (by simp), selected two (by simp), alike.filter_rows granted]

end Store.LooksLike

end

end RecordAccess
