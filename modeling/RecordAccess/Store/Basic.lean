import RecordAccess.Filter.Compiled
import RecordAccess.Record.Schema
import RecordAccess.Store.Error

/-!
# The store

The stored records of each kind, in the order in which they were created, and how each call
changes and answers them. A call is one atomic step. A record that is created without an id gets
the next one of a generator, which is no part of the store; a record of a revisioned kind starts at
revision 1 and each update adds 1, whatever revision was sent along.

A query takes the rows that satisfy the predicate, sorts them stably, cuts out the page and loads
the relations. Missing and null values come first in ascending order, and values that do not
compare count as equal.
-/

namespace RecordAccess

/-- How often a store was asked, and how many writes took effect. -/
structure StoreStats where
  findOneCalls : Nat
  findManyCalls : Nat
  writes : Nat
deriving DecidableEq, Repr

/-- The stored records by kind, with statistics and a generator of ids. -/
structure Store where
  tables : Keyed (List Record)
  stats : StoreStats
  /-- The number of ids that the generator has made so far. -/
  generated : Nat
  /-- The ids that the generator makes, by their number. They come from outside, and may be any. -/
  newId : Nat → String

/-! ## Rows of one kind -/

namespace Rows

/-- The record with an id. -/
def find? (rows : List Record) (id : String) : Option Record :=
  List.find? (fun record => record.id = id) rows

/-- Replaces the first record that has the id of the given one. -/
def replace (rows : List Record) (record : Record) : List Record :=
  match rows with
  | [] => []
  | first :: rest => if first.id = record.id then record :: rest else first :: replace rest record

/-- Removes the first record with an id. -/
def remove (rows : List Record) (id : String) : List Record :=
  match rows with
  | [] => []
  | first :: rest => if first.id = id then rest else first :: remove rest id

end Rows

/-- A record as it is stored first. -/
def Record.initial (record : Record) (schema : Schema) : Record :=
  { record with
    fields := schema.retainColumns record.fields
    revision := if schema.revisioned then 1 else 0 }

/-- A stored record after an update: fields that are not null replace those that are there, and
so does a permission.

A revision has no upper bound here, where a counter of 64 bits ends at 2 ^ 63 - 1. A stored record is
at 1 plus the number of its updates (`Store.IsSound.revision`), so the two differ only for a record
that has been updated 2 ^ 63 - 1 times. -/
def Record.merge (stored proposed : Record) (schema : Schema) : Record :=
  let changes := (schema.retainColumns proposed.fields).filter fun field => !field.2.isNull
  { stored with
    fields := stored.fields.insertAll changes
    permission := proposed.permission <|> stored.permission
    revision := if schema.revisioned then stored.revision + 1 else stored.revision }

/-! ## Order -/

/-- The ascending order of two cells: an empty one comes first, and values that do not compare
count as equal. -/
def compareCells : Option Json → Option Json → Ordering
  | none, none => .eq
  | none, some _ => .lt
  | some _, none => .gt
  | some a, some b => (a.compare? b).getD .eq

/-- The order of two rows by sort keys, the first of them first. -/
def compareRows : List SortKey → Row → Row → Ordering
  | [], _, _ => .eq
  | key :: rest, a, b =>
    (key.direction.apply (compareCells (Row.value? a key.column) (Row.value? b key.column))).then
      (compareRows rest a b)

/-- Records sorted by sort keys; records of equal rows keep their order. -/
def sortRecords (schema : Schema) (order : List SortKey) (records : List Record) : List Record :=
  records.mergeSort fun a b => compareRows order (a.row schema) (b.row schema) != .gt

/-! ## The store -/

namespace Store

/-- The store without records, with a generator. -/
def empty (newId : Nat → String) : Store := ⟨[], ⟨0, 0, 0⟩, 0, newId⟩

/-- The records of a kind. -/
def rows (store : Store) (kind : String) : List Record :=
  (store.tables.find? kind).getD []

/-- The store with other records of a kind. -/
def setRows (store : Store) (kind : String) (rows : List Record) : Store :=
  { store with tables := store.tables.insert kind rows }

@[simp] theorem rows_setRows_self (store : Store) (kind : String) (rows : List Record) :
    (store.setRows kind rows).rows kind = rows := by
  simp [Store.rows, setRows]

theorem rows_setRows_of_ne (store : Store) {kind other : String} (rows : List Record)
    (different : kind ≠ other) : (store.setRows kind rows).rows other = store.rows other := by
  simp [Store.rows, setRows, Keyed.find?_insert_of_ne _ _ different]

/-- Counts a write. -/
def countWrite (store : Store) : Store :=
  { store with stats := { store.stats with writes := store.stats.writes + 1 } }

/-- Finds a record by id. -/
def findOne (store : Store) (schema : Schema) (id : String) : Except StoreError Record :=
  match Rows.find? (store.rows schema.kind) id with
  | some record => .ok record
  | none => .error (.notFound schema.kind id)

/-- Whether a record belongs to a parent by a relation: its foreign key compares equal to the id
of the parent. -/
def isRelated (relation : Relation) (parent child : Record) : Bool :=
  match child.get? relation.foreignKey with
  | some key => key.compare? (.string parent.id) == some .eq
  | none => false

/-- Loads the related records into a field of the relation's name. -/
def load (store : Store) (relation : Relation) (parent : Record) : Record :=
  let children := (store.rows relation.kind).filter (isRelated relation parent)
  parent.withField relation.name (.array (children.map Record.toJson))

/-- The relations of some names; the first unknown name is an error. -/
def relations (schema : Schema) (names : List String) : Except StoreError (List Relation) :=
  names.mapM fun name =>
    match schema.relation? name with
    | some relation => .ok relation
    | none => .error (.unknownRelation name)

/-- The part of a list that a page shows. -/
def page {α : Type} (skip limit : Option Nat) (items : List α) : List α :=
  let rest := items.drop (skip.getD 0)
  match limit with
  | some limit => rest.take limit
  | none => rest

/-- The records that a filter selects, in its order and on its page, without relations. -/
def select (store : Store) (schema : Schema) (filter : CompiledFilter) : List Record :=
  let accepted := (store.rows schema.kind).filter fun record =>
    filter.predicate.accepts (record.row schema)
  page filter.skip filter.limit (sortRecords schema filter.order accepted)

/-- Finds the records that a filter selects, with the relations that it includes. -/
def findMany (store : Store) (schema : Schema) (filter : CompiledFilter) :
    Except StoreError (List Record) := do
  let relations ← relations schema filter.includes
  return (store.select schema filter).map fun record =>
    relations.foldl (fun record relation => store.load relation record) record

/-- Creates a record; one without an id gets the next id of the generator. -/
def create (store : Store) (schema : Schema) (record : Record) :
    Except StoreError Record × Store :=
  let n := store.generated + 1
  let (record, store) :=
    if record.id.isEmpty then
      ({ record with id := store.newId n }, { store with generated := n })
    else (record, store)
  let record := record.initial schema
  let rows := store.rows schema.kind
  match Rows.find? rows record.id with
  | some _ => (.error (.duplicate schema.kind record.id), store)
  | none => (.ok record, (store.setRows schema.kind (rows ++ [record])).countWrite)

/-- Updates the record with the id of the proposed one. With an expected revision, only if that is
the stored one. -/
def update (store : Store) (schema : Schema) (proposed : Record) (expected : Option Int) :
    Except StoreError Record × Store :=
  let rows := store.rows schema.kind
  match Rows.find? rows proposed.id with
  | none => (.error (.notFound schema.kind proposed.id), store)
  | some stored =>
    if expected.all fun revision => stored.revision == revision then
      let merged := stored.merge proposed schema
      (.ok merged, (store.setRows schema.kind (Rows.replace rows merged)).countWrite)
    else (.error (.revisionMismatch stored), store)

/-- Deletes a record by id. -/
def delete (store : Store) (schema : Schema) (id : String) : Except StoreError Unit × Store :=
  let rows := store.rows schema.kind
  match Rows.find? rows id with
  | none => (.error (.notFound schema.kind id), store)
  | some _ => (.ok (), (store.setRows schema.kind (Rows.remove rows id)).countWrite)

end Store

/-! ## Calls -/

/-- A call of a store. -/
inductive StoreCall where
  | findMany (schema : Schema) (filter : CompiledFilter)
  | findOne (schema : Schema) (id : String)
  | create (schema : Schema) (record : Record)
  | update (schema : Schema) (record : Record) (expected : Option Int)
  | delete (schema : Schema) (id : String)
deriving DecidableEq, Repr

namespace StoreCall

/-- What a call results in when it succeeds. -/
def Result : StoreCall → Type
  | findMany _ _ => List Record
  | findOne _ _ | create _ _ | update _ _ _ => Record
  | delete _ _ => Unit

/-- What a call is answered with. -/
abbrev Reply (call : StoreCall) : Type := Except StoreError call.Result

end StoreCall

/-- Answers a call. -/
def Store.answer (store : Store) : (call : StoreCall) → call.Reply × Store
  | .findMany schema filter =>
    (store.findMany schema filter,
      { store with
        stats := { store.stats with findManyCalls := store.stats.findManyCalls + 1 } })
  | .findOne schema id =>
    (store.findOne schema id,
      { store with stats := { store.stats with findOneCalls := store.stats.findOneCalls + 1 } })
  | .create schema record => store.create schema record
  | .update schema record expected => store.update schema record expected
  | .delete schema id => store.delete schema id

end RecordAccess
