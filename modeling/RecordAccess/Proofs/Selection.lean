import RecordAccess.Proofs.Confidentiality
import RecordAccess.Proofs.RowOrder

/-!
# What a query finds

What a store finds by a filter, said without the way in which it is found. The matching rows stand one
behind another by the sort keys, and by the order in which they were stored where the keys make no
difference; of this list the page is cut out; and each record on it has, for each relation that is asked
for, a field with the records that belong to it. An unknown relation is an error, whatever is stored
(`Store.findMany_finds`).

Cells come before one another by what they hold, and not by a comparison: rows are sorted by columns
whose values are all integers, all texts or all truth values.
-/

namespace RecordAccess

/-! ## Cells and rows -/

/-- A cell comes before another one in ascending order: an empty one before one with a value, and a
value before a greater one of its sort. -/
def CellPrecedes : Option Json → Option Json → Prop
  | none, some _ => True
  | some (.number (.integer m)), some (.number (.integer n)) => m < n
  | some (.string s), some (.string t) => s < t
  | some (.bool p), some (.bool q) => p = false ∧ q = true
  | _, _ => False

/-- A row comes before another one by the cells of a column, in its direction. -/
def SortKey.Precedes (key : SortKey) (a b : Row) : Prop :=
  match key.direction with
  | .ascending => CellPrecedes (a.value? key.column) (b.value? key.column)
  | .descending => CellPrecedes (b.value? key.column) (a.value? key.column)

/-- A row comes before another one by the first sort key whose column tells them apart. -/
def Row.Precedes : List SortKey → Row → Row → Prop
  | [], _, _ => False
  | key :: rest, a, b =>
    key.Precedes a b ∨ a.value? key.column = b.value? key.column ∧ Row.Precedes rest a b

/-- Two rows have the same cells in all columns that are sorted by. -/
def Row.Ties (order : List SortKey) (a b : Row) : Prop :=
  ∀ key ∈ order, a.value? key.column = b.value? key.column

/-- Two cells do not hold values of different sorts. -/
def CellsAgree (a b : Option Json) : Prop :=
  ∀ v ∈ a, ∀ w ∈ b, IsUniform [v, w]

section Cells

theorem Json.eq_of_integer? {value : Json} (sort : value.integer?.isSome = true) :
    ∃ n, value = .number (.integer n) := by
  unfold integer? at sort
  split at sort
  · exact ⟨_, rfl⟩
  · cases sort

theorem Json.eq_of_text? {value : Json} (sort : value.text?.isSome = true) :
    ∃ text, value = .string text := by
  unfold text? at sort
  split at sort
  · exact ⟨_, rfl⟩
  · cases sort

theorem Json.eq_of_flag? {value : Json} (sort : value.flag?.isSome = true) :
    ∃ flag, value = .bool flag := by
  unfold flag? at sort
  split at sort
  · exact ⟨_, rfl⟩
  · cases sort

/-- Comparison puts a cell first that comes before the other one, and finds no two cells equal that are
not. -/
theorem compareCells_iff {a b : Option Json} (agree : CellsAgree a b) :
    (compareCells a b = .lt ↔ CellPrecedes a b) ∧ (compareCells a b = .eq ↔ a = b) := by
  cases a with
  | none => cases b <;> simp [compareCells, CellPrecedes]
  | some v =>
    cases b with
    | none => simp [compareCells, CellPrecedes]
    | some w =>
      have both : ∀ {p : Json → Prop}, (∀ value ∈ [v, w], p value) → p v ∧ p w := by
        simp
      rcases agree v rfl w rfl with integers | texts | flags
      · obtain ⟨first, second⟩ := both integers
        obtain ⟨m, rfl⟩ := Json.eq_of_integer? first
        obtain ⟨n, rfl⟩ := Json.eq_of_integer? second
        simp [compareCells, Json.compare?, Number.compare_integer, CellPrecedes, compare_lt_iff_lt]
      · obtain ⟨first, second⟩ := both texts
        obtain ⟨s, rfl⟩ := Json.eq_of_text? first
        obtain ⟨t, rfl⟩ := Json.eq_of_text? second
        simp [compareCells, Json.compare?, compareTexts_eq, CellPrecedes, compare_lt_iff_lt]
      · obtain ⟨first, second⟩ := both flags
        obtain ⟨p, rfl⟩ := Json.eq_of_flag? first
        obtain ⟨q, rfl⟩ := Json.eq_of_flag? second
        cases p <;> cases q <;> simp [compareCells, Json.compare?, compareFlags, CellPrecedes]

theorem CellPrecedes.asymm {a b : Option Json} (before : CellPrecedes a b) : ¬CellPrecedes b a := by
  unfold CellPrecedes at before
  split at before
  · simp [CellPrecedes]
  · exact Int.lt_asymm before
  · exact String.lt_asymm before
  · rintro ⟨rfl, -⟩
    exact Bool.noConfusion before.2
  · exact before.elim

theorem CellsAgree.symm {a b : Option Json} (agree : CellsAgree a b) : CellsAgree b a := by
  intro w there v also
  exact (agree v also w there).of_subset fun _ member => (List.Perm.swap v w []).mem_iff.1 member

theorem cellsAgree_of_isUniform {schema : Schema} {records : List Record} {column : String}
    (uniform : IsUniform (columnValues schema records column)) {a b : Record} (first : a ∈ records)
    (second : b ∈ records) :
    CellsAgree (Row.value? (a.row schema) column) (Row.value? (b.row schema) column) := by
  intro v shown w also
  refine uniform.of_subset fun value pair => ?_
  rcases List.mem_pair.1 pair with rfl | rfl
  · exact List.mem_filterMap.2 ⟨a, first, shown⟩
  · exact List.mem_filterMap.2 ⟨b, second, also⟩

end Cells

section Rows

variable {order : List SortKey} {a b : Row}

theorem SortKey.compareCells_iff (key : SortKey)
    (agree : CellsAgree (a.value? key.column) (b.value? key.column)) :
    (key.direction.apply (compareCells (a.value? key.column) (b.value? key.column)) = .lt ↔
        key.Precedes a b) ∧
      (key.direction.apply (compareCells (a.value? key.column) (b.value? key.column)) = .eq ↔
        a.value? key.column = b.value? key.column) := by
  unfold Precedes
  cases key.direction with
  | ascending => exact RecordAccess.compareCells_iff agree
  | descending =>
    obtain ⟨before, same⟩ := RecordAccess.compareCells_iff agree.symm
    rw [Direction.apply, ← compareCells_swap]
    exact ⟨before, same.trans eq_comm⟩

/-- Rows whose cells agree are compared as they stand by the sort keys. -/
theorem compareRows_iff
    (agree : ∀ key ∈ order, CellsAgree (a.value? key.column) (b.value? key.column)) :
    (compareRows order a b = .lt ↔ Row.Precedes order a b) ∧
      (compareRows order a b = .eq ↔ Row.Ties order a b) := by
  induction order with
  | nil => exact ⟨by simp [compareRows, Row.Precedes], by simp [compareRows, Row.Ties]⟩
  | cons key rest ih =>
    obtain ⟨here, others⟩ := List.forall_mem_cons.1 agree
    obtain ⟨before, same⟩ := key.compareCells_iff here
    obtain ⟨later, tied⟩ := ih others
    constructor
    · rw [compareRows, Ordering.then_eq_lt, before, same, later, Row.Precedes]
    · rw [compareRows, Ordering.then_eq_eq, same, tied]
      exact (List.forall_mem_cons
        (p := fun key : SortKey => a.value? key.column = b.value? key.column)).symm

theorem SortKey.Precedes.asymm {key : SortKey} (before : key.Precedes a b) : ¬key.Precedes b a := by
  unfold SortKey.Precedes at before ⊢
  cases direction : key.direction <;> rw [direction] at before <;> exact before.asymm

/-- A row that comes before another one by the cells of a column has another cell there. -/
theorem SortKey.Precedes.ne {key : SortKey} (before : key.Precedes a b) :
    a.value? key.column ≠ b.value? key.column := by
  intro same
  have after : key.Precedes b a := by
    unfold SortKey.Precedes at before ⊢
    rwa [same] at before ⊢
  exact before.asymm after

/-- Of two rows only one comes before the other, and neither does where the sort keys make no
difference. -/
theorem Row.Precedes.asymm (before : Row.Precedes order a b) :
    ¬Row.Precedes order b a ∧ ¬Row.Ties order a b := by
  induction order with
  | nil => exact before.elim
  | cons key rest ih =>
    rcases before with here | ⟨same, later⟩
    · refine ⟨?_, fun ties => here.ne (ties key (List.mem_cons_self ..))⟩
      rintro (there | ⟨same, -⟩)
      · exact here.asymm there
      · exact here.ne same.symm
    · obtain ⟨not_before, not_tied⟩ := ih later
      refine ⟨?_, fun ties => not_tied fun other member => ties other (List.mem_cons_of_mem _ member)⟩
      rintro (there | ⟨-, also⟩)
      · exact there.ne same.symm
      · exact not_before also

end Rows

/-! ## Records with relations -/

/-- A record is a stored one with relations loaded into it. Under the name of each relation it has the
written forms of the records that belong to it, and under every other name what is stored. -/
structure Record.IsLoaded (store : Store) (relations : List Relation) (stored record : Record) :
    Prop where
  id : record.id = stored.id
  permission : record.permission = stored.permission
  revision : record.revision = stored.revision
  fields : record.fields = stored.fields.insertAll (relations.map fun relation =>
    (relation.name, .array ((store.related relation stored).map Record.toJson)))
  related : ∀ relation ∈ relations, record.get? relation.name =
    some (.array ((store.related relation stored).map Record.toJson))
  kept : ∀ name, (∀ relation ∈ relations, relation.name ≠ name) →
    record.get? name = stored.get? name

namespace Store

variable {store : Store} {schema : Schema} {relations : List Relation} {filter : CompiledFilter}

theorem loadAll_kept (record : Record) {name : String}
    (other : ∀ relation ∈ relations, relation.name ≠ name) :
    (store.loadAll relations record).get? name = record.get? name := by
  induction relations using List.reverseRecOn with
  | nil => rfl
  | append_singleton relations last ih =>
    rw [loadAll_snoc, Record.get?, load, Record.withField,
      Keyed.find?_insert_of_ne _ _ (other last (by simp))]
    exact ih fun relation member => other relation (List.mem_append_left _ member)

theorem loadAll_own (store : Store) (relations : List Relation) (record : Record) :
    (store.loadAll relations record).permission = record.permission ∧
      (store.loadAll relations record).revision = record.revision := by
  induction relations using List.reverseRecOn with
  | nil => exact ⟨rfl, rfl⟩
  | append_singleton relations last ih =>
    rw [loadAll_snoc]
    exact ih

theorem fields_loadAll (store : Store) (relations : List Relation) (record : Record) :
    (store.loadAll relations record).fields = record.fields.insertAll (relations.map fun relation =>
      (relation.name, .array ((store.related relation record).map Record.toJson))) := by
  induction relations using List.reverseRecOn with
  | nil => rfl
  | append_singleton relations last ih =>
    have later : (store.load last (store.loadAll relations record)).fields =
        (store.loadAll relations record).fields.insert last.name
          (.array ((store.related last record).map Record.toJson)) := by
      rw [← related_congr (id_loadAll store relations record)]
      rfl
    rw [loadAll_snoc, later, ih, List.map_append]
    simp [Keyed.insertAll]

theorem isLoaded_loadAll {names : List String}
    (resolved : Store.relations schema names = .ok relations) (record : Record) :
    record.IsLoaded store relations (store.loadAll relations record) where
  id := id_loadAll store relations record
  permission := (loadAll_own store relations record).1
  revision := (loadAll_own store relations record).2
  fields := fields_loadAll store relations record
  related _ member :=
    get?_loadAll (fun _ first _ second => eq_of_name_eq resolved first second) member
  kept _ other := loadAll_kept record other

theorem forall₂_isLoaded {names : List String}
    (resolved : Store.relations schema names = .ok relations) (records : List Record) :
    List.Forall₂ (Record.IsLoaded store relations) records
      (records.map (store.loadAll relations)) := by
  rw [List.forall₂_map_right_iff, List.forall₂_same]
  exact fun record _ => isLoaded_loadAll resolved record

/-- Records keep their ids when relations are loaded into them. -/
theorem map_id_of_isLoaded {stored records : List Record}
    (loaded : List.Forall₂ (Record.IsLoaded store relations) stored records) :
    records.map Record.id = stored.map Record.id := by
  induction loaded with
  | nil => rfl
  | cons first _ ih => rw [List.map_cons, List.map_cons, first.id, ih]

/-! ## Relations that are asked for -/

theorem relations_cons (schema : Schema) (name : String) (rest : List String) :
    Store.relations schema (name :: rest) =
      match schema.relation? name with
      | some relation => (Store.relations schema rest).map (relation :: ·)
      | none => .error (.unknownRelation name) := by
  rw [Store.relations, List.mapM_cons]
  cases schema.relation? name with
  | none => rfl
  | some relation => rfl

/-- Names that are all known are resolved one by one. -/
theorem relations_eq_ok {names : List String}
    (known : names.map schema.relation? = relations.map some) :
    Store.relations schema names = .ok relations := by
  induction names generalizing relations with
  | nil =>
    cases relations with
    | nil => rfl
    | cons => cases known
  | cons name rest ih =>
    cases relations with
    | nil => cases known
    | cons relation others =>
      obtain ⟨first, later⟩ := List.cons.inj known
      rw [relations_cons, first, ih later]
      rfl

/-- The first name that is unknown is the one that is reported. -/
theorem relations_eq_error {earlier later : List String} {name : String}
    (known : ∀ other ∈ earlier, (schema.relation? other).isSome = true)
    (unknown : schema.relation? name = none) :
    Store.relations schema (earlier ++ name :: later) = .error (.unknownRelation name) := by
  induction earlier with
  | nil => rw [List.nil_append, relations_cons, unknown]
  | cons first rest ih =>
    obtain ⟨here, others⟩ := List.forall_mem_cons.1 known
    obtain ⟨relation, found⟩ := Option.isSome_iff_exists.1 here
    rw [List.cons_append, relations_cons, found, ih others]
    rfl

/-! ## What is found -/

theorem findMany_eq_ok (resolved : Store.relations schema filter.includes = .ok relations) :
    store.findMany schema filter =
      .ok ((store.select schema filter).map (store.loadAll relations)) := by
  rw [findMany, resolved]
  rfl

/-- The stored records of a kind that satisfy the predicate of a filter, in the order in which they were
stored. -/
def matching (store : Store) (schema : Schema) (filter : CompiledFilter) : List Record :=
  (store.rows schema.kind).filter fun record => filter.predicate.accepts (record.row schema)

/-- Records with their places in a list stand one behind another by sort keys, and by their places where
the keys make no difference. -/
def IsRanked (schema : Schema) (order : List SortKey) (ranked : List (Record × Nat)) : Prop :=
  ranked.Pairwise fun a b => Row.Precedes order (a.1.row schema) (b.1.row schema) ∨
    Row.Ties order (a.1.row schema) (b.1.row schema) ∧ a.2 < b.2

theorem page_eq {α : Type} (skip limit : Option Nat) (items : List α) :
    page skip limit items = (items.drop (skip.getD 0)).take (limit.getD items.length) := by
  cases limit with
  | none =>
    have fits : (items.drop (skip.getD 0)).length ≤ items.length := by simp
    exact (List.take_of_length_le fits).symm
  | some limit => rfl

/-- Records whose sort columns have uniform values are ranked when they stand one behind another by the
comparison of rows. -/
theorem isRanked_of_pairwise {order : List SortKey} {records : List Record}
    {ranked : List (Record × Nat)} (uniform : ∀ key ∈ order,
      IsUniform (columnValues schema records key.column)) (perm : ranked.Perm records.zipIdx)
    (pairwise : ranked.Pairwise fun a b =>
      compareRows order (a.1.row schema) (b.1.row schema) = .lt ∨
        compareRows order (a.1.row schema) (b.1.row schema) = .eq ∧ a.2 < b.2) :
    IsRanked schema order ranked := by
  have among : ∀ placed ∈ ranked, placed.1 ∈ records := fun placed member =>
    List.fst_mem_of_mem_zipIdx (perm.mem_iff.1 member)
  refine pairwise.imp_of_mem fun {a b} first second before => ?_
  obtain ⟨precedes, ties⟩ := compareRows_iff fun key member =>
    cellsAgree_of_isUniform (uniform key member) (among a first) (among b second)
  exact before.imp precedes.1 (And.imp_left ties.1)

/-- The records that match are ranked when they are sorted by columns with uniform values. -/
theorem exists_isRanked {order : List SortKey} {records : List Record}
    (uniform : ∀ key ∈ order, IsUniform (columnValues schema records key.column)) :
    ∃ ranked : List (Record × Nat), ranked.Perm records.zipIdx ∧ IsRanked schema order ranked ∧
      ranked.map Prod.fst = sortRecords schema order records := by
  obtain ⟨ranked, perm, sorted, pairwise⟩ := @exists_ranked _
    (fun a b => compareRows order (a.row schema) (b.row schema)) records
    (transCmp_compareRows uniform)
  exact ⟨ranked, perm, isRanked_of_pairwise uniform perm pairwise, sorted⟩

/-- There is one way to rank some records. -/
theorem IsRanked.unique {order : List SortKey} {ranked other : List (Record × Nat)}
    (inOrder : IsRanked schema order ranked) (also : IsRanked schema order other)
    (perm : ranked.Perm other) : ranked = other := by
  refine List.Perm.eq_of_pairwise ?_ inOrder also perm
  rintro a b - - (before | ⟨ties, below⟩) (after | ⟨others, above⟩)
  · exact absurd after before.asymm.1
  · exact absurd (fun key member => (others key member).symm) before.asymm.2
  · exact absurd (fun key member => (ties key member).symm) after.asymm.2
  · exact absurd below (Nat.lt_asymm above)

/-- If some relation that is asked for is unknown, the first of them is reported, whatever is stored.
Else, where each column that is sorted by has values of one sort in the matching records, the answer is
the page of these records, each of them once and ranked by the sort keys, with the relations loaded. -/
theorem findMany_finds (store : Store) (schema : Schema) (filter : CompiledFilter) :
    (∀ earlier name later, filter.includes = earlier ++ name :: later →
        (∀ other ∈ earlier, (schema.relation? other).isSome = true) →
        schema.relation? name = none →
        store.findMany schema filter = .error (.unknownRelation name)) ∧
      ∀ relations, filter.includes.map schema.relation? = relations.map some →
        (∀ key ∈ filter.order,
          IsUniform (columnValues schema (store.matching schema filter) key.column)) →
        ∃ ranked records, ranked.Perm (store.matching schema filter).zipIdx ∧
          IsRanked schema filter.order ranked ∧
          store.findMany schema filter = .ok records ∧
          List.Forall₂ (Record.IsLoaded store relations)
            (((ranked.map Prod.fst).drop (filter.skip.getD 0)).take
              (filter.limit.getD ranked.length)) records := by
  constructor
  · intro earlier name later asked known unknown
    rw [findMany, asked, relations_eq_error known unknown]
    rfl
  · intro relations known uniform
    have resolved := relations_eq_ok known
    obtain ⟨ranked, perm, inOrder, sorted⟩ := exists_isRanked uniform
    have same : ranked.length = (ranked.map Prod.fst).length := (List.length_map _).symm
    have selected : store.select schema filter =
        ((ranked.map Prod.fst).drop (filter.skip.getD 0)).take (filter.limit.getD ranked.length) := by
      rw [same, ← page_eq, sorted]
      rfl
    exact ⟨ranked, _, perm, inOrder, findMany_eq_ok resolved, selected ▸ forall₂_isLoaded resolved _⟩

/-- People with a name and an age, and the articles that they wrote. -/
def people : Schema := ((Schema.ofKind "users").addColumns ["name", "age"]).withRelation
  Service.authorship

/-- Four people, one of them of unknown age, and three articles. -/
def library : Store :=
  ⟨[("users", [⟨"u1", none, 0, [("name", .string "ann"), ("age", .integer 30)]⟩,
      ⟨"u2", none, 0, [("name", .string "bob"), ("age", .integer 40)]⟩,
      ⟨"u3", none, 0, [("name", .string "cyd"), ("age", .null)]⟩,
      ⟨"u4", none, 0, [("name", .string "dan"), ("age", .integer 40)]⟩]),
    ("articles", [⟨"a1", none, 0, [("author_id", .string "u4")]⟩,
      ⟨"a2", none, 0, [("author_id", .string "u1")]⟩,
      ⟨"a3", none, 0, [("author_id", .string "u4")]⟩])], ⟨0, 0, 0⟩, 0, Store.uuid⟩

/-- Asks for the second page of one of the people by their age, the oldest first, with their
articles. -/
def secondOldest : CompiledFilter := ⟨⟨[]⟩, [⟨"age", .descending⟩], some 1, some 1, ["Articles"]⟩

/-- Of the two oldest people the one who was stored later is found, with two articles. With books, which
people do not have, nothing is found. -/
theorem findMany_secondOldest :
    secondOldest.includes.map people.relation? = [Service.authorship].map some ∧
    (∀ key ∈ secondOldest.order,
      IsUniform (columnValues people (library.matching people secondOldest) key.column)) ∧
    ∃ ranked records, ranked.Perm (library.matching people secondOldest).zipIdx ∧
      IsRanked people secondOldest.order ranked ∧
      library.findMany people secondOldest = .ok records ∧
      List.Forall₂ (Record.IsLoaded library [Service.authorship])
        (((ranked.map Prod.fst).drop 1).take 1) records ∧
      records.map (fun record => record.id) = ["u4"] ∧
      library.findMany people { secondOldest with includes := ["Articles", "books", "notes"] } =
        .error (.unknownRelation "books") := by
  have uniform : ∀ key ∈ secondOldest.order,
      IsUniform (columnValues people (library.matching people secondOldest) key.column) := by
    decide
  obtain ⟨ranked, records, perm, inOrder, found, loaded⟩ :=
    (library.findMany_finds people secondOldest).2 [Service.authorship] rfl uniform
  refine ⟨rfl, uniform, ranked, records, perm, inOrder, found, loaded, ?_,
    (library.findMany_finds people _).1 ["Articles"] "books" ["notes"] rfl (by decide) (by decide)⟩
  -- The places of the people from the oldest on, the one of unknown age at the end.
  let oldest := [1, 3, 0, 2].filterMap fun place =>
    (library.matching people secondOldest).zipIdx[place]?
  have oldest_perm : oldest.Perm (library.matching people secondOldest).zipIdx := by decide
  have same : ranked = oldest := inOrder.unique
    (isRanked_of_pairwise uniform oldest_perm (by decide)) (perm.trans oldest_perm.symm)
  rw [same] at loaded
  exact map_id_of_isLoaded loaded

end Store

end RecordAccess
