import RecordAccess.Proofs.Selection
import RecordAccess.Proofs.UntrustedCache

/-!
# Page after page

A client that asks for one page after another, as long as there are matching records, is shown what it
would be shown at once (`Service.query_pages`). It does not matter that a page is cut out before the
records are dropped that the client may not read: such a page is shorter, or empty, but the next one
starts where it would start anyway. The pages need not be asked for in one go, as long as the stored
records stay as they are; and a query leaves them so.
-/

namespace RecordAccess

/-! ## Bounds -/

namespace FilterExpression

/-- The expression that asks for one page of the results, all pages being of one size. -/
def onPage (expression : FilterExpression) (size place : Nat) : FilterExpression :=
  { expression with limit := size, skip := (place * size : Nat) }

theorem positive?_of_nonpos {bound : Int} (nonpos : bound ≤ 0) : positive? bound = none :=
  if_neg (Int.not_lt.2 nonpos)

theorem getD_positive? (n : Nat) : (positive? n).getD 0 = n := by
  unfold positive?
  split
  · rfl
  · show 0 = n
    omega

/-- The expression for a page compiles whenever the whole one does, to the same filter but for the
bounds. -/
theorem compile_onPage (expression : FilterExpression) (columns : List String) (size place : Nat) :
    (expression.onPage size place).compile columns =
      (expression.compile columns).map fun filter =>
        { filter with limit := positive? size, skip := positive? (place * size : Nat) } := by
  unfold compile onPage
  cases expression.items.mapM (FilterItem.compileClause columns) with
  | error error => rfl
  | ok clauses =>
    cases OrderTerm.compileAll columns [] expression.order with
    | error error => rfl
    | ok order => rfl

theorem bounds_of_compile {expression : FilterExpression} {columns : List String}
    {filter : CompiledFilter} (compiled : expression.compile columns = .ok filter) :
    filter.limit = positive? expression.limit ∧ filter.skip = positive? expression.skip := by
  obtain ⟨clauses, -, compiled⟩ := exists_of_bind_eq_ok compiled
  obtain ⟨order, -, compiled⟩ := exists_of_bind_eq_ok compiled
  cases compiled
  exact ⟨rfl, rfl⟩

end FilterExpression

/-! ## Pages of a list -/

namespace Store

variable {α : Type} {size : Nat}

/-- A page without skip is cut out like one that skips nothing. -/
theorem page_positive? (positive : 0 < size) (skipped : Nat) (items : List α) :
    page (FilterExpression.positive? skipped) (FilterExpression.positive? size) items =
      (items.drop skipped).take size := by
  have limited : FilterExpression.positive? size = some size :=
    FilterExpression.positive?_eq_some.2 ⟨positive, rfl⟩
  rw [page_eq, FilterExpression.getD_positive?, limited, Option.getD_some]

/-- The first pages of a list make up its beginning. -/
theorem flatMap_pages (size : Nat) (items : List α) (pages : Nat) :
    ((List.range pages).flatMap fun place => (items.drop (place * size)).take size) =
      items.take (pages * size) := by
  induction pages with
  | zero => simp
  | succ pages ih =>
    rw [List.range_succ, List.flatMap_append, ih, List.flatMap_singleton, ← List.take_add,
      Nat.succ_mul]

end Store

/-! ## What stays stored -/

namespace Backend

variable {α β : Type} {clock : Nat → Nat}

/-- A program leaves the stored records as they are. -/
def KeepsTables (clock : Nat → Nat) (program : Program α) : Prop :=
  ∀ backend : Backend,
    (program.run (answer clock) backend).2.store.tables = backend.store.tables

theorem keepsTables_done (result : α) : KeepsTables clock (.done result) :=
  fun _ => rfl

theorem KeepsTables.bind {program : Program α} {f : α → Program β}
    (first : KeepsTables clock program) (second : ∀ result, KeepsTables clock (f result)) :
    KeepsTables clock (program.bind f) := by
  intro backend
  rw [Program.run_bind]
  exact (second _ _).trans (first backend)

theorem keepsTables_decided {outcome : Except ServiceError α} {f : α → Service.Work β}
    (allowed : ∀ value, KeepsTables clock (f value).run) :
    KeepsTables clock (ExceptT.run (Service.decided outcome >>= f)) := by
  cases outcome with
  | ok value => exact allowed value
  | error error => exact keepsTables_done _

theorem keepsTables_of_onlyLooks {program : Program α} (looks : program.OnlyLooks) :
    KeepsTables clock program := by
  induction looks with
  | done => exact keepsTables_done _
  | look _ ih => exact fun backend => ih _ _
  | cache _ ih => exact fun backend => ih _ _

theorem keepsTables_storing {program : Program (Except StoreError α)} {f : α → Service.Work β}
    (first : KeepsTables clock program) (succeeded : ∀ value, KeepsTables clock (f value).run) :
    KeepsTables clock (ExceptT.run (Service.storing program >>= f)) := by
  rw [Service.storing_bind]
  refine first.bind fun reply => ?_
  cases reply with
  | ok value => exact succeeded value
  | error error => exact keepsTables_done _

theorem keepsTables_caching {program : Program Unit} {value : β}
    (keeps : KeepsTables clock program) :
    KeepsTables clock (ExceptT.run (Service.caching program >>= fun _ => pure value)) := by
  rw [Service.caching_pure]
  exact keeps.bind fun _ => keepsTables_done _

/-- A query leaves the stored records as they are, also one that fails. -/
theorem keepsTables_query (service : Service) (clock : Nat → Nat) (caller : Option Principal)
    (kind : String) (expression : FilterExpression) :
    KeepsTables clock (service.query caller kind expression).run := by
  refine keepsTables_decided fun schema => keepsTables_decided fun filter => ?_
  refine keepsTables_storing (fun _ => rfl) fun records => keepsTables_caching ?_
  exact keepsTables_of_onlyLooks (CacheAside.follows_onFetched filter records).onlyLooks

end Backend

/-! ## Pages of an answer -/

namespace Store

variable {store other : Store} {schema : Schema} {filter : CompiledFilter}

theorem findMany_congr (same : store.tables = other.tables) :
    store.findMany schema filter = other.findMany schema filter := by
  obtain ⟨tables, stats, generated, newId⟩ := store
  obtain ⟨otherTables, otherStats, otherGenerated⟩ := other
  obtain rfl : tables = otherTables := same
  rfl

/-- A record with relations loaded into it may be read by whom it may be read without them. -/
theorem isReadable_loadAll (store : Store) (relations : List Relation) (schema : Schema)
    (caller : Option Principal) (record : Record) :
    Service.isReadable schema caller (store.loadAll relations record) =
      Service.isReadable schema caller record := by
  rw [Bool.eq_iff_iff, Schema.isReadable_eq_true, Schema.isReadable_eq_true,
    Schema.permits_congr (loadAll_own store relations record).1]

end Store

namespace Service

variable {service : Service} {caller : Option Principal} {kind : String}
  {expression : FilterExpression} {clock : Nat → Nat} {store other : Store} {backend : Backend}
  {schema : Schema} {filter : CompiledFilter} {relations : List Relation} {size : Nat}

theorem queryAnswer_congr (same : store.tables = other.tables) :
    service.queryAnswer store caller kind expression =
      service.queryAnswer other caller kind expression := by
  simp only [queryAnswer, Store.findMany_congr same]

/-- What a query shows of some selected records. -/
def visible (store : Store) (schema : Schema) (relations : List Relation) (caller : Option Principal)
    (selected : List Record) : List Record :=
  (selected.filter (isReadable schema caller)).map (store.loadAll relations)

/-- What is shown of the pages of some records, one after another, is what is shown of the records. -/
theorem flatMap_visible {pages : Nat} {records : List Record}
    (covered : records.length ≤ pages * size) :
    ((List.range pages).flatMap fun place =>
        visible store schema relations caller ((records.drop (place * size)).take size)) =
      visible store schema relations caller records := by
  conv_rhs => rw [← List.take_of_length_le covered, ← Store.flatMap_pages]
  rw [visible, List.filter_flatMap, List.map_flatMap]
  rfl

section Answers

variable (granted : service.registry.authorize kind .query = .ok schema)
  (compiled : expression.compile schema.columns = .ok filter)
  (resolved : Store.relations schema filter.includes = .ok relations)
include granted compiled resolved

theorem queryAnswer_eq_ok : service.queryAnswer store caller kind expression =
    .ok (visible store schema relations caller (store.select schema filter)) := by
  have readable : isReadable schema caller ∘ store.loadAll relations = isReadable schema caller :=
    funext (store.isReadable_loadAll relations schema caller)
  have found : (store.findMany schema filter).mapError ServiceError.ofStore =
      .ok ((store.select schema filter).map (store.loadAll relations)) := by
    rw [Store.findMany_eq_ok resolved]
    rfl
  rw [queryAnswer, granted, visible, ← readable, ← List.filter_map]
  show Except.bind ((expression.compile schema.columns).mapError ServiceError.query) _ = _
  rw [compiled]
  show Except.bind ((store.findMany schema filter).mapError ServiceError.ofStore) _ = _
  rw [found]
  rfl

/-- Without bounds, all matching records are sorted and shown. -/
theorem queryAnswer_unbounded (unlimited : expression.limit ≤ 0) (unskipped : expression.skip ≤ 0) :
    service.queryAnswer store caller kind expression = .ok (visible store schema relations caller
      (sortRecords schema filter.order (store.matching schema filter))) := by
  obtain ⟨limited, skipped⟩ := FilterExpression.bounds_of_compile compiled
  rw [queryAnswer_eq_ok granted compiled resolved, Store.select, limited, skipped,
    FilterExpression.positive?_of_nonpos unlimited, FilterExpression.positive?_of_nonpos unskipped]
  rfl

/-- A page is cut out of the same sorted records, whatever the bounds of the expression were. -/
theorem queryAnswer_onPage (positive : 0 < size) (place : Nat) :
    service.queryAnswer store caller kind (expression.onPage size place) =
      .ok (visible store schema relations caller
        (((sortRecords schema filter.order (store.matching schema filter)).drop
          (place * size)).take size)) := by
  have paged : (expression.onPage size place).compile schema.columns = .ok { filter with
      limit := FilterExpression.positive? size
      skip := FilterExpression.positive? (place * size : Nat) } := by
    rw [FilterExpression.compile_onPage, compiled]
    rfl
  rw [queryAnswer_eq_ok granted paged resolved, Store.select, Store.page_positive? positive]
  rfl

end Answers

/-- If a query without bounds is answered, so is the query for each page of a size, with something that
is the same as long as the stored records are, and the stored records stay as they are. The pages that
start before the end of the matching records, one after another, show what the query without bounds
shows: every matching record that the caller may read, once. -/
theorem query_pages (unlimited : expression.limit ≤ 0) (unskipped : expression.skip ≤ 0)
    {all : List Record} (answered : ((service.query caller kind expression).run.run
      (Backend.answer clock) backend).1 = .ok all) (positive : 0 < size) :
    ∃ schema filter relations, ∃ sorted : List Record, ∃ shown : Nat → List Record,
      service.registry.authorize kind .query = .ok schema ∧
      expression.compile schema.columns = .ok filter ∧
      Store.relations schema filter.includes = .ok relations ∧
      sorted.Perm (backend.store.matching schema filter) ∧
      List.Forall₂ (Record.IsLoaded backend.store relations)
        (sorted.filter (isReadable schema caller)) all ∧
      (∀ place clock later, later.store.tables = backend.store.tables →
        let after := (service.query caller kind (expression.onPage size place)).run.run
          (Backend.answer clock) later
        after.1 = .ok (shown place) ∧ after.2.store.tables = backend.store.tables) ∧
      ∀ pages, (backend.store.matching schema filter).length ≤ pages * size →
        (List.range pages).flatMap shown = all := by
  rw [run_query] at answered
  obtain ⟨schema, filter, relations, granted, compiled, resolved, -⟩ :=
    exists_of_queryAnswer answered
  rw [queryAnswer_unbounded granted compiled resolved unlimited unskipped] at answered
  obtain rfl := Except.ok.inj answered
  have perm : (sortRecords schema filter.order (backend.store.matching schema filter)).Perm
      (backend.store.matching schema filter) := List.mergeSort_perm _ _
  refine ⟨schema, filter, relations, _, _, granted, compiled, resolved, perm, ?_, ?_,
    fun pages covered => flatMap_visible (perm.length_eq.trans_le covered)⟩
  · exact Store.forall₂_isLoaded resolved _
  · intro place clock later same
    refine ⟨?_, (Backend.keepsTables_query service clock caller kind _ later).trans same⟩
    rw [run_query, queryAnswer_congr same,
      queryAnswer_onPage granted compiled resolved positive place]

/-- A note that anyone may read. -/
def openNote (id : String) : Record := ⟨id, none, 1, []⟩

/-- A note that only admins may read. -/
def adminNote (id : String) : Record := ⟨id, some (.restrictedTo ["admin"]), 1, []⟩

/-- Five notes, the third and the fourth of which are for admins. -/
def fiveNotes : Backend :=
  ⟨⟨[("note", [openNote "1", openNote "2", adminNote "3", adminNote "4", openNote "5"])],
    ⟨0, 0, 0⟩, 0, Store.uuid⟩, .empty 300, 0⟩

/-- Anyone who asks for two notes at a time is shown two, then none, then one. -/
theorem query_pages_fiveNotes :
    ((notes.query none "note" .empty).run.run (Backend.answer id) fiveNotes).1 =
      .ok [openNote "1", openNote "2", openNote "5"] ∧
    ∃ shown : Nat → List Record,
      (∀ place clock later, later.store.tables = fiveNotes.store.tables →
        ((notes.query none "note" (FilterExpression.empty.onPage 2 place)).run.run
          (Backend.answer clock) later).1 = .ok (shown place)) ∧
      (List.range 3).flatMap shown = [openNote "1", openNote "2", openNote "5"] ∧
      shown 1 = [] := by
  have compiled : FilterExpression.empty.compile Schema.note.columns =
      .ok ⟨⟨[]⟩, [], none, none, []⟩ := rfl
  have answered : ((notes.query none "note" .empty).run.run (Backend.answer id) fiveNotes).1 =
      .ok [openNote "1", openNote "2", openNote "5"] := by
    rw [run_query, queryAnswer_unbounded rfl compiled rfl (by decide) (by decide), sortRecords_nil]
    rfl
  have second : ((notes.query none "note" (FilterExpression.empty.onPage 2 1)).run.run
      (Backend.answer id) fiveNotes).1 = .ok [] := by
    rw [run_query, queryAnswer_onPage rfl compiled rfl (by decide), sortRecords_nil]
    rfl
  obtain ⟨schema, filter, relations, sorted, shown, granted, compiled, -, -, -, each, together⟩ :=
    query_pages (by decide) (by decide) answered (Nat.succ_pos 1)
  cases granted
  cases compiled
  refine ⟨answered, shown, fun place clock later same => (each place clock later same).1,
    together 3 (by decide), ?_⟩
  exact Except.ok.inj ((each 1 id fiveNotes rfl).1.symm.trans second)

end Service

end RecordAccess
