import RecordAccess.Store.Basic
import Mathlib.Data.List.Sort
import Mathlib.Data.String.Basic

/-!
# Sorting

A stable sort by a total preorder may be done before or after some of the items are dropped
(`filter_mergeSort`). The order of rows by sort keys is such a preorder on records that have, in each
column that is sorted by, values that compare with one another: all integers, all texts or all truth
values (`transCmp_compareRows`). Empty cells are equal to each other and come before the rest. Records
whose columns mix these are not in scope: `1` counts as equal to `"1"` and to `"b"`, which differ.
-/

namespace RecordAccess

/-! ## Dropping items -/

section Stable

variable {α : Type} {le : α → α → Bool} {p : α → Bool}

/-- A list splits in one way into items that do not satisfy a condition and then items that do. -/
theorem eq_of_append_eq {first last before after : List α} (same : first ++ last = before ++ after)
    (first_not : ∀ item ∈ first, p item = false) (last_holds : ∀ item ∈ last, p item = true)
    (before_not : ∀ item ∈ before, p item = false) (after_holds : ∀ item ∈ after, p item = true) :
    first = before ∧ last = after := by
  have front : ∀ front back : List α, (∀ item ∈ front, p item = false) →
      (∀ item ∈ back, p item = true) → (front ++ back).filter (fun item => !p item) = front := by
    intro front back not holds
    rw [List.filter_append, List.filter_eq_self.2 fun item member => by rw [not item member]; rfl,
      List.filter_eq_nil_iff.2 fun item member => by rw [holds item member]; exact Bool.false_ne_true,
      List.append_nil]
  have fronts : first = before := by
    rw [← front first last first_not last_holds, same, front before after before_not after_holds]
  exact ⟨fronts, List.append_cancel_left (fronts ▸ same)⟩

/-- In a sorted list, what comes after an item is not before it. -/
theorem le_of_mergeSort_eq (trans : ∀ a b c, le a b = true → le b c = true → le a c = true)
    (total : ∀ a b, (le a b || le b a) = true) {items before after : List α} {item : α}
    (sorted : items.mergeSort le = before ++ item :: after) : ∀ other ∈ after, le item other = true := by
  have pairwise := List.pairwise_mergeSort trans total items
  rw [sorted, List.pairwise_append] at pairwise
  exact (List.pairwise_cons.1 pairwise.2.1).1

/-- A stable sort may be done before or after some of the items are dropped. -/
theorem filter_mergeSort (trans : ∀ a b c, le a b = true → le b c = true → le a c = true)
    (total : ∀ a b, (le a b || le b a) = true) (items : List α) :
    (items.mergeSort le).filter p = (items.filter p).mergeSort le := by
  induction items with
  | nil => simp only [List.filter_nil, List.mergeSort_nil]
  | cons item rest ih =>
    -- where the item goes among the others, with and without those that are dropped
    obtain ⟨before, after, sorted, others, above⟩ := List.mergeSort_cons trans total item rest
    have below := le_of_mergeSort_eq trans total sorted
    by_cases kept : p item = true
    · obtain ⟨front, back, short, fewer, above_front⟩ :=
        List.mergeSort_cons trans total item (rest.filter p)
      have below_back := le_of_mergeSort_eq trans total short
      have same : front ++ back = before.filter p ++ after.filter p := by
        rw [← fewer, ← ih, others, List.filter_append]
      obtain ⟨rfl, rfl⟩ := eq_of_append_eq same
        (fun other member => Bool.not_eq_true' _ ▸ above_front other member) below_back
        (fun other member => Bool.not_eq_true' _ ▸ above other (List.mem_of_mem_filter member))
        (fun other member => below other (List.mem_of_mem_filter member))
      rw [sorted, List.filter_cons_of_pos kept, short, List.filter_append,
        List.filter_cons_of_pos kept]
    · rw [sorted, List.filter_cons_of_neg kept, ← ih, others, List.filter_append,
        List.filter_append, List.filter_cons_of_neg kept]

section Preorders

variable {cmp : α → α → Ordering}

theorem ne_gt_trans (preorder : Std.TransCmp cmp) (a b c : α) :
    (cmp a b != .gt) = true → (cmp b c != .gt) = true → (cmp a c != .gt) = true := by
  simp only [bne, ← Ordering.isLE_eq_not_beq_gt]
  exact preorder.isLE_trans

theorem ne_gt_total (preorder : Std.TransCmp cmp) (a b : α) :
    ((cmp a b != .gt) || (cmp b a != .gt)) = true := by
  have swapped := preorder.eq_swap (a := a) (b := b)
  rw [swapped]
  cases cmp b a <;> rfl

/-- Some of the items of a list are sorted among the items of that list. -/
theorem map_val_mergeSort {items : List α} (some : List { item // item ∈ items }) :
    (some.map Subtype.val).mergeSort le = (some.mergeSort fun a b => le a b).map Subtype.val :=
  (@List.map_mergeSort _ _ _ _ Subtype.val some fun _ _ _ _ => rfl).symm

/-- Items are sorted by an ordering that need be a preorder on those items only. -/
theorem filter_mergeSort_of_transCmp (items : List α)
    (preorder : Std.TransCmp fun a b : { item // item ∈ items } => cmp a b) :
    (items.mergeSort fun a b => cmp a b != .gt).filter p =
      (items.filter p).mergeSort fun a b => cmp a b != .gt := by
  conv => enter [1, 2]; rw [← List.attach_map_subtype_val items]
  conv => enter [2, 1, 2]; rw [← List.attach_map_subtype_val items]
  rw [map_val_mergeSort, List.filter_map, List.filter_map, map_val_mergeSort,
    filter_mergeSort (ne_gt_trans preorder) (ne_gt_total preorder)]

/-- Sorting ranks the items with their places in the list: an item stands before another one if it
comes before it by the ordering, or if they are equal by it and it stands before the other one in the
list. -/
theorem exists_ranked (items : List α)
    (preorder : Std.TransCmp fun a b : { item // item ∈ items } => cmp a b) :
    ∃ ranked : List (α × Nat), ranked.Perm items.zipIdx ∧
      ranked.map Prod.fst = items.mergeSort (fun a b => cmp a b != .gt) ∧
      ranked.Pairwise fun a b => cmp a.1 b.1 = .lt ∨ cmp a.1 b.1 = .eq ∧ a.2 < b.2 := by
  let below (a b : { item // item ∈ items }) : Bool := cmp a b != .gt
  let placed := items.attach.zipIdx.mergeSort (List.zipIdxLE below)
  have perm : placed.Perm items.attach.zipIdx := List.mergeSort_perm _ _
  refine ⟨placed.map (Prod.map Subtype.val id), ?_, ?_, ?_⟩
  · have places := perm.map (Prod.map Subtype.val id)
    rwa [List.map_zipIdx, List.attach_map_subtype_val] at places
  · have firsts : (placed.map (Prod.map Subtype.val id)).map Prod.fst =
        (placed.map Prod.fst).map Subtype.val := by
      rw [List.map_map, List.map_map]
      rfl
    conv => enter [2, 1]; rw [← List.attach_map_subtype_val items]
    rw [firsts, map_val_mergeSort]
    exact congrArg (List.map Subtype.val) List.mergeSort_zipIdx
  · have sorted : placed.Pairwise fun a b => List.zipIdxLE below a b = true :=
      List.pairwise_mergeSort (List.zipIdxLE_trans (ne_gt_trans preorder))
        (List.zipIdxLE_total (ne_gt_total preorder)) _
    have places : (placed.map Prod.snd).Nodup := by
      rw [(perm.map Prod.snd).nodup_iff, List.zipIdx_map_snd]
      exact List.nodup_range'
    rw [List.pairwise_map]
    refine (sorted.and (List.pairwise_map.1 places)).imp fun {a b} ⟨before, apart⟩ => ?_
    have swapped := preorder.eq_swap (a := a.1) (b := b.1)
    simp only [List.zipIdxLE, below, bne_iff_ne, ne_eq] at before
    dsimp only [Prod.map, id]
    cases forth : cmp a.1 b.1 with
    | lt => exact .inl rfl
    | gt => simp [forth] at before
    | eq =>
      -- Two places of the list are never the same.
      have back : cmp b.1 a.1 = .eq := by
        rw [forth] at swapped
        cases found : cmp b.1 a.1 <;> rw [found] at swapped <;> first | rfl | cases swapped
      simp only [forth, back, reduceCtorEq, not_false_eq_true, if_true, decide_eq_true_eq] at before
      exact .inr ⟨rfl, Nat.lt_of_le_of_ne before apart⟩

end Preorders

end Stable

/-! ## Sort keys -/

/-- The integer that a value is. -/
def Json.integer? : Json → Option Int
  | .number (.integer n) => some n
  | _ => none

/-- The text that a value is. -/
def Json.text? : Json → Option String
  | .string text => some text
  | _ => none

/-- The truth value that a value is. -/
def Json.flag? : Json → Option Bool
  | .bool flag => some flag
  | _ => none

/-- Some values are all integers, all texts or all truth values. -/
def IsUniform (values : List Json) : Prop :=
  (∀ value ∈ values, value.integer?.isSome = true) ∨
    (∀ value ∈ values, value.text?.isSome = true) ∨ ∀ value ∈ values, value.flag?.isSome = true

/-- The values in a column of some records, without empty cells. -/
def columnValues (schema : Schema) (records : List Record) (column : String) : List Json :=
  records.filterMap fun record => Row.value? (record.row schema) column

instance (values : List Json) : Decidable (IsUniform values) :=
  inferInstanceAs (Decidable (_ ∨ _ ∨ _))

/-- Some of uniform values are uniform. -/
theorem IsUniform.of_subset {values some : List Json} (uniform : IsUniform values)
    (among : ∀ value ∈ some, value ∈ values) : IsUniform some :=
  uniform.imp (fun integers value member => integers value (among value member)) <|
    Or.imp (fun texts value member => texts value (among value member))
      fun flags value member => flags value (among value member)

/-- What is uniform in some records is uniform in some of them. -/
theorem IsUniform.of_sublist {schema : Schema} {records some : List Record} {column : String}
    (uniform : IsUniform (columnValues schema records column)) (sublist : some.Sublist records) :
    IsUniform (columnValues schema some column) :=
  uniform.of_subset fun _ member => (sublist.filterMap _).subset member

/-- Cells of values that all are of one sort compare as what they are. -/
theorem compareCells_eq {β : Type} [Ord β] {sort : Json → Option β}
    (compares : ∀ v w x y, sort v = some x → sort w = some y →
      (v.compare? w).getD .eq = compare x y)
    {a b : Option Json} (first : ∀ v ∈ a, (sort v).isSome = true)
    (second : ∀ w ∈ b, (sort w).isSome = true) :
    compareCells a b = compare (a.bind sort) (b.bind sort) := by
  cases a with
  | none =>
    cases b with
    | none => rfl
    | some w =>
      obtain ⟨y, right⟩ := Option.isSome_iff_exists.1 (second w rfl)
      simp only [Option.bind_some, right]
      rfl
  | some v =>
    obtain ⟨x, left⟩ := Option.isSome_iff_exists.1 (first v rfl)
    cases b with
    | none =>
      simp only [Option.bind_some, left]
      rfl
    | some w =>
      obtain ⟨y, right⟩ := Option.isSome_iff_exists.1 (second w rfl)
      rw [compareCells, compares v w x y left right, Option.bind_some, Option.bind_some, left, right]
      rfl

theorem compareTexts_eq (a b : String) : compareTexts a b = compare a b := by
  change _ = compareOfLessAndEq a b
  rw [compareTexts, compareOfLessAndEq]
  rcases lt_trichotomy a b with less | rfl | greater
  · rw [if_pos less, if_pos less]
  · rw [if_neg (lt_irrefl _), if_neg (lt_irrefl _), if_neg (lt_irrefl _), if_pos rfl]
  · rw [if_neg greater.asymm, if_neg greater.asymm, if_pos greater, if_neg greater.ne']

theorem compare?_of_integer? {v w : Json} {x y : Int} (left : v.integer? = some x)
    (right : w.integer? = some y) : v.compare? w = some (compare x y) := by
  unfold Json.integer? at left right
  split at left <;> cases left
  split at right <;> cases right
  exact congrArg some (Number.compare_integer x y)

theorem compare?_of_text? {v w : Json} {x y : String} (left : v.text? = some x)
    (right : w.text? = some y) : v.compare? w = some (compare x y) := by
  unfold Json.text? at left right
  split at left <;> cases left
  split at right <;> cases right
  exact congrArg some (compareTexts_eq x y)

theorem compare?_of_flag? {v w : Json} {x y : Bool} (left : v.flag? = some x)
    (right : w.flag? = some y) : v.compare? w = some (compare x y) := by
  unfold Json.flag? at left right
  split at left <;> cases left
  split at right <;> cases right
  cases x <;> cases y <;> rfl

section Keys

variable {schema : Schema} {records : List Record}

/-- The order by the cells of a column in which all values are of one sort. -/
theorem transCmp_of_isSome {β : Type} [Ord β] [Std.TransOrd β] {sort : Json → Option β}
    (compares : ∀ v w x y, sort v = some x → sort w = some y →
      (v.compare? w).getD .eq = compare x y)
    {column : String} (all : ∀ value ∈ columnValues schema records column, (sort value).isSome = true) :
    Std.TransCmp fun a b : { record // record ∈ records } =>
      compareCells (Row.value? (a.val.row schema) column) (Row.value? (b.val.row schema) column) := by
  have found : ∀ a : { record // record ∈ records }, ∀ v ∈ Row.value? (a.val.row schema) column,
      (sort v).isSome = true :=
    fun a v there => all v (List.mem_filterMap.2 ⟨a.val, a.property, there⟩)
  have same : (fun a b : { record // record ∈ records } => compareCells
      (Row.value? (a.val.row schema) column) (Row.value? (b.val.row schema) column)) =
      compareOn fun a => (Row.value? (a.val.row schema) column).bind sort :=
    funext fun a => funext fun b => compareCells_eq compares (found a) (found b)
  rw [same]
  infer_instance

theorem transCmp_compareCells {column : String}
    (uniform : IsUniform (columnValues schema records column)) :
    Std.TransCmp fun a b : { record // record ∈ records } =>
      compareCells (Row.value? (a.val.row schema) column) (Row.value? (b.val.row schema) column) := by
  rcases uniform with integers | texts | flags
  · exact transCmp_of_isSome (fun _ _ _ _ left right =>
      congrArg (·.getD .eq) (compare?_of_integer? left right)) integers
  · exact transCmp_of_isSome (fun _ _ _ _ left right =>
      congrArg (·.getD .eq) (compare?_of_text? left right)) texts
  · exact transCmp_of_isSome (fun _ _ _ _ left right =>
      congrArg (·.getD .eq) (compare?_of_flag? left right)) flags

theorem transCmp_apply {α : Type} {cmp : α → α → Ordering} (direction : Direction)
    (preorder : Std.TransCmp cmp) : Std.TransCmp fun a b => direction.apply (cmp a b) := by
  cases direction with
  | ascending => exact preorder
  | descending =>
    have same : (fun a b => Direction.descending.apply (cmp a b)) = fun a b => cmp b a :=
      funext fun a => funext fun b => preorder.eq_swap.symm
    rw [same]
    exact Std.TransCmp.opposite

/-- Records are preordered by sort keys if they are by the cells of each column. -/
theorem transCmp_compareRows_of_cells {order : List SortKey}
    (cells : ∀ key ∈ order, Std.TransCmp fun a b : { record // record ∈ records } =>
      compareCells (Row.value? (a.val.row schema) key.column)
        (Row.value? (b.val.row schema) key.column)) :
    Std.TransCmp fun a b : { record // record ∈ records } =>
      compareRows order (a.val.row schema) (b.val.row schema) := by
  induction order with
  | nil => exact { eq_swap := rfl, isLE_trans := fun _ _ => rfl }
  | cons key rest ih =>
    obtain ⟨here, others⟩ := List.forall_mem_cons.1 cells
    have first := transCmp_apply key.direction here
    have second := ih others
    exact inferInstanceAs (Std.TransCmp (compareLex _ _))

/-- Records are preordered by sort keys whose columns have uniform values. -/
theorem transCmp_compareRows {order : List SortKey}
    (uniform : ∀ key ∈ order, IsUniform (columnValues schema records key.column)) :
    Std.TransCmp fun a b : { record // record ∈ records } =>
      compareRows order (a.val.row schema) (b.val.row schema) :=
  transCmp_compareRows_of_cells fun key member => transCmp_compareCells (uniform key member)

/-- Without sort keys records keep their order. -/
theorem sortRecords_nil (schema : Schema) (records : List Record) :
    sortRecords schema [] records = records :=
  List.mergeSort_of_pairwise (List.pairwise_of_forall fun _ _ => rfl)

/-- Records that are sorted by columns with uniform values may be sorted before or after some of them
are dropped. -/
theorem filter_sortRecords {order : List SortKey}
    (uniform : ∀ key ∈ order, IsUniform (columnValues schema records key.column))
    (p : Record → Bool) :
    (sortRecords schema order records).filter p = sortRecords schema order (records.filter p) :=
  filter_mergeSort_of_transCmp records (transCmp_compareRows uniform)

end Keys

end RecordAccess
