import Mathlib.Data.Set.Subsingleton
import RecordAccess.Proofs.Representation
import RecordAccess.Proofs.Sorting

/-!
# The order of rows

Which sort keys order the rows of a kind. The comparison of two rows the other way round always has
the reverse result. But it is transitive only as long as every column has values of one class: in a
column that mixes two classes, values that do not compare count as equal, a text compares with a number
as the number that it spells, and a floating point number equals several integers, so that there are
values `u`, `v` and `w` of which `u` is not after `v` and `v` not after `w`, while `u` is after `w`.
The main statement is that the rows are preordered by all sort keys exactly if no column mixes classes
(`Record.preordered_iff`).
-/

namespace RecordAccess

/-! ## Reversed comparisons -/

theorem Number.compare_swap (a b : Number) : b.compare a = (a.compare b).swap := by
  cases a with
  | real x =>
    rw [compare_real_left, compare_real_right]
    exact Std.OrientedOrd.eq_swap
  | integer m =>
    cases b with
    | real y =>
      rw [compare_real_left, compare_real_right]
      exact Std.OrientedOrd.eq_swap
    | integer n =>
      rw [compare_integer, compare_integer]
      exact Std.OrientedOrd.eq_swap

theorem Json.compare?_swap (a b : Json) : b.compare? a = (a.compare? b).map Ordering.swap := by
  cases a <;> cases b
  case number.number a b => exact congrArg some (a.compare_swap b)
  case number.string a text =>
    simp only [compare?, Option.map_map]
    exact congrArg (Option.map · _) (funext fun b => a.compare_swap b)
  case string.number text b =>
    simp only [compare?, Option.map_map]
    exact congrArg (Option.map · _) (funext fun a => a.compare_swap b)
  case string.string a b =>
    simp only [compare?, compareTexts_eq, Option.map_some]
    exact congrArg some Std.OrientedOrd.eq_swap
  case bool.bool a b => cases a <;> cases b <;> rfl
  all_goals rfl

theorem compareCells_swap (a b : Option Json) : compareCells b a = (compareCells a b).swap := by
  cases a with
  | none => cases b <;> rfl
  | some a =>
    cases b with
    | none => rfl
    | some b =>
      rw [compareCells, compareCells, a.compare?_swap b]
      cases a.compare? b <;> rfl

theorem Direction.apply_swap (direction : Direction) (ordering : Ordering) :
    direction.apply ordering.swap = (direction.apply ordering).swap := by
  cases direction <;> rfl

/-- Two rows compare the other way round with the reverse result. -/
theorem compareRows_swap (order : List SortKey) (a b : Row) :
    compareRows order b a = (compareRows order a b).swap := by
  induction order with
  | nil => rfl
  | cons key rest ih =>
    rw [compareRows, compareRows, Ordering.swap_then, ← ih, ← Direction.apply_swap,
      ← compareCells_swap]

/-! ## Classes of values -/

/-- The classes of values that are not null. Arrays and objects, which compare with nothing, are in
one. -/
inductive ValueClass where
  | integer
  | real
  | text
  | flag
  | composite
deriving DecidableEq, Repr

/-- The class of a value; null has none. -/
def Json.class? : Json → Option ValueClass
  | .null => none
  | .number (.integer _) => some .integer
  | .number (.real _) => some .real
  | .string _ => some .text
  | .bool _ => some .flag
  | .array _ | .object _ => some .composite

/-- The floating point number that a value is, in its least units. -/
def Json.units? : Json → Option Int
  | .number (.real x) => some x.signedUnits
  | _ => none

/-- What is to be told of an array or an object when it is compared: nothing. -/
def Json.composite? : Json → Option Bool
  | .array _ | .object _ => some false
  | _ => none

theorem compare?_of_units? {v w : Json} {x y : Int} (left : v.units? = some x)
    (right : w.units? = some y) : v.compare? w = some (compare x y) := by
  unfold Json.units? at left right
  split at left <;> cases left
  split at right <;> cases right
  rfl

theorem compare?_of_composite? {v w : Json} {x y : Bool} (left : v.composite? = some x)
    (right : w.composite? = some y) : (v.compare? w).getD .eq = compare x y := by
  unfold Json.composite? at left right
  split at left <;> cases left <;> split at right <;> cases right <;> rfl

/-- A value can be read as what its class says. -/
theorem Json.isSome_of_class? {value : Json} {kind : ValueClass} (same : value.class? = some kind) :
    (match kind with
      | .integer => value.integer?.isSome
      | .real => value.units?.isSome
      | .text => value.text?.isSome
      | .flag => value.flag?.isSome
      | .composite => value.composite?.isSome) = true := by
  fun_cases Json.class? value <;> cases same <;> rfl

section Records

variable {schema : Schema} {records : List Record}

/-- The cells of a column preorder the records if all values in it are of one class. -/
theorem transCmp_of_class {column : String} {kind : ValueClass}
    (all : ∀ value ∈ columnValues schema records column, value.class? = some kind) :
    Std.TransCmp fun a b : { record // record ∈ records } =>
      compareCells (Row.value? (a.val.row schema) column) (Row.value? (b.val.row schema) column) := by
  have found := fun value member => Json.isSome_of_class? (all value member)
  cases kind with
  | integer => exact transCmp_compareCells (.inl found)
  | text => exact transCmp_compareCells (.inr (.inl found))
  | flag => exact transCmp_compareCells (.inr (.inr found))
  | real =>
    exact transCmp_of_isSome (fun _ _ _ _ left right =>
      congrArg (·.getD .eq) (compare?_of_units? left right)) found
  | composite =>
    exact transCmp_of_isSome (fun _ _ _ _ left right => compare?_of_composite? left right) found

end Records

/-! ## Columns that mix classes -/

namespace ValueClass

/-- A value of each class. -/
def low : ValueClass → Json
  | integer => .integer 9007199254740992
  | real => .number (.real ⟨false, Nat.pow 2 52, 1075, by decide, .inr (by decide), by decide⟩)
  | text => .string "a"
  | flag => .bool false
  | composite => .array []

/-- A value after the other one, where the class has one. -/
def high : ValueClass → Json
  | integer => .integer 9007199254740993
  | real => .number (.real ⟨false, Nat.pow 2 52, 1076, by decide, .inr (by decide), by decide⟩)
  | text => .string "b"
  | flag => .bool true
  | composite => .array []

theorem class?_low (kind : ValueClass) : kind.low.class? = some kind := by
  cases kind <;> rfl

theorem class?_high (kind : ValueClass) : kind.high.class? = some kind := by
  cases kind <;> rfl

/-- Of two classes, a value of the later one counts as equal to two values of the earlier one, of which
one is after the other: among others `2 ^ 53` as a floating point number, which `2 ^ 53` and
`2 ^ 53 + 1` are rounded to. -/
theorem compareCells_of_lt {one two : ValueClass} (before : one.ctorIdx < two.ctorIdx) :
    compareCells (some one.high) (some two.low) = .eq ∧
      compareCells (some two.low) (some one.low) = .eq ∧
      compareCells (some one.high) (some one.low) = .gt := by
  cases one <;> cases two <;> first | exact absurd before (by decide) | decide +kernel

/-- Any two classes have values between them that are not in order. -/
theorem exists_cycle {one two : ValueClass} (different : one ≠ two) : ∃ u v w : Json,
    (∀ value ∈ [u, v, w], value.class? = some one ∨ value.class? = some two) ∧
      compareCells (some u) (some v) = .eq ∧ compareCells (some v) (some w) = .eq ∧
      compareCells (some u) (some w) = .gt := by
  have apart : one.ctorIdx < two.ctorIdx ∨ two.ctorIdx < one.ctorIdx := by
    revert different
    cases one <;> cases two <;> decide
  rcases apart with before | before
  · refine ⟨one.high, two.low, one.low, ?_, compareCells_of_lt before⟩
    simp [class?_low, class?_high]
  · refine ⟨two.high, one.low, two.low, ?_, compareCells_of_lt before⟩
    simp [class?_low, class?_high]

end ValueClass

/-! ## Rows that a store can hold -/

namespace Record

variable {schema : Schema} {classes : String → Set ValueClass} {record : Record} {column : String}
  {value : Json}

/-- What a row shows in a column: the revision of a kind that has revisions, the id, or a field. -/
theorem find?_row (schema : Schema) (record : Record) (column : String) :
    Keyed.find? (record.row schema) column =
      if schema.revisioned = true ∧ column = Schema.revisionColumn then
        some (.integer record.revision)
      else if column = schema.idColumn then some (.string record.id)
      else record.get? column := by
  have shown : Keyed.find? (record.fields.insert schema.idColumn (.string record.id)) column =
      if column = schema.idColumn then some (.string record.id) else record.get? column := by
    split
    · next same => rw [same, Keyed.find?_insert_self]
    · next other => exact Keyed.find?_insert_of_ne _ _ (Ne.symm other)
  unfold row
  by_cases revisioned : schema.revisioned = true
  · simp only [revisioned, if_true, true_and]
    split
    · next same => rw [same, Keyed.find?_insert_self]
    · next other => rw [Keyed.find?_insert_of_ne _ _ (Ne.symm other), shown]
  · simp only [revisioned, Bool.false_eq_true, if_false, false_and]
    exact shown

/-- A record that can be stored, with values of certain classes in each data column. -/
structure IsTyped (schema : Schema) (classes : String → Set ValueClass) (record : Record) : Prop where
  canonical : record.IsCanonical schema
  typed : ∀ field ∈ record.fields, ∀ kind ∈ field.2.class?, kind ∈ classes field.1

/-- If no data column mixes classes, no column of the rows does. -/
theorem exists_class_of_row
    (single : ∀ column ∈ schema.columns, column ≠ schema.idColumn → column ≠ Schema.revisionColumn →
      (classes column).Subsingleton) (column : String) :
    ∃ kind, ∀ record : Record, record.IsTyped schema classes →
      ∀ value ∈ Row.value? (record.row schema) column, value.class? = some kind := by
  by_cases revision : schema.revisioned = true ∧ column = Schema.revisionColumn
  · refine ⟨.integer, fun record _ value shown => ?_⟩
    obtain ⟨found, -⟩ := Option.filter_eq_some_iff.1 shown
    rw [find?_row, if_pos revision] at found
    cases found
    rfl
  · by_cases id : column = schema.idColumn
    · refine ⟨.text, fun record _ value shown => ?_⟩
      obtain ⟨found, -⟩ := Option.filter_eq_some_iff.1 shown
      rw [find?_row, if_neg revision, if_pos id] at found
      cases found
      rfl
    · -- What is left is a field, of a class that is admitted in its column.
      have admitted : ∀ record : Record, record.IsTyped schema classes →
          ∀ value ∈ Row.value? (record.row schema) column,
            column ∈ schema.columns ∧ column ≠ Schema.revisionColumn ∧
              ∃ kind ∈ classes column, value.class? = some kind := by
        intro record typed value shown
        obtain ⟨found, notNull⟩ := Option.filter_eq_some_iff.1 shown
        rw [find?_row, if_neg revision, if_neg id] at found
        have member := Keyed.mem_of_find? found
        obtain ⟨declared, -, notRevision⟩ := typed.canonical.declared _ member
        have valued : ∃ kind, value.class? = some kind := by
          fun_cases Json.class? value <;> first | exact ⟨_, rfl⟩ | cases notNull
        obtain ⟨kind, same⟩ := valued
        exact ⟨declared, notRevision, kind, typed.typed _ member kind same, same⟩
      rcases (classes column).eq_empty_or_nonempty with none | ⟨kind, there⟩
      · refine ⟨.text, fun record typed value shown => ?_⟩
        obtain ⟨-, -, kind, among, -⟩ := admitted record typed value shown
        rw [none] at among
        cases among
      · refine ⟨kind, fun record typed value shown => ?_⟩
        obtain ⟨declared, notRevision, other, among, same⟩ := admitted record typed value shown
        rw [single column declared id notRevision there among]
        exact same

/-- The record with one field. -/
def single (id column : String) (value : Json) : Record := ⟨id, none, 0, [(column, value)]⟩

/-- A record with one value in a data column can be stored, and its row shows the value. -/
theorem isTyped_single {id : String} (named : id ≠ "") (declared : column ∈ schema.columns)
    (notId : column ≠ schema.idColumn) (notRevision : column ≠ Schema.revisionColumn)
    {kind : ValueClass} (same : value.class? = some kind) (admitted : kind ∈ classes column) :
    (single id column value).IsTyped schema classes ∧
      Row.value? ((single id column value).row schema) column = some value := by
  refine ⟨⟨⟨named, List.nodup_singleton _, fun field member => ?_⟩, fun field member => ?_⟩, ?_⟩
  · cases List.mem_singleton.1 member
    exact ⟨declared, notId, notRevision⟩
  · cases List.mem_singleton.1 member
    rintro other (found : value.class? = some other)
    cases same.symm.trans found
    exact admitted
  · have notNull : (!value.isNull) = true := by
      cases value <;> first | rfl | cases same
    have shown : Keyed.find? ((single id column value).row schema) column = some value := by
      rw [find?_row, if_neg fun revision => notRevision revision.2, if_neg notId]
      exact if_pos rfl
    rw [Row.value?, shown, Option.filter_some, if_pos notNull]

/-- Any two rows compare the other way round with the reverse result. And where it is said which classes
of values may stand in each data column, the rows that a store can hold are preordered by all sort keys
if and only if no data column admits more than one class. -/
theorem preordered_iff (schema : Schema) (classes : String → Set ValueClass) :
    (∀ order a b, compareRows order b a = (compareRows order a b).swap) ∧
      ((∀ order, ∀ a b c : Record, a.IsTyped schema classes → b.IsTyped schema classes →
          c.IsTyped schema classes → compareRows order (a.row schema) (b.row schema) ≠ .gt →
          compareRows order (b.row schema) (c.row schema) ≠ .gt →
          compareRows order (a.row schema) (c.row schema) ≠ .gt) ↔
        ∀ column ∈ schema.columns, column ≠ schema.idColumn → column ≠ Schema.revisionColumn →
          (classes column).Subsingleton) := by
  refine ⟨compareRows_swap, fun transitive => ?_, fun single order a b c first second third => ?_⟩
  · intro column declared notId notRevision one there two also
    by_contra different
    obtain ⟨u, v, w, mixed, equal, equal', after⟩ := ValueClass.exists_cycle different
    have typed : ∀ id ≠ "", ∀ value ∈ [u, v, w],
        (single id column value).IsTyped schema classes ∧
          Row.value? ((single id column value).row schema) column = some value := by
      intro id named value member
      rcases mixed value member with same | same
      · exact isTyped_single named declared notId notRevision same there
      · exact isTyped_single named declared notId notRevision same also
    obtain ⟨first, shown⟩ := typed "1" (by decide) u (by simp)
    obtain ⟨second, shown'⟩ := typed "2" (by decide) v (by simp)
    obtain ⟨third, shown''⟩ := typed "3" (by decide) w (by simp)
    have turned := transitive [⟨column, .ascending⟩] _ _ _ first second third
    simp only [compareRows, shown, shown', shown'', Direction.apply, equal, equal', after,
      Ordering.then] at turned
    exact turned nofun nofun rfl
  · have typed : ∀ record ∈ [a, b, c], record.IsTyped schema classes := by
      simp [first, second, third]
    have preorder : Std.TransCmp fun one two : { record // record ∈ [a, b, c] } =>
        compareRows order (one.val.row schema) (two.val.row schema) := by
      refine transCmp_compareRows_of_cells fun key _ => ?_
      obtain ⟨kind, all⟩ := exists_class_of_row single key.column
      refine @transCmp_of_class schema [a, b, c] key.column kind fun value member => ?_
      obtain ⟨record, among, shown⟩ := List.mem_filterMap.1 member
      exact all record (typed record among) value shown
    intro below below'
    exact Ordering.isLE_iff_ne_gt.1 <| preorder.isLE_trans (a := ⟨a, by simp⟩) (b := ⟨b, by simp⟩)
      (c := ⟨c, by simp⟩) (Ordering.isLE_iff_ne_gt.2 below) (Ordering.isLE_iff_ne_gt.2 below')

/-- Notes with the texts `10` and `9` and the number nine for titles. -/
def mixedTitles : List Record :=
  [single "1" "title" (.string "10"), single "2" "title" (.string "9"),
    single "3" "title" (.integer 9)]

/-- Once these notes are stored, by the title the first is not after the second, and the second not
after the third, but the first is after the third. -/
theorem not_preordered_mixedTitles : ∃ a b c,
    ((Store.empty Store.uuid).after (mixedTitles.map (.create .note))).rows "note" = [a, b, c] ∧
      compareRows [⟨"title", .ascending⟩] (a.row .note) (b.row .note) ≠ .gt ∧
      compareRows [⟨"title", .ascending⟩] (b.row .note) (c.row .note) ≠ .gt ∧
      compareRows [⟨"title", .ascending⟩] (a.row .note) (c.row .note) = .gt :=
  ⟨_, _, _, rfl, by decide +kernel⟩

end Record

end RecordAccess
