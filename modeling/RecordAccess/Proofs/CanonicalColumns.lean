import RecordAccess.Proofs.Effects
import RecordAccess.Proofs.Representation

/-!
# Canonical columns

A name stands for a declared column, and a declared column for itself. Of several columns that differ in
case alone, a name that is none of them stands for the first; so what a name stands for depends on the
order in which the columns were declared, but whether it stands for one at all does not.

What is retained of some fields is said by `Schema.Retains` without saying how it is found: which columns
there are, in which order and with which values. There is one table that is so, and it is retained of
itself (`Schema.retainColumns_canonical`).
-/

namespace RecordAccess

/-! ## Names -/

section Names

variable {columns : List String} {name column : String}

theorem Text.equalIgnoringCase_self (text : String) : Text.equalIgnoringCase text text = true :=
  beq_self_eq_true _

/-- A declared column stands for itself, also beside others that differ from it in case alone. -/
theorem resolveColumn?_of_mem (declared : column ∈ columns) :
    resolveColumn? columns column = some column := by
  have found : (columns.find? fun other => other = column).isSome = true :=
    List.find?_isSome.2 ⟨column, declared, decide_eq_true rfl⟩
  obtain ⟨other, found⟩ := Option.isSome_iff_exists.1 found
  obtain rfl : other = column := by simpa using List.find?_some found
  rw [resolveColumn?, found]
  rfl

/-- A name differs from the column that it stands for in case alone, if at all. -/
theorem equalIgnoringCase_of_resolveColumn? (found : resolveColumn? columns name = some column) :
    Text.equalIgnoringCase column name = true := by
  simp only [resolveColumn?, Option.orElse_eq_orElse, Option.orElse_eq_or] at found
  rcases Option.or_eq_some_iff.1 found with same | ⟨-, similar⟩
  · obtain rfl : column = name := by simpa using List.find?_some same
    exact Text.equalIgnoringCase_self column
  · have alike := List.find?_some similar
    exact alike

theorem resolveColumn?_eq_none_iff :
    resolveColumn? columns name = none ↔
      ∀ column ∈ columns, Text.equalIgnoringCase column name = false := by
  simp only [resolveColumn?, Option.orElse_eq_orElse, Option.orElse_eq_or, Option.or_eq_none_iff,
    List.find?_eq_none, decide_eq_true_eq, Bool.not_eq_true]
  refine ⟨And.right, fun different => ⟨fun column declared same => ?_, different⟩⟩
  have apart := different column declared
  rw [same, Text.equalIgnoringCase_self] at apart
  cases apart

end Names

/-! ## Fields -/

namespace Schema

variable {schema : Schema} {fields kept other : Keyed Json} {column name : String}

/-- The place of the first of some fields whose name stands for a column. -/
def firstNamed (schema : Schema) (fields : Keyed Json) (column : String) : Nat :=
  fields.findIdx fun field => schema.resolve? field.1 = some column

/-- What is kept of some fields: each data column that a field names, once, at the place of the first
field that names it and with the value of the last. -/
structure Retains (schema : Schema) (fields kept : Keyed Json) : Prop where
  columns : ∀ column, column ∈ kept.keys ↔ column ≠ schema.idColumn ∧ column ≠ revisionColumn ∧
    ∃ field ∈ fields, schema.resolve? field.1 = some column
  nodup : kept.keys.Nodup
  ordered : kept.keys.Pairwise fun one other =>
    schema.firstNamed fields one < schema.firstNamed fields other
  last : ∀ column value, (column, value) ∈ kept → schema.lastNamed? fields column = some value

theorem isData_iff :
    schema.isData column = true ↔ column ≠ schema.idColumn ∧ column ≠ revisionColumn := by
  simp [isData]

theorem exists_lastNamed?_iff :
    (∃ value, schema.lastNamed? fields column = some value) ↔
      ∃ field ∈ fields, schema.resolve? field.1 = some column := by
  rw [lastNamed?, ← Option.isSome_iff_exists, Option.isSome_map, List.find?_isSome]
  simp only [List.mem_reverse, decide_eq_true_eq]

/-! ### Places -/

/-- A further field does not change which field is the first that names a column. -/
theorem firstNamed_append (named : ∃ field ∈ fields, schema.resolve? field.1 = some column)
    (more : Keyed Json) :
    schema.firstNamed (fields ++ more) column = schema.firstNamed fields column := by
  obtain ⟨field, member, found⟩ := named
  rw [firstNamed, List.findIdx_append, if_pos]
  · rfl
  · exact List.findIdx_lt_length_of_exists ⟨field, member, decide_eq_true found⟩

theorem firstNamed_lt (named : ∃ field ∈ fields, schema.resolve? field.1 = some column) :
    schema.firstNamed fields column < fields.length := by
  obtain ⟨field, member, found⟩ := named
  exact List.findIdx_lt_length_of_exists ⟨field, member, decide_eq_true found⟩

theorem length_le_firstNamed (unnamed : ¬∃ field ∈ fields, schema.resolve? field.1 = some column)
    (more : Keyed Json) : fields.length ≤ schema.firstNamed (fields ++ more) column := by
  have none : ¬fields.findIdx (fun field => schema.resolve? field.1 = some column) < fields.length := by
    rw [List.findIdx_lt_length]
    simpa using unnamed
  rw [firstNamed, List.findIdx_append, if_neg none]
  exact Nat.le_add_left ..

/-! ### What is retained -/

theorem retainColumns_append_singleton (fields : Keyed Json) (field : String × Json) :
    schema.retainColumns (fields ++ [field]) =
      match schema.dataColumn? field.1 with
      | some column => (schema.retainColumns fields).insert column field.2
      | none => schema.retainColumns fields := by
  rw [retainColumns, List.filterMap_append, Keyed.ofList, Keyed.insertAll, List.foldl_append]
  cases found : schema.dataColumn? field.1 <;> simp [found] <;> rfl

theorem mem_keys_retainColumns :
    column ∈ (schema.retainColumns fields).keys ↔ column ≠ schema.idColumn ∧ column ≠ revisionColumn ∧
      ∃ field ∈ fields, schema.resolve? field.1 = some column := by
  rw [Keyed.mem_keys_iff, ← and_assoc, ← isData_iff]
  cases data : schema.isData column with
  | false => simp [find?_retainColumns_of_not_isData data]
  | true => simp [find?_retainColumns data, exists_lastNamed?_iff]

/-- What is retained stands in the order of the fields that name it first. -/
theorem pairwise_firstNamed (fields : Keyed Json) :
    (schema.retainColumns fields).keys.Pairwise fun one other =>
      schema.firstNamed fields one < schema.firstNamed fields other := by
  induction fields using List.reverseRecOn with
  | nil => exact .nil
  | append_singleton fields field ih =>
    have before : (schema.retainColumns fields).keys.Pairwise fun one other =>
        schema.firstNamed (fields ++ [field]) one < schema.firstNamed (fields ++ [field]) other := by
      refine ih.imp_of_mem fun here there earlier => ?_
      rwa [firstNamed_append (mem_keys_retainColumns.1 here).2.2,
        firstNamed_append (mem_keys_retainColumns.1 there).2.2]
    rw [retainColumns_append_singleton]
    cases found : schema.dataColumn? field.1 with
    | none => exact before
    | some column =>
      by_cases present : column ∈ (schema.retainColumns fields).keys
      · simpa only [Keyed.keys_insert_of_mem present] using before
      · -- The column comes last, and no field but this one names it.
        have unnamed : ¬∃ field ∈ fields, schema.resolve? field.1 = some column := by
          obtain ⟨-, notId, notRevision⟩ := declared_of_dataColumn? found
          exact fun named => present (mem_keys_retainColumns.2 ⟨notId, notRevision, named⟩)
        simp only [Keyed.insert_of_not_mem present, Keyed.keys_append]
        refine List.pairwise_append.2 ⟨before, List.pairwise_singleton _ _, fun one here last there => ?_⟩
        cases List.mem_singleton.1 there
        have named := (mem_keys_retainColumns.1 here).2.2
        calc schema.firstNamed (fields ++ [field]) one = schema.firstNamed fields one :=
              firstNamed_append named _
          _ < fields.length := firstNamed_lt named
          _ ≤ schema.firstNamed (fields ++ [field]) column := length_le_firstNamed unnamed _

theorem retains_retainColumns (fields : Keyed Json) :
    schema.Retains fields (schema.retainColumns fields) where
  columns _ := mem_keys_retainColumns
  nodup := Keyed.nodup_ofList _
  ordered := pairwise_firstNamed fields
  last column value member := by
    obtain ⟨_, notId, notRevision⟩ := Record.declared_of_mem_retainColumns member
    rw [← find?_retainColumns (isData_iff.2 ⟨notId, notRevision⟩)]
    exact Keyed.find?_eq_some_of_mem (Keyed.nodup_ofList _) member

/-- Two tables with the same columns in the same order and with the values of the same fields are one. -/
theorem Retains.unique (retains : schema.Retains fields kept) (also : schema.Retains fields other) :
    kept = other := by
  have sameKeys : kept.keys = other.keys := by
    refine List.Perm.eq_of_pairwise ?_ retains.ordered also.ordered ?_
    · exact fun _ _ _ _ earlier later => absurd earlier (Nat.lt_asymm later)
    · exact (List.perm_ext_iff_of_nodup retains.nodup also.nodup).2 fun column =>
        (retains.columns column).trans (also.columns column).symm
  have shown : ∀ {table : Keyed Json}, schema.Retains fields table → table =
      table.keys.map fun column => (column, (schema.lastNamed? fields column).getD .null) := by
    intro table retains
    rw [Keyed.keys, List.map_map]
    refine (List.map_id table).symm.trans (List.map_congr_left fun entry member => ?_)
    rw [Function.comp_apply, retains.last entry.1 entry.2 member]
    rfl
  rw [shown retains, shown also, sameKeys]

/-- A data column that is declared is retained under its own name. -/
theorem dataColumn?_self (declared : column ∈ schema.columns) (notId : column ≠ schema.idColumn)
    (notRevision : column ≠ revisionColumn) : schema.dataColumn? column = some column :=
  dataColumn?_eq_some_iff.2 ⟨resolveColumn?_of_mem declared, isData_iff.2 ⟨notId, notRevision⟩⟩

theorem retainColumns_retainColumns (fields : Keyed Json) :
    schema.retainColumns (schema.retainColumns fields) = schema.retainColumns fields := by
  have kept : (schema.retainColumns fields).filterMap (fun field =>
      (schema.dataColumn? field.1).map fun column => (column, field.2)) =
        schema.retainColumns fields := by
    refine (List.filterMap_congr fun field member => ?_).trans List.filterMap_some
    obtain ⟨declared, notId, notRevision⟩ := Record.declared_of_mem_retainColumns member
    rw [dataColumn?_self declared notId notRevision]
    rfl
  rw [retainColumns, kept]
  exact Keyed.ofList_of_nodup (Keyed.nodup_ofList _)

/-- A name stands for a declared column that differs from it in case alone, as long as there is one; and a
declared column stands for itself. Of some fields just that table is retained that has each data column
which a field names, once, at the place of the first field that names it and with the value of the last;
and all of it is retained again, as it is. -/
theorem retainColumns_canonical (schema : Schema) :
    (∀ name column, schema.resolve? name = some column →
        column ∈ schema.columns ∧ Text.equalIgnoringCase column name = true) ∧
      (∀ column ∈ schema.columns, schema.resolve? column = some column) ∧
      (∀ name, schema.resolve? name = none ↔
        ∀ column ∈ schema.columns, Text.equalIgnoringCase column name = false) ∧
      ∀ fields kept : Keyed Json,
        (schema.retainColumns fields = kept ↔ schema.Retains fields kept) ∧
          schema.retainColumns (schema.retainColumns fields) = schema.retainColumns fields := by
  refine ⟨fun name column found => ?_, fun column => resolveColumn?_of_mem,
    fun name => resolveColumn?_eq_none_iff, fun fields kept => ⟨?_, retainColumns_retainColumns fields⟩⟩
  · exact ⟨mem_columns_of_resolve? found, equalIgnoringCase_of_resolveColumn? found⟩
  · constructor
    · rintro rfl
      exact retains_retainColumns fields
    · exact fun retains => (retains_retainColumns fields).unique retains

/-- Notes with two columns that differ in case alone. -/
def twins : Schema :=
  ((ofKind "note").addColumns ["title", "Title", "rank"]).withRevisions

/-- Fields that name a column in several ways, or no data column. -/
def respelled : Keyed Json :=
  [("TITLE", .string "a"), ("Rank", .integer 1), ("Title", .string "b"), ("ID", .string "x"),
    ("other", .null), ("title", .string "c"), ("Revision", .integer 4), ("RANK", .integer 2)]

/-- The column that has another one's name in capitals goes by its own name only; all else of that name is
the other's. -/
theorem retainColumns_respelled :
    twins.resolve? "TITLE" = some "title" ∧ twins.resolve? "Title" = some "Title" ∧
      twins.Retains respelled
        [("title", .string "c"), ("rank", .integer 2), ("Title", .string "b")] :=
  ⟨by decide, (retainColumns_canonical twins).2.1 "Title" (by decide),
    ((retainColumns_canonical twins).2.2.2 respelled _).1.1 (by decide)⟩

end Schema

end RecordAccess
