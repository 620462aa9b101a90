import RecordAccess.Proofs.SqlReading

/-!
# Injection safety

Nothing of the values that a filter compares with comes into the text of its condition
(`FilterExpression.text_free_of_values`). The columns in the text are declared ones, whatever they were
called in the expression, and the values stand beside the text in the order of the expression. Two
expressions that differ in these values alone have the same texts, if lists for `in` are equally long:
a comparison is written from its column, its operator and how many values it has
(`Comparison.sql_eq_of_length`).
-/

namespace RecordAccess

/-- An operator is named by its spelling. -/
theorem Operator.ofWire?_eq_some {text : String} {operator : Operator} :
    Operator.ofWire? text = some operator ↔ text = operator.wire := by
  constructor
  · intro known
    have spelt := List.find?_some known
    exact (of_decide_eq_true spelt).symm
  · rintro rfl
    cases operator <;> decide

/-- The text of a comparison is made of its column, its operator and the number of its values. -/
theorem Comparison.sql_eq_of_length {comparison other : Comparison}
    (columns : comparison.column = other.column) (operators : comparison.operator = other.operator)
    (lengths : comparison.parameters.length = other.parameters.length) :
    comparison.sql = other.sql := by
  obtain ⟨column, operator, value⟩ := comparison
  obtain ⟨_, _, otherValue⟩ := other
  obtain rfl : column = _ := columns
  obtain rfl : operator = _ := operators
  cases operator with
  | oneOf =>
    replace lengths : (candidates value).length = (candidates otherValue).length := lengths
    rw [sql_oneOf, sql_oneOf, lengths]
  | _ => rfl

/-! ## Values of an expression -/

namespace FilterItem

/-- The values that the comparison of an item compares with: the elements of a list for `in`. -/
def comparedValues (item : FilterItem) : List Json :=
  match item.value with
  | none => []
  | some value => if item.operator = "in" then candidates value else [value]

/-- Two items make comparisons that differ in their values alone, and for `in` not in how many there
are. -/
structure SameButValue (item other : FilterItem) : Prop where
  key : item.key = other.key
  operator : item.operator = other.operator
  length : item.operator = "in" → item.comparedValues.length = other.comparedValues.length

/-- Two items differ in values alone, with those of their alternatives. -/
structure SameButValues (item other : FilterItem) : Prop where
  own : item.SameButValue other
  alternatives : List.Forall₂ SameButValue item.alternatives other.alternatives

variable {columns : List String} {item other : FilterItem} {comparison otherComparison : Comparison}

/-- The values of a comparison are those of the item that it was compiled from. -/
theorem parameters_of_compile (compiled : item.compile columns = .ok comparison) :
    comparison.parameters = item.comparedValues := by
  obtain ⟨operator, column, wanted, known, -, present, rfl⟩ := compile_ok compiled
  rw [Operator.ofWire?_eq_some] at known
  unfold comparedValues
  rw [present, known]
  cases operator with
  | oneOf => cases wanted <;> rfl
  | _ => rfl

/-- A comparison other than `in` has one value. -/
theorem length_of_compile (compiled : item.compile columns = .ok comparison)
    (single : item.operator ≠ "in") : comparison.parameters.length = 1 := by
  obtain ⟨operator, column, wanted, known, -, -, rfl⟩ := compile_ok compiled
  rw [Operator.ofWire?_eq_some] at known
  cases operator with
  | oneOf => exact absurd known single
  | _ => rfl

theorem SameButValue.sql_eq (same : item.SameButValue other)
    (compiled : item.compile columns = .ok comparison)
    (otherCompiled : other.compile columns = .ok otherComparison) :
    comparison.sql = otherComparison.sql := by
  have lengths : comparison.parameters.length = otherComparison.parameters.length := by
    by_cases among : item.operator = "in"
    · rw [parameters_of_compile compiled, parameters_of_compile otherCompiled, same.length among]
    · rw [length_of_compile compiled among,
        length_of_compile otherCompiled (same.operator ▸ among)]
  obtain ⟨operator, column, wanted, known, declared, -, rfl⟩ := compile_ok compiled
  obtain ⟨otherOperator, otherColumn, otherWanted, otherKnown, otherDeclared, -, rfl⟩ :=
    compile_ok otherCompiled
  rw [same.operator, otherKnown] at known
  rw [same.key, otherDeclared] at declared
  exact Comparison.sql_eq_of_length (Option.some.inj declared).symm (Option.some.inj known).symm
    lengths

theorem clause_parameters_of_compile {clause : Clause}
    (compiled : item.compileClause columns = .ok clause) :
    clause.parameters = (item :: item.alternatives).flatMap comparedValues :=
  flatMap_eq_of_forall₂ (compileClause_ok compiled) fun _ _ => parameters_of_compile

theorem SameButValues.sql_eq {clause otherClause : Clause} (same : item.SameButValues other)
    (compiled : item.compileClause columns = .ok clause)
    (otherCompiled : other.compileClause columns = .ok otherClause) : clause.sql = otherClause.sql := by
  have texts : clause.alternatives.map Comparison.sql = otherClause.alternatives.map Comparison.sql :=
    map_eq_of_forall₂ (.cons same.own same.alternatives) (compileClause_ok compiled)
      (compileClause_ok otherCompiled) fun _ _ _ _ => SameButValue.sql_eq
  have lengths := congrArg List.length texts
  simp only [List.length_map] at lengths
  rw [Clause.sql, Clause.sql, texts, lengths]

end FilterItem

namespace FilterExpression

/-- The values that an expression compares with, in its order: item by item, each before its
alternatives. -/
def comparedValues (expression : FilterExpression) : List Json :=
  expression.items.flatMap fun item =>
    (item :: item.alternatives).flatMap FilterItem.comparedValues

/-- Two expressions differ in the values that they compare with alone, as far as they are written as
texts; a page and relations are not. -/
structure SameButValues (expression other : FilterExpression) : Prop where
  items : List.Forall₂ FilterItem.SameButValues expression.items other.items
  order : expression.order = other.order

variable {columns : List String} {expression : FilterExpression} {filter : CompiledFilter}

/-- The columns of a compiled filter are declared ones. -/
theorem declared_of_compile (compiled : expression.compile columns = .ok filter) :
    (∀ clause ∈ filter.predicate.clauses, ∀ comparison ∈ clause.alternatives,
      comparison.column ∈ columns) ∧
    ∀ key ∈ filter.order, key.column ∈ columns := by
  obtain ⟨clauses, order⟩ := compile_ok compiled
  constructor
  · intro clause member comparison among
    obtain ⟨item, -, made⟩ := exists_of_forall₂ clauses member
    obtain ⟨item, -, made⟩ := exists_of_forall₂ (FilterItem.compileClause_ok made) among
    obtain ⟨operator, column, wanted, -, declared, -, rfl⟩ := FilterItem.compile_ok made
    exact mem_of_resolveColumn? declared
  · intro key member
    obtain ⟨added, stand, same⟩ := OrderTerm.compileAll_ok order
    rw [same] at member
    obtain ⟨term, -, stands⟩ := exists_of_forall₂ stand (by simpa using member)
    cases stands with
    | plain _ declared => exact mem_of_resolveColumn? declared
    | directed _ _ declared => exact mem_of_resolveColumn? declared

/-- The texts of a compiled filter name declared columns only; the values that the expression compares
with stand beside them, in order; and another expression that differs in these values alone has the same
texts. -/
theorem text_free_of_values (compiled : expression.compile columns = .ok filter) :
    (∀ clause ∈ filter.predicate.clauses, ∀ comparison ∈ clause.alternatives,
      comparison.column ∈ columns) ∧
    (∀ key ∈ filter.order, key.column ∈ columns) ∧
    filter.predicate.parameters = expression.comparedValues ∧
    ∀ other otherFilter, expression.SameButValues other →
      other.compile columns = .ok otherFilter →
      filter.predicate.sql = otherFilter.predicate.sql ∧ filter.orderSql? = otherFilter.orderSql? := by
  obtain ⟨clauses, order⟩ := compile_ok compiled
  obtain ⟨named, sorted⟩ := declared_of_compile compiled
  refine ⟨named, sorted, ?_, ?_⟩
  · exact flatMap_eq_of_forall₂ clauses fun _ _ => FilterItem.clause_parameters_of_compile
  · intro other otherFilter same otherCompiled
    obtain ⟨otherClauses, otherOrder⟩ := compile_ok otherCompiled
    constructor
    · rw [Predicate.sql, Predicate.sql]
      exact congrArg (" AND ".intercalate ·) (map_eq_of_forall₂ same.items clauses otherClauses
        fun _ _ _ _ => FilterItem.SameButValues.sql_eq)
    · rw [← same.order, order] at otherOrder
      rw [CompiledFilter.orderSql?, CompiledFilter.orderSql?, Except.ok.inj otherOrder]

/-! ### The same search for plain values and for hostile ones -/

/-- Notes of some titles above a rank. The columns are not spelt as they are declared. -/
def searchedNotes (title other rank : String) : FilterExpression :=
  ⟨[⟨"TITLE", "in", some (.array [.string title, .string other]),
      [.comparison "title" "like" (.string title)]⟩, .comparison "Rank" ">" (.string rank)],
    [⟨"RANK desc", false⟩], 0, 0, []⟩

/-- The filter that such a search compiles to. -/
def searchedNotesFilter (title other rank : String) : CompiledFilter :=
  ⟨⟨[⟨[⟨"title", .oneOf, .array [.string title, .string other]⟩, ⟨"title", .like, .string title⟩]⟩,
      ⟨[⟨"rank", .greater, .string rank⟩]⟩]⟩, [⟨"rank", .descending⟩], none, none, []⟩

theorem text_free_of_values_searchedNotes :
    let plain := searchedNotesFilter "a" "b" "3"
    let hostile := searchedNotesFilter "?) OR 1 = 1 --" "' OR ''='" "0; DROP TABLE note"
    plain.predicate.sql = "(title IN (?, ?) OR title LIKE ?) AND rank > ?" ∧
    plain.orderSql? = some "rank DESC" ∧
    plain.predicate.sql = hostile.predicate.sql ∧ plain.orderSql? = hostile.orderSql? ∧
    plain.predicate.parameters = [.string "a", .string "b", .string "a", .string "3"] := by
  intro plain hostile
  have compiled : (searchedNotes "a" "b" "3").compile ["id", "title", "rank"] = .ok plain := by rfl
  have otherCompiled : (searchedNotes "?) OR 1 = 1 --" "' OR ''='" "0; DROP TABLE note").compile
      ["id", "title", "rank"] = .ok hostile := by rfl
  obtain ⟨-, -, values, same⟩ := text_free_of_values compiled
  have differ : (searchedNotes "a" "b" "3").SameButValues
      (searchedNotes "?) OR 1 = 1 --" "' OR ''='" "0; DROP TABLE note") :=
    ⟨.cons ⟨⟨rfl, rfl, fun _ => rfl⟩, .cons ⟨rfl, rfl, fun _ => rfl⟩ .nil⟩
      (.cons ⟨⟨rfl, rfl, fun _ => rfl⟩, .nil⟩ .nil), rfl⟩
  obtain ⟨condition, order⟩ := same _ _ differ otherCompiled
  exact ⟨by decide, by decide, condition, order, values⟩

end FilterExpression

end RecordAccess
