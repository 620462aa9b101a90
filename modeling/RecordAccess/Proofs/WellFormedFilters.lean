import RecordAccess.Filter.Compiled
import RecordAccess.Proofs.Outcomes

/-!
# Well-formed filters

Which filter expressions compile, how the others are refused, and what a compiled filter means
(`FilterExpression.compile_iff_isWellFormed`).

The faults of an expression are listed in the order in which it is read. Compilation succeeds when
there are none and else ends with the first of them; each step of it is shown to report the faults
of its own part (`Reports`). What an item asks of a row is stated on the item as it was submitted,
with no mention of the comparison that it compiles to.
-/

namespace RecordAccess

/-! ## Comparisons -/

namespace Operator

/-- The orders of two values that an operator asks for, if it asks for their order. -/
def Admits : Operator → Ordering → Prop
  | equal, order => order = .eq
  | notEqual, order => order ≠ .eq
  | greater, order => order = .gt
  | greaterOrEqual, order => order ≠ .lt
  | less, order => order = .lt
  | lessOrEqual, order => order ≠ .gt
  | oneOf, _ | like, _ => False

/-- What an operator asks of the value of a column and the value that was submitted. `in` looks among
the elements of a list, and a value that is no list stands for the list of itself. -/
inductive Relates : Operator → Json → Json → Prop
  | compared {operator : Operator} {actual wanted : Json} {order : Ordering}
      (compares : actual.compare? wanted = some order) (admits : operator.Admits order) :
      Relates operator actual wanted
  | among {actual candidate : Json} {items : List Json} (member : candidate ∈ items)
      (equal : actual.compare? candidate = some .eq) : Relates .oneOf actual (.array items)
  | alone {actual wanted : Json} (single : ∀ items, wanted ≠ .array items)
      (equal : actual.compare? wanted = some .eq) : Relates .oneOf actual wanted
  | like {actual : Json} {text pattern : String} (shown : searchText? actual = some text)
      (fits : Pattern.accepts pattern text = true) : Relates .like actual (.string pattern)

variable {actual wanted : Json}

theorem holds_iff_admits (operator : Operator) (ordering : operator ≠ .oneOf ∧ operator ≠ .like) :
    operator.holds actual wanted = true ↔
      ∃ order, actual.compare? wanted = some order ∧ operator.Admits order := by
  cases operator with
  | oneOf => exact absurd rfl ordering.1
  | like => exact absurd rfl ordering.2
  | _ =>
    simp only [holds]
    rcases actual.compare? wanted with _ | _ | _ | _ <;> simp [Admits]

theorem relates_iff_admits (operator : Operator) (ordering : operator ≠ .oneOf ∧ operator ≠ .like) :
    operator.Relates actual wanted ↔
      ∃ order, actual.compare? wanted = some order ∧ operator.Admits order := by
  constructor
  · intro relates
    cases relates with
    | compared compares admits => exact ⟨_, compares, admits⟩
    | among | alone => exact absurd rfl ordering.1
    | like => exact absurd rfl ordering.2
  · rintro ⟨order, compares, admits⟩
    exact .compared compares admits

/-- `in` looks among the elements of a list. -/
theorem relates_array_iff {items : List Json} :
    oneOf.Relates actual (.array items) ↔
      ∃ candidate ∈ items, actual.compare? candidate = some .eq := by
  constructor
  · intro relates
    cases relates with
    | compared _ admits => exact admits.elim
    | among member equal => exact ⟨_, member, equal⟩
    | alone single => exact absurd rfl (single items)
  · rintro ⟨candidate, member, equal⟩
    exact .among member equal

/-- A value that is no list stands for the list of itself. -/
theorem relates_single_iff (single : ∀ items, wanted ≠ .array items) :
    oneOf.Relates actual wanted ↔ actual.compare? wanted = some .eq := by
  constructor
  · intro relates
    cases relates with
    | compared _ admits => exact admits.elim
    | among => exact absurd rfl (single _)
    | alone _ equal => exact equal
  · exact .alone single

theorem operand_of_single (single : ∀ items, wanted ≠ .array items) :
    FilterItem.operand .oneOf wanted = .array [wanted] := by
  cases wanted with
  | array items => exact absurd rfl (single items)
  | _ => rfl

theorem relates_like_iff :
    like.Relates actual wanted ↔ like.holds actual wanted = true := by
  constructor
  · intro relates
    cases relates with
    | compared _ admits => exact admits.elim
    | like shown fits => simp only [holds, shown, fits]
  · intro holds
    simp only [Operator.holds] at holds
    split at holds
    · next text pattern shown => exact .like shown holds
    · cases holds

/-- An operator holds of a value, and of what was submitted as it is compiled, exactly when the two
are related as it asks. -/
theorem holds_operand_iff (operator : Operator) :
    operator.holds actual (FilterItem.operand operator wanted) = true ↔
      operator.Relates actual wanted := by
  cases operator with
  | oneOf =>
    by_cases list : ∃ items, wanted = .array items
    · obtain ⟨items, rfl⟩ := list
      rw [relates_array_iff]
      simp [FilterItem.operand, holds, candidates]
    · have single : ∀ items, wanted ≠ .array items := fun items same => list ⟨items, same⟩
      rw [operand_of_single single, relates_single_iff single]
      simp [holds, candidates]
  | like => exact relates_like_iff.symm
  | _ =>
    refine (holds_iff_admits _ ⟨?_, ?_⟩).trans (relates_iff_admits _ ⟨?_, ?_⟩).symm <;> decide

end Operator

/-! ## Values that are not null -/

theorem filter_not_isNull_eq_some {given : Option Json} {value : Json} :
    (given.filter fun value => !value.isNull) = some value ↔ given = some value ∧ value ≠ .null := by
  have null_iff : value.isNull = true ↔ value = .null := by cases value <;> simp [Json.isNull]
  rw [Option.filter_eq_some_iff, Bool.not_eq_true', ← Bool.not_eq_true, null_iff]

theorem Row.value?_eq_some {row : Row} {column : String} {value : Json} :
    Row.value? row column = some value ↔ Keyed.find? row column = some value ∧ value ≠ .null :=
  filter_not_isNull_eq_some

theorem FilterItem.value?_eq_some {item : FilterItem} {value : Json} :
    item.value? = some value ↔ item.value = some value ∧ value ≠ .null :=
  filter_not_isNull_eq_some

/-! ## Columns -/

/-- A name stands for a column of the list. -/
theorem mem_of_resolveColumn? {columns : List String} {name column : String}
    (found : resolveColumn? columns name = some column) : column ∈ columns := by
  simp only [resolveColumn?, Option.orElse_eq_orElse, Option.orElse_eq_or] at found
  rcases Option.or_eq_some_iff.1 found with same | ⟨-, similar⟩
  · exact List.mem_of_find?_eq_some same
  · exact List.mem_of_find?_eq_some similar

/-! ## Items -/

namespace FilterItem

variable {columns : List String} {item : FilterItem}

/-- An item makes a comparison: it has a key that stands for a column, an operator of the list, and a
value that is not null. Its alternatives do not matter. -/
structure IsComplete (columns : List String) (item : FilterItem) : Prop where
  named : item.key ≠ ""
  operator : ∃ operator, Operator.ofWire? item.operator = some operator
  column : ∃ column, resolveColumn? columns item.key = some column
  value : ∃ value, item.value = some value ∧ value ≠ .null

/-- A row satisfies the comparison of an item: the column that the key stands for has a value that is
not null, and the operator relates it to the value of the item. -/
def IsSatisfied (columns : List String) (item : FilterItem) (row : Row) : Prop :=
  ∃ operator column wanted actual, Operator.ofWire? item.operator = some operator ∧
    resolveColumn? columns item.key = some column ∧ item.value = some wanted ∧
    Keyed.find? row column = some actual ∧ actual ≠ .null ∧ operator.Relates actual wanted

/-- What is wrong with the comparison of an item, in the order in which it is looked for. -/
def faults (columns : List String) (item : FilterItem) : List FilterError :=
  (if item.key.isEmpty then [.noKey] else []) ++
    (if (Operator.ofWire? item.operator).isNone then [.invalidOperator item.operator] else []) ++
    (if (resolveColumn? columns item.key).isNone then [.unknownColumn item.key] else []) ++
    (if item.value?.isNone then [.noValue] else [])

/-- What is wrong with an alternative: first that it has alternatives of its own. -/
def alternativeFaults (columns : List String) (item : FilterItem) : List FilterError :=
  (if item.alternatives.isEmpty then [] else [.nestedGroup item.key]) ++ item.faults columns

/-- What is wrong with an item: first with its own comparison, then with its alternatives. -/
def clauseFaults (columns : List String) (item : FilterItem) : List FilterError :=
  item.faults columns ++ item.alternatives.flatMap (alternativeFaults columns)

/-- Compilation of a comparison reports its faults. -/
theorem reports_compile (columns : List String) (item : FilterItem) :
    Reports (item.compile columns) (item.faults columns) := by
  unfold compile faults
  by_cases named : item.key.isEmpty = true
  · simp [named, Reports]
  cases Operator.ofWire? item.operator with
  | none => simp [named, Reports]
  | some operator =>
    cases resolveColumn? columns item.key with
    | none => simp [named, Reports]
    | some column =>
      cases item.value? with
      | none => simp [named, Reports]
      | some value => simp [named, Reports]

/-- There is nothing wrong with a comparison exactly when it is complete. -/
theorem faults_eq_nil : item.faults columns = [] ↔ item.IsComplete columns := by
  have named : item.key.isEmpty = true ↔ item.key = "" := String.isEmpty_iff
  have valued : item.value?.isNone = true ↔ ¬∃ value, item.value = some value ∧ value ≠ .null := by
    simp only [← value?_eq_some, Option.isNone_iff_eq_none, Option.eq_none_iff_forall_not_mem,
      Option.mem_def, not_exists]
  simp only [faults, List.append_eq_nil_iff, ite_eq_right_iff, List.cons_ne_nil, imp_false, named,
    valued, Option.isNone_iff_eq_none, ← ne_eq, Option.ne_none_iff_exists', not_not]
  constructor
  · rintro ⟨⟨⟨named, operator⟩, column⟩, value⟩
    exact ⟨named, operator, column, value⟩
  · rintro ⟨named, operator, column, value⟩
    exact ⟨⟨⟨named, operator⟩, column⟩, value⟩

theorem alternativeFaults_eq_nil :
    item.alternativeFaults columns = [] ↔ item.alternatives = [] ∧ item.IsComplete columns := by
  cases nested : item.alternatives with
  | nil => simp [alternativeFaults, nested, faults_eq_nil]
  | cons => simp [alternativeFaults, nested]

theorem reports_compileAlternative (columns : List String) (item : FilterItem) :
    Reports (item.compileAlternative columns) (item.alternativeFaults columns) := by
  unfold compileAlternative alternativeFaults
  by_cases single : item.alternatives.isEmpty = true
  · simp only [single, if_true, List.nil_append]
    exact reports_compile columns item
  · simp [single, Reports]

/-- Compilation of an item reports the faults of its own comparison before those of its
alternatives. -/
theorem reports_compileClause (columns : List String) (item : FilterItem) :
    Reports (item.compileClause columns) (item.clauseFaults columns) :=
  (reports_compile columns item).bind fun _ _ =>
    (reports_mapM (reports_compileAlternative columns) item.alternatives).map

/-! ### What a comparison compiles to -/

theorem compile_ok {comparison : Comparison} (compiled : item.compile columns = .ok comparison) :
    ∃ operator column wanted, Operator.ofWire? item.operator = some operator ∧
      resolveColumn? columns item.key = some column ∧ item.value = some wanted ∧
      comparison = ⟨column, operator, operand operator wanted⟩ := by
  unfold compile at compiled
  split at compiled
  · cases compiled
  · split at compiled
    · cases compiled
    · next operator known =>
      split at compiled
      · cases compiled
      · next column declared =>
        split at compiled
        · cases compiled
        · next wanted present =>
          cases compiled
          exact ⟨operator, column, wanted, known, declared, (value?_eq_some.1 present).1, rfl⟩

/-- A comparison accepts the rows that satisfy the item that it was compiled from. -/
theorem accepts_iff_isSatisfied {comparison : Comparison}
    (compiled : item.compile columns = .ok comparison) (row : Row) :
    comparison.accepts row = true ↔ item.IsSatisfied columns row := by
  obtain ⟨operator, column, wanted, known, declared, present, rfl⟩ := compile_ok compiled
  simp only [Comparison.accepts, IsSatisfied, known, declared, present, Option.some.injEq]
  constructor
  · intro accepted
    split at accepted
    · next actual read =>
      obtain ⟨there, notNull⟩ := Row.value?_eq_some.1 read
      exact ⟨operator, column, wanted, actual, rfl, rfl, rfl, there, notNull,
        operator.holds_operand_iff.1 accepted⟩
    · cases accepted
  · rintro ⟨_, _, _, actual, rfl, rfl, rfl, there, notNull, relates⟩
    rw [Row.value?_eq_some.2 ⟨there, notNull⟩]
    exact operator.holds_operand_iff.2 relates

theorem compileAlternative_ok {comparison : Comparison}
    (compiled : item.compileAlternative columns = .ok comparison) :
    item.compile columns = .ok comparison := by
  unfold compileAlternative at compiled
  split at compiled
  · exact compiled
  · cases compiled

/-- A clause is compiled from the comparison of an item and from those of its alternatives. -/
theorem compileClause_ok {clause : Clause} (compiled : item.compileClause columns = .ok clause) :
    List.Forall₂ (fun item comparison => item.compile columns = .ok comparison)
      (item :: item.alternatives) clause.alternatives := by
  obtain ⟨own, first, compiled⟩ := exists_of_bind_eq_ok compiled
  obtain ⟨others, rest, compiled⟩ := exists_of_bind_eq_ok compiled
  cases compiled
  exact .cons first ((forall₂_of_mapM rest).imp fun _ _ => compileAlternative_ok)

/-- A clause accepts the rows that satisfy the item that it was compiled from, or one of its
alternatives. -/
theorem clause_accepts_iff {clause : Clause} (compiled : item.compileClause columns = .ok clause)
    (row : Row) :
    clause.accepts row = true ↔ item.IsSatisfied columns row ∨
      ∃ alternative ∈ item.alternatives, alternative.IsSatisfied columns row := by
  obtain ⟨own, first, compiled⟩ := exists_of_bind_eq_ok compiled
  obtain ⟨others, rest, compiled⟩ := exists_of_bind_eq_ok compiled
  cases compiled
  rw [Clause.accepts, List.any_cons, Bool.or_eq_true, accepts_iff_isSatisfied first]
  exact or_congr_right (any_of_forall₂ (forall₂_of_mapM rest) fun _ _ compiled =>
    accepts_iff_isSatisfied (compileAlternative_ok compiled) row)

end FilterItem

/-! ## Order -/

/-- A spelling stands for a direction when it is that of the direction up to case. -/
theorem Direction.ofText?_eq_some {text : String} {direction : Direction} :
    Direction.ofText? text = some direction ↔
      Text.equalIgnoringCase text direction.sql = true := by
  have different : Text.equalIgnoringCase text "DESC" = true →
      Text.equalIgnoringCase text "ASC" = false := by
    intro spelt
    rw [Text.equalIgnoringCase, beq_iff_eq] at spelt
    rw [Text.equalIgnoringCase, spelt]
    decide
  unfold Direction.ofText?
  cases first : Text.equalIgnoringCase text "ASC" <;>
    cases second : Text.equalIgnoringCase text "DESC" <;> cases direction <;>
      simp_all [Direction.sql]

namespace OrderTerm

variable {columns : List String} {term : OrderTerm} {key : SortKey}

/-- A term stands for a sort key: split at blanks it is the name of a column, followed by a direction
in any case or by nothing, which asks for ascending order. -/
inductive StandsFor (columns : List String) (term : OrderTerm) : SortKey → Prop
  | plain {name column : String} (words : Text.words term.key = [name])
      (declared : resolveColumn? columns name = some column) :
      StandsFor columns term ⟨column, .ascending⟩
  | directed {name word column : String} {direction : Direction}
      (words : Text.words term.key = [name, word])
      (spelt : Text.equalIgnoringCase word direction.sql = true)
      (declared : resolveColumn? columns name = some column) :
      StandsFor columns term ⟨column, direction⟩

/-- What is wrong with the name of a column. -/
def nameFaults (columns : List String) (name : String) : List FilterError :=
  if (resolveColumn? columns name).isNone then [.unknownColumn name] else []

/-- What is wrong with a term: first with its shape, then with its column. -/
def faults (columns : List String) (term : OrderTerm) : List FilterError :=
  match Text.words term.key with
  | [name] => nameFaults columns name
  | [name, word] =>
    (if (Direction.ofText? word).isNone then [.invalidOrder term.key] else []) ++
      nameFaults columns name
  | _ => [.invalidOrder term.key]

/-- The terms that count: those from the last one on that reorders, or all if there is none. -/
def effective : List OrderTerm → List OrderTerm
  | [] => []
  | term :: rest => if rest.any OrderTerm.reorder then effective rest else term :: rest

theorem effective_of_none_reorders {terms : List OrderTerm}
    (none : terms.any OrderTerm.reorder = false) : effective terms = terms := by
  cases terms with
  | nil => rfl
  | cons term rest =>
    rw [List.any_cons, Bool.or_eq_false_iff] at none
    rw [effective, none.2]
    rfl

/-- Compilation of a term reports its faults. -/
theorem reports_compile (columns : List String) (term : OrderTerm) :
    Reports (term.compile columns) (term.faults columns) := by
  match words : Text.words term.key with
  | [] | _ :: _ :: _ :: _ => simp [compile, faults, words, Reports]
  | [name] =>
    cases declared : resolveColumn? columns name <;>
      simp [compile, faults, nameFaults, words, declared, Reports]
  | [name, word] =>
    cases spelt : Direction.ofText? word <;> cases declared : resolveColumn? columns name <;>
      simp [compile, faults, nameFaults, words, spelt, declared, Reports]

/-- A term compiles to the sort key that it stands for. -/
theorem compile_eq_ok : term.compile columns = .ok key ↔ term.StandsFor columns key := by
  constructor
  · intro compiled
    unfold compile at compiled
    dsimp only at compiled
    split at compiled
    · next name words =>
      split at compiled
      · next column declared =>
        cases compiled
        exact .plain words declared
      · cases compiled
    · next name word words =>
      split at compiled
      · next direction spelt =>
        split at compiled
        · next column declared =>
          cases compiled
          exact .directed words (Direction.ofText?_eq_some.1 spelt) declared
        · cases compiled
      · cases compiled
    · cases compiled
  · intro stands
    cases stands with
    | plain words declared => simp only [compile, words, declared]
    | directed words spelt declared =>
      simp only [compile, words, Direction.ofText?_eq_some.2 spelt, declared]

theorem faults_eq_nil : term.faults columns = [] ↔ ∃ key, term.StandsFor columns key := by
  rw [← (reports_compile columns term).ok_iff]
  simp only [compile_eq_ok]

/-- Compilation of an order reports the faults of its terms. -/
theorem reports_compileAll (columns : List String) (keys : List SortKey)
    (terms : List OrderTerm) :
    Reports (compileAll columns keys terms) (terms.flatMap (faults columns)) := by
  induction terms generalizing keys with
  | nil => rfl
  | cons term rest ih => exact (reports_compile columns term).bind fun _ _ => ih _

/-- A compiled order is what its effective terms stand for, after the sort keys that were there if no
term reorders. -/
theorem compileAll_ok {keys order : List SortKey} {terms : List OrderTerm}
    (compiled : compileAll columns keys terms = .ok order) :
    ∃ added, List.Forall₂ (StandsFor columns) (effective terms) added ∧
      order = (if terms.any OrderTerm.reorder then [] else keys) ++ added := by
  induction terms generalizing keys with
  | nil =>
    cases compiled
    exact ⟨[], .nil, by simp⟩
  | cons term rest ih =>
    obtain ⟨key, first, compiled⟩ := exists_of_bind_eq_ok compiled
    obtain ⟨added, stand, rfl⟩ := ih compiled
    cases reorders : rest.any OrderTerm.reorder with
    | true =>
      refine ⟨added, ?_, ?_⟩
      · rw [effective, reorders]
        exact stand
      · simp [reorders]
    | false =>
      rw [effective_of_none_reorders reorders] at stand
      refine ⟨key :: added, ?_, ?_⟩
      · rw [effective, reorders]
        exact .cons (compile_eq_ok.1 first) stand
      · cases replaces : term.reorder <;> simp [reorders, replaces]

end OrderTerm

/-! ## Expressions -/

namespace FilterExpression

variable {columns : List String} {expression : FilterExpression}

/-- What is wrong with an expression, in the order in which it is read: item by item, then the order
term by term. -/
def faults (columns : List String) (expression : FilterExpression) : List FilterError :=
  expression.items.flatMap (FilterItem.clauseFaults columns) ++
    expression.order.flatMap (OrderTerm.faults columns)

/-- An expression is well-formed when all comparisons in it are complete, no alternative has
alternatives of its own, and each term of the order stands for a sort key. -/
structure IsWellFormed (columns : List String) (expression : FilterExpression) : Prop where
  items : ∀ item ∈ expression.items, item.IsComplete columns
  alternatives : ∀ item ∈ expression.items, ∀ alternative ∈ item.alternatives,
    alternative.alternatives = [] ∧ alternative.IsComplete columns
  order : ∀ term ∈ expression.order, ∃ key, term.StandsFor columns key

/-- A compiled filter means an expression: it accepts the rows that satisfy each item or one of its
alternatives, orders them by the terms that count, and cuts out a page where the bounds are
positive. -/
structure Means (columns : List String) (expression : FilterExpression)
    (filter : CompiledFilter) : Prop where
  accepts (row : Row) : filter.predicate.accepts row = true ↔
    ∀ item ∈ expression.items, item.IsSatisfied columns row ∨
      ∃ alternative ∈ item.alternatives, alternative.IsSatisfied columns row
  order : List.Forall₂ (OrderTerm.StandsFor columns) (OrderTerm.effective expression.order)
    filter.order
  limit (n : Nat) : filter.limit = some n ↔ 0 < n ∧ expression.limit = n
  skip (n : Nat) : filter.skip = some n ↔ 0 < n ∧ expression.skip = n
  includes : filter.includes = expression.includes

theorem positive?_eq_some {bound : Int} {n : Nat} :
    positive? bound = some n ↔ 0 < n ∧ bound = n := by
  unfold positive?
  split
  · rw [Option.some.injEq]
    omega
  · constructor
    · intro impossible
      cases impossible
    · omega

/-- Compilation of an expression reports its faults. -/
theorem reports_compile (columns : List String) (expression : FilterExpression) :
    Reports (expression.compile columns) (expression.faults columns) :=
  (reports_mapM (FilterItem.reports_compileClause columns) expression.items).bind fun _ _ =>
    (OrderTerm.reports_compileAll columns [] expression.order).map

theorem faults_eq_nil : expression.faults columns = [] ↔ expression.IsWellFormed columns := by
  simp only [faults, FilterItem.clauseFaults, List.append_eq_nil_iff, List.flatMap_eq_nil_iff,
    FilterItem.faults_eq_nil, FilterItem.alternativeFaults_eq_nil, OrderTerm.faults_eq_nil]
  constructor
  · rintro ⟨items, order⟩
    exact ⟨fun item member => (items item member).1, fun item member => (items item member).2,
      order⟩
  · rintro ⟨items, alternatives, order⟩
    exact ⟨fun item member => ⟨items item member, alternatives item member⟩, order⟩

/-- A filter is compiled clause by clause from the items, and its order from the terms. -/
theorem compile_ok {filter : CompiledFilter} (compiled : expression.compile columns = .ok filter) :
    List.Forall₂ (fun item clause => item.compileClause columns = .ok clause) expression.items
      filter.predicate.clauses ∧
    OrderTerm.compileAll columns [] expression.order = .ok filter.order := by
  obtain ⟨clauses, first, compiled⟩ := exists_of_bind_eq_ok compiled
  obtain ⟨order, second, compiled⟩ := exists_of_bind_eq_ok compiled
  cases compiled
  exact ⟨forall₂_of_mapM first, second⟩

/-- What compilation yields means the expression. -/
theorem means_of_compile_ok {filter : CompiledFilter}
    (compiled : expression.compile columns = .ok filter) : expression.Means columns filter := by
  obtain ⟨clauses, first, compiled⟩ := exists_of_bind_eq_ok compiled
  obtain ⟨order, second, compiled⟩ := exists_of_bind_eq_ok compiled
  obtain ⟨added, stand, rfl⟩ := OrderTerm.compileAll_ok second
  cases compiled
  constructor
  · intro row
    exact all_of_forall₂ (forall₂_of_mapM first) fun _ _ compiled =>
      FilterItem.clause_accepts_iff compiled row
  · simpa using stand
  · exact fun _ => positive?_eq_some
  · exact fun _ => positive?_eq_some
  · rfl

/-- An expression compiles exactly when it is well-formed. Any other is refused with the first of its
faults, in the order in which it is read; and a compiled filter means the expression. -/
theorem compile_iff_isWellFormed (columns : List String) (expression : FilterExpression) :
    ((∃ filter, expression.compile columns = .ok filter) ↔ expression.IsWellFormed columns) ∧
    (∀ error, expression.compile columns = .error error ↔
      (expression.faults columns).head? = some error) ∧
    ∀ filter, expression.compile columns = .ok filter → expression.Means columns filter := by
  have reports := reports_compile columns expression
  refine ⟨?_, ?_, ?_⟩
  · rw [reports.ok_iff, faults_eq_nil]
  · exact reports.error_iff
  · intro filter compiled
    exact means_of_compile_ok compiled

/-! ### Two expressions over notes -/

/-- Notes titled `a` or of rank three and more, the highest rank first. The first term of the order
does not count. -/
def rankedNotes : FilterExpression :=
  ⟨[⟨"TITLE", "in", some (.string "a"), [.comparison "rank" ">=" (.integer 3)]⟩],
    [⟨"title", false⟩, ⟨" Rank\tdesc", true⟩], 5, 0, []⟩

/-- The filter that `rankedNotes` compiles to. -/
def rankedNotesFilter : CompiledFilter :=
  ⟨⟨[⟨[⟨"title", .oneOf, .array [.string "a"]⟩, ⟨"rank", .greaterOrEqual, .integer 3⟩]⟩]⟩,
    [⟨"rank", .descending⟩], some 5, none, []⟩

/-- An expression with many faults. That the alternative has an alternative is met before that it
lacks an operator, and the order is not looked at before the second item. -/
def faultyNotes : FilterExpression :=
  ⟨[⟨"title", "=", some (.string "a"), [⟨"rank", "", none, [.ofKey ""]⟩]⟩, .ofKey ""],
    [⟨"rank up", false⟩], 0, 0, []⟩

theorem compile_rankedNotes_faultyNotes :
    rankedNotes.IsWellFormed ["id", "title", "rank"] ∧
    rankedNotes.Means ["id", "title", "rank"] rankedNotesFilter ∧
    faultyNotes.compile ["id", "title", "rank"] = .error (.nestedGroup "rank") := by
  have compiled : rankedNotes.compile ["id", "title", "rank"] = .ok rankedNotesFilter := by
    rfl
  refine ⟨?_, ?_, ?_⟩
  · exact (compile_iff_isWellFormed _ _).1.1 ⟨_, compiled⟩
  · exact (compile_iff_isWellFormed _ _).2.2 _ compiled
  · exact ((compile_iff_isWellFormed _ _).2.1 _).2 (by rfl)

end FilterExpression

end RecordAccess
