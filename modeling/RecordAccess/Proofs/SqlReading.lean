import RecordAccess.Proofs.JoinedTexts
import RecordAccess.Proofs.WellFormedFilters

/-!
# Reading conditions back

The text of a condition, with the values beside it, says what the predicate says that it was written
for (`FilterExpression.reads_back`).

A condition is read by the grammar of such texts: clauses are joined by `AND`, the alternatives of a
clause by `OR` within parentheses, and each comparison has a placeholder for every value. Names hold no
blank, and that is what the reading turns on: a comparison ends at a place that its own text determines
(`Sql.Term.Spells.delimiting`), so clauses do (`Sql.SpellsClause.delimiting`), and no text can be read
in two ways. The values are then taken from left to right.
-/

namespace RecordAccess

theorem Operator.blank_not_mem (operator : Operator) : ' ' ∉ operator.sql.toList := by
  cases operator <;> decide

theorem Operator.sql_inj {operator other : Operator} (same : operator.sql = other.sql) :
    operator = other := by
  revert same
  cases operator <;> cases other <;> decide

namespace Sql

/-! ## The grammar -/

/-- A name that cannot be mistaken for anything else in a condition. -/
structure IsName (name : String) : Prop where
  named : name ≠ ""
  plain : ∀ c ∈ name.toList, Text.isBlank c = false ∧ c ∉ [',', '(', ')', '?']

-- The characters of the name are gone through, and not all characters that there are.
instance (name : String) : Decidable (IsName name) :=
  haveI : Decidable (∀ c ∈ name.toList, Text.isBlank c = false ∧ c ∉ [',', '(', ')', '?']) :=
    List.decidableBAll _ _
  decidable_of_iff (name ≠ "" ∧ ∀ c ∈ name.toList, Text.isBlank c = false ∧ c ∉ [',', '(', ')', '?'])
    ⟨fun ⟨named, plain⟩ => ⟨named, plain⟩, fun ⟨named, plain⟩ => ⟨named, plain⟩⟩

/-- A comparison as it stands in a condition, with placeholders for the values. -/
inductive Term where
  | single (column : String) (operator : Operator)
  | among (column : String) (count : Nat)
  | never
deriving DecidableEq, Repr

/-- A list of placeholders. -/
def placeholders (count : Nat) : String :=
  ", ".intercalate (List.replicate count "?")

/-- The texts of comparisons. -/
inductive Term.Spells : Term → String → Prop
  | single {column : String} {operator : Operator} (named : IsName column)
      (compares : operator ≠ .oneOf) :
      Spells (.single column operator) (column ++ " " ++ operator.sql ++ " ?")
  | among {column : String} {count : Nat} (named : IsName column) (present : 0 < count) :
      Spells (.among column count) (column ++ " IN (" ++ placeholders count ++ ")")
  | never : Spells .never "1 = 0"

/-- The texts of clauses. Several alternatives stand in parentheses, a single one does not. -/
inductive SpellsClause : List Term → String → Prop
  | alone {term : Term} {text : String} (spelt : term.Spells text) : SpellsClause [term] text
  | grouped {terms : List Term} {texts : List String} (several : 2 ≤ terms.length)
      (spelt : List.Forall₂ Term.Spells terms texts) :
      SpellsClause terms ("(" ++ " OR ".intercalate texts ++ ")")

/-- The texts of conditions. -/
inductive SpellsCondition : List (List Term) → String → Prop
  | nothing : SpellsCondition [] ""
  | joined {clauses : List (List Term)} {texts : List String} (present : clauses ≠ [])
      (spelt : List.Forall₂ SpellsClause clauses texts) :
      SpellsCondition clauses (" AND ".intercalate texts)

/-! ### No text is read in two ways -/

theorem IsName.blank_not_mem {name : String} (named : IsName name) : ' ' ∉ name.toList := by
  intro member
  have blank := (named.plain _ member).1
  revert blank
  decide

/-- A name begins with a character that is no parenthesis. -/
theorem IsName.opens {name : String} (named : IsName name) :
    ∃ first, name.toList.head? = some first ∧ first ≠ '(' := by
  cases letters : name.toList with
  | nil => exact absurd (String.toList_eq_nil_iff.1 letters) named.named
  | cons first more =>
    have member : first ∈ name.toList := by simp [letters]
    refine ⟨first, rfl, ?_⟩
    rintro rfl
    exact (named.plain _ member).2 (by decide)

namespace Term

/-- What stands to the left of the operator. -/
def left : Term → String
  | single column _ | among column _ => column
  | never => "1"

/-- The operator, as it is spelt. -/
def middle : Term → String
  | single _ operator => operator.sql
  | among _ _ => "IN"
  | never => "="

/-- What stands to the right of the operator. -/
def right : Term → String
  | single _ _ => "?"
  | among _ count => "(" ++ placeholders count ++ ")"
  | never => "0"

/-- A comparison is spelt in three parts between blanks, and the first two hold no blank. -/
theorem Spells.parts {term : Term} {text : String} (spelt : term.Spells text) :
    text.toList = term.left.toList ++ ' ' :: (term.middle.toList ++ ' ' :: term.right.toList) ∧
      ' ' ∉ term.left.toList ∧ ' ' ∉ term.middle.toList := by
  cases spelt with
  | single named =>
    exact ⟨by simp [left, middle, right], named.blank_not_mem, Operator.blank_not_mem _⟩
  | among named =>
    exact ⟨by simp [left, middle, right], named.blank_not_mem, by simp [middle]⟩
  | never => decide

theorem Spells.opens {term : Term} {text : String} (spelt : term.Spells text) :
    ∃ first, text.toList.head? = some first ∧ first ≠ '(' := by
  cases spelt with
  | single named | among named =>
    obtain ⟨first, letter, other⟩ := named.opens
    exact ⟨first, by simp [letter], other⟩
  | never => exact ⟨'1', by decide, by decide⟩

/-- How many placeholders there are is determined by where their list is closed. -/
theorem placeholders_inj {count other : Nat} {rest otherRest : List Char} (present : 0 < count)
    (otherPresent : 0 < other)
    (same : (placeholders count).toList ++ ')' :: rest =
      (placeholders other).toList ++ ')' :: otherRest) : count = other ∧ rest = otherRest := by
  have delimiting : IsSelfDelimiting fun (thing text : String) => thing = "?" ∧ text = "?" := by
    rintro thing other text otherText rest otherRest ⟨rfl, rfl⟩ ⟨rfl, rfl⟩ same
    exact ⟨rfl, List.append_cancel_left same⟩
  have spelt (count : Nat) : List.Forall₂ (fun (thing text : String) => thing = "?" ∧ text = "?")
      (List.replicate count "?") (List.replicate count "?") :=
    List.forall₂_same.2 fun text member => by simp [List.eq_of_mem_replicate member]
  obtain ⟨marks, closed⟩ := delimiting.eq_of_joined (by decide) (spelt count) (spelt other)
    (by simpa using present.ne') (by simpa using otherPresent.ne') (by simp) (by simp) same
  exact ⟨by simpa using congrArg List.length marks, (List.cons.inj closed).2⟩

/-- A comparison ends at a place that its own text determines. -/
theorem Spells.delimiting : IsSelfDelimiting Term.Spells := by
  intro term other text otherText rest otherRest spelt otherSpelt same
  obtain ⟨letters, unmarked, middleUnmarked⟩ := spelt.parts
  obtain ⟨otherLetters, otherUnmarked, otherMiddleUnmarked⟩ := otherSpelt.parts
  simp only [letters, otherLetters, List.append_assoc, List.cons_append] at same
  obtain ⟨lefts, same⟩ := eq_of_append_cons unmarked otherUnmarked same
  obtain ⟨middles, same⟩ := eq_of_append_cons middleUnmarked otherMiddleUnmarked same
  replace lefts := String.ext lefts
  replace middles := String.ext middles
  -- What stands to the right tells the three forms apart by its first character.
  cases spelt with
  | single _ _ =>
    cases otherSpelt with
    | single _ _ =>
      obtain rfl : _ = _ := lefts
      obtain rfl := Operator.sql_inj middles
      exact ⟨rfl, List.append_cancel_left same⟩
    | among | never => simp [right] at same
  | among _ present =>
    cases otherSpelt with
    | among _ otherPresent =>
      obtain rfl : _ = _ := lefts
      simp only [right, String.toList_append, List.append_assoc] at same
      obtain ⟨rfl, rests⟩ :=
        placeholders_inj present otherPresent (List.append_cancel_left same)
      exact ⟨rfl, rests⟩
    | single | never => simp [right] at same
  | never =>
    cases otherSpelt with
    | never => exact ⟨rfl, List.append_cancel_left same⟩
    | single | among => simp [right] at same

end Term

/-- A clause ends at a place that its own text determines: one that stands in parentheses begins with
one, and a comparison does not. -/
theorem SpellsClause.delimiting : IsSelfDelimiting SpellsClause := by
  intro clause other text otherText rest otherRest spelt otherSpelt same
  cases spelt with
  | alone spelt =>
    cases otherSpelt with
    | alone otherSpelt =>
      obtain ⟨rfl, same⟩ := Term.Spells.delimiting spelt otherSpelt same
      exact ⟨rfl, same⟩
    | grouped =>
      obtain ⟨first, letter, other⟩ := spelt.opens
      exact absurd (congrArg List.head? same) (by simp [letter, other])
  | grouped several spelt =>
    cases otherSpelt with
    | alone otherSpelt =>
      obtain ⟨first, letter, other⟩ := otherSpelt.opens
      exact absurd (congrArg List.head? same) (by simp [letter, other.symm])
    | grouped otherSeveral otherSpelt =>
      simp only [String.toList_append, List.append_assoc, List.append_cancel_left_eq] at same
      obtain ⟨rfl, same⟩ := Term.Spells.delimiting.eq_of_joined (by decide) spelt otherSpelt
        (List.ne_nil_of_length_pos (by omega)) (List.ne_nil_of_length_pos (by omega)) (by simp)
        (by simp) same
      exact ⟨rfl, List.append_cancel_left same⟩

/-- A clause has a text, so a condition with clauses is not spelt like one without. -/
theorem SpellsCondition.eq_nil {condition : List (List Term)} (spelt : SpellsCondition condition "") :
    condition = [] := by
  generalize empty : "" = text at spelt
  cases spelt with
  | nothing => rfl
  | joined present spelt =>
    cases spelt with
    | nil => rfl
    | cons first spelt =>
      replace empty := congrArg (List.head? ∘ String.toList) empty
      simp only [Function.comp_apply, toList_intercalate_cons] at empty
      cases first with
      | alone first =>
        obtain ⟨letter, opens, -⟩ := first.opens
        simp [opens] at empty
      | grouped => simp at empty

/-- A condition can be read in one way only. -/
theorem SpellsCondition.unique {condition other : List (List Term)} {text : String}
    (spelt : SpellsCondition condition text) (otherSpelt : SpellsCondition other text) :
    condition = other := by
  cases spelt with
  | nothing => exact otherSpelt.eq_nil.symm
  | joined present each =>
    generalize same : " AND ".intercalate _ = text at otherSpelt
    cases otherSpelt with
    | nothing => exact (same ▸ SpellsCondition.joined present each).eq_nil
    | joined otherPresent otherEach =>
      have letters := congrArg (fun text => text.toList ++ []) same
      exact (SpellsClause.delimiting.eq_of_joined (by decide) each otherEach present otherPresent
        (by simp) (by simp) letters).1

/-! ## The values -/

/-- What a condition asks of a row once the values stand at the placeholders. -/
inductive Test where
  | holds (comparison : Comparison)
  | never
deriving DecidableEq, Repr

/-- Whether a row passes a test. -/
def Test.accepts : Test → Row → Bool
  | holds comparison, row => comparison.accepts row
  | never, _ => false

/-- Whether a row satisfies a condition: some alternative of each clause. -/
def accepts (tests : List (List Test)) (row : Row) : Bool :=
  tests.all fun clause => clause.any fun test => test.accepts row

/-- Takes the values of a comparison off those that are left, if there are enough. -/
def Term.take : Term → StateT (List Json) Option Test
  | single column operator, value :: rest => some (.holds ⟨column, operator, value⟩, rest)
  | single _ _, [] => none
  | among column count, values =>
    if count ≤ values.length then
      some (.holds ⟨column, .oneOf, .array (values.take count)⟩, values.drop count)
    else none
  | never, values => some (.never, values)

/-- Puts values at the placeholders of a condition from left to right. There is nothing when one is
missing or left over. -/
def fill (condition : List (List Term)) (values : List Json) : Option (List (List Test)) :=
  match (condition.mapM (List.mapM Term.take)).run values with
  | some (tests, []) => some tests
  | _ => none

end Sql

/-! ## What is written -/

open Sql

namespace Comparison

/-- How a comparison stands in a condition. -/
def term (comparison : Comparison) : Term :=
  match comparison.operator with
  | .oneOf =>
    match candidates comparison.value with
    | [] => .never
    | values => .among comparison.column values.length
  | operator => .single comparison.column operator

/-- What a comparison asks: never anything of `in` among no values. -/
def test (comparison : Comparison) : Test :=
  if comparison.operator = .oneOf ∧ comparison.value = .array [] then .never else .holds comparison

/-- For `in` there is a list to look in. -/
def IsListed (comparison : Comparison) : Prop :=
  comparison.operator = .oneOf → ∃ items, comparison.value = .array items

variable {comparison : Comparison}

/-- Of the values that `in` looks among, only how many there are matters to the text. -/
theorem sql_oneOf (column : String) (value : Json) :
    (Comparison.mk column .oneOf value).sql =
      if (candidates value).length = 0 then "1 = 0"
      else column ++ " IN (" ++ placeholders (candidates value).length ++ ")" := by
  unfold sql
  cases candidates value with
  | nil => rfl
  | cons first more =>
    simp [placeholders, List.replicate_succ, Operator.sql, String.append_assoc]

/-- A comparison with a column that has a name is written by the grammar. -/
theorem spells_term (named : IsName comparison.column) : comparison.term.Spells comparison.sql := by
  obtain ⟨column, operator, value⟩ := comparison
  by_cases among : operator = .oneOf
  · subst among
    rw [sql_oneOf, term]
    cases candidates value with
    | nil => exact .never
    | cons first more => exact .among named (Nat.succ_pos _)
  · have spelt := Term.Spells.single named among
    cases operator with
    | oneOf => exact absurd rfl among
    | _ => exact spelt

/-- The values of a comparison are what its placeholders take. -/
theorem take_term (listed : comparison.IsListed) (rest : List Json) :
    comparison.term.take.run (comparison.parameters ++ rest) = some (comparison.test, rest) := by
  obtain ⟨column, operator, value⟩ := comparison
  by_cases among : operator = .oneOf
  · subst among
    obtain ⟨items, rfl : value = _⟩ := listed rfl
    cases items with
    | nil => rfl
    | cons first more => simp [term, parameters, candidates, test, Term.take, StateT.run]
  · cases operator with
    | oneOf => exact absurd rfl among
    | _ => rfl

/-- A comparison asks of a row what its test does. -/
theorem accepts_test (comparison : Comparison) (row : Row) :
    comparison.test.accepts row = comparison.accepts row := by
  unfold test
  split
  · next empty =>
    obtain ⟨column, operator, value⟩ := comparison
    obtain ⟨rfl : operator = _, rfl : value = _⟩ := empty
    simp only [Test.accepts, accepts, Operator.holds, candidates, List.any_nil]
    split <;> rfl
  · rfl

end Comparison

/-! ## Clauses and predicates -/

/-- Taking values for one thing after another, when the values of each are what it takes. -/
theorem mapM_take {α β γ : Type} {take : β → StateT (List Json) Option γ} {shape : α → β}
    {values : α → List Json} {result : α → γ} {things : List α}
    (each : ∀ thing ∈ things, ∀ rest, (take (shape thing)).run (values thing ++ rest) =
      some (result thing, rest)) (rest : List Json) :
    ((things.map shape).mapM take).run (things.flatMap values ++ rest) =
      some (things.map result, rest) := by
  induction things with
  | nil => rfl
  | cons thing things ih =>
    have first := each thing (by simp) (things.flatMap values ++ rest)
    have others := ih fun other member => each other (by simp [member])
    simp [-List.mapM_map, StateT.run_bind, first, others]

namespace Clause

/-- How a clause stands in a condition. -/
def terms (clause : Clause) : List Term :=
  clause.alternatives.map Comparison.term

/-- What a clause asks. -/
def tests (clause : Clause) : List Test :=
  clause.alternatives.map Comparison.test

/-- A clause has alternatives, columns that have names, and lists where `in` looks. -/
structure IsReadable (clause : Clause) : Prop where
  present : clause.alternatives ≠ []
  named : ∀ comparison ∈ clause.alternatives, IsName comparison.column
  listed : ∀ comparison ∈ clause.alternatives, comparison.IsListed

variable {clause : Clause}

/-- A clause is written by the grammar. -/
theorem spells_terms (readable : clause.IsReadable) : SpellsClause clause.terms clause.sql := by
  have spelt : List.Forall₂ Term.Spells clause.terms (clause.alternatives.map Comparison.sql) :=
    List.forall₂_map_left_iff.2 (List.forall₂_map_right_iff.2
      (List.forall₂_same.2 fun comparison member =>
        Comparison.spells_term (readable.named comparison member)))
  unfold sql
  split
  · next several => exact .grouped (by simp only [terms, List.length_map]; omega) spelt
  · next few =>
    cases alternatives : clause.alternatives with
    | nil => exact absurd alternatives readable.present
    | cons comparison others =>
      cases others with
      | nil =>
        rw [terms, alternatives] at spelt ⊢
        exact .alone (by simpa using spelt)
      | cons => simp [alternatives] at few

/-- The values of a clause are what its placeholders take. -/
theorem take_terms (readable : clause.IsReadable) (rest : List Json) :
    (clause.terms.mapM Term.take).run (clause.parameters ++ rest) = some (clause.tests, rest) :=
  mapM_take (fun comparison member => Comparison.take_term (readable.listed comparison member)) rest

theorem any_tests (clause : Clause) (row : Row) :
    (clause.tests.any fun test => test.accepts row) = clause.accepts row := by
  rw [tests, List.any_map, Clause.accepts]
  exact congrArg clause.alternatives.any (funext fun comparison => comparison.accepts_test row)

end Clause

namespace Predicate

variable {predicate : Predicate}

/-- How a predicate stands in a condition. -/
def terms (predicate : Predicate) : List (List Term) :=
  predicate.clauses.map Clause.terms

/-- What a predicate asks. -/
def tests (predicate : Predicate) : List (List Test) :=
  predicate.clauses.map Clause.tests

/-- A predicate is written by the grammar. -/
theorem spells_terms (readable : ∀ clause ∈ predicate.clauses, clause.IsReadable) :
    SpellsCondition predicate.terms predicate.sql := by
  have spelt : List.Forall₂ SpellsClause predicate.terms (predicate.clauses.map Clause.sql) :=
    List.forall₂_map_left_iff.2 (List.forall₂_map_right_iff.2
      (List.forall₂_same.2 fun clause member => Clause.spells_terms (readable clause member)))
  by_cases present : predicate.clauses = []
  · rw [terms, sql, present]
    exact .nothing
  · exact .joined (by simpa [terms] using present) spelt

/-- The values of a predicate fill its condition. -/
theorem fill_terms (readable : ∀ clause ∈ predicate.clauses, clause.IsReadable) :
    fill predicate.terms predicate.parameters = some predicate.tests := by
  have taken : (predicate.terms.mapM (List.mapM Term.take)).run (predicate.parameters ++ []) =
      some (predicate.tests, []) :=
    mapM_take (fun clause member => Clause.take_terms (readable clause member)) []
  rw [List.append_nil] at taken
  rw [fill, taken]

theorem accepts_tests (predicate : Predicate) (row : Row) :
    Sql.accepts predicate.tests row = predicate.accepts row := by
  rw [tests, Sql.accepts, List.all_map, Predicate.accepts]
  exact congrArg predicate.clauses.all (funext fun clause => clause.any_tests row)

end Predicate

/-! ## Compiled filters -/

namespace FilterExpression

variable {columns : List String} {expression : FilterExpression} {filter : CompiledFilter}

/-- The clauses of a compiled filter are readable when the columns have names. -/
theorem isReadable_of_compile (named : ∀ column ∈ columns, IsName column)
    (compiled : expression.compile columns = .ok filter) :
    ∀ clause ∈ filter.predicate.clauses, clause.IsReadable := by
  intro clause member
  obtain ⟨item, -, compiled⟩ := exists_of_forall₂ (compile_ok compiled).1 member
  have made := FilterItem.compileClause_ok compiled
  refine ⟨?_, ?_, ?_⟩
  · intro empty
    rw [empty] at made
    cases made
  · intro comparison member
    obtain ⟨item, -, compiled⟩ := exists_of_forall₂ made member
    obtain ⟨operator, column, wanted, -, declared, -, rfl⟩ := FilterItem.compile_ok compiled
    exact named column (mem_of_resolveColumn? declared)
  · intro comparison member
    obtain ⟨item, -, compiled⟩ := exists_of_forall₂ made member
    obtain ⟨operator, column, wanted, -, -, -, rfl⟩ := FilterItem.compile_ok compiled
    rintro (rfl : operator = .oneOf)
    cases wanted with
    | array items => exact ⟨items, rfl⟩
    | _ => exact ⟨[_], rfl⟩

/-- The text of a compiled filter is read back in one way only, and that way, with its values at the
placeholders from left to right, is the predicate: the same comparisons in the same clauses, `in` among
no values standing as what never holds. So it accepts the same rows. -/
theorem reads_back (named : ∀ column ∈ columns, IsName column)
    (compiled : expression.compile columns = .ok filter) :
    ∃ condition tests,
      (∀ other, SpellsCondition other filter.predicate.sql ↔ other = condition) ∧
      fill condition filter.predicate.parameters = some tests ∧
      tests = filter.predicate.clauses.map (fun clause => clause.alternatives.map Comparison.test) ∧
      ∀ row, Sql.accepts tests row = filter.predicate.accepts row := by
  have readable := isReadable_of_compile named compiled
  have spelt := Predicate.spells_terms readable
  refine ⟨filter.predicate.terms, filter.predicate.tests, ?_, Predicate.fill_terms readable, rfl,
    filter.predicate.accepts_tests⟩
  intro other
  constructor
  · intro otherSpelt
    exact otherSpelt.unique spelt
  · rintro rfl
    exact spelt

/-! ### A filter of two clauses -/

/-- Notes with one of two titles or with one of none, and of rank three and more. -/
def titledNotes : FilterExpression :=
  ⟨[⟨"Title", "in", some (.array [.string "a", .string ") OR 1 = 1"]), [⟨"rank", "in",
      some (.array []), []⟩]⟩, .comparison "rank" ">=" (.integer 3)], [], 0, 0, []⟩

/-- The filter that `titledNotes` compiles to. -/
def titledNotesFilter : CompiledFilter :=
  ⟨⟨[⟨[⟨"title", .oneOf, .array [.string "a", .string ") OR 1 = 1"]⟩,
      ⟨"rank", .oneOf, .array []⟩]⟩, ⟨[⟨"rank", .greaterOrEqual, .integer 3⟩]⟩]⟩, [], none, none, []⟩

theorem reads_back_titledNotes :
    titledNotesFilter.predicate.sql = "(title IN (?, ?) OR 1 = 0) AND rank >= ?" ∧
    ∃ condition tests,
      (∀ other, SpellsCondition other titledNotesFilter.predicate.sql ↔ other = condition) ∧
      fill condition titledNotesFilter.predicate.parameters = some tests ∧
      tests = [[.holds ⟨"title", .oneOf, .array [.string "a", .string ") OR 1 = 1"]⟩, .never],
        [.holds ⟨"rank", .greaterOrEqual, .integer 3⟩]] ∧
      ∀ row, Sql.accepts tests row = titledNotesFilter.predicate.accepts row := by
  have named : ∀ column ∈ ["id", "title", "rank"], IsName column := by decide
  have compiled : titledNotes.compile ["id", "title", "rank"] = .ok titledNotesFilter := by rfl
  exact ⟨by decide, reads_back named compiled⟩

end FilterExpression

end RecordAccess
