import RecordAccess.Filter.Compare
import RecordAccess.Filter.Like
import RecordAccess.Filter.Operator

/-!
# Predicates

A compiled condition on rows: clauses that must all hold, each a list of comparisons of which one
must hold. A row is a table from columns to values. A column that is missing or null satisfies no
comparison, not even `<>`.
-/

namespace RecordAccess

/-- A row: values under columns. -/
abbrev Row := Keyed Json

/-- A comparison of a column with a value; for `in` the value is a list. -/
structure Comparison where
  column : String
  operator : Operator
  value : Json
deriving DecidableEq, Repr

/-- Comparisons of which one must hold. -/
structure Clause where
  alternatives : List Comparison
deriving DecidableEq, Repr

/-- Clauses that must all hold. -/
structure Predicate where
  clauses : List Clause
deriving DecidableEq, Repr

/-- The values that `in` looks among; a value that is no list stands alone. -/
def candidates : Json → List Json
  | .array items => items
  | value => [value]

/-- The text in which a pattern is looked for: that of a text, a number or a truth value. -/
def searchText? : Json → Option String
  | .string text => some text
  | .number number => some number.text
  | .bool value => some (toString value)
  | _ => none

/-- Whether the value of a column satisfies an operator with a given value. -/
def Operator.holds (operator : Operator) (actual wanted : Json) : Bool :=
  match operator with
  | .equal => actual.compare? wanted == some .eq
  | .notEqual => actual.compare? wanted == some .lt || actual.compare? wanted == some .gt
  | .greater => actual.compare? wanted == some .gt
  | .greaterOrEqual => actual.compare? wanted == some .gt || actual.compare? wanted == some .eq
  | .less => actual.compare? wanted == some .lt
  | .lessOrEqual => actual.compare? wanted == some .lt || actual.compare? wanted == some .eq
  | .oneOf => (candidates wanted).any fun candidate => actual.compare? candidate == some .eq
  | .like =>
    match searchText? actual, wanted with
    | some text, .string pattern => Pattern.accepts pattern text
    | _, _ => false

/-- The value in a column, if there is one; null is none. -/
def Row.value? (row : Row) (column : String) : Option Json :=
  (Keyed.find? row column).filter fun value => !value.isNull

/-- Whether a row satisfies a comparison. -/
def Comparison.accepts (comparison : Comparison) (row : Row) : Bool :=
  match Row.value? row comparison.column with
  | some actual => comparison.operator.holds actual comparison.value
  | none => false

/-- Whether a row satisfies a clause. -/
def Clause.accepts (clause : Clause) (row : Row) : Bool :=
  clause.alternatives.any fun comparison => comparison.accepts row

/-- Whether a row satisfies a predicate. Without clauses every row does. -/
def Predicate.accepts (predicate : Predicate) (row : Row) : Bool :=
  predicate.clauses.all fun clause => clause.accepts row

/-- Whether a predicate has no clauses. -/
def Predicate.isEmpty (predicate : Predicate) : Bool :=
  predicate.clauses.isEmpty

/-! ## Written forms -/

/-- The written form of a comparison. -/
def Comparison.toJson (comparison : Comparison) : Json :=
  .object [("column", .string comparison.column), ("op", comparison.operator.toJson),
    ("value", comparison.value)]

/-- The written form of a clause. -/
def Clause.toJson (clause : Clause) : Json :=
  .object [("alternatives", .array (clause.alternatives.map Comparison.toJson))]

/-- The written form of a predicate. -/
def Predicate.toJson (predicate : Predicate) : Json :=
  .object [("clauses", .array (predicate.clauses.map Clause.toJson))]

end RecordAccess
