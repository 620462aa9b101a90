import RecordAccess.Filter.Column
import RecordAccess.Filter.Error
import RecordAccess.Filter.Expression
import RecordAccess.Filter.Sql

/-!
# Compiled filters

A filter expression checked against the columns of a kind, and brought to the form that a store
works with: columns by their declared names, operators of the fixed list, a value in every
comparison, and a page without limits that mean none.

Compilation goes through the expression in order, and ends with the first fault that it meets.
-/

namespace RecordAccess

/-- A column to sort by. -/
structure SortKey where
  column : String
  direction : Direction
deriving DecidableEq, Repr

/-- A filter that a store can run. -/
structure CompiledFilter where
  predicate : Predicate
  order : List SortKey
  limit : Option Nat
  skip : Option Nat
  includes : List String
deriving DecidableEq, Repr

namespace CompiledFilter

/-- The text of the order; none when there is no order. -/
def orderSql? (filter : CompiledFilter) : Option String :=
  if filter.order.isEmpty then none
  else some (", ".intercalate (filter.order.map fun key => key.column ++ " " ++ key.direction.sql))

/-- The written form of a sort key. -/
def sortKeyToJson (key : SortKey) : Json :=
  .object [("column", .string key.column), ("direction", key.direction.toJson)]

/-- The written form of a bound. -/
def boundToJson (bound : Option Nat) : Json :=
  match bound with
  | some n => .integer n
  | none => .null

/-- The written form. -/
def toJson (filter : CompiledFilter) : Json :=
  .object [("predicate", filter.predicate.toJson),
    ("order", .array (filter.order.map sortKeyToJson)),
    ("limit", boundToJson filter.limit),
    ("skip", boundToJson filter.skip),
    ("include", .strings filter.includes)]

end CompiledFilter

/-! ## Compilation -/

namespace FilterItem

/-- The value as an operator compares with it: `in` takes a list, if need be of one element. -/
def operand (operator : Operator) (value : Json) : Json :=
  match operator, value with
  | .oneOf, .array items => .array items
  | .oneOf, value => .array [value]
  | _, value => value

/-- Compiles the comparison of an item, without its alternatives. -/
def compile (columns : List String) (item : FilterItem) : Except FilterError Comparison :=
  if item.key.isEmpty then .error .noKey
  else
    match Operator.ofWire? item.operator with
    | none => .error (.invalidOperator item.operator)
    | some operator =>
      match resolveColumn? columns item.key with
      | none => .error (.unknownColumn item.key)
      | some column =>
        match item.value? with
        | none => .error .noValue
        | some value => .ok ⟨column, operator, operand operator value⟩

/-- Compiles an alternative, which may not have alternatives of its own. -/
def compileAlternative (columns : List String) (item : FilterItem) :
    Except FilterError Comparison :=
  if item.alternatives.isEmpty then item.compile columns else .error (.nestedGroup item.key)

/-- Compiles an item with its alternatives. -/
def compileClause (columns : List String) (item : FilterItem) : Except FilterError Clause := do
  let own ← item.compile columns
  let others ← item.alternatives.mapM (compileAlternative columns)
  return ⟨own :: others⟩

end FilterItem

namespace OrderTerm

/-- Compiles a term: a column, optionally followed by a direction. -/
def compile (columns : List String) (term : OrderTerm) : Except FilterError SortKey :=
  let column (name : String) (direction : Direction) : Except FilterError SortKey :=
    match resolveColumn? columns name with
    | some column => .ok ⟨column, direction⟩
    | none => .error (.unknownColumn name)
  match Text.words term.key with
  | [name] => column name .ascending
  | [name, direction] =>
    match Direction.ofText? direction with
    | some direction => column name direction
    | none => .error (.invalidOrder term.key)
  | _ => .error (.invalidOrder term.key)

/-- Compiles an order after the sort keys that are there. -/
def compileAll (columns : List String) (keys : List SortKey) :
    List OrderTerm → Except FilterError (List SortKey)
  | [] => .ok keys
  | term :: rest => do
    let key ← term.compile columns
    compileAll columns (if term.reorder then [key] else keys ++ [key]) rest

end OrderTerm

namespace FilterExpression

/-- A bound of a page; one that is not positive is none. -/
def positive? (n : Int) : Option Nat :=
  if 0 < n then some n.toNat else none

/-- Compiles an expression against the columns of a kind. -/
def compile (columns : List String) (expression : FilterExpression) :
    Except FilterError CompiledFilter := do
  let clauses ← expression.items.mapM (FilterItem.compileClause columns)
  let order ← OrderTerm.compileAll columns [] expression.order
  return ⟨⟨clauses⟩, order, positive? expression.limit, positive? expression.skip,
    expression.includes⟩

/-- Reads an expression from a value. -/
def ofJson (value : Json) : Except FilterError FilterExpression :=
  (decode.ofJson value).mapError .undecodable

/-- Reads an expression from a text. -/
def ofText (text : String) : Except FilterError FilterExpression :=
  (decode.ofText text).mapError .undecodable

end FilterExpression

end RecordAccess
