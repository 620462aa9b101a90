import RecordAccess.Filter.Predicate

/-!
# SQL conditions

A predicate as an SQL condition. The text holds columns, operators and placeholders only; the
values that are compared with stand beside it, in the order of the placeholders.

`in` among no values is the condition `1 = 0`, which never holds.
-/

namespace RecordAccess

namespace Comparison

/-- The text of a comparison. -/
def sql (comparison : Comparison) : String :=
  match comparison.operator with
  | .oneOf =>
    match candidates comparison.value with
    | [] => "1 = 0"
    | values =>
      comparison.column ++ " " ++ comparison.operator.sql ++ " (" ++
        ", ".intercalate (values.map fun _ => "?") ++ ")"
  | operator => comparison.column ++ " " ++ operator.sql ++ " ?"

/-- The values at the placeholders of a comparison. -/
def parameters (comparison : Comparison) : List Json :=
  match comparison.operator with
  | .oneOf => candidates comparison.value
  | _ => [comparison.value]

end Comparison

namespace Clause

/-- The text of a clause, in parentheses when there is more than one alternative. -/
def sql (clause : Clause) : String :=
  let text := " OR ".intercalate (clause.alternatives.map Comparison.sql)
  if 1 < clause.alternatives.length then "(" ++ text ++ ")" else text

/-- The values at the placeholders of a clause. -/
def parameters (clause : Clause) : List Json :=
  clause.alternatives.flatMap Comparison.parameters

end Clause

namespace Predicate

/-- The text of a predicate. -/
def sql (predicate : Predicate) : String :=
  " AND ".intercalate (predicate.clauses.map Clause.sql)

/-- The values at the placeholders of a predicate. -/
def parameters (predicate : Predicate) : List Json :=
  predicate.clauses.flatMap Clause.parameters

end Predicate

end RecordAccess
