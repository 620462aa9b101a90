import RecordAccess.Json.Decode
import RecordAccess.Text.LetterCase

/-!
# Operators and directions

The comparisons that a filter may use, and the two directions of an order. Whatever else a filter
names is refused when it is compiled.
-/

namespace RecordAccess

/-- A comparison of a column with a value. -/
inductive Operator where
  | equal
  | greater
  | greaterOrEqual
  | less
  | lessOrEqual
  | notEqual
  | oneOf
  | like
deriving DecidableEq, Repr

namespace Operator

/-- All operators, in the order in which they are declared. -/
def all : List Operator :=
  [equal, greater, greaterOrEqual, less, lessOrEqual, notEqual, oneOf, like]

/-- The spelling of an operator in a filter. -/
def wire : Operator → String
  | equal => "="
  | greater => ">"
  | greaterOrEqual => ">="
  | less => "<"
  | lessOrEqual => "<="
  | notEqual => "<>"
  | oneOf => "in"
  | like => "like"

/-- The spelling of an operator in SQL. -/
def sql : Operator → String
  | oneOf => "IN"
  | like => "LIKE"
  | other => other.wire

/-- The operator of an exact spelling; neither case nor blanks may differ. -/
def ofWire? (text : String) : Option Operator :=
  all.find? fun operator => operator.wire = text

/-- The written form. -/
def toJson (operator : Operator) : Json :=
  .string operator.wire

/-- Decodes an operator. -/
def decode : Decoder Operator :=
  Decoder.variant (all.map fun operator => (operator.wire, operator))

end Operator

/-! ## Directions -/

/-- The direction of an order. -/
inductive Direction where
  | ascending
  | descending
deriving DecidableEq, Repr

namespace Direction

/-- The spelling of a direction in SQL. -/
def sql : Direction → String
  | ascending => "ASC"
  | descending => "DESC"

/-- The direction of a spelling, in any case. -/
def ofText? (text : String) : Option Direction :=
  [ascending, descending].find? fun direction => Text.equalIgnoringCase text direction.sql

/-- The order of two things in a direction, given their ascending order. -/
def apply : Direction → Ordering → Ordering
  | ascending, ordering => ordering
  | descending, ordering => ordering.swap

/-- The written form. -/
def toJson (direction : Direction) : Json :=
  .string direction.sql

/-- Decodes a direction. -/
def decode : Decoder Direction :=
  Decoder.variant ([ascending, descending].map fun direction => (direction.sql, direction))

end Direction

end RecordAccess
