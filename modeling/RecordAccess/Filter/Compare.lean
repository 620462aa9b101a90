import RecordAccess.Number.Numeral
import RecordAccess.Json.Basic

/-!
# Comparison of values

Values compare within their kind: numbers by value, texts by code points, and false before true.
A text compares with a number as the number that it spells. Anything else does not compare.
-/

namespace RecordAccess

/-- The order of two truth values, false first. -/
def compareFlags : Bool → Bool → Ordering
  | false, true => .lt
  | true, false => .gt
  | _, _ => .eq

/-- The order of two texts by code points. -/
def compareTexts (a b : String) : Ordering :=
  if a < b then .lt else if b < a then .gt else .eq

/-- The order of two values, if they compare. -/
def Json.compare? : Json → Json → Option Ordering
  | .number a, .number b => some (a.compare b)
  | .number a, .string b => (Number.ofText? b).map a.compare
  | .string a, .number b => (Number.ofText? a).map (·.compare b)
  | .string a, .string b => some (compareTexts a b)
  | .bool a, .bool b => some (compareFlags a b)
  | _, _ => none

end RecordAccess
