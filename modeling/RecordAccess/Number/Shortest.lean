import RecordAccess.Number.Double

/-!
# Shortest decimals

The fewest decimal digits that read back as a given floating point number, and of the decimals
with so many digits the one nearest to it. Decimals are compared with the number in exact
arithmetic, in quarters of the unit `2 ^ -1074`, so that the ends of the interval of reals that
round to the number are whole.
-/

namespace RecordAccess

/-- A positive decimal, `digits * 10 ^ exponent`. -/
structure Decimal where
  digits : Nat
  exponent : Int
deriving DecidableEq, Repr

namespace Decimal

/-- A decimal compared with a number of quarter units. -/
def compareQuarters (d : Decimal) (quarters : Nat) : Ordering :=
  Ord.compare (d.digits * Nat.pow 10 d.exponent.toNat * (4 * Double.one))
    (quarters * Nat.pow 10 (-d.exponent).toNat)

/-- The same decimal without a zero at the end of its digits; `fuel` bounds their number. -/
def dropZeros : Nat → Decimal → Decimal
  | 0, d => d
  | fuel + 1, d =>
    if d.digits % 10 = 0 then dropZeros fuel ⟨d.digits / 10, d.exponent + 1⟩ else d

/-- Of two neighbours the one nearer to a number that their middle compares with, and of two equally
near the one with even digits. -/
def chosen (below above : Decimal) : Ordering → Decimal
  | .lt => above
  | .gt => below
  | .eq => if below.digits % 2 = 0 then below else above

end Decimal

namespace Double

/-- The magnitude in quarter units. -/
def quarters (x : Double) : Nat :=
  4 * x.units

/-- Half the distance to the next greater magnitude, in quarter units. -/
def halfGapAbove (x : Double) : Nat :=
  2 * Nat.pow 2 x.exponent

/-- Half the distance to the next smaller magnitude, in quarter units. The distance halves where
the exponent steps down. -/
def halfGapBelow (x : Double) : Nat :=
  if x.significand = Nat.pow 2 52 ∧ x.exponent ≠ 0 then Nat.pow 2 x.exponent
  else 2 * Nat.pow 2 x.exponent

/-- Whether a decimal rounds to a magnitude: it lies between the two midpoints, and a midpoint
itself rounds to the even significand. -/
def isReadBackFrom (x : Double) (d : Decimal) : Bool :=
  let below := d.compareQuarters (x.quarters - x.halfGapBelow)
  let above := d.compareQuarters (x.quarters + x.halfGapAbove)
  if x.significand % 2 = 0 then below != .lt && above != .gt
  else below == .gt && above == .lt

/-- How many digits stand before the decimal point, where a negative count is of zeros after it:
the least `k` with the magnitude below `10 ^ k`. No magnitude is below `10 ^ -324`. -/
def decimalPoint (x : Double) : Int :=
  (Nat.toDigits 10 (x.units * Nat.pow 10 324 / one)).length - 324

/-- The two neighbours of a magnitude among the decimals with the given exponent. -/
def neighbours (x : Double) (exponent : Int) : Decimal × Decimal :=
  let below := x.units * Nat.pow 10 (-exponent).toNat / (one * Nat.pow 10 exponent.toNat)
  (⟨below, exponent⟩, ⟨below + 1, exponent⟩)

/-- Of two neighbours the nearer, and of two equally near the one with even digits. -/
def nearer (x : Double) (below above : Decimal) : Decimal :=
  let middle : Decimal := ⟨10 * below.digits + 5, below.exponent - 1⟩
  below.chosen above (middle.compareQuarters x.quarters)

/-- The decimal with this exponent that reads back and is nearest, if one reads back. -/
def decimalAt? (x : Double) (exponent : Int) : Option Decimal :=
  let (below, above) := x.neighbours exponent
  match x.isReadBackFrom below, x.isReadBackFrom above with
  | true, true => some (x.nearer below above)
  | true, false => some below
  | false, true => some above
  | false, false => none

/-- The shortest decimal of a number that is not zero. Seventeen digits always read back. -/
def shortest (x : Double) : Decimal :=
  let point := x.decimalPoint
  let found := (List.range 17).findSome? fun (n : Nat) => x.decimalAt? (point - (n + 1))
  (found.getD ⟨x.units, 0⟩).dropZeros 18

end Double

end RecordAccess
