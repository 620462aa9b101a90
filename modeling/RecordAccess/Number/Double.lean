/-!
# Finite binary floating point numbers

`Double` is a finite number of the binary64 format. Every such number is a whole multiple of
`2 ^ -1074`, the least positive one, so its magnitude is a natural number of these units, and
exact arithmetic on naturals decides every rounding and every comparison.

A number has one form: the significand has fewer than 53 bits only when the exponent is 0. The
two zeros stay apart, and compare equal.
-/

namespace RecordAccess

/-- A finite binary64 number, of magnitude `significand * 2 ^ exponent` units of `2 ^ -1074`. -/
structure Double where
  negative : Bool
  significand : Nat
  exponent : Nat
  bounded : significand < Nat.pow 2 53
  normal : exponent = 0 ∨ Nat.pow 2 52 ≤ significand
  finite : exponent ≤ 2045
deriving DecidableEq, Repr

namespace Double

/-- The number with these parts, if they are the parts of one. -/
def ofParts? (negative : Bool) (significand exponent : Nat) : Option Double :=
  if h : significand < Nat.pow 2 53 ∧ (exponent = 0 ∨ Nat.pow 2 52 ≤ significand) ∧
      exponent ≤ 2045 then
    some ⟨negative, significand, exponent, h.1, h.2.1, h.2.2⟩
  else none

/-- Zero, with a sign. -/
def zero (negative : Bool) : Double :=
  ⟨negative, 0, 0, by decide, .inl rfl, by decide⟩

/-- The finite number farthest from zero on one side. -/
def greatest (negative : Bool) : Double :=
  ⟨negative, Nat.pow 2 53 - 1, 2045, by decide, .inr (by decide), by decide⟩

/-- The magnitude in units of `2 ^ -1074`. -/
def units (x : Double) : Nat :=
  x.significand * Nat.pow 2 x.exponent

/-- The number in units of `2 ^ -1074`. -/
def signedUnits (x : Double) : Int :=
  if x.negative then -(x.units : Int) else x.units

/-- Whether a number is one of the two zeros. -/
def isZero (x : Double) : Bool :=
  x.significand == 0

/-! ## Rounding -/

/-- A quotient rounded to the nearest natural number, a half going to the even neighbour. -/
def divideToEven (numerator denominator : Nat) : Nat :=
  let quotient := numerator / denominator
  let twice := 2 * (numerator % denominator)
  if twice < denominator then quotient
  else if denominator < twice then quotient + 1
  else if quotient % 2 = 0 then quotient
  else quotient + 1

/-- The number nearest to a quotient of units, of two equally near the one with the even
significand; none when the quotient is beyond the greatest number. -/
def round? (negative : Bool) (numerator denominator : Nat) : Option Double :=
  let whole := numerator / denominator
  let exponent := if whole < Nat.pow 2 53 then 0 else Nat.log2 whole - 52
  let significand := divideToEven numerator (denominator * Nat.pow 2 exponent)
  if significand = Nat.pow 2 53 then ofParts? negative (Nat.pow 2 52) (exponent + 1)
  else ofParts? negative significand exponent

/-- How many units make one. -/
def one : Nat := Nat.pow 2 1074

/-- The number nearest to an integer; the greatest one on its side for an integer beyond that. -/
def nearest (value : Int) : Double :=
  let negative := decide (value < 0)
  (round? negative (value.natAbs * one) 1).getD (greatest negative)

/-- The rounded product of two magnitudes, with the sign of the first; none when too great. -/
def scaleUp? (x y : Double) : Option Double :=
  round? x.negative (x.units * y.units) one

/-- The rounded quotient of two magnitudes, with the sign of the first; none when too great. -/
def scaleDown? (x y : Double) : Option Double :=
  round? x.negative (x.units * one) y.units

/-! ## Order -/

/-- The order of two numbers by value; the two zeros are equal. -/
def compare (x y : Double) : Ordering :=
  Ord.compare x.signedUnits y.signedUnits

end Double

end RecordAccess
