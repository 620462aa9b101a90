import RecordAccess.Number.Shortest

/-!
# Numbers

A number is an integer, kept exactly, or a floating point number. The two kinds stay apart: `1`
and `1.0` are different numbers of equal value.

Two integers compare exactly. When one of two numbers is floating, both are compared as floating
point numbers, the integer rounded to the nearest.

A floating point number is written with the fewest digits that read back: positionally, with a
digit on either side of the point, from `0.00001` up to below `10 ^ 16`, and with an exponent
outside of that.
-/

namespace RecordAccess

/-- An exact integer or a finite floating point number. -/
inductive Number where
  | integer (value : Int)
  | real (value : Double)
deriving DecidableEq, Repr

namespace Number

/-- The nearest floating point number. -/
def toDouble : Number → Double
  | integer value => Double.nearest value
  | real value => value

/-- The number as a signed integer of 64 bits, if it is one. -/
def signed? : Number → Option Int
  | integer value =>
    if -9223372036854775808 ≤ value ∧ value < 9223372036854775808 then some value else none
  | real _ => none

/-- The number as an unsigned integer of 64 bits, if it is one. -/
def unsigned? : Number → Option Nat
  | integer value =>
    if 0 ≤ value ∧ value < 18446744073709551616 then some value.toNat else none
  | real _ => none

/-- The order of two numbers of which one is not an integer of 64 bits. -/
def compareWide : Number → Number → Ordering
  | integer a, integer b => Ord.compare a b
  | a, b => a.toDouble.compare b.toDouble

/-- The order of two numbers by value. Integers of 64 bits compare as signed ones if both can, else as
unsigned ones if both can; what is left is a negative number beside one of `2 ^ 63` or more. -/
def compare (a b : Number) : Ordering :=
  match a.signed?, b.signed?, a.unsigned?, b.unsigned? with
  | some a, some b, _, _ => Ord.compare a b
  | _, _, some a, some b => Ord.compare a b
  | some _, none, _, some _ => .lt
  | none, some _, some _, _ => .gt
  | _, _, _, _ => a.compareWide b

/-! ### Comparison -/

variable {n : Number}

theorem signed?_eq_some {value : Int} : n.signed? = some value ↔
    n = integer value ∧ -9223372036854775808 ≤ value ∧ value < 9223372036854775808 := by
  cases n with
  | integer other =>
    simp only [signed?, Option.ite_none_right_eq_some, Option.some.injEq, integer.injEq]
    grind
  | real x => simp [signed?]

theorem unsigned?_eq_some {value : Nat} : n.unsigned? = some value ↔
    n = integer value ∧ value < 18446744073709551616 := by
  cases n with
  | integer other =>
    simp only [unsigned?, Option.ite_none_right_eq_some, Option.some.injEq, integer.injEq]
    omega
  | real x => simp [unsigned?]

/-- An unsigned integer that is not a signed one is above all signed ones. -/
theorem le_of_unsigned? {value : Nat} (unfit : n.signed? = none) (fits : n.unsigned? = some value) :
    9223372036854775808 ≤ value := by
  obtain ⟨rfl, -⟩ := unsigned?_eq_some.1 fits
  simp only [signed?, ite_eq_right_iff, reduceCtorEq, imp_false, not_and] at unfit
  have := unfit (by omega)
  omega

theorem compare_natCast (a b : Nat) : Ord.compare (a : Int) (b : Int) = Ord.compare a b := by
  grind [Nat.compare_eq_lt, Nat.compare_eq_gt, Int.compare_eq_lt, Int.compare_eq_gt, cases Ordering]

/-- Integers compare as such, however they are held. -/
theorem compare_integer (a b : Int) : (integer a).compare (integer b) = Ord.compare a b := by
  unfold compare
  split
  · next left right =>
    cases (signed?_eq_some.1 left).1
    cases (signed?_eq_some.1 right).1
    rfl
  · next left right _ =>
    cases (unsigned?_eq_some.1 left).1
    cases (unsigned?_eq_some.1 right).1
    exact (compare_natCast _ _).symm
  · next left right wide _ =>
    have below := (signed?_eq_some.1 left).2.2
    have above := le_of_unsigned? right wide
    cases (signed?_eq_some.1 left).1
    cases (unsigned?_eq_some.1 wide).1
    exact (Int.compare_eq_lt.2 (by omega)).symm
  · next left right wide _ =>
    have below := (signed?_eq_some.1 right).2.2
    have above := le_of_unsigned? left wide
    cases (signed?_eq_some.1 right).1
    cases (unsigned?_eq_some.1 wide).1
    exact (Int.compare_eq_gt.2 (by omega)).symm
  · rfl

theorem compare_real_left (x : Double) (n : Number) : (real x).compare n = x.compare n.toDouble := by
  cases n with
  | real y => rfl
  | integer b =>
    unfold compare
    cases (integer b).signed? <;> cases (integer b).unsigned? <;> rfl

theorem compare_real_right (n : Number) (y : Double) : n.compare (real y) = n.toDouble.compare y := by
  cases n with
  | real y => rfl
  | integer a =>
    unfold compare
    cases (integer a).signed? <;> cases (integer a).unsigned? <;> rfl

end Number

/-! ## Text -/

/-- The decimal digits of a natural number. -/
def decimalDigits (n : Nat) : List Char :=
  Nat.toDigits 10 n

namespace Decimal

/-- Digits before and after a point. The exponent is negative, and `digits` are the digits of the
decimal. -/
def splitAtPoint (digits : List Char) (exponent : Int) : List Char :=
  let places := (-exponent).toNat
  let padded := List.replicate (places + 1 - digits.length) '0' ++ digits
  padded.take (padded.length - places) ++ '.' :: padded.drop (padded.length - places)

/-- Positional writing, with at least one digit on either side of the point. -/
def positional (d : Decimal) : List Char :=
  let digits := decimalDigits d.digits
  if 0 ≤ d.exponent then digits ++ List.replicate d.exponent.toNat '0' ++ ['.', '0']
  else splitAtPoint digits d.exponent

/-- Writing with an exponent, whose sign is always given. A point stands only between digits. -/
def scientific (d : Decimal) : List Char :=
  let digits := decimalDigits d.digits
  let magnitude := d.exponent + (digits.length - 1 : Nat)
  let sign := if magnitude < 0 then '-' else '+'
  let fraction := if digits.length ≤ 1 then [] else '.' :: digits.tail
  digits.take 1 ++ fraction ++ 'e' :: sign :: decimalDigits magnitude.natAbs

/-- Positional from `10 ^ -5` up to below `10 ^ 16`, else with an exponent. -/
def text (d : Decimal) : List Char :=
  let magnitude := d.exponent + ((decimalDigits d.digits).length - 1 : Nat)
  if -5 ≤ magnitude ∧ magnitude < 16 then d.positional else d.scientific

end Decimal

namespace Number

/-- The characters of a number. -/
def chars : Number → List Char
  | integer value => (if value < 0 then ['-'] else []) ++ decimalDigits value.natAbs
  | real value =>
    (if value.negative then ['-'] else []) ++
      (if value.isZero then ['0', '.', '0'] else value.shortest.text)

/-- The text of a number. -/
def text (n : Number) : String :=
  String.ofList n.chars

end Number

end RecordAccess
