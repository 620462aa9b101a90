import RecordAccess.Number.Basic
import RecordAccess.Text.Blank

/-!
# Numerals

`Numeral` holds the parts of a number as JSON writes it, and `Numeral.value?` is the number that
it denotes. A numeral without point and exponent denotes an integer if one of 64 bits, signed or
unsigned, fits; minus zero, and all other numerals, denote floating point numbers.

A floating point value is made from the leading digits that fit 64 bits, as one significand, by
scaling it with powers of ten. Each step rounds, so that the last bit may differ from the nearest
number to the whole numeral. A value beyond the greatest finite number is no number.
-/

namespace RecordAccess

/-- The parts of a number literal. The digits after the point are empty when there is no point. -/
structure Numeral where
  negative : Bool
  whole : List Nat
  fraction : List Nat
  exponent : Option Int
deriving DecidableEq, Repr

namespace Numeral

/-! ## Reading -/

/-- The value of a decimal digit. -/
def digitValue (c : Char) : Nat :=
  c.toNat - '0'.toNat

/-- The digits that a text starts with, at least one, and what follows them. -/
def takeDigits? (cs : List Char) : Option (List Nat × List Char) :=
  match cs.takeWhile Char.isDigit with
  | [] => none
  | digits => some (digits.map digitValue, cs.dropWhile Char.isDigit)

/-- A minus sign, or none. -/
def takeMinus : List Char → Bool × List Char
  | '-' :: rest => (true, rest)
  | cs => (false, cs)

/-- The digits before the point: a zero stands first only alone. -/
def takeWhole? (cs : List Char) : Option (List Nat × List Char) :=
  (takeDigits? cs).filter fun result => result.1.head? != some 0 || result.1.length == 1

/-- A point with at least one digit after it, or none. -/
def takeFraction? : List Char → Option (List Nat × List Char)
  | '.' :: rest => takeDigits? rest
  | cs => some ([], cs)

/-- The number that digits denote. -/
def ofDigits (digits : List Nat) : Nat :=
  digits.foldl (fun value digit => value * 10 + digit) 0

/-- A sign of either kind, or none; whether it is a minus. -/
def takeSign : List Char → Bool × List Char
  | '+' :: rest => (false, rest)
  | '-' :: rest => (true, rest)
  | cs => (false, cs)

/-- The sign and the digits of an exponent. -/
def takeExponentValue? (cs : List Char) : Option (Int × List Char) :=
  let (negative, rest) := takeSign cs
  (takeDigits? rest).map fun (digits, rest) =>
    (if negative then -(ofDigits digits : Int) else ofDigits digits, rest)

/-- An exponent with at least one digit, or none. -/
def takeExponent? : List Char → Option (Option Int × List Char)
  | 'e' :: rest | 'E' :: rest =>
    (takeExponentValue? rest).map fun (value, rest) => (some value, rest)
  | cs => some (none, cs)

/-- The numeral that a text starts with, and what follows it. -/
def take? (cs : List Char) : Option (Numeral × List Char) := do
  let (negative, cs) := takeMinus cs
  let (whole, cs) ← takeWhole? cs
  let (fraction, cs) ← takeFraction? cs
  let (exponent, cs) ← takeExponent? cs
  return (⟨negative, whole, fraction, exponent⟩, cs)

/-! ### What follows is shorter -/

theorem takeDigits?_length_lt {cs rest : List Char} {digits : List Nat}
    (taken : takeDigits? cs = some (digits, rest)) : rest.length < cs.length := by
  have parts : (cs.takeWhile Char.isDigit).length + (cs.dropWhile Char.isDigit).length =
      cs.length := by
    rw [← List.length_append, List.takeWhile_append_dropWhile]
  unfold takeDigits? at taken
  split at taken
  · simp at taken
  · next nonempty =>
    obtain ⟨-, rfl⟩ := Prod.mk.inj (Option.some.inj taken)
    have := List.length_pos_iff.2 nonempty
    omega

theorem takeMinus_length_le (cs : List Char) : (takeMinus cs).2.length ≤ cs.length := by
  unfold takeMinus
  split <;> simp

theorem takeSign_length_le (cs : List Char) : (takeSign cs).2.length ≤ cs.length := by
  unfold takeSign
  split <;> simp

theorem takeWhole?_length_lt {cs rest : List Char} {whole : List Nat}
    (taken : takeWhole? cs = some (whole, rest)) : rest.length < cs.length :=
  takeDigits?_length_lt (Option.filter_eq_some_iff.1 taken).1

theorem takeFraction?_length_le {cs rest : List Char} {fraction : List Nat}
    (taken : takeFraction? cs = some (fraction, rest)) : rest.length ≤ cs.length := by
  unfold takeFraction? at taken
  split at taken
  · have := takeDigits?_length_lt taken
    simp only [List.length_cons]
    omega
  · obtain ⟨-, rfl⟩ := Prod.mk.inj (Option.some.inj taken)
    exact Nat.le_refl _

theorem takeExponentValue?_length_lt {cs rest : List Char} {value : Int}
    (taken : takeExponentValue? cs = some (value, rest)) : rest.length < cs.length := by
  obtain ⟨⟨digits, after⟩, digits_taken, same⟩ := Option.map_eq_some_iff.1 taken
  obtain ⟨-, rfl⟩ := Prod.mk.inj same
  have shorter : after.length < (takeSign cs).2.length := takeDigits?_length_lt digits_taken
  exact Nat.lt_of_lt_of_le shorter (takeSign_length_le cs)

theorem takeExponent?_length_le {cs rest : List Char} {exponent : Option Int}
    (taken : takeExponent? cs = some (exponent, rest)) : rest.length ≤ cs.length := by
  unfold takeExponent? at taken
  split at taken
  case h_1 | h_2 =>
    obtain ⟨⟨value, after⟩, value_taken, same⟩ := Option.map_eq_some_iff.1 taken
    obtain ⟨-, rfl⟩ := Prod.mk.inj same
    have := takeExponentValue?_length_lt value_taken
    simp only [List.length_cons]
    omega
  case h_3 =>
    obtain ⟨-, rfl⟩ := Prod.mk.inj (Option.some.inj taken)
    exact Nat.le_refl _

/-- A numeral is not empty. -/
theorem take?_length_lt {cs rest : List Char} {numeral : Numeral}
    (taken : take? cs = some (numeral, rest)) : rest.length < cs.length := by
  simp only [take?, Option.bind_eq_bind, Option.bind_eq_some_iff, Option.pure_def,
    Option.some.injEq, Prod.mk.injEq] at taken
  obtain ⟨⟨whole, afterWhole⟩, whole_taken, ⟨fraction, afterFraction⟩, fraction_taken,
    ⟨exponent, afterExponent⟩, exponent_taken, -, rfl⟩ := taken
  have := takeMinus_length_le cs
  have := takeWhole?_length_lt whole_taken
  have := takeFraction?_length_le fraction_taken
  have := takeExponent?_length_le exponent_taken
  simp only at *
  omega

/-! ## Value -/

/-- A significand continued by digits for as long as it stays below `2 ^ 64`, and the number of
digits that are left out. -/
def continueSignificand (significand : Nat) : List Nat → Nat × Nat
  | [] => (significand, 0)
  | digit :: rest =>
    if significand * 10 + digit < Nat.pow 2 64 then
      continueSignificand (significand * 10 + digit) rest
    else (significand, rest.length + 1)

/-- A number scaled by a power of ten, in steps of at most `10 ^ 308` with a rounding after each;
none when the result is beyond the finite numbers. -/
def scale? (x : Double) (exponent : Int) : Option Double :=
  if exponent.natAbs ≤ 308 then
    let power := Double.nearest (Nat.pow 10 exponent.natAbs)
    if 0 ≤ exponent then x.scaleUp? power else x.scaleDown? power
  else if x.isZero then some x
  else if 0 ≤ exponent then none
  else (x.scaleDown? (Double.nearest (Nat.pow 10 308))).bind fun y => scale? y (exponent + 308)
termination_by exponent.natAbs
decreasing_by omega

/-- The floating point number of a significand and an exponent. -/
def real? (negative : Bool) (significand : Nat) (exponent : Int) : Option Number := do
  let x ← Double.round? negative (significand * Double.one) 1
  return .real (← scale? x exponent)

/-- The number that a numeral denotes; none when it is too great. -/
def value? (n : Numeral) : Option Number :=
  let (significand, wholeLeft) := continueSignificand 0 n.whole
  if n.fraction.isEmpty && n.exponent.isNone && wholeLeft == 0 then
    if !n.negative then some (.integer significand)
    else if 0 < significand ∧ significand ≤ Nat.pow 2 63 then some (.integer (-significand))
    else real? true significand 0
  else
    let (significand, fractionLeft) := continueSignificand significand n.fraction
    let places : Int := (n.fraction.length - fractionLeft : Nat)
    real? n.negative significand (wholeLeft - places + n.exponent.getD 0)

end Numeral

/-- The number that a text denotes: blanks around exactly one numeral. -/
def Number.ofText? (text : String) : Option Number :=
  match Numeral.take? (Text.trim text).toList with
  | some (numeral, []) => numeral.value?
  | _ => none

end RecordAccess
