import RecordAccess.Json.Basic
import RecordAccess.Number.Numeral

/-!
# Tokens of JSON text

JSON text is a sequence of tokens with blanks between them: brackets, marks, names and literals.
`Token.chars` writes one token, and `Token.sequence` reads a text as tokens.

A literal can be well formed and yet denote nothing: a number beyond the finite floating point
numbers, or a string in which half of a surrogate pair is escaped. Such a literal is a token
without a value. Whether it is a fault depends on whether its value is wanted.
-/

namespace RecordAccess.Json

/-- A token. A number or a string without a value is a literal that denotes none. Where a text goes
on with something that is no token, its tokens end with `invalid`. -/
inductive Token where
  | openArray
  | closeArray
  | openObject
  | closeObject
  | comma
  | colon
  | null
  | bool (value : Bool)
  | number (value : Option Number)
  | string (value : Option String)
  | invalid
deriving DecidableEq, Repr

namespace Token

/-! ## Writing -/

/-- A number in four small hexadecimal digits. -/
def fourHex (n : Nat) : List Char :=
  let digits := Nat.toDigits 16 n
  List.replicate (4 - digits.length) '0' ++ digits

/-- A character inside a string literal. Only the quote, the backslash and the controls below
U+0020 are escaped. -/
def escaped (c : Char) : List Char :=
  if c == '"' then ['\\', '"']
  else if c == '\\' then ['\\', '\\']
  else if c == '\x08' then ['\\', 'b']
  else if c == '\x0c' then ['\\', 'f']
  else if c == '\n' then ['\\', 'n']
  else if c == '\r' then ['\\', 'r']
  else if c == '\t' then ['\\', 't']
  else if c.toNat < 0x20 then '\\' :: 'u' :: fourHex c.toNat
  else [c]

/-- A string literal. -/
def stringChars (text : String) : List Char :=
  '"' :: (text.toList.flatMap escaped ++ ['"'])

/-- The characters of a token. A literal without a value is never written, nor is `invalid`. -/
def chars : Token → List Char
  | openArray => ['[']
  | closeArray => [']']
  | openObject => ['\x7b']
  | closeObject => ['\x7d']
  | comma => [',']
  | colon => [':']
  | null => "null".toList
  | bool true => "true".toList
  | bool false => "false".toList
  | number value => (value.map Number.chars).getD []
  | string value => (value.map stringChars).getD []
  | invalid => []

/-! ## Reading string literals -/

/-- The value of a hexadecimal digit. -/
def hexValue? (c : Char) : Option Nat :=
  if '0' ≤ c ∧ c ≤ '9' then some (c.toNat - '0'.toNat)
  else if 'a' ≤ c ∧ c ≤ 'f' then some (c.toNat - 'a'.toNat + 10)
  else if 'A' ≤ c ∧ c ≤ 'F' then some (c.toNat - 'A'.toNat + 10)
  else none

/-- The number that four hexadecimal digits denote. -/
def unit? (a b c d : Char) : Option Nat := do
  return (((← hexValue? a) * 16 + (← hexValue? b)) * 16 + (← hexValue? c)) * 16 + (← hexValue? d)

/-- The character that a backslash and one more character stand for. -/
def shortEscape? : Char → Option Char
  | '"' => some '"'
  | '\\' => some '\\'
  | '/' => some '/'
  | 'b' => some '\x08'
  | 'f' => some '\x0c'
  | 'n' => some '\n'
  | 'r' => some '\r'
  | 't' => some '\t'
  | _ => none

/-- The code units of a string literal up to its closing quote, and what follows it. An escape by
number gives the unit that it names, any other character its code point. -/
def takeUnits? : List Char → Option (List Nat × List Char)
  | [] => none
  | '"' :: rest => some ([], rest)
  | '\\' :: 'u' :: a :: b :: c :: d :: rest => do
    let unit ← unit? a b c d
    let (units, rest) ← takeUnits? rest
    return (unit :: units, rest)
  | '\\' :: c :: rest => do
    let c ← shortEscape? c
    let (units, rest) ← takeUnits? rest
    return (c.toNat :: units, rest)
  | c :: rest =>
    if c.toNat < 0x20 then none
    else do
      let (units, rest) ← takeUnits? rest
      return (c.toNat :: units, rest)

/-- Whether a unit is the first half of a surrogate pair. -/
def isHighHalf (unit : Nat) : Bool := 0xd800 ≤ unit && unit < 0xdc00

/-- Whether a unit is the second half of a surrogate pair. -/
def isLowHalf (unit : Nat) : Bool := 0xdc00 ≤ unit && unit < 0xe000

/-- The characters that code units denote; none when half of a pair stands alone. -/
def characters? : List Nat → Option (List Char)
  | [] => some []
  | unit :: rest =>
    if isHighHalf unit then
      match rest with
      | low :: rest =>
        if isLowHalf low then do
          let c := Char.ofNat (0x10000 + (unit - 0xd800) * 0x400 + (low - 0xdc00))
          return c :: (← characters? rest)
        else none
      | [] => none
    else if isLowHalf unit then none
    else do return Char.ofNat unit :: (← characters? rest)

/-! ## Reading -/

/-- Blanks between tokens: the space, the tab and the two line ends. -/
def isSpace (c : Char) : Bool :=
  c == ' ' || c == '\t' || c == '\n' || c == '\r'

/-- The token that a text starts with, and what follows it. -/
def take? (cs : List Char) : Option (Token × List Char) :=
  match cs with
  | '[' :: rest => some (openArray, rest)
  | ']' :: rest => some (closeArray, rest)
  | '\x7b' :: rest => some (openObject, rest)
  | '\x7d' :: rest => some (closeObject, rest)
  | ',' :: rest => some (comma, rest)
  | ':' :: rest => some (colon, rest)
  | 'n' :: 'u' :: 'l' :: 'l' :: rest => some (null, rest)
  | 't' :: 'r' :: 'u' :: 'e' :: rest => some (bool true, rest)
  | 'f' :: 'a' :: 'l' :: 's' :: 'e' :: rest => some (bool false, rest)
  | '"' :: rest => (takeUnits? rest).map fun (units, rest) =>
      (string ((characters? units).map String.ofList), rest)
  | _ => (Numeral.take? cs).map fun (numeral, rest) => (number numeral.value?, rest)

/-! ### What follows is shorter -/

/-- A unit that stands before others is followed by what follows them. -/
theorem exists_of_takeUnits?_cons {cs rest : List Char} {unit : Nat} {units : List Nat}
    (taken : ((takeUnits? cs).bind fun (others, rest) => some (unit :: others, rest)) =
      some (units, rest)) : ∃ others, takeUnits? cs = some (others, rest) := by
  obtain ⟨⟨others, remainder⟩, found, same⟩ := Option.bind_eq_some_iff.1 taken
  obtain ⟨-, rfl⟩ := Prod.mk.inj (Option.some.inj same)
  exact ⟨others, found⟩

theorem takeUnits?_length_lt {cs rest : List Char} {units : List Nat}
    (taken : takeUnits? cs = some (units, rest)) : rest.length < cs.length := by
  fun_induction takeUnits? cs generalizing units rest with
  | case1 => simp at taken
  | case2 after =>
    obtain ⟨-, rfl⟩ := Prod.mk.inj (Option.some.inj taken)
    simp
  | case3 a b c d after ih =>
    obtain ⟨unit, -, taken⟩ := Option.bind_eq_some_iff.1 taken
    obtain ⟨others, found⟩ := exists_of_takeUnits?_cons taken
    have := ih found
    simp only [List.length_cons]
    omega
  | case4 c after _ ih =>
    obtain ⟨short, -, taken⟩ := Option.bind_eq_some_iff.1 taken
    obtain ⟨others, found⟩ := exists_of_takeUnits?_cons taken
    have := ih found
    simp only [List.length_cons]
    omega
  | case5 => simp at taken
  | case6 c after _ _ _ _ ih =>
    obtain ⟨others, found⟩ := exists_of_takeUnits?_cons taken
    have := ih found
    simp only [List.length_cons]
    omega

/-- A token is not empty. -/
theorem take?_length_lt {cs rest : List Char} {token : Token}
    (taken : take? cs = some (token, rest)) : rest.length < cs.length := by
  unfold take? at taken
  split at taken
  case h_10 =>
    obtain ⟨⟨units, after⟩, units_taken, same⟩ := Option.map_eq_some_iff.1 taken
    obtain ⟨-, rfl⟩ := Prod.mk.inj same
    have := takeUnits?_length_lt units_taken
    simp only [List.length_cons]
    omega
  case h_11 =>
    obtain ⟨⟨numeral, after⟩, numeral_taken, same⟩ := Option.map_eq_some_iff.1 taken
    obtain ⟨-, rfl⟩ := Prod.mk.inj same
    exact Numeral.take?_length_lt numeral_taken
  all_goals
    obtain ⟨-, rfl⟩ := Prod.mk.inj (Option.some.inj taken)
    simp only [List.length_cons]
    omega

/-- The tokens of a text. -/
def sequence (cs : List Char) : List Token :=
  match cs with
  | [] => []
  | c :: rest =>
    if isSpace c then sequence rest
    else
      match _taken : take? (c :: rest) with
      | none => [invalid]
      | some (token, after) => token :: sequence after
termination_by cs.length
decreasing_by
  · simp
  · exact take?_length_lt _taken

end Token

/-! ## The tokens of a value -/

mutual

/-- The tokens that write a value. -/
def tokens : Json → List Token
  | null => [.null]
  | bool value => [.bool value]
  | number value => [.number (some value)]
  | string value => [.string (some value)]
  | array items => .openArray :: itemTokens items
  | object members => .openObject :: memberTokens members

/-- The tokens of the items of an array, with the closing bracket. -/
def itemTokens : List Json → List Token
  | [] => [.closeArray]
  | [item] => item.tokens ++ [.closeArray]
  | item :: rest => item.tokens ++ .comma :: itemTokens rest

/-- The tokens of the members of an object, with the closing brace. -/
def memberTokens : List (String × Json) → List Token
  | [] => [.closeObject]
  | [(key, value)] => .string (some key) :: .colon :: (value.tokens ++ [.closeObject])
  | (key, value) :: rest =>
    .string (some key) :: .colon :: (value.tokens ++ .comma :: memberTokens rest)

end

/-- The compact text of a value: its tokens without blanks. -/
def text (value : Json) : String :=
  String.ofList (value.tokens.flatMap Token.chars)

end RecordAccess.Json
