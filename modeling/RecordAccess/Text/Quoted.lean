import RecordAccess.Text.Printable

/-!
# Quoted texts

How a text is shown inside an error message: between double quotes, with the quote, the backslash
and the common controls written as two characters, and any other character that cannot be shown
written by its code point.
-/

namespace RecordAccess.Text

/-- A number in small hexadecimal digits. -/
def hexadecimal (n : Nat) : List Char :=
  Nat.toDigits 16 n

/-- The characters that stand for one character inside a quoted text. -/
def quotedChar (c : Char) : List Char :=
  if c == '"' then ['\\', '"']
  else if c == '\\' then ['\\', '\\']
  else if c == '\n' then ['\\', 'n']
  else if c == '\r' then ['\\', 'r']
  else if c == '\t' then ['\\', 't']
  else if c.toNat == 0 then ['\\', '0']
  else if isPrintable c then [c]
  else ['\\', 'u', '\x7b'] ++ hexadecimal c.toNat ++ ['\x7d']

/-- A text between double quotes. -/
def quoted (text : String) : String :=
  String.ofList ('"' :: (text.toList.flatMap quotedChar ++ ['"']))

end RecordAccess.Text
