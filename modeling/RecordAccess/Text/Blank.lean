/-!
# Blank characters

A character is blank when it has the Unicode property `White_Space`. The property holds of the
no-break space, of U+0085 and of U+3000; it fails of the zero-width space U+200B, of the byte
order mark U+FEFF and of the separator controls U+001C to U+001F.
-/

namespace RecordAccess.Text

/-- The ranges of code points that have the property, both ends included. -/
def blankRanges : List (Nat × Nat) :=
  [(0x9, 0xd), (0x20, 0x20), (0x85, 0x85), (0xa0, 0xa0), (0x1680, 0x1680), (0x2000, 0x200a),
    (0x2028, 0x2029), (0x202f, 0x202f), (0x205f, 0x205f), (0x3000, 0x3000)]

/-- Whether a character is white space. -/
def isBlank (c : Char) : Bool :=
  blankRanges.any fun range => range.1 ≤ c.toNat && c.toNat ≤ range.2

theorem isBlank_of_isDigit {c : Char} (decimal : c.isDigit = true) : isBlank c = false := by
  have bounds : 48 ≤ c.toNat ∧ c.toNat ≤ 57 := by simpa using Char.isDigit_iff_toNat.1 decimal
  simp only [isBlank, blankRanges, List.any_cons, List.any_nil, Bool.or_false,
    Bool.or_eq_false_iff, Bool.and_eq_false_iff, decide_eq_false_iff_not]
  omega

/-- A text without the blanks at its two ends. -/
def trim (text : String) : String :=
  let start := text.toList.dropWhile isBlank
  String.ofList (start.reverse.dropWhile isBlank).reverse

/-- Whether a text holds nothing but blanks. -/
def isAllBlank (text : String) : Bool :=
  text.toList.all isBlank

/-- The maximal runs of characters that are not blank, from left to right. -/
def words (text : String) : List String :=
  ((text.toList.splitOnP isBlank).filter fun run => !run.isEmpty).map String.ofList

end RecordAccess.Text
