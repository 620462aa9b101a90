/-!
# Letter case

Texts compared up to the case of the letters `a` to `z`; every other character stands for itself.
-/

namespace RecordAccess.Text

/-- Equality of two characters up to the case of the letters `a` to `z`. -/
def sameLetter (a b : Char) : Bool :=
  a.toLower == b.toLower

/-- A text with the letters `A` to `Z` made small. -/
def lowercase (text : String) : String :=
  String.ofList (text.toList.map Char.toLower)

/-- Equality of two texts up to the case of the letters `a` to `z`. -/
def equalIgnoringCase (a b : String) : Bool :=
  a.toList.map Char.toLower == b.toList.map Char.toLower

end RecordAccess.Text
