import RecordAccess.Text.LetterCase

/-!
# Columns

A column may be named in any case. A declared column of exactly the given name comes first, then
the first one that differs from it in case alone.
-/

namespace RecordAccess

/-- The declared column that a name stands for. -/
def resolveColumn? (columns : List String) (name : String) : Option String :=
  columns.find? (fun column => column = name) <|>
    columns.find? fun column => Text.equalIgnoringCase column name

end RecordAccess
