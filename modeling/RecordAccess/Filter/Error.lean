import RecordAccess.Json.Decode

/-!
# Filter errors

Why a filter is refused. All of it is found before anything is asked of a store.
-/

namespace RecordAccess

/-- Why a filter is refused. -/
inductive FilterError where
  /-- An item has no column. -/
  | noKey
  /-- An item has no value. -/
  | noValue
  /-- An operator is none of those that there are. -/
  | invalidOperator (text : String)
  /-- A column is not declared. -/
  | unknownColumn (name : String)
  /-- A term of the order is not a column with an optional direction. -/
  | invalidOrder (key : String)
  /-- An alternative has alternatives of its own. -/
  | nestedGroup (key : String)
  /-- The written form of an expression does not decode. -/
  | undecodable (cause : DecodeError)
deriving Inhabited, Repr

namespace FilterError

/-- The wording of an error. -/
def message : FilterError → String
  | noKey => "no query key selected"
  | noValue => "no query value selected"
  | invalidOperator text => "Invalid SQL operator: " ++ text
  | unknownColumn name => "Column does not exist: " ++ name
  | invalidOrder key => "Invalid order: " ++ key
  | nestedGroup key => "Malformed filter expression: nested or group under " ++ key
  | undecodable cause => "Malformed filter expression: " ++ cause.message

/-- The code that stands for an error in an answer. -/
def code : FilterError → String
  | noKey => "NO_KEY"
  | noValue => "NO_VALUE"
  | invalidOperator _ => "INVALID_OPERATOR"
  | unknownColumn _ => "UNKNOWN_COLUMN"
  | invalidOrder _ => "INVALID_ORDER"
  | nestedGroup _ | undecodable _ => "MALFORMED_FILTER"

/-- Whether a builder may report the error. -/
def isBuilderError : FilterError → Bool
  | noKey | noValue => true
  | _ => false

/-- Whether only compilation may report the error. -/
def isCompileError (error : FilterError) : Bool :=
  !error.isBuilderError

end FilterError

end RecordAccess
