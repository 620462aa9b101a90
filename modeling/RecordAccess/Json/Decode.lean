import RecordAccess.Json.Document
import RecordAccess.Text.Quoted

/-!
# Typed decoding

A decoder makes a typed value of a document or says why it cannot. `DecodeError` lists the causes
and `DecodeError.message` their wording.

A structure is decoded from an object, by the names of its fields, or from an array, by their
order. The three kinds of `Field` differ in what the absence of the field means. Everything is read
in the order in which it is written, so the first fault in that order is the one reported; what is
absent is found last.

The same decoders serve values and texts. In a text, an array that goes on after the last field
of a structure is a fault of the text itself.
-/

namespace RecordAccess

/-- Why a document does not decode. -/
inductive DecodeError where
  /-- The text is not JSON, or something in it that is wanted is unreadable. -/
  | notJson
  /-- A value of another kind was found. -/
  | wrongType (found : Document) (wanted : String)
  /-- An integer does not fit. -/
  | outOfRange (value : Int) (wanted : String)
  /-- An object lacks a field that must be there. -/
  | missingField (name : String)
  /-- An object has a field twice. -/
  | repeatedField (name : String)
  /-- An array ends before a field that must be there. -/
  | tooFewElements (given : Nat) (structName : String) (wanted : Nat)
  /-- An array goes on after the last field. -/
  | tooManyElements (given : Nat)
  /-- A name is none of those that there are. -/
  | unknownVariant (name : String) (variants : List String)
  /-- An object that names a variant has not exactly one key. -/
  | notOneKey
  /-- A value has none of the forms that a type allows. -/
  | noForm (typeName : String)
  /-- A text that should hold a role list does not. -/
  | roleList (cause : DecodeError)
  /-- An id is neither text nor number. -/
  | idType (found : Json)
  /-- A reason in words. -/
  | described (reason : String)
deriving Inhabited, Repr

/-- A decoder of `α`. -/
abbrev Decoder (α : Type) := Document → Except DecodeError α

namespace DecodeError

/-- The error for a document of the wrong kind. What is unreadable has no kind. -/
def mismatch (found : Document) (wanted : String) : DecodeError :=
  match found with
  | .unreadable => notJson
  | found => wrongType found wanted

/-- How a document is named as the thing that was found. -/
def found : Document → String
  | .null => "null"
  | .bool value => "boolean `" ++ toString value ++ "`"
  | .number (.integer value) => "integer `" ++ (Number.integer value).text ++ "`"
  | .number (.real value) => "floating point `" ++ (Number.real value).text ++ "`"
  | .string value => "string " ++ Text.quoted value
  | .array _ => "sequence"
  | .object _ => "map"
  | .unreadable => ""

/-- The names that would have been right. -/
def expectedVariants (variants : List String) : String :=
  match variants.map fun name => "`" ++ name ++ "`" with
  | [a, b] => a ++ " or " ++ b
  | names => "one of " ++ ", ".intercalate names

/-- The wording of an error. -/
def message : DecodeError → String
  | notJson => "<json syntax>"
  | wrongType document wanted => "invalid type: " ++ found document ++ ", expected " ++ wanted
  | outOfRange value wanted =>
    "invalid value: integer `" ++ (Number.integer value).text ++ "`, expected " ++ wanted
  | missingField name => "missing field `" ++ name ++ "`"
  | repeatedField name => "duplicate field `" ++ name ++ "`"
  | tooFewElements given structName wanted =>
    "invalid length " ++ toString given ++ ", expected struct " ++ structName ++ " with " ++
      toString wanted ++ " elements"
  | tooManyElements given =>
    "invalid length " ++ toString given ++ ", expected fewer elements in array"
  | unknownVariant name variants =>
    "unknown variant `" ++ name ++ "`, expected " ++ expectedVariants variants
  | notOneKey => "invalid value: map, expected map with a single key"
  | noForm typeName => "data did not match any variant of untagged enum " ++ typeName
  | roleList cause => "invalid role list: " ++ cause.message
  | idType value => "invalid id: expected string or number, found " ++ value.text
  | described reason => reason

end DecodeError

namespace Decoder

variable {α : Type}

/-- Decodes a value. -/
def ofJson (decode : Decoder α) (value : Json) : Except DecodeError α :=
  decode value.toDocument

/-- Decodes a text. Elements after the last field of a structure are no JSON that was asked for. -/
def ofText (decode : Decoder α) (text : String) : Except DecodeError α :=
  let reading := Document.read text
  match decode reading.document with
  | .ok value => if reading.isWhole then .ok value else .error .notJson
  | .error (.tooManyElements _) => .error .notJson
  | .error cause => .error cause

/-! ## Simple values -/

/-- Any value. -/
def json : Decoder Json := fun document =>
  match document.toJson? with
  | some value => .ok value
  | none => .error .notJson

/-- A text. -/
def text : Decoder String
  | .string value => .ok value
  | found => .error (.mismatch found "a string")

/-- A flag. -/
def flag : Decoder Bool
  | .bool value => .ok value
  | found => .error (.mismatch found "a boolean")

/-- A signed integer of 64 bits. -/
def integer : Decoder Int
  | .number (.integer value) =>
    if -(Nat.pow 2 63 : Nat) ≤ value ∧ value < (Nat.pow 2 63 : Nat) then .ok value
    else .error (.outOfRange value "i64")
  | found => .error (.mismatch found "i64")

/-- An unsigned integer of 64 bits. -/
def natural : Decoder Nat
  | .number (.integer value) =>
    if 0 ≤ value ∧ value < (Nat.pow 2 64 : Nat) then .ok value.toNat
    else .error (.outOfRange value "u64")
  | found => .error (.mismatch found "u64")

/-- A list of values. -/
def list (decode : Decoder α) : Decoder (List α)
  | .array items => items.mapM decode
  | found => .error (.mismatch found "a sequence")

/-- A value or null. -/
def nullable (decode : Decoder α) : Decoder (Option α)
  | .null => .ok none
  | document => (decode document).map some

/-- A value, or null for a default. -/
def nullAs (default : α) (decode : Decoder α) : Decoder α
  | .null => .ok default
  | document => decode document

/-- A name out of a table, as a text or as the only key of an object that holds null. -/
def variant (names : List (String × α)) : Decoder α
  | .string name => byName name
  | .object [(some name, .null)] => byName name
  | .object [(some name, found)] => do
    let _ ← byName name
    .error (.mismatch found "unit")
  | .object _ => .error .notOneKey
  | found => .error (.mismatch found "string or map")
where
  byName (name : String) : Except DecodeError α :=
    match Keyed.find? names name with
    | some value => .ok value
    | none => .error (.unknownVariant name (names.map Prod.fst))

end Decoder

/-! ## Structures -/

/-- A field of a structure that is decoded: its name, how it is read into the structure, and
whether it must be there among the members of an object and among the elements of an array. -/
structure Field (α : Type) where
  name : String
  read : α → Document → Except DecodeError α
  isNeededMember : Bool
  isNeededElement : Bool

namespace Field

variable {α β : Type}

/-- A field that must be there. -/
def required (name : String) (decode : Decoder β) (set : α → β → α) : Field α :=
  ⟨name, fun value document => (decode document).map (set value), true, true⟩

/-- A field that may be left out. -/
def withDefault (name : String) (decode : Decoder β) (set : α → β → α) : Field α :=
  ⟨name, fun value document => (decode document).map (set value), false, false⟩

/-- A field that may be null, and that an object may leave out but an array may not. -/
def optional (name : String) (decode : Decoder β) (set : α → Option β → α) : Field α :=
  ⟨name, fun value document => (Decoder.nullable decode document).map (set value), false, true⟩

end Field

namespace Decoder

variable {α : Type}

/-- Reads members in order into a structure: those that are fields, which must not occur twice,
and by `other` those that are not. Gives also the names of the fields that were found. -/
def readMembers (fields : List (Field α)) (other : α → String → Document → Except DecodeError α)
    (value : α) (seen : List String) :
    List (Option String × Document) → Except DecodeError (α × List String)
  | [] => .ok (value, seen)
  | (none, _) :: _ => .error .notJson
  | (some key, document) :: rest =>
    match fields.find? fun field => field.name = key with
    | some field =>
      if seen.contains key then .error (.repeatedField key)
      else do readMembers fields other (← field.read value document) (key :: seen) rest
    | none => do readMembers fields other (← other value key document) seen rest

/-- Reads elements in order into the fields of a structure, as far as both go. -/
def readElements (value : α) : List (Field α) → List Document → Except DecodeError α
  | field :: fields, item :: items => do readElements (← field.read value item) fields items
  | _, _ => .ok value

/-- A structure, read field by field into one that has the defaults. Members of an object that are
not fields do not matter. -/
def struct (name : String) (fields : List (Field α)) (defaults : α) : Decoder α
  | .object members => do
    let (value, seen) ← readMembers fields (fun value _ _ => .ok value) defaults [] members
    match fields.find? fun field => field.isNeededMember && !seen.contains field.name with
    | some field => .error (.missingField field.name)
    | none => .ok value
  | .array items => do
    let value ← readElements defaults fields items
    if (fields.drop items.length).any Field.isNeededElement then
      .error (.tooFewElements items.length name fields.length)
    else if fields.length < items.length then .error (.tooManyElements items.length)
    else .ok value
  | found => .error (.mismatch found ("struct " ++ name))

end Decoder

end RecordAccess
