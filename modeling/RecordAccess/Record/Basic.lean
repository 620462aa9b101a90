import RecordAccess.Access.Permission

/-!
# Records

A record of some kind: its id, the permission it may carry, its revision, and its data under
column names. In the written form the data stand beside the id, so that a record looks like the
thing that it describes.

The written form as text lists the record's own members and then all fields. As a value, where no
key occurs twice, a field that has the name of one of the record's own members takes its place.
-/

namespace RecordAccess

/-- A stored or proposed record. An empty id means that none was given, a revision of zero that
the record has none. -/
structure Record where
  id : String
  permission : Option Permission
  revision : Int
  fields : Keyed Json
deriving DecidableEq, Repr, Inhabited

namespace Record

/-- A record with an id and nothing else. -/
def ofId (id : String) : Record := ⟨id, none, 0, []⟩

/-- The record with a field. -/
def withField (record : Record) (name : String) (value : Json) : Record :=
  { record with fields := record.fields.insert name value }

/-- The value of a field. -/
def get? (record : Record) (name : String) : Option Json :=
  record.fields.find? name

/-- The key under which a record of a kind is cached. -/
def cacheKey (kind id : String) : String :=
  kind ++ ":" ++ id

/-! ## Written form -/

/-- The members of the written form: a permission if there is one, a revision unless it is zero,
and the fields. -/
def members (record : Record) : List (String × Json) :=
  ("id", .string record.id) ::
    ((record.permission.map fun permission => ("permission", permission.toJson)).toList ++
      (if record.revision = 0 then [] else [("revision", .integer record.revision)]) ++
      record.fields)

/-- The written form as a text. -/
def text (record : Record) : String :=
  (Json.object record.members).text

/-- The written form as a value. -/
def toJson (record : Record) : Json :=
  .object (Keyed.ofList record.members)

/-- Decodes an id. A number is kept as its text, and null is no id. -/
def decodeId : Decoder String := fun document => do
  match ← Decoder.json document with
  | .null => return ""
  | .string id => return id
  | .number n => return n.text
  | other => .error (.idType other)

/-- The members that are the record's own. -/
def ownFields : List (Field Record) :=
  [.withDefault "id" decodeId fun record id => { record with id := id },
    .withDefault "permission" (Decoder.nullable Permission.decode) fun record permission =>
      { record with permission := permission },
    .withDefault "revision" Decoder.integer fun record revision =>
      { record with revision := revision }]

/-- Takes in a member that is not the record's own. -/
def readField (record : Record) (name : String) (document : Document) :
    Except DecodeError Record := do
  return record.withField name (← Decoder.json document)

/-- Decodes a record from an object. Every member that is not the record's own is a field. -/
def decode : Decoder Record
  | .object members => do
    let (record, _) ← Decoder.readMembers ownFields readField (ofId "") [] members
    return record
  | found => .error (.mismatch found "struct Record")

end Record

end RecordAccess
