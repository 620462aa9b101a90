import RecordAccess.Filter.Column
import RecordAccess.Filter.Predicate
import RecordAccess.Record.Basic

/-!
# Schemas

What is declared of a kind: its columns, which of them holds the id, whether its records carry
revisions, the permission of records that have none of their own, and the relations that a query
may load along.

The id and the revision are kept on the record itself; among its fields there are only the other
declared columns, under their declared names.
-/

namespace RecordAccess

/-- A relation to the records of a kind whose `foreignKey` holds the id of this record. -/
structure Relation where
  name : String
  kind : String
  foreignKey : String
deriving DecidableEq, Repr

/-- The declaration of a kind. -/
structure Schema where
  kind : String
  columns : List String
  idColumn : String
  revisioned : Bool
  defaultPermission : Option Permission
  relations : List Relation
deriving DecidableEq, Repr, Inhabited

namespace Schema

/-- The column that shows the revision. -/
def revisionColumn : String := "revision"

/-! ## Declaration -/

/-- A kind with a column for the id and no other. -/
def ofKind (kind : String) : Schema := ⟨kind, ["id"], "id", false, none, []⟩

/-- Declares a column, unless it is declared. -/
def addColumn (schema : Schema) (column : String) : Schema :=
  if schema.columns.contains column then schema
  else { schema with columns := schema.columns ++ [column] }

/-- Declares columns. -/
def addColumns (schema : Schema) (columns : List String) : Schema :=
  columns.foldl addColumn schema

/-- Moves the id to another column; the one that held it is no longer declared. -/
def withIdColumn (schema : Schema) (column : String) : Schema :=
  addColumn
    { schema with
      idColumn := column
      columns := schema.columns.filter fun other => other != schema.idColumn }
    column

/-- Lets the records of the kind carry revisions, and shows them in a column. -/
def withRevisions (schema : Schema) : Schema :=
  addColumn { schema with revisioned := true } revisionColumn

/-- Sets the permission of records that have none of their own. -/
def withDefaultPermission (schema : Schema) (permission : Permission) : Schema :=
  { schema with defaultPermission := some permission }

/-- Declares a relation. -/
def withRelation (schema : Schema) (relation : Relation) : Schema :=
  { schema with relations := schema.relations ++ [relation] }

/-! ## Use -/

/-- The declared column that a name stands for. -/
def resolve? (schema : Schema) (name : String) : Option String :=
  resolveColumn? schema.columns name

/-- The relation of a name; an exact match comes first, then the first up to case. -/
def relation? (schema : Schema) (name : String) : Option Relation :=
  schema.relations.find? (fun relation => relation.name = name) <|>
    schema.relations.find? fun relation => Text.equalIgnoringCase relation.name name

/-- The data column that a name stands for: not that of the id or the revision. -/
def dataColumn? (schema : Schema) (name : String) : Option String :=
  (schema.resolve? name).filter fun column =>
    column != schema.idColumn && column != revisionColumn

/-- The fields that name a data column, under its declared name. -/
def retainColumns (schema : Schema) (fields : Keyed Json) : Keyed Json :=
  Keyed.ofList (fields.filterMap fun field =>
    (schema.dataColumn? field.1).map fun column => (column, field.2))

/-! ## Written form -/

/-- The written form of a relation. -/
def relationToJson (relation : Relation) : Json :=
  .object [("name", .string relation.name), ("kind", .string relation.kind),
    ("foreign_key", .string relation.foreignKey)]

/-- Decodes a relation. -/
def decodeRelation : Decoder Relation :=
  Decoder.struct "Relation"
    [.required "name" Decoder.text fun relation name => { relation with name := name },
      .required "kind" Decoder.text fun relation kind => { relation with kind := kind },
      .required "foreign_key" Decoder.text fun relation key => { relation with foreignKey := key }]
    ⟨"", "", ""⟩

/-- The written form. -/
def toJson (schema : Schema) : Json :=
  .object [("kind", .string schema.kind), ("columns", .strings schema.columns),
    ("id_column", .string schema.idColumn), ("revisioned", .bool schema.revisioned),
    ("default_permission", (schema.defaultPermission.map Permission.toJson).getD .null),
    ("relations", .array (schema.relations.map relationToJson))]

/-- Decodes a schema. -/
def decode : Decoder Schema :=
  Decoder.struct "ResourceSchema"
    [.required "kind" Decoder.text fun schema kind => { schema with kind := kind },
      .required "columns" (Decoder.list Decoder.text) fun schema columns =>
        { schema with columns := columns },
      .required "id_column" Decoder.text fun schema column => { schema with idColumn := column },
      .required "revisioned" Decoder.flag fun schema flag => { schema with revisioned := flag },
      .optional "default_permission" Permission.decode fun schema permission =>
        { schema with defaultPermission := permission },
      .required "relations" (Decoder.list decodeRelation) fun schema relations =>
        { schema with relations := relations }]
    (ofKind "")

end Schema

/-- A record as a row of its kind: the fields, the id in its column, and the revision if the kind
has revisions. -/
def Record.row (record : Record) (schema : Schema) : Row :=
  let row := record.fields.insert schema.idColumn (.string record.id)
  if schema.revisioned then row.insert Schema.revisionColumn (.integer record.revision) else row

end RecordAccess
