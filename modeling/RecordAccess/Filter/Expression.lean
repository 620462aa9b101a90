import RecordAccess.Filter.Operator

/-!
# Filter expressions

What a client asks for: items that must all hold, each with alternatives of which one is enough,
an order, a page, and the relations to load along. Nothing in an expression is checked; columns
and operators are texts until the expression is compiled.

In the written form the order is an object from columns to flags, and every part may be left out
or null.
-/

namespace RecordAccess

/-- A comparison of a column with a value, with the alternatives that attach to it. -/
structure FilterItem where
  key : String
  operator : String
  value : Option Json
  alternatives : List FilterItem
deriving Inhabited, Repr

/-- A column to order by, optionally followed by a direction. A term that reorders replaces all
terms before it. -/
structure OrderTerm where
  key : String
  reorder : Bool
deriving DecidableEq, Repr

/-- A filter as a client states it. A limit or a skip that is not positive counts as none. -/
structure FilterExpression where
  items : List FilterItem
  order : List OrderTerm
  limit : Int
  skip : Int
  includes : List String
deriving Inhabited, Repr

namespace FilterItem

/-- An item with a column and nothing else yet. -/
def ofKey (key : String) : FilterItem := ⟨key, "", none, []⟩

/-- A whole comparison. -/
def comparison (key operator : String) (value : Json) : FilterItem :=
  ⟨key, operator, some value, []⟩

/-- The item with one more alternative. -/
def withAlternative (item alternative : FilterItem) : FilterItem :=
  { item with alternatives := item.alternatives ++ [alternative] }

/-- The value to compare with, if there is one; null is none. -/
def value? (item : FilterItem) : Option Json :=
  item.value.filter fun value => !value.isNull

/-- Whether there is a value to compare with. -/
def hasValue (item : FilterItem) : Bool :=
  item.value?.isSome

end FilterItem

/-- The term for a column and a direction. Ascending order needs no direction. -/
def OrderTerm.ofColumn (column : String) (direction : Direction) (reorder : Bool) : OrderTerm :=
  match direction with
  | .ascending => ⟨column, reorder⟩
  | .descending => ⟨column ++ " " ++ direction.sql, reorder⟩

namespace FilterExpression

/-- The expression that asks for everything. -/
def empty : FilterExpression := ⟨[], [], 0, 0, []⟩

end FilterExpression

/-! ## Written form -/

namespace FilterItem

mutual

/-- The written form of an item. Alternatives are left out when there are none. -/
def toJson : FilterItem → Json
  | ⟨key, operator, value, alternatives⟩ =>
    .object ([("key", .string key), ("op", .string operator), ("val", value.getD .null)] ++
      alternativesToJson alternatives)

/-- The member that holds alternatives, unless there are none. -/
def alternativesToJson : List FilterItem → List (String × Json)
  | [] => []
  | first :: rest => [("or", .array (first.toJson :: listToJson rest))]

/-- The written forms of some items. -/
def listToJson : List FilterItem → List Json
  | [] => []
  | first :: rest => first.toJson :: listToJson rest

end

/-- The names of the fields, in order. -/
def fieldNames : List String := ["key", "op", "val", "or"]

/-- Takes in a field that holds no items. -/
def readField (item : FilterItem) (name : String) (document : Document) :
    Except DecodeError FilterItem :=
  match name with
  | "key" => (Decoder.nullAs "" Decoder.text document).map fun key => { item with key := key }
  | "op" =>
    (Decoder.nullAs "" Decoder.text document).map fun operator => { item with operator := operator }
  | "val" =>
    (Decoder.nullable Decoder.json document).map fun value => { item with value := value }
  | _ => .ok item

mutual

/-- Decodes an item, from its named fields or from a list of them in order. -/
def decode (document : Document) : Except DecodeError FilterItem :=
  match document with
  | .object members => readMembers (ofKey "") [] members
  | .array items => readElements (ofKey "") fieldNames items
  | found => .error (.mismatch found "struct FilterItem")

/-- Takes in the members of an object. Those that are not fields do not matter. -/
def readMembers (item : FilterItem) (seen : List String)
    (members : List (Option String × Document)) : Except DecodeError FilterItem :=
  match members with
  | [] => .ok item
  | (none, _) :: _ => .error .notJson
  | (some name, document) :: rest =>
    if fieldNames.contains name then
      if seen.contains name then .error (.repeatedField name)
      else if name = "or" then do
        readMembers { item with alternatives := ← decodeAlternatives document } (name :: seen) rest
      else do readMembers (← item.readField name document) (name :: seen) rest
    else readMembers item seen rest

/-- Takes in the elements of an array, one for each of some names. -/
def readElements (item : FilterItem) (names : List String) (elements : List Document) :
    Except DecodeError FilterItem :=
  match elements, names with
  | [], _ => .ok item
  | elements, [] => .error (.tooManyElements (fieldNames.length + elements.length))
  | document :: rest, name :: names =>
    if name = "or" then do
      readElements { item with alternatives := ← decodeAlternatives document } names rest
    else do readElements (← item.readField name document) names rest

/-- Decodes a list of items, or null for none. -/
def decodeAlternatives (document : Document) : Except DecodeError (List FilterItem) :=
  match document with
  | .null => .ok []
  | .array items => decodeList items
  | found => .error (.mismatch found "a sequence")

/-- Decodes the items of a list. -/
def decodeList (documents : List Document) : Except DecodeError (List FilterItem) :=
  match documents with
  | [] => .ok []
  | first :: rest => do return (← decode first) :: (← decodeList rest)

end

end FilterItem

namespace OrderTerm

/-- The written form of an order. A column that occurs twice is written twice. -/
def listToJson (terms : List OrderTerm) : Json :=
  .object (terms.map fun term => (term.key, .bool term.reorder))

/-- Decodes an order, or null for none. In a text a column may occur more than once. -/
def decodeList : Decoder (List OrderTerm)
  | .null => .ok []
  | .object members => members.mapM fun (key, document) => do
      match key with
      | some key => return ⟨key, ← Decoder.nullAs false Decoder.flag document⟩
      | none => .error .notJson
  | found => .error (.mismatch found "a map of column to reorder flag")

end OrderTerm

namespace FilterExpression

/-- The written form. -/
def toJson (expression : FilterExpression) : Json :=
  .object [("where", .array (FilterItem.listToJson expression.items)),
    ("order", OrderTerm.listToJson expression.order),
    ("limit", .integer expression.limit),
    ("skip", .integer expression.skip),
    ("include", .strings expression.includes)]

/-- Decodes an expression. -/
def decode : Decoder FilterExpression :=
  Decoder.struct "FilterExpression"
    [.withDefault "where" FilterItem.decodeAlternatives fun expression items =>
        { expression with items := items },
      .withDefault "order" OrderTerm.decodeList fun expression order =>
        { expression with order := order },
      .withDefault "limit" (Decoder.nullAs 0 Decoder.integer) fun expression n =>
        { expression with limit := n },
      .withDefault "skip" (Decoder.nullAs 0 Decoder.integer) fun expression n =>
        { expression with skip := n },
      .withDefault "include" (Decoder.nullAs [] (Decoder.list Decoder.text))
        fun expression names => { expression with includes := names }]
    empty

end FilterExpression

end RecordAccess
