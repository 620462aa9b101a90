import RecordAccess.Json.Token

/-!
# Documents

A document is the tree of a JSON text before anything is made of it: an object still has every
member that was written, also repeated ones, and a literal that denotes nothing stands as
`unreadable`. A decoder that has no use for a part of a document never minds what is unreadable
in it.

A decoder goes through a document in the order of the text and ends at the first thing that it
cannot use, whatever comes later. So a text that stops being JSON somewhere has a document too:
each container that is open there goes on with something unreadable. `Document.read` gives that
document, and tells whether it is the whole text.

`Document.toJson?` is the value of a readable document, and `Json.toDocument` the document of a
value.
-/

namespace RecordAccess

/-- The tree of a JSON text. A member of an object without a key has a key that is unreadable. -/
inductive Document where
  | null
  | bool (value : Bool)
  | number (value : Number)
  | string (value : String)
  | array (items : List Document)
  | object (members : List (Option String × Document))
  | unreadable
deriving Inhabited, Repr

namespace Document

open Json (Token)

/-- A member of an object before its value is known: what is unreadable has no key. -/
abbrev Member := Option String × Document

/-! ## Open containers -/

/-- How many containers may be open at once. -/
def depthLimit : Nat := 127

/-- A container that is open: an array with the items before the present one, or an object with
the members before the present one and its key, the last member first. -/
inductive Frame where
  | items (done : List Document)
  | members (done : List Member) (key : Option String)

/-- Whether one more container may be open inside open ones. Looks no further than the limit. -/
def hasRoom (stack : List Frame) : Bool :=
  (stack.drop (depthLimit - 1)).isEmpty

theorem hasRoom_iff {stack : List Frame} : hasRoom stack ↔ stack.length < depthLimit := by
  simp only [hasRoom, depthLimit, List.isEmpty_iff, List.drop_eq_nil_iff]
  omega

/-- An array inside open containers. What lies too deep is seen to be an array, and no more. -/
def arrayIn (stack : List Frame) (items : List Document) : Document :=
  if hasRoom stack then array items else array [unreadable]

/-- An object inside open containers. What lies too deep is seen to be an object, and no more. -/
def objectIn (stack : List Frame) (members : List Member) : Document :=
  if hasRoom stack then object members else object [(none, unreadable)]

/-- The document of a text that stops being JSON after a value inside open containers. -/
def breakOff (value : Document) : List Frame → Document
  | [] => value
  | .items done :: stack =>
    breakOff (arrayIn stack (unreadable :: value :: done).reverse) stack
  | .members done key :: stack =>
    breakOff (objectIn stack ((none, unreadable) :: (key, value) :: done).reverse) stack

/-! ## Reading -/

/-- What has been read so far, inside the open containers `stack`. -/
inductive Progress where
  /-- A value must follow. -/
  | value (stack : List Frame)
  /-- An array has begun. -/
  | firstItem (stack : List Frame)
  /-- An object has begun. -/
  | firstKey (stack : List Frame)
  /-- Another key must follow. -/
  | key (done : List Member) (stack : List Frame)
  /-- The colon after a key must follow. -/
  | colon (done : List Member) (key : Option String) (stack : List Frame)
  /-- A value is complete. -/
  | complete (value : Document) (stack : List Frame)

/-- The document of a token that is a value by itself. -/
def ofScalar? : Token → Option Document
  | .null => some null
  | .bool value => some (bool value)
  | .number value => some ((value.map number).getD unreadable)
  | .string value => some ((value.map string).getD unreadable)
  | _ => none

/-- Reads a token where a value must stand. -/
def stepValue? (stack : List Frame) : Token → Option Progress
  | .openArray => some (.firstItem stack)
  | .openObject => some (.firstKey stack)
  | token => (ofScalar? token).map fun value => .complete value stack

/-- Reads one token; none when it cannot stand there. -/
def step? : Progress → Token → Option Progress
  | .value stack, token => stepValue? stack token
  | .firstItem stack, .closeArray => some (.complete (arrayIn stack []) stack)
  | .firstItem stack, token => stepValue? (.items [] :: stack) token
  | .firstKey stack, .closeObject => some (.complete (objectIn stack []) stack)
  | .firstKey stack, .string key => some (.colon [] key stack)
  | .key done stack, .string key => some (.colon done key stack)
  | .colon done key stack, .colon => some (.value (.members done key :: stack))
  | .complete value (.items done :: stack), .comma =>
    some (.value (.items (value :: done) :: stack))
  | .complete value (.items done :: stack), .closeArray =>
    some (.complete (arrayIn stack (value :: done).reverse) stack)
  | .complete value (.members done key :: stack), .comma =>
    some (.key ((key, value) :: done) stack)
  | .complete value (.members done key :: stack), .closeObject =>
    some (.complete (objectIn stack ((key, value) :: done).reverse) stack)
  | _, _ => none

/-- The document of a text that stops being JSON at some point. -/
def ofProgress : Progress → Document
  | .value stack => breakOff unreadable stack
  | .firstItem stack => breakOff unreadable (.items [] :: stack)
  | .firstKey stack => breakOff (objectIn stack [(none, unreadable)]) stack
  | .key done stack => breakOff (objectIn stack ((none, unreadable) :: done).reverse) stack
  | .colon done key stack => breakOff unreadable (.members done key :: stack)
  | .complete value stack => breakOff value stack

/-- What a text holds: the document that it starts with, and whether that is the whole text. -/
structure Reading where
  document : Document
  isWhole : Bool

/-- Reads tokens as far as they are JSON. -/
def readTokens (progress : Progress) : List Token → Reading
  | [] =>
    match progress with
    | .complete value [] => ⟨value, true⟩
    | progress => ⟨ofProgress progress, false⟩
  | token :: rest =>
    match step? progress token with
    | some progress => readTokens progress rest
    | none => ⟨ofProgress progress, false⟩

/-- Reads a text. -/
def read (text : String) : Reading :=
  readTokens (.value []) (Token.sequence text.toList)

/-! ## Values -/

mutual

/-- The value of a document; none when some part of it is unreadable. Of members with one key the
last one counts, at the position of the first. -/
def toJson? : Document → Option Json
  | null => some .null
  | bool value => some (.bool value)
  | number value => some (.number value)
  | string value => some (.string value)
  | array items => (itemsToJson? items).map .array
  | object members => (membersToJson? members).map fun members => .object (Keyed.ofList members)
  | unreadable => none

/-- The values of some documents. -/
def itemsToJson? : List Document → Option (List Json)
  | [] => some []
  | item :: rest => do return (← item.toJson?) :: (← itemsToJson? rest)

/-- The values of some members. -/
def membersToJson? : List (Option String × Document) → Option (List (String × Json))
  | [] => some []
  | (none, _) :: _ => none
  | (some key, value) :: rest => do return (key, ← value.toJson?) :: (← membersToJson? rest)

end

end Document

mutual

/-- The document of a value. -/
def Json.toDocument : Json → Document
  | .null => .null
  | .bool value => .bool value
  | .number value => .number value
  | .string value => .string value
  | .array items => .array (Json.itemsToDocument items)
  | .object members => .object (Json.membersToDocument members)

/-- The documents of some values. -/
def Json.itemsToDocument : List Json → List Document
  | [] => []
  | item :: rest => item.toDocument :: Json.itemsToDocument rest

/-- The documents of some members. -/
def Json.membersToDocument : List (String × Json) → List (Option String × Document)
  | [] => []
  | (key, value) :: rest => (some key, value.toDocument) :: Json.membersToDocument rest

end

/-- The value of a text; none when the text is not JSON or something in it is unreadable. -/
def Json.ofText? (text : String) : Option Json :=
  let reading := Document.read text
  if reading.isWhole then reading.document.toJson? else none

end RecordAccess
