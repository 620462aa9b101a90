import RecordAccess.Filter.Compiled

/-!
# Filter builder

Builds a filter expression call by call. The open entry is the last alternative of the last item,
or that item itself when it has none; operators and values go there. The first misuse is kept and
reported, and from then on no call adds to the items.
-/

namespace RecordAccess

/-- An expression that is being built, and the first misuse, if there was one. -/
structure FilterBuilder where
  expression : FilterExpression
  error : Option FilterError
deriving Inhabited, Repr

/-- A call of the builder. -/
inductive BuilderCall where
  /-- Starts an item. -/
  | filter (key : String)
  /-- Starts an item after one that is complete. -/
  | and (key : String)
  /-- Starts an alternative of the last item. -/
  | or (key : String)
  /-- Gives the open entry an operator and a value. -/
  | compare (operator : Operator) (value : Json)
  /-- Adds a term to the order. -/
  | order (column : String) (direction : Direction) (reorder : Bool)
  | limit (n : Int)
  | skip (n : Int)
  | includes (names : List String)
deriving Repr

/-- The entry of an item that operators and values go to. -/
def FilterItem.openEntry (item : FilterItem) : FilterItem :=
  item.alternatives.getLast?.getD item

/-- Replaces the entry of an item that operators and values go to. -/
def FilterItem.setOpenEntry (item entry : FilterItem) : FilterItem :=
  if item.alternatives.isEmpty then entry
  else { item with alternatives := item.alternatives.dropLast ++ [entry] }

namespace FilterBuilder

/-- The builder of the empty expression. -/
def empty : FilterBuilder := ⟨.empty, none⟩

/-- A builder that goes on from an expression. -/
def ofExpression (expression : FilterExpression) : FilterBuilder := ⟨expression, none⟩

/-- The items after starting one, which the last item must allow by having a key. -/
def startItem (items : List FilterItem) (key : String) : Except FilterError (List FilterItem) :=
  match items.getLast? with
  | some last =>
    if last.key.isEmpty then .error .noKey else .ok (items ++ [.ofKey key])
  | none => .ok [.ofKey key]

/-- The items after starting one behind a last item that is complete. -/
def continueItems (items : List FilterItem) (key : String) :
    Except FilterError (List FilterItem) :=
  match items.getLast? with
  | some last =>
    if !last.key.isEmpty && !last.openEntry.key.isEmpty && last.openEntry.hasValue then
      .ok (items ++ [.ofKey key])
    else .error .noKey
  | none => .error .noKey

/-- The items after starting an alternative of the last one. -/
def startAlternative (items : List FilterItem) (key : String) :
    Except FilterError (List FilterItem) :=
  match items.getLast? with
  | some last =>
    if last.key.isEmpty then .error .noKey
    else if !last.openEntry.hasValue then .error .noValue
    else .ok (items.dropLast ++ [last.withAlternative (.ofKey key)])
  | none => .error .noKey

/-- The items after giving the open entry an operator and a value. -/
def assign (items : List FilterItem) (operator : Operator) (value : Json) :
    Except FilterError (List FilterItem) :=
  match items.getLast? with
  | some last =>
    let entry := last.openEntry
    if entry.key.isEmpty then .error .noKey
    else
      .ok (items.dropLast ++
        [last.setOpenEntry { entry with operator := operator.wire, value := some value }])
  | none => .error .noKey

/-- Changes the items, unless there was a misuse; a misuse now is kept. -/
def changeItems (builder : FilterBuilder)
    (change : List FilterItem → Except FilterError (List FilterItem)) : FilterBuilder :=
  match builder.error with
  | some _ => builder
  | none =>
    match change builder.expression.items with
    | .ok items => { builder with expression := { builder.expression with items := items } }
    | .error error => { builder with error := some error }

/-- Carries out a call. -/
def apply (builder : FilterBuilder) : BuilderCall → FilterBuilder
  | .filter key => builder.changeItems fun items => startItem items key
  | .and key => builder.changeItems fun items => continueItems items key
  | .or key => builder.changeItems fun items => startAlternative items key
  | .compare operator value => builder.changeItems fun items => assign items operator value
  | .order column direction reorder =>
    let term := OrderTerm.ofColumn column direction reorder
    { builder with
      expression := { builder.expression with order := builder.expression.order ++ [term] } }
  | .limit n => { builder with expression := { builder.expression with limit := n } }
  | .skip n => { builder with expression := { builder.expression with skip := n } }
  | .includes names =>
    { builder with expression := { builder.expression with includes := names } }

/-- Carries out calls one after another. -/
def applyAll (builder : FilterBuilder) (calls : List BuilderCall) : FilterBuilder :=
  calls.foldl apply builder

/-- The expression that was built, or the misuse. -/
def result (builder : FilterBuilder) : Except FilterError FilterExpression :=
  match builder.error with
  | some error => .error error
  | none => .ok builder.expression

/-- Compiles what was built, or reports the misuse. -/
def compile (builder : FilterBuilder) (columns : List String) :
    Except FilterError CompiledFilter := do
  (← builder.result).compile columns

end FilterBuilder

end RecordAccess
