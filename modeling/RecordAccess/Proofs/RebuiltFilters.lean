import RecordAccess.Proofs.BuiltFilters
import RecordAccess.Proofs.InjectionSafety

/-!
# Filters rebuilt call by call

Every filter that compiles can be built call by call (`FilterExpression.compile_calls`).
`FilterExpression.calls` is the program that does so: it goes through the items and their alternatives,
starts each and gives it its operator and value, and then goes through the order and the page. What the
program builds is not the expression itself. A value for `in` comes as a list, and a term of the order is
spelt anew from its column and direction (`FilterExpression.rebuilt`). But the two compile alike.
-/

namespace RecordAccess

/-! ## Words -/

namespace Text

theorem mem_splitOnP {p : Char → Bool} {cs run : List Char} (member : run ∈ cs.splitOnP p) :
    ∀ c ∈ run, p c = false := by
  induction cs generalizing run with
  | nil =>
    rw [List.splitOnP_nil, List.mem_singleton] at member
    rw [member]
    exact List.forall_mem_nil _
  | cons first rest ih =>
    rw [List.splitOnP_cons_eq_if_modifyHead] at member
    split at member
    · rcases List.mem_cons.1 member with rfl | later
      · exact List.forall_mem_nil _
      · exact ih later
    · next plain =>
      obtain ⟨run', others, same⟩ := List.exists_cons_of_ne_nil (List.splitOnP_ne_nil p rest)
      rw [same, List.modifyHead_cons] at member
      rcases List.mem_cons.1 member with rfl | later
      · refine List.forall_mem_cons.2 ⟨by simpa using plain, ih ?_⟩
        rw [same]
        exact List.mem_cons_self ..
      · refine ih ?_
        rw [same]
        exact List.mem_cons_of_mem _ later

/-- A text is one word: it is not empty and holds no blank. -/
structure IsWord (text : String) : Prop where
  nonempty : text ≠ ""
  plain : ∀ c ∈ text.toList, isBlank c = false

/-- What a text is split into are words. -/
theorem isWord_of_mem_words {text word : String} (member : word ∈ words text) : IsWord word := by
  obtain ⟨run, among, rfl⟩ := List.mem_map.1 member
  obtain ⟨among, nonempty⟩ := List.mem_filter.1 among
  constructor
  · intro empty
    have none : run = [] := by simpa using congrArg String.toList empty
    rw [none] at nonempty
    cases nonempty
  · rw [String.toList_ofList]
    exact mem_splitOnP among

/-- A word is split into itself. -/
theorem words_of_isWord {word : String} (single : IsWord word) : words word = [word] := by
  unfold words
  rw [List.splitOnP_eq_singleton single.plain]
  have nonempty : word.toList ≠ [] := fun none => single.nonempty (by simpa using none)
  simp [nonempty]

/-- A text that is joined by a space is split into the words of both parts. -/
theorem words_append_space (first second : String) :
    words (first ++ " " ++ second) = words first ++ words second := by
  unfold words
  rw [String.toList_append, String.toList_append, List.append_assoc]
  show ((first.toList ++ ' ' :: second.toList).splitOnP isBlank |>.filter _).map _ = _
  rw [List.splitOnP_append_cons _ _ (by decide), List.filter_append, List.map_append]

end Text

/-! ## Entries -/

/-- The value that the method of an operator hands on. The one for `in` takes a list, and a value that
is none is put into a list of its own. -/
def Operator.argument (operator : Operator) (value : Json) : Json :=
  match operator with
  | .oneOf => .array (candidates value)
  | _ => value

theorem Operator.argument_ne_null (operator : Operator) {value : Json} (notNull : value ≠ .null) :
    operator.argument value ≠ .null := by
  cases operator with
  | oneOf => exact Json.noConfusion
  | _ => exact notNull

theorem FilterItem.operand_argument (operator : Operator) (value : Json) :
    operand operator (operator.argument value) = operand operator value := by
  cases operator with
  | oneOf => cases value <;> rfl
  | _ => rfl

namespace FilterItem

/-- The calls for an entry: one that starts it, and the method of its operator with its value. -/
def entryCalls (start : String → BuilderCall) (entry : FilterItem) : List BuilderCall :=
  match Operator.ofWire? entry.operator, entry.value with
  | some operator, some value => [start entry.key, .compare operator (operator.argument value)]
  | _, _ => [start entry.key]

/-- The calls for an item: those for its own comparison, then those for its alternatives. -/
def calls (start : String → BuilderCall) (item : FilterItem) : List BuilderCall :=
  item.entryCalls start ++ item.alternatives.flatMap (entryCalls .or)

/-- The entry that is built for an entry: its value is the one that the method hands on. -/
def rebuiltEntry (entry : FilterItem) : FilterItem :=
  match Operator.ofWire? entry.operator with
  | some operator => ⟨entry.key, entry.operator, entry.value.map operator.argument, []⟩
  | none => ⟨entry.key, entry.operator, entry.value, []⟩

/-- The item that is built for an item. -/
def rebuilt (item : FilterItem) : FilterItem :=
  { item.rebuiltEntry with alternatives := item.alternatives.map rebuiltEntry }

variable {columns : List String} {item entry : FilterItem}

theorem entryCalls_eq {operator : Operator} {value : Json}
    (known : Operator.ofWire? entry.operator = some operator) (given : entry.value = some value)
    (start : String → BuilderCall) :
    entry.entryCalls start = [start entry.key, .compare operator (operator.argument value)] := by
  unfold entryCalls
  simp only [known, given]

/-! ### What is built compiles alike -/

theorem alternatives_rebuiltEntry (entry : FilterItem) : entry.rebuiltEntry.alternatives = [] := by
  unfold rebuiltEntry
  split <;> rfl

theorem rebuiltEntry_eq {operator : Operator} {value : Json}
    (known : Operator.ofWire? entry.operator = some operator) (given : entry.value = some value) :
    entry.rebuiltEntry = ⟨entry.key, operator.wire, some (operator.argument value), []⟩ := by
  have spelt := Operator.ofWire?_eq_some.1 known
  unfold rebuiltEntry
  simp only [known, given, Option.map_some]
  rw [spelt]

/-- What is built for a complete entry compiles as the entry does. -/
theorem compile_rebuiltEntry (complete : entry.IsComplete columns) :
    entry.rebuiltEntry.compile columns = entry.compile columns := by
  obtain ⟨operator, known⟩ := complete.operator
  obtain ⟨value, given, notNull⟩ := complete.value
  have handed : value? ⟨entry.key, operator.wire, some (operator.argument value), []⟩ =
      some (operator.argument value) :=
    value?_eq_some.2 ⟨rfl, operator.argument_ne_null notNull⟩
  have present : entry.value? = some value := value?_eq_some.2 ⟨given, notNull⟩
  have spelt := Operator.ofWire?_eq_some.1 known
  rw [rebuiltEntry_eq known given]
  unfold compile
  rw [handed, present, spelt, Operator.ofWire?_eq_some.2 rfl]
  simp only [operand_argument]

theorem compileAlternative_rebuiltEntry (complete : entry.IsComplete columns)
    (flat : entry.alternatives = []) :
    entry.rebuiltEntry.compileAlternative columns = entry.compileAlternative columns := by
  unfold compileAlternative
  rw [flat, alternatives_rebuiltEntry, compile_rebuiltEntry complete]
  rfl

/-- What is built for an item compiles as the item does, if its entries are complete. -/
theorem compileClause_rebuilt (complete : item.IsComplete columns)
    (alternatives : ∀ entry ∈ item.alternatives,
      entry.alternatives = [] ∧ entry.IsComplete columns) :
    item.rebuilt.compileClause columns = item.compileClause columns := by
  have others : (item.alternatives.map rebuiltEntry).mapM (compileAlternative columns) =
      item.alternatives.mapM (compileAlternative columns) :=
    mapM_map_congr fun entry member =>
      compileAlternative_rebuiltEntry (alternatives entry member).2 (alternatives entry member).1
  have own : item.rebuilt.compile columns = item.rebuiltEntry.compile columns := rfl
  unfold compileClause
  rw [own, compile_rebuiltEntry complete]
  show (item.compile columns >>= fun own =>
    (item.alternatives.map rebuiltEntry).mapM (compileAlternative columns) >>= _) = _
  rw [others]

/-! ### What is built is filled -/

theorem openEntry_rebuiltEntry (entry : FilterItem) :
    entry.rebuiltEntry.openEntry = entry.rebuiltEntry := by
  unfold openEntry
  rw [alternatives_rebuiltEntry]
  rfl

theorem isFilled_rebuiltEntry (complete : entry.IsComplete columns) : entry.rebuiltEntry.IsFilled := by
  obtain ⟨operator, known⟩ := complete.operator
  obtain ⟨value, given, notNull⟩ := complete.value
  rw [rebuiltEntry_eq known given]
  exact ⟨complete.named, _, rfl, operator.argument_ne_null notNull⟩

/-- The entry that is open after an item was built is filled, so that another may be started. -/
theorem isFilled_openEntry_rebuilt (complete : item.IsComplete columns)
    (alternatives : ∀ entry ∈ item.alternatives, entry.IsComplete columns) :
    item.rebuilt.openEntry.IsFilled := by
  rcases List.mem_cons.1 (openEntry_mem item.rebuilt) with own | alternative
  · have filled := isFilled_rebuiltEntry complete
    rw [own]
    exact ⟨filled.named, filled.valued⟩
  · obtain ⟨entry, member, same⟩ := List.mem_map.1 alternative
    rw [← same]
    exact isFilled_rebuiltEntry (alternatives entry member)

/-! ### The open entry of an item that has just got an alternative -/

theorem openEntry_withAlternative (item entry : FilterItem) :
    (item.withAlternative entry).openEntry = entry := by
  unfold openEntry withAlternative
  rw [List.getLast?_concat]
  rfl

theorem setOpenEntry_withAlternative (item entry other : FilterItem) :
    (item.withAlternative entry).setOpenEntry other = item.withAlternative other := by
  unfold setOpenEntry withAlternative
  rw [List.dropLast_concat]
  simp

end FilterItem

/-! ## Order -/

namespace OrderTerm

variable {columns : List String} {term : OrderTerm}

/-- The name and the direction that a term is split into. -/
def parts? (term : OrderTerm) : Option (String × Direction) :=
  match Text.words term.key with
  | [name] => some (name, .ascending)
  | [name, word] => (Direction.ofText? word).map fun direction => (name, direction)
  | _ => none

/-- The call for a term. -/
def call? (term : OrderTerm) : Option BuilderCall :=
  term.parts?.map fun (name, direction) => .order name direction term.reorder

/-- The term that is built for a term. -/
def rebuilt (term : OrderTerm) : OrderTerm :=
  match term.parts? with
  | some (name, direction) => .ofColumn name direction term.reorder
  | none => term

theorem reorder_rebuilt (term : OrderTerm) : term.rebuilt.reorder = term.reorder := by
  unfold rebuilt
  split
  · next name direction _ => cases direction <;> rfl
  · rfl

/-- A term that was made of a word and a direction is split into them again. -/
theorem parts?_ofColumn {name : String} (word : Text.IsWord name) (direction : Direction)
    (reorder : Bool) : (ofColumn name direction reorder).parts? = some (name, direction) := by
  cases direction with
  | ascending =>
    have split : Text.words (ofColumn name .ascending reorder).key = [name] :=
      Text.words_of_isWord word
    unfold parts?
    rw [split]
  | descending =>
    have alone : Text.words "DESC" = ["DESC"] := by decide
    have split : Text.words (ofColumn name .descending reorder).key = [name, "DESC"] := by
      show Text.words (name ++ " " ++ "DESC") = _
      rw [Text.words_append_space, Text.words_of_isWord word, alone]
      rfl
    unfold parts?
    rw [split]
    rfl

/-- A term compiles by its name and its direction, if it is split into them. -/
theorem compile_eq (columns : List String) (term : OrderTerm) :
    term.compile columns =
      match term.parts? with
      | some (name, direction) =>
        match resolveColumn? columns name with
        | some column => .ok ⟨column, direction⟩
        | none => .error (.unknownColumn name)
      | none => .error (.invalidOrder term.key) := by
  unfold compile parts?
  rcases Text.words term.key with _ | ⟨name, _ | ⟨word, _ | _⟩⟩
  · rfl
  · rfl
  · dsimp only
    cases Direction.ofText? word <;> rfl
  · rfl

theorem isWord_of_parts? {name : String} {direction : Direction}
    (split : term.parts? = some (name, direction)) : Text.IsWord name := by
  have among : name ∈ Text.words term.key := by
    unfold parts? at split
    generalize Text.words term.key = words at split ⊢
    rcases words with _ | ⟨first, _ | ⟨word, _ | _⟩⟩
    · cases split
    · cases split
      exact List.mem_cons_self ..
    · obtain ⟨_, -, same⟩ := Option.map_eq_some_iff.1 split
      cases same
      exact List.mem_cons_self ..
    · cases split
  exact Text.isWord_of_mem_words among

/-- What is built for a term compiles as the term does. -/
theorem compile_rebuilt (columns : List String) (term : OrderTerm) :
    term.rebuilt.compile columns = term.compile columns := by
  unfold rebuilt
  split
  · next name direction split =>
    rw [compile_eq, compile_eq, split, parts?_ofColumn (isWord_of_parts? split)]
  · rfl

theorem compileAll_rebuilt (columns : List String) (keys : List SortKey) (terms : List OrderTerm) :
    compileAll columns keys (terms.map rebuilt) = compileAll columns keys terms := by
  induction terms generalizing keys with
  | nil => rfl
  | cons term rest ih =>
    rw [List.map_cons, compileAll, compileAll, compile_rebuilt, reorder_rebuilt]
    simp only [ih]

/-- A term that compiles has a call, which adds the term that is built for it. -/
theorem call?_of_standsFor {key : SortKey} (stands : term.StandsFor columns key) :
    ∃ name direction, term.call? = some (.order name direction term.reorder) ∧
      term.rebuilt = .ofColumn name direction term.reorder := by
  have compiled := compile_eq_ok.2 stands
  rw [compile_eq] at compiled
  unfold call? rebuilt
  cases split : term.parts? with
  | none =>
    rw [split] at compiled
    cases compiled
  | some parts => exact ⟨parts.1, parts.2, rfl, rfl⟩

end OrderTerm

/-! ## Running the calls -/

namespace FilterBuilder

variable {columns : List String} {items init : List FilterItem} {item entry : FilterItem}

/-- A builder of items that has met no misuse and was not told of an order or a page. -/
def holding (items : List FilterItem) : FilterBuilder :=
  ofExpression { FilterExpression.empty with items }

theorem changeItems_holding {change : List FilterItem → Except FilterError (List FilterItem)}
    {made : List FilterItem} (changed : change items = .ok made) :
    (holding items).changeItems change = holding made :=
  changeItems_of_ok rfl changed

/-- Once an item is started, its own comparison is built. -/
theorem applyAll_entryCalls {start : String → BuilderCall}
    (started : (holding items).apply (start item.key) = holding (items ++ [.ofKey item.key]))
    (complete : item.IsComplete columns) :
    (holding items).applyAll (item.entryCalls start) = holding (items ++ [item.rebuiltEntry]) := by
  obtain ⟨operator, known⟩ := complete.operator
  obtain ⟨value, given, -⟩ := complete.value
  have assigned : assign (items ++ [.ofKey item.key]) operator (operator.argument value) =
      .ok (items ++ [item.rebuiltEntry]) := by
    refine assign_eq_ok.2 ⟨items, .ofKey item.key, rfl, complete.named, ?_⟩
    rw [FilterItem.rebuiltEntry_eq known given]
    rfl
  rw [FilterItem.entryCalls_eq known given]
  show ((holding items).apply (start item.key)).changeItems
    (fun items => assign items operator (operator.argument value)) = _
  rw [started]
  exact changeItems_holding assigned

/-- An alternative of an item whose open entry is filled is built. -/
theorem applyAll_alternative (named : item.key ≠ "") (filled : item.openEntry.IsFilled)
    (complete : entry.IsComplete columns) :
    (holding (init ++ [item])).applyAll (entry.entryCalls .or) =
      holding (init ++ [item.withAlternative entry.rebuiltEntry]) := by
  obtain ⟨operator, known⟩ := complete.operator
  obtain ⟨value, given, -⟩ := complete.value
  have started : startAlternative (init ++ [item]) entry.key =
      .ok (init ++ [item.withAlternative (.ofKey entry.key)]) :=
    startAlternative_eq_ok.2
      ⟨init, item, rfl, named, FilterItem.hasValue_iff.2 filled.valued, rfl⟩
  have assigned : assign (init ++ [item.withAlternative (.ofKey entry.key)]) operator
      (operator.argument value) = .ok (init ++ [item.withAlternative entry.rebuiltEntry]) := by
    refine assign_eq_ok.2 ⟨init, item.withAlternative (.ofKey entry.key), rfl, ?_, ?_⟩
    · rw [FilterItem.openEntry_withAlternative]
      exact complete.named
    · rw [FilterItem.openEntry_withAlternative, FilterItem.setOpenEntry_withAlternative,
        FilterItem.rebuiltEntry_eq known given]
      rfl
  rw [FilterItem.entryCalls_eq known given]
  show ((holding (init ++ [item])).changeItems fun items => startAlternative items entry.key).changeItems
    (fun items => assign items operator (operator.argument value)) = _
  rw [changeItems_holding started]
  exact changeItems_holding assigned

/-- Alternatives are built one after another. -/
theorem applyAll_alternatives (named : item.key ≠ "") (filled : item.openEntry.IsFilled)
    {entries : List FilterItem} (complete : ∀ entry ∈ entries, entry.IsComplete columns) :
    (holding (init ++ [item])).applyAll (entries.flatMap (FilterItem.entryCalls .or)) =
      holding (init ++
        [{ item with alternatives := item.alternatives ++ entries.map FilterItem.rebuiltEntry }]) := by
  induction entries generalizing item with
  | nil =>
    cases item
    rw [List.flatMap_nil, List.map_nil, List.append_nil]
    rfl
  | cons entry rest ih =>
    obtain ⟨first, others⟩ := List.forall_mem_cons.1 complete
    have next_named : (item.withAlternative entry.rebuiltEntry).key ≠ "" := named
    have next_filled : (item.withAlternative entry.rebuiltEntry).openEntry.IsFilled := by
      rw [FilterItem.openEntry_withAlternative]
      exact FilterItem.isFilled_rebuiltEntry first
    rw [List.flatMap_cons, applyAll_append, applyAll_alternative named filled first,
      ih next_named next_filled others, List.map_cons, List.append_cons item.alternatives]
    rfl

/-- Once an item is started, it is built with its alternatives. -/
theorem applyAll_calls {start : String → BuilderCall}
    (started : (holding items).apply (start item.key) = holding (items ++ [.ofKey item.key]))
    (complete : item.IsComplete columns)
    (alternatives : ∀ entry ∈ item.alternatives, entry.IsComplete columns) :
    (holding items).applyAll (item.calls start) = holding (items ++ [item.rebuilt]) := by
  have filled := FilterItem.isFilled_rebuiltEntry complete
  unfold FilterItem.calls
  rw [applyAll_append, applyAll_entryCalls started complete]
  rw [applyAll_alternatives filled.named ?_ alternatives]
  · rw [FilterItem.alternatives_rebuiltEntry, List.nil_append]
    rfl
  · rwa [FilterItem.openEntry_rebuiltEntry]

/-- Items after the first are built one after another, each once the one before it is filled. -/
theorem applyAll_items {others : List FilterItem}
    (ready : ∃ last, items.getLast? = some last ∧ last.key ≠ "" ∧ last.openEntry.IsFilled)
    (complete : ∀ item ∈ others, item.IsComplete columns)
    (alternatives : ∀ item ∈ others, ∀ entry ∈ item.alternatives, entry.IsComplete columns) :
    (holding items).applyAll (others.flatMap (FilterItem.calls .and)) =
      holding (items ++ others.map FilterItem.rebuilt) := by
  induction others generalizing items with
  | nil =>
    rw [List.flatMap_nil, List.map_nil, List.append_nil]
    rfl
  | cons item rest ih =>
    obtain ⟨first, complete⟩ := List.forall_mem_cons.1 complete
    obtain ⟨entries, alternatives⟩ := List.forall_mem_cons.1 alternatives
    have started : (holding items).apply (.and item.key) = holding (items ++ [.ofKey item.key]) := by
      show (holding items).changeItems (fun items => continueItems items item.key) = _
      exact changeItems_holding (continueItems_eq_ok.2 ⟨ready, rfl⟩)
    rw [List.flatMap_cons, applyAll_append, applyAll_calls started first entries,
      ih ⟨item.rebuilt, List.getLast?_concat .., ?_, ?_⟩ complete alternatives]
    · rw [List.map_cons, List.append_cons items item.rebuilt (rest.map _)]
    · exact (FilterItem.isFilled_rebuiltEntry first).named
    · exact FilterItem.isFilled_openEntry_rebuilt first entries

/-- The first item is started on its own, since there is none before it. -/
theorem applyAll_first (complete : item.IsComplete columns)
    (alternatives : ∀ entry ∈ item.alternatives, entry.IsComplete columns) :
    empty.applyAll (item.calls .filter) = holding [item.rebuilt] := by
  have started : (holding []).apply (.filter item.key) = holding ([] ++ [.ofKey item.key]) := by
    show (holding []).changeItems (fun items => startItem items item.key) = _
    exact changeItems_holding (startItem_eq_ok.2 ⟨nofun, rfl⟩)
  exact applyAll_calls started complete alternatives

/-- Terms are added to the order one after another. -/
theorem applyAll_order (expression : FilterExpression) {terms : List OrderTerm}
    (stand : ∀ term ∈ terms, ∃ key, term.StandsFor columns key) :
    (ofExpression expression).applyAll (terms.filterMap OrderTerm.call?) =
      ofExpression { expression with order := expression.order ++ terms.map OrderTerm.rebuilt } := by
  induction terms generalizing expression with
  | nil =>
    rw [List.filterMap_nil, List.map_nil, List.append_nil]
    rfl
  | cons term rest ih =>
    obtain ⟨⟨key, first⟩, others⟩ := List.forall_mem_cons.1 stand
    obtain ⟨name, direction, call, rebuilt⟩ := OrderTerm.call?_of_standsFor first
    have added : (ofExpression expression).apply (.order name direction term.reorder) =
        ofExpression { expression with order := expression.order ++ [term.rebuilt] } := by
      rw [rebuilt]
      rfl
    rw [List.filterMap_cons_some call]
    show ((ofExpression expression).apply _).applyAll _ = _
    rw [added, ih _ others, List.map_cons, List.append_cons expression.order term.rebuilt (rest.map _)]

end FilterBuilder

/-! ## Expressions -/

namespace FilterExpression

variable {columns : List String} {expression : FilterExpression}

/-- The calls for some items. Only before the first one is there none that must be filled. -/
def itemCalls : List FilterItem → List BuilderCall
  | [] => []
  | first :: rest => first.calls .filter ++ rest.flatMap (FilterItem.calls .and)

/-- The program that builds an expression: its items, its order, its page and its relations. -/
def calls (expression : FilterExpression) : List BuilderCall :=
  itemCalls expression.items ++ expression.order.filterMap OrderTerm.call? ++
    [.limit expression.limit, .skip expression.skip, .includes expression.includes]

/-- The expression that is built for an expression. -/
def rebuilt (expression : FilterExpression) : FilterExpression :=
  { expression with
    items := expression.items.map FilterItem.rebuilt
    order := expression.order.map OrderTerm.rebuilt }

theorem applyAll_itemCalls (wellFormed : expression.IsWellFormed columns) :
    FilterBuilder.empty.applyAll (itemCalls expression.items) =
      .holding (expression.items.map FilterItem.rebuilt) := by
  obtain ⟨complete, alternatives, -⟩ := wellFormed
  cases items : expression.items with
  | nil => rfl
  | cons first rest =>
    rw [items] at complete alternatives
    obtain ⟨own, complete⟩ := List.forall_mem_cons.1 complete
    obtain ⟨entries, alternatives⟩ := List.forall_mem_cons.1 alternatives
    have ready : ∃ last, [first.rebuilt].getLast? = some last ∧ last.key ≠ "" ∧
        last.openEntry.IsFilled :=
      ⟨first.rebuilt, rfl, (FilterItem.isFilled_rebuiltEntry own).named,
        FilterItem.isFilled_openEntry_rebuilt own fun entry member => (entries entry member).2⟩
    rw [itemCalls, FilterBuilder.applyAll_append,
      FilterBuilder.applyAll_first own fun entry member => (entries entry member).2,
      FilterBuilder.applyAll_items ready complete fun item member entry among =>
        (alternatives item member entry among).2]
    rfl

/-- The calls for a well-formed expression meet no misuse, and build what they should. -/
theorem applyAll_calls (wellFormed : expression.IsWellFormed columns) :
    FilterBuilder.empty.applyAll expression.calls = .ofExpression expression.rebuilt := by
  unfold calls
  rw [FilterBuilder.applyAll_append, FilterBuilder.applyAll_append, applyAll_itemCalls wellFormed]
  unfold FilterBuilder.holding
  rw [FilterBuilder.applyAll_order _ wellFormed.order]
  rfl

/-- What is built for a well-formed expression compiles as the expression does. -/
theorem compile_rebuilt (wellFormed : expression.IsWellFormed columns) :
    expression.rebuilt.compile columns = expression.compile columns := by
  have clauses : (expression.items.map FilterItem.rebuilt).mapM (FilterItem.compileClause columns) =
      expression.items.mapM (FilterItem.compileClause columns) :=
    mapM_map_congr fun item member => FilterItem.compileClause_rebuilt
      (wellFormed.items item member) (wellFormed.alternatives item member)
  unfold compile rebuilt
  simp only [clauses, OrderTerm.compileAll_rebuilt]

/-- An expression that compiles can be built: its calls meet no misuse, and what they build compiles to
the same filter. -/
theorem compile_calls {filter : CompiledFilter} (compiled : expression.compile columns = .ok filter) :
    (FilterBuilder.empty.applyAll expression.calls).error = none ∧
      (FilterBuilder.empty.applyAll expression.calls).compile columns = .ok filter := by
  have wellFormed : expression.IsWellFormed columns := by
    rw [← faults_eq_nil, ← (reports_compile columns expression).ok_iff]
    exact ⟨filter, compiled⟩
  rw [applyAll_calls wellFormed]
  refine ⟨rfl, ?_⟩
  show expression.rebuilt.compile columns = .ok filter
  rw [compile_rebuilt wellFormed, compiled]

/-- The notes titled `a` or of rank three and more are built by nine calls. The one value for `in` is handed
on in a list, and the order is told by a plain column and a direction. -/
theorem compile_calls_rankedNotes :
    rankedNotes.calls = [.filter "TITLE", .compare .oneOf (.array [.string "a"]), .or "rank",
      .compare .greaterOrEqual (.integer 3), .order "title" .ascending false,
      .order "Rank" .descending true, .limit 5, .skip 0, .includes []] ∧
    (FilterBuilder.empty.applyAll rankedNotes.calls).error = none ∧
    (FilterBuilder.empty.applyAll rankedNotes.calls).compile ["id", "title", "rank"] =
      .ok rankedNotesFilter := by
  have compiled : rankedNotes.compile ["id", "title", "rank"] = .ok rankedNotesFilter := by
    rfl
  exact ⟨rfl, compile_calls compiled⟩

end FilterExpression

end RecordAccess
