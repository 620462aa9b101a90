import RecordAccess.Filter.Builder
import RecordAccess.Proofs.WellFormedFilters

/-!
# Built filters

What a builder holds after any calls (`FilterBuilder.built_after`). An entry is left behind only when it
is filled: another alternative is started when the open entry has a value, and a value is given to an
entry that has a key. So an entry that lacks one of the two is the last of its item, an item without a
key is the last of all, and no alternative ever has alternatives of its own.

The first misuse is kept. Nothing that is called later clears or replaces it, and a builder that has one
compiles to it.
-/

namespace RecordAccess

/-! ## Items -/

namespace FilterItem

variable {item : FilterItem}

/-- An entry has a key, and a value that is not null. -/
structure IsFilled (entry : FilterItem) : Prop where
  named : entry.key ≠ ""
  valued : ∃ value, entry.value = some value ∧ value ≠ .null

/-- An entry as a builder leaves it: it has no operator yet or one of the list, and no value before it
has a key. -/
structure IsEntry (entry : FilterItem) : Prop where
  operator : entry.operator = "" ∨ ∃ operator : Operator, entry.operator = operator.wire
  unvalued : entry.key = "" → entry.value = none

/-- An item as a builder leaves it. -/
structure IsBuilt (item : FilterItem) : Prop where
  /-- Alternatives attach to an item that is filled. -/
  filled : item.alternatives ≠ [] → item.IsFilled
  /-- Only the last alternative may lack something. -/
  closed : ∀ entry ∈ item.alternatives.dropLast, entry.IsFilled
  /-- Alternatives have no alternatives of their own. -/
  flat : ∀ entry ∈ item.alternatives, entry.alternatives = []
  entries : ∀ entry ∈ item :: item.alternatives, entry.IsEntry

theorem isFilled_iff :
    item.IsFilled ↔ item.key ≠ "" ∧ ∃ value, item.value = some value ∧ value ≠ .null :=
  ⟨fun filled => ⟨filled.named, filled.valued⟩, fun ⟨named, valued⟩ => ⟨named, valued⟩⟩

theorem hasValue_iff : item.hasValue = true ↔ ∃ value, item.value = some value ∧ value ≠ .null := by
  unfold hasValue
  rw [Option.isSome_iff_exists]
  simp only [value?_eq_some]

/-! ### The open entry -/

/-- The open entry of an item is the item itself while it has no alternatives, and else the last of
them. -/
theorem openEntry_cases (item : FilterItem) :
    item.alternatives = [] ∧ item.openEntry = item ∨
      item.alternatives = item.alternatives.dropLast ++ [item.openEntry] := by
  unfold openEntry
  rcases List.eq_nil_or_concat item.alternatives with none | ⟨init, last, some⟩
  · exact .inl ⟨none, by rw [none]; rfl⟩
  · refine .inr ?_
    rw [some, List.concat_eq_append, List.dropLast_concat, List.getLast?_concat]
    rfl

theorem openEntry_mem (item : FilterItem) : item.openEntry ∈ item :: item.alternatives := by
  rcases openEntry_cases item with ⟨-, own⟩ | last
  · rw [own]
    exact List.mem_cons_self ..
  · refine List.mem_cons_of_mem _ ?_
    rw [last]
    exact List.mem_append_right _ (List.mem_singleton_self _)

/-- An entry that has a value has a key. -/
theorem IsBuilt.isFilled_openEntry (built : item.IsBuilt) (valued : item.openEntry.hasValue = true) :
    item.openEntry.IsFilled := by
  obtain ⟨value, given, notNull⟩ := hasValue_iff.1 valued
  refine ⟨?_, value, given, notNull⟩
  intro unnamed
  have missing := (built.entries _ (openEntry_mem item)).unvalued unnamed
  rw [given] at missing
  cases missing

/-! ### What the calls make of an item -/

theorem isEntry_ofKey (key : String) : (ofKey key).IsEntry :=
  ⟨.inl rfl, fun _ => rfl⟩

/-- An item without alternatives is as it should be when its own entry is. -/
theorem isBuilt_of_entry (none : item.alternatives = []) (entry : item.IsEntry) : item.IsBuilt where
  filled some := absurd none some
  closed entry member := by
    rw [none] at member
    cases member
  flat entry member := by
    rw [none] at member
    cases member
  entries entry member := by
    rw [none] at member
    rwa [List.mem_singleton.1 member]

/-- An item with alternatives is as it should be when it is filled, and all of them but the last. -/
theorem isBuilt_of_concat {earlier : List FilterItem} {last : FilterItem} (filled : item.IsFilled)
    (own : item.IsEntry) (closed : ∀ entry ∈ earlier, entry.IsFilled)
    (flat : ∀ entry ∈ earlier, entry.alternatives = []) (entries : ∀ entry ∈ earlier, entry.IsEntry)
    (last_flat : last.alternatives = []) (last_entry : last.IsEntry) :
    ({ item with alternatives := earlier ++ [last] } : FilterItem).IsBuilt where
  filled _ := ⟨filled.named, filled.valued⟩
  closed := by rwa [List.dropLast_concat]
  flat := List.forall_mem_append.2 ⟨flat, List.forall_mem_singleton.2 last_flat⟩
  entries := List.forall_mem_cons.2 ⟨⟨own.operator, own.unvalued⟩,
    List.forall_mem_append.2 ⟨entries, List.forall_mem_singleton.2 last_entry⟩⟩

theorem isBuilt_ofKey (key : String) : (ofKey key).IsBuilt :=
  isBuilt_of_entry rfl (isEntry_ofKey key)

namespace IsBuilt

theorem own (built : item.IsBuilt) : item.IsEntry :=
  built.entries item (List.mem_cons_self ..)

/-- An item is left as it should be when an alternative is started after an open entry that has a
value. -/
theorem withAlternative (built : item.IsBuilt) (valued : item.openEntry.hasValue = true)
    (key : String) : (item.withAlternative (.ofKey key)).IsBuilt := by
  have open_filled := built.isFilled_openEntry valued
  have filled : item.IsFilled := by
    rcases openEntry_cases item with ⟨-, own⟩ | last
    · exact own ▸ open_filled
    · exact built.filled fun none => by rw [none] at last; cases last
  -- All alternatives that were there are filled, the one that was open included.
  have closed : ∀ entry ∈ item.alternatives, entry.IsFilled := by
    rcases openEntry_cases item with ⟨none, -⟩ | last
    · rw [none]
      exact List.forall_mem_nil _
    · rw [last]
      exact List.forall_mem_append.2 ⟨built.closed, List.forall_mem_singleton.2 open_filled⟩
  exact isBuilt_of_concat filled built.own closed built.flat
    (fun entry member => built.entries entry (List.mem_cons_of_mem _ member)) rfl (isEntry_ofKey key)

/-- An item is left as it should be when its open entry, which has a key, is given an operator and a
value. -/
theorem setOpenEntry (built : item.IsBuilt) (named : item.openEntry.key ≠ "")
    (operator : Operator) (value : Json) :
    (item.setOpenEntry
      { item.openEntry with operator := operator.wire, value := some value }).IsBuilt := by
  have given : ({ item.openEntry with operator := operator.wire, value := some value } :
      FilterItem).IsEntry :=
    ⟨.inr ⟨operator, rfl⟩, fun unnamed => absurd unnamed named⟩
  unfold FilterItem.setOpenEntry
  rcases openEntry_cases item with ⟨none, own⟩ | last
  · rw [none, if_pos List.isEmpty_nil]
    rw [own] at given ⊢
    exact isBuilt_of_entry none given
  · have some : item.alternatives ≠ [] := fun none => by rw [none] at last; cases last
    have earlier : ∀ entry ∈ item.alternatives.dropLast, entry ∈ item.alternatives :=
      List.dropLast_subset _
    have open_mem : item.openEntry ∈ item.alternatives := by
      rw [last]
      exact List.mem_append_right _ (List.mem_singleton_self _)
    rw [if_neg (by simpa using some)]
    exact isBuilt_of_concat (built.filled some) built.own built.closed
      (fun entry member => built.flat entry (earlier entry member))
      (fun entry member => built.entries entry (List.mem_cons_of_mem _ (earlier entry member)))
      (built.flat item.openEntry open_mem) given

end IsBuilt

end FilterItem

/-! ## Lists of items -/

namespace FilterBuilder

variable {items made : List FilterItem} {key : String}

/-- Items as a builder leaves them: only the last one may lack a key. -/
structure AreBuilt (items : List FilterItem) : Prop where
  named : ∀ item ∈ items.dropLast, item.key ≠ ""
  each : ∀ item ∈ items, item.IsBuilt

theorem areBuilt_concat {init : List FilterItem} {last : FilterItem} :
    AreBuilt (init ++ [last]) ↔ (∀ item ∈ init, item.key ≠ "" ∧ item.IsBuilt) ∧ last.IsBuilt := by
  constructor
  · rintro ⟨named, each⟩
    rw [List.dropLast_concat] at named
    refine ⟨fun item member => ⟨named item member, each item (List.mem_append_left _ member)⟩, ?_⟩
    exact each last (List.mem_append_right _ (List.mem_singleton_self _))
  · rintro ⟨earlier, built⟩
    constructor
    · rw [List.dropLast_concat]
      exact fun item member => (earlier item member).1
    · intro item member
      rcases List.mem_append.1 member with before | same
      · exact (earlier item before).2
      · rw [List.mem_singleton.1 same]
        exact built

/-! ### When the calls succeed -/

theorem startItem_eq_ok :
    startItem items key = .ok made ↔
      (∀ last, items.getLast? = some last → last.key ≠ "") ∧ made = items ++ [.ofKey key] := by
  unfold startItem
  cases found : items.getLast? with
  | none =>
    obtain rfl := List.getLast?_eq_none_iff.1 found
    simp [eq_comm (b := made)]
  | some last =>
    by_cases unnamed : last.key = "" <;> simp [unnamed, eq_comm (b := made)]

theorem continueItems_eq_ok :
    continueItems items key = .ok made ↔
      (∃ last, items.getLast? = some last ∧ last.key ≠ "" ∧ last.openEntry.IsFilled) ∧
        made = items ++ [.ofKey key] := by
  unfold continueItems
  cases found : items.getLast? with
  | none => simp
  | some last =>
    have complete : (!last.key.isEmpty && !last.openEntry.key.isEmpty && last.openEntry.hasValue) = true ↔
        last.key ≠ "" ∧ last.openEntry.IsFilled := by
      rw [Bool.and_eq_true, Bool.and_eq_true, FilterItem.hasValue_iff, FilterItem.isFilled_iff]
      simp [and_assoc]
    by_cases filled : last.key ≠ "" ∧ last.openEntry.IsFilled
    · simp [complete.2 filled, filled, eq_comm (b := made)]
    · simp [mt complete.1 filled, filled]

theorem startAlternative_eq_ok :
    startAlternative items key = .ok made ↔
      ∃ init last, items = init ++ [last] ∧ last.key ≠ "" ∧ last.openEntry.hasValue = true ∧
        made = init ++ [last.withAlternative (.ofKey key)] := by
  unfold startAlternative
  rcases List.eq_nil_or_concat items with rfl | ⟨init, last, rfl⟩
  · simp
  · rw [List.concat_eq_append, List.getLast?_concat, List.dropLast_concat]
    by_cases unnamed : last.key = "" <;> by_cases valued : last.openEntry.hasValue = true <;>
      simp [unnamed, valued, eq_comm (b := made)]

theorem assign_eq_ok {operator : Operator} {value : Json} :
    assign items operator value = .ok made ↔
      ∃ init last, items = init ++ [last] ∧ last.openEntry.key ≠ "" ∧
        made = init ++ [last.setOpenEntry
          { last.openEntry with operator := operator.wire, value := some value }] := by
  unfold assign
  rcases List.eq_nil_or_concat items with rfl | ⟨init, last, rfl⟩
  · simp
  · rw [List.concat_eq_append, List.getLast?_concat, List.dropLast_concat]
    by_cases unnamed : last.openEntry.key = "" <;> simp [unnamed, eq_comm (b := made)]

/-- What the calls that change the items report is misuse. -/
theorem isBuilderError_of_startItem {error : FilterError}
    (failed : startItem items key = .error error) : error.isBuilderError = true := by
  unfold startItem at failed
  split at failed
  · split at failed <;> cases failed
    rfl
  · cases failed

theorem isBuilderError_of_continueItems {error : FilterError}
    (failed : continueItems items key = .error error) : error.isBuilderError = true := by
  unfold continueItems at failed
  split at failed
  · split at failed <;> cases failed
    rfl
  · cases failed
    rfl

theorem isBuilderError_of_startAlternative {error : FilterError}
    (failed : startAlternative items key = .error error) : error.isBuilderError = true := by
  unfold startAlternative at failed
  split at failed
  · split at failed
    · cases failed
      rfl
    · split at failed <;> cases failed
      rfl
  · cases failed
    rfl

theorem isBuilderError_of_assign {operator : Operator} {value : Json} {error : FilterError}
    (failed : assign items operator value = .error error) : error.isBuilderError = true := by
  unfold assign at failed
  split at failed
  · dsimp only at failed
    split at failed <;> cases failed
    rfl
  · cases failed
    rfl

/-! ### What the calls make of the items -/

/-- A started item goes behind items that all have a key. -/
theorem AreBuilt.start (built : AreBuilt items)
    (named : ∀ last, items.getLast? = some last → last.key ≠ "") (key : String) :
    AreBuilt (items ++ [.ofKey key]) := by
  refine areBuilt_concat.2 ⟨fun item member => ⟨?_, built.each item member⟩,
    FilterItem.isBuilt_ofKey key⟩
  rcases List.eq_nil_or_concat items with rfl | ⟨init, last, rfl⟩
  · cases member
  · rw [List.concat_eq_append] at member named built
    rcases List.mem_append.1 member with earlier | same
    · exact ((areBuilt_concat.1 built).1 item earlier).1
    · rw [List.mem_singleton.1 same]
      exact named last (List.getLast?_concat ..)

theorem areBuilt_of_startItem (built : AreBuilt items) (started : startItem items key = .ok made) :
    AreBuilt made := by
  obtain ⟨named, rfl⟩ := startItem_eq_ok.1 started
  exact built.start named key

theorem areBuilt_of_continueItems (built : AreBuilt items)
    (started : continueItems items key = .ok made) : AreBuilt made := by
  obtain ⟨⟨last, found, named, -⟩, rfl⟩ := continueItems_eq_ok.1 started
  refine built.start (fun other there => ?_) key
  rw [found] at there
  cases there
  exact named

theorem areBuilt_of_startAlternative (built : AreBuilt items)
    (started : startAlternative items key = .ok made) : AreBuilt made := by
  obtain ⟨init, last, rfl, named, valued, rfl⟩ := startAlternative_eq_ok.1 started
  obtain ⟨earlier, last_built⟩ := areBuilt_concat.1 built
  exact areBuilt_concat.2 ⟨earlier, last_built.withAlternative valued key⟩

theorem areBuilt_of_assign {operator : Operator} {value : Json} (built : AreBuilt items)
    (assigned : assign items operator value = .ok made) : AreBuilt made := by
  obtain ⟨init, last, rfl, named, rfl⟩ := assign_eq_ok.1 assigned
  obtain ⟨earlier, last_built⟩ := areBuilt_concat.1 built
  exact areBuilt_concat.2 ⟨earlier, last_built.setOpenEntry named operator value⟩

/-! ## Builders -/

variable {builder : FilterBuilder} {columns : List String} {error : FilterError}

theorem applyAll_append (builder : FilterBuilder) (first second : List BuilderCall) :
    builder.applyAll (first ++ second) = (builder.applyAll first).applyAll second :=
  List.foldl_append

/-- Items that change as they are asked to. -/
theorem changeItems_of_ok {change : List FilterItem → Except FilterError (List FilterItem)}
    (fresh : builder.error = none) (changed : change builder.expression.items = .ok made) :
    builder.changeItems change =
      { builder with expression := { builder.expression with items := made } } := by
  unfold changeItems
  rw [fresh, changed]

/-- Items that do not: the builder keeps them, and the misuse. -/
theorem changeItems_of_error {change : List FilterItem → Except FilterError (List FilterItem)}
    (fresh : builder.error = none) (failed : change builder.expression.items = .error error) :
    builder.changeItems change = { builder with error := some error } := by
  unfold changeItems
  rw [fresh, failed]

/-! ### Misuse is kept -/

theorem error_apply (latched : builder.error = some error) (call : BuilderCall) :
    (builder.apply call).error = some error := by
  cases call <;> simp [apply, changeItems, latched]

theorem error_applyAll (latched : builder.error = some error) (calls : List BuilderCall) :
    (builder.applyAll calls).error = some error := by
  induction calls generalizing builder with
  | nil => exact latched
  | cons call rest ih => exact ih (error_apply latched call)

theorem result_of_error (latched : builder.error = some error) : builder.result = .error error := by
  unfold result
  rw [latched]

theorem compile_of_error (latched : builder.error = some error) :
    builder.compile columns = .error error := by
  unfold compile
  rw [result_of_error latched]
  rfl

theorem compile_of_fresh (fresh : builder.error = none) :
    builder.compile columns = builder.expression.compile columns := by
  unfold compile result
  rw [fresh]
  rfl

/-! ### What every call keeps -/

/-- A builder is sound when its items are as they should be and what it has kept is misuse. -/
structure IsSound (builder : FilterBuilder) : Prop where
  built : AreBuilt builder.expression.items
  misuse : ∀ error, builder.error = some error → error.isBuilderError = true

theorem isSound_empty : empty.IsSound where
  built := ⟨List.forall_mem_nil _, List.forall_mem_nil _⟩
  misuse _ kept := nomatch kept

/-- A builder stays sound when its items are changed in a way that keeps them as they should be and
reports misuse alone. -/
theorem IsSound.changeItems (sound : builder.IsSound)
    {change : List FilterItem → Except FilterError (List FilterItem)}
    (keeps : ∀ made, change builder.expression.items = .ok made → AreBuilt made)
    (reports : ∀ error, change builder.expression.items = .error error →
      error.isBuilderError = true) :
    (builder.changeItems change).IsSound := by
  cases latched : builder.error with
  | some error =>
    unfold FilterBuilder.changeItems
    rw [latched]
    exact sound
  | none =>
    cases changed : change builder.expression.items with
    | ok made =>
      rw [changeItems_of_ok latched changed]
      exact ⟨keeps made changed, sound.misuse⟩
    | error error =>
      rw [changeItems_of_error latched changed]
      refine ⟨sound.built, fun kept same => ?_⟩
      cases same
      exact reports error changed

/-- Every call leaves a sound builder sound. -/
theorem IsSound.apply (sound : builder.IsSound) (call : BuilderCall) :
    (builder.apply call).IsSound := by
  cases call with
  | filter key =>
    show (builder.changeItems fun items => startItem items key).IsSound
    exact sound.changeItems (fun _ => areBuilt_of_startItem sound.built)
      fun _ => isBuilderError_of_startItem
  | and key =>
    show (builder.changeItems fun items => continueItems items key).IsSound
    exact sound.changeItems (fun _ => areBuilt_of_continueItems sound.built)
      fun _ => isBuilderError_of_continueItems
  | or key =>
    show (builder.changeItems fun items => startAlternative items key).IsSound
    exact sound.changeItems (fun _ => areBuilt_of_startAlternative sound.built)
      fun _ => isBuilderError_of_startAlternative
  | compare operator value =>
    show (builder.changeItems fun items => assign items operator value).IsSound
    exact sound.changeItems (fun _ => areBuilt_of_assign sound.built)
      fun _ => isBuilderError_of_assign
  | order | limit | skip | includes => exact ⟨sound.built, sound.misuse⟩

theorem IsSound.applyAll (sound : builder.IsSound) (calls : List BuilderCall) :
    (builder.applyAll calls).IsSound := by
  induction calls generalizing builder with
  | nil => exact sound
  | cons call rest ih => exact ih (sound.apply call)

/-! ### Nested alternatives -/

/-- An alternative of an item can be started exactly when there is a last item with a key whose open
entry has a value. -/
theorem error_apply_or_eq_none (fresh : builder.error = none) (key : String) :
    (builder.apply (.or key)).error = none ↔
      ∃ last, builder.expression.items.getLast? = some last ∧ last.key ≠ "" ∧
        ∃ value, last.openEntry.value = some value ∧ value ≠ .null := by
  have started : (builder.apply (.or key)).error = none ↔
      ∃ made, startAlternative builder.expression.items key = .ok made := by
    show (builder.changeItems fun items => startAlternative items key).error = none ↔ _
    cases changed : startAlternative builder.expression.items key with
    | ok made =>
      rw [changeItems_of_ok fresh changed]
      exact ⟨fun _ => ⟨made, rfl⟩, fun _ => fresh⟩
    | error error =>
      rw [changeItems_of_error fresh changed]
      exact ⟨nofun, nofun⟩
  rw [started]
  constructor
  · rintro ⟨made, ok⟩
    obtain ⟨init, last, same, named, valued, -⟩ := startAlternative_eq_ok.1 ok
    rw [same]
    exact ⟨last, List.getLast?_concat .., named, FilterItem.hasValue_iff.1 valued⟩
  · rintro ⟨last, found, named, valued⟩
    obtain ⟨init, same⟩ := List.getLast?_eq_some_iff.1 found
    exact ⟨_, startAlternative_eq_ok.2
      ⟨init, last, same, named, FilterItem.hasValue_iff.2 valued, rfl⟩⟩

end FilterBuilder

/-- Only an alternative with alternatives of its own is reported as nested. -/
theorem FilterExpression.nested_of_mem_faults {expression : FilterExpression} {columns : List String}
    {key : String} (fault : .nestedGroup key ∈ expression.faults columns) :
    ∃ item ∈ expression.items, ∃ entry ∈ item.alternatives, entry.alternatives ≠ [] := by
  have not_own (item : FilterItem) : FilterError.nestedGroup key ∉ item.faults columns := by
    simp [FilterItem.faults]
  have not_order (term : OrderTerm) : FilterError.nestedGroup key ∉ term.faults columns := by
    unfold OrderTerm.faults OrderTerm.nameFaults
    split <;> simp
  rcases List.mem_append.1 fault with among_items | among_order
  · obtain ⟨item, member, among⟩ := List.mem_flatMap.1 among_items
    rcases List.mem_append.1 among with own | among
    · exact absurd own (not_own item)
    · obtain ⟨entry, alternative, among⟩ := List.mem_flatMap.1 among
      refine ⟨item, member, entry, alternative, fun none => ?_⟩
      rcases List.mem_append.1 among with nested | own
      · rw [none] at nested
        cases nested
      · exact not_own entry own
  · obtain ⟨term, -, among⟩ := List.mem_flatMap.1 among_order
    exact absurd among (not_order term)

namespace FilterBuilder

variable {builder : FilterBuilder} {columns : List String}

/-- A sound builder is never refused for alternatives of an alternative. -/
theorem IsSound.compile_ne_nestedGroup (sound : builder.IsSound) (columns : List String)
    (key : String) : builder.compile columns ≠ .error (.nestedGroup key) := by
  intro refused
  cases latched : builder.error with
  | some error =>
    rw [compile_of_error latched] at refused
    cases refused
    cases sound.misuse _ latched
  | none =>
    rw [compile_of_fresh latched] at refused
    have first := ((FilterExpression.reports_compile columns builder.expression).error_iff _).1 refused
    obtain ⟨item, member, entry, alternative, nested⟩ :=
      FilterExpression.nested_of_mem_faults (List.mem_of_head? first)
    exact nested ((sound.built.each item member).flat entry alternative)

/-- After any calls the items of a builder are as they should be. While there was no misuse, an
alternative can be started exactly when the last item has a key and its open entry a value; a misuse is
kept whatever is called later, and reported instead of the expression and instead of a compiled filter;
and no builder is refused for alternatives of an alternative. -/
theorem built_after (calls : List BuilderCall) :
    AreBuilt (empty.applyAll calls).expression.items ∧
    ((empty.applyAll calls).error = none → ∀ key,
      (empty.applyAll (calls ++ [.or key])).error = none ↔
        ∃ last, (empty.applyAll calls).expression.items.getLast? = some last ∧ last.key ≠ "" ∧
          ∃ value, last.openEntry.value = some value ∧ value ≠ .null) ∧
    (∀ error, (empty.applyAll calls).error = some error → ∀ later columns,
      (empty.applyAll (calls ++ later)).error = some error ∧
      (empty.applyAll (calls ++ later)).result = .error error ∧
      (empty.applyAll (calls ++ later)).compile columns = .error error) ∧
    ∀ columns key, (empty.applyAll calls).compile columns ≠ .error (.nestedGroup key) := by
  have sound := isSound_empty.applyAll calls
  refine ⟨sound.built, ?_, ?_, sound.compile_ne_nestedGroup⟩
  · intro fresh key
    rw [applyAll_append]
    exact error_apply_or_eq_none fresh key
  · intro error latched later columns
    rw [applyAll_append]
    have kept := error_applyAll latched later
    exact ⟨kept, result_of_error kept, compile_of_error kept⟩

/-- Notes titled `a`, with an alternative that has a key and nothing else yet. -/
def openAlternative : List BuilderCall :=
  [.filter "title", .compare .equal (.string "a"), .or "rank"]

/-- No other alternative can be started before that one has a value, and the attempt is reported even
when the value comes later. -/
theorem built_after_openAlternative :
    AreBuilt (empty.applyAll openAlternative).expression.items ∧
    (empty.applyAll (openAlternative ++ [.or "title"])).error ≠ none ∧
    (empty.applyAll (openAlternative ++ [.or "title"] ++
      [.compare .less (.integer 3), .limit 5])).compile ["title", "rank"] = .error .noValue := by
  obtain ⟨built, started, -, -⟩ := built_after openAlternative
  obtain ⟨-, -, kept, -⟩ := built_after (openAlternative ++ [.or "title"])
  refine ⟨built, fun fresh => ?_, (kept .noValue rfl _ _).2.2⟩
  obtain ⟨last, found, -, value, given, -⟩ := (started rfl "title").1 fresh
  cases found
  cases given

end FilterBuilder

end RecordAccess
