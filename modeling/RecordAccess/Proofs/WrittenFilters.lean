import RecordAccess.Filter.Compiled
import RecordAccess.Proofs.Json.Nesting
import RecordAccess.Proofs.RecordText

/-!
# Written filters

An expression is read back from its text (`FilterExpression.ofText_text`), with alternatives nested as
deep as a text can be, and with all terms of its order, also those with one key. The one thing that a
text does not tell apart is a null value from no value: it is read back as none. Compilation does not tell
the two apart either, so the expression that is read back compiles as the one that was written, to the
same filter or the same error.
-/

namespace RecordAccess

/-! ## Items -/

namespace FilterItem

mutual

/-- The item without values that are null, in its alternatives too. -/
def withoutNulls : FilterItem → FilterItem
  | ⟨key, operator, value, alternatives⟩ =>
    ⟨key, operator, value.filter fun value => !value.isNull, listWithoutNulls alternatives⟩

/-- Some items without values that are null. -/
def listWithoutNulls : List FilterItem → List FilterItem
  | [] => []
  | first :: rest => first.withoutNulls :: listWithoutNulls rest

end

mutual

/-- The values in an item, with those in its alternatives, at any depth. -/
def values : FilterItem → List Json
  | ⟨_, _, value, alternatives⟩ => value.toList ++ listValues alternatives

/-- The values in some items. -/
def listValues : List FilterItem → List Json
  | [] => []
  | first :: rest => first.values ++ listValues rest

end

/-! ### Reading back -/

/-- A value is read back, or nothing where there is none or it is null. -/
theorem nullable_json {value : Option Json} (distinct : ∀ given ∈ value.toList, given.IsDistinct) :
    Decoder.nullable Decoder.json (value.getD .null).toDocument =
      .ok (value.filter fun value => !value.isNull) := by
  cases value with
  | none => rfl
  | some given =>
    have read : Decoder.json given.toDocument = .ok given :=
      Decoder.json_eq_ok.2 (Json.toJson?_toDocument (distinct given (List.mem_singleton_self _)))
    rw [Option.getD_some]
    cases given with
    | null => rfl
    | _ =>
      rw [Json.toDocument] at read ⊢
      rw [Decoder.nullable, read]
      · rfl
      · intro isNull
        cases isNull

/-- A field that holds no items is taken in when it is read for the first time. -/
theorem readMembers_of_readField {item taken : FilterItem} {seen : List String} {name : String}
    {document : Document} (own : name ∈ ["key", "op", "val"]) (fresh : name ∉ seen)
    (read : item.readField name document = .ok taken) (rest : List (Option String × Document)) :
    readMembers item seen ((some name, document) :: rest) = readMembers taken (name :: seen) rest := by
  have known : fieldNames.contains name = true := by
    simp only [List.mem_cons, List.not_mem_nil, or_false] at own
    rcases own with rfl | rfl | rfl <;> rfl
  have unseen : seen.contains name = false := by simpa using fresh
  have plain : name ≠ "or" := by
    rintro rfl
    revert own
    decide
  rw [readMembers, if_pos known, unseen, if_neg Bool.false_ne_true, if_neg plain, read]
  rfl

/-- The alternatives of an item are taken in when they are read for the first time. -/
theorem readMembers_or {item : FilterItem} {seen : List String} {document : Document}
    {alternatives : List FilterItem} (fresh : "or" ∉ seen)
    (read : decodeAlternatives document = .ok alternatives) :
    readMembers item seen [(some "or", document)] = .ok { item with alternatives } := by
  have unseen : seen.contains "or" = false := by simpa using fresh
  rw [readMembers, if_pos (by decide), unseen, if_neg Bool.false_ne_true, if_pos rfl, read]
  rfl

/-- The key, the operator and the value of an item are taken in first. -/
theorem decode_own (key operator : String) {value : Option Json}
    (distinct : ∀ given ∈ value.toList, given.IsDistinct) (members : List (String × Json)) :
    decode (Json.toDocument (.object ([("key", .string key), ("op", .string operator),
        ("val", value.getD .null)] ++ members))) =
      readMembers ⟨key, operator, value.filter fun value => !value.isNull, []⟩ ["val", "op", "key"]
        (Json.membersToDocument members) := by
  have last : readField ⟨key, operator, none, []⟩ "val" (value.getD .null).toDocument =
      .ok ⟨key, operator, value.filter fun value => !value.isNull, []⟩ := by
    show (Decoder.nullable Decoder.json _).map _ = _
    rw [nullable_json distinct]
    rfl
  simp only [List.cons_append, List.nil_append, Json.toDocument, Json.membersToDocument, decode]
  rw [readMembers_of_readField (by decide) (by decide) rfl,
    readMembers_of_readField (by decide) (by decide) rfl]
  exact readMembers_of_readField (by decide) (by decide) last _

mutual

/-- An item is read back from its written form, without values that are null. -/
theorem decode_toJson {item : FilterItem} (distinct : ∀ value ∈ item.values, value.IsDistinct) :
    decode item.toJson.toDocument = .ok item.withoutNulls := by
  match item with
  | ⟨key, operator, value, alternatives⟩ =>
    have own : ∀ given ∈ value.toList, given.IsDistinct := fun given present =>
      distinct given (List.mem_append_left _ present)
    have others := decodeList_listToJson fun given among =>
      distinct given (List.mem_append_right _ among)
    rw [toJson, decode_own key operator own]
    cases alternatives with
    | nil => rfl
    | cons first rest => exact readMembers_or (by decide) others

theorem decodeList_listToJson {items : List FilterItem}
    (distinct : ∀ value ∈ listValues items, value.IsDistinct) :
    decodeList (Json.itemsToDocument (listToJson items)) = .ok (listWithoutNulls items) := by
  match items with
  | [] => rfl
  | first :: rest =>
    simp only [listValues, List.mem_append] at distinct
    rw [listToJson, Json.itemsToDocument, decodeList,
      decode_toJson fun value among => distinct value (.inl among),
      decodeList_listToJson fun value among => distinct value (.inr among)]
    rfl

end

/-! ### Numbers -/

mutual

/-- The numbers in the written form of an item are those in its values. -/
theorem mem_values_of_mem_numbers {item : FilterItem} {n : Number} (among : n ∈ item.toJson.numbers) :
    ∃ value ∈ item.values, n ∈ value.numbers := by
  match item with
  | ⟨key, operator, value, alternatives⟩ =>
    rw [toJson, List.cons_append, List.cons_append, List.cons_append, List.nil_append] at among
    simp only [Json.numbers, Json.memberNumbers, List.nil_append, List.mem_append] at among
    rcases among with own | other
    · cases value with
      | none => cases own
      | some value => exact ⟨value, List.mem_append_left _ (List.mem_singleton_self _), own⟩
    · have there : n ∈ Json.itemNumbers (listToJson alternatives) := by
        cases alternatives with
        | nil => cases other
        | cons first rest =>
          rw [alternativesToJson, Json.memberNumbers, Json.memberNumbers, List.append_nil] at other
          exact other
      obtain ⟨value, present, among⟩ := mem_listValues_of_mem_itemNumbers there
      exact ⟨value, List.mem_append_right _ present, among⟩

theorem mem_listValues_of_mem_itemNumbers {items : List FilterItem} {n : Number}
    (among : n ∈ Json.itemNumbers (listToJson items)) :
    ∃ value ∈ listValues items, n ∈ value.numbers := by
  match items with
  | [] => cases among
  | first :: rest =>
    rw [listToJson, Json.itemNumbers, List.mem_append] at among
    rcases among with early | late
    · obtain ⟨value, present, among⟩ := mem_values_of_mem_numbers early
      exact ⟨value, List.mem_append_left _ present, among⟩
    · obtain ⟨value, present, among⟩ := mem_listValues_of_mem_itemNumbers late
      exact ⟨value, List.mem_append_right _ present, among⟩

end

/-! ### Compilation -/

theorem listWithoutNulls_eq_map (items : List FilterItem) :
    listWithoutNulls items = items.map withoutNulls := by
  induction items with
  | nil => rfl
  | cons first rest ih => rw [listWithoutNulls, ih, List.map_cons]

theorem alternatives_withoutNulls (item : FilterItem) :
    item.withoutNulls.alternatives = item.alternatives.map withoutNulls := by
  obtain ⟨key, operator, value, alternatives⟩ := item
  exact listWithoutNulls_eq_map alternatives

/-- The comparison of an item does not tell a null value from none. -/
theorem compile_withoutNulls (columns : List String) (item : FilterItem) :
    item.withoutNulls.compile columns = item.compile columns := by
  obtain ⟨key, operator, value, alternatives⟩ := item
  have same : (value.filter fun value => !value.isNull).filter (fun value => !value.isNull) =
      value.filter fun value => !value.isNull := by
    rw [Option.filter_filter]
    simp only [Bool.and_self]
  unfold compile value?
  simp only [withoutNulls, same]

theorem compileAlternative_withoutNulls (columns : List String) (item : FilterItem) :
    item.withoutNulls.compileAlternative columns = item.compileAlternative columns := by
  have key : item.withoutNulls.key = item.key := by
    cases item
    rfl
  unfold compileAlternative
  rw [compile_withoutNulls, alternatives_withoutNulls, List.isEmpty_map, key]

/-- An item with its alternatives does not tell null values from none. -/
theorem compileClause_withoutNulls (columns : List String) (item : FilterItem) :
    item.withoutNulls.compileClause columns = item.compileClause columns := by
  unfold compileClause
  rw [compile_withoutNulls, alternatives_withoutNulls,
    mapM_map_congr fun entry _ => compileAlternative_withoutNulls columns entry]

end FilterItem

/-! ## Order -/

/-- An order is read back with all its terms, also those with one key. -/
theorem OrderTerm.decodeList_listToJson (terms : List OrderTerm) :
    decodeList (listToJson terms).toDocument = .ok terms := by
  rw [listToJson, Json.toDocument, decodeList]
  induction terms with
  | nil => rfl
  | cons term rest ih =>
    rw [List.map_cons, Json.membersToDocument, List.mapM_cons, ih]
    rfl

/-- There are no numbers in an order. -/
theorem OrderTerm.numbers_listToJson (terms : List OrderTerm) : (listToJson terms).numbers = [] := by
  rw [listToJson, Json.numbers]
  induction terms with
  | nil => rfl
  | cons term rest ih => exact ih

/-! ## Expressions -/

theorem Decoder.integer_toDocument {value : Int} (least : -(Nat.pow 2 63 : Nat) ≤ value)
    (greatest : value < (Nat.pow 2 63 : Nat)) :
    integer (Json.integer value).toDocument = .ok value :=
  if_pos ⟨least, greatest⟩

namespace FilterExpression

variable {expression : FilterExpression}

/-- The expression without values that are null. -/
def withoutNulls (expression : FilterExpression) : FilterExpression :=
  { expression with items := FilterItem.listWithoutNulls expression.items }

/-- An expression whose text can be read. Its bounds are signed integers of 64 bits, its values have no
other numbers than integers and no object with a key twice, and no more containers are open at once in
its text than a reader has room for. -/
structure IsWritable (expression : FilterExpression) : Prop where
  limit : -(Nat.pow 2 63 : Nat) ≤ expression.limit ∧ expression.limit < (Nat.pow 2 63 : Nat)
  skip : -(Nat.pow 2 63 : Nat) ≤ expression.skip ∧ expression.skip < (Nat.pow 2 63 : Nat)
  distinct : ∀ value ∈ FilterItem.listValues expression.items, value.IsDistinct
  integers : ∀ value ∈ FilterItem.listValues expression.items, ∀ n ∈ value.numbers, n.IsInteger
  nested : expression.toJson.nesting ≤ Document.depthLimit

/-- The written form of a writable expression is legible. -/
theorem IsWritable.isLegible (writable : expression.IsWritable) : expression.toJson.IsLegible := by
  refine ⟨fun n among => ?_, writable.nested⟩
  simp only [toJson, Json.integer, Json.numbers, Json.memberNumbers, OrderTerm.numbers_listToJson,
    Json.numbers_strings, List.nil_append, List.append_nil, List.mem_append, List.mem_singleton] at among
  rcases among with item | rfl | rfl
  · obtain ⟨value, present, among⟩ := FilterItem.mem_listValues_of_mem_itemNumbers item
    exact writable.integers value present n among
  · exact ⟨expression.limit, rfl, writable.limit.1, Int.lt_trans writable.limit.2 (by decide)⟩
  · exact ⟨expression.skip, rfl, writable.skip.1, Int.lt_trans writable.skip.2 (by decide)⟩

/-- A writable expression is read back from its written form, without values that are null. -/
theorem IsWritable.decode_toJson (writable : expression.IsWritable) :
    decode expression.toJson.toDocument = .ok expression.withoutNulls := by
  have items : FilterItem.decodeAlternatives
      (.array (Json.itemsToDocument (FilterItem.listToJson expression.items))) =
        .ok (FilterItem.listWithoutNulls expression.items) :=
    FilterItem.decodeList_listToJson writable.distinct
  have order := OrderTerm.decodeList_listToJson expression.order
  have limit : Decoder.nullAs 0 Decoder.integer (Json.integer expression.limit).toDocument =
      .ok expression.limit :=
    Decoder.integer_toDocument writable.limit.1 writable.limit.2
  have skip : Decoder.nullAs 0 Decoder.integer (Json.integer expression.skip).toDocument =
      .ok expression.skip :=
    Decoder.integer_toDocument writable.skip.1 writable.skip.2
  have includes : Decoder.nullAs [] (Decoder.list Decoder.text)
      (Json.strings expression.includes).toDocument = .ok expression.includes :=
    Decoder.list_text_strings expression.includes
  simp only [toJson, Json.toDocument, Json.membersToDocument]
  simp [decode, Decoder.struct, Decoder.readMembers, Field.withDefault, items, order, limit, skip,
    includes]
  rfl

/-- Compilation does not tell null values from none. -/
theorem compile_withoutNulls (columns : List String) (expression : FilterExpression) :
    expression.withoutNulls.compile columns = expression.compile columns := by
  unfold compile withoutNulls
  simp only [FilterItem.listWithoutNulls_eq_map]
  rw [mapM_map_congr fun item _ => FilterItem.compileClause_withoutNulls columns item]

/-- An expression is read back from its text, without values that are null, and what is read back
compiles as the expression does, to the same filter or the same error. -/
theorem ofText_text (writable : expression.IsWritable) :
    ofText expression.toJson.text = .ok expression.withoutNulls ∧
      ∀ columns, expression.withoutNulls.compile columns = expression.compile columns := by
  have decoded : decode.ofJson expression.toJson = .ok expression.withoutNulls :=
    writable.decode_toJson
  refine ⟨?_, fun columns => compile_withoutNulls columns expression⟩
  rcases writable.isLegible.ofText_agrees decode with ⟨read, made, readText⟩ | ⟨_, _, rejected, -⟩
  · rw [decoded] at made
    cases made
    rw [ofText, readText]
    rfl
  · rw [decoded] at rejected
    cases rejected

/-- Notes with a title that is null, or of some ranks, or by an author; ordered twice by their rank. -/
def groupedNotes : FilterExpression where
  items := [⟨"title", "=", some .null,
    [⟨"rank", "in", some (.array [.integer 3, .integer (-4)]),
      [.comparison "author" "like" (.object [("name", .string "a"), ("born", .null)])]⟩]⟩]
  order := [⟨"rank", false⟩, ⟨"title desc", true⟩, ⟨"rank", false⟩]
  limit := 5
  skip := -1
  includes := ["author"]

/-- A group inside a group and an order with one column twice are read back. The null value is not, and is
reported missing as it was before. -/
theorem ofText_text_groupedNotes :
    ofText groupedNotes.toJson.text = .ok { groupedNotes with
      items := [⟨"title", "=", none,
        [⟨"rank", "in", some (.array [.integer 3, .integer (-4)]),
          [.comparison "author" "like" (.object [("name", .string "a"), ("born", .null)])]⟩]⟩] } ∧
    groupedNotes.withoutNulls.compile ["title", "rank"] = .error .noValue ∧
    groupedNotes.compile ["title", "rank"] = .error .noValue := by
  have writable : groupedNotes.IsWritable := by
    have values : FilterItem.listValues groupedNotes.items =
        [.null, .array [.integer 3, .integer (-4)],
          .object [("name", .string "a"), ("born", .null)]] := by
      rfl
    refine ⟨by decide, by decide, ?_, ?_, by decide⟩
    · rw [values]
      simp [Json.IsDistinct, Json.ItemsAreDistinct, Json.MembersAreDistinct, Json.integer, Keyed.keys]
    · rw [values]
      have three : (Number.integer 3).IsInteger := ⟨3, rfl, by decide, by decide⟩
      have minusFour : (Number.integer (-4)).IsInteger := ⟨-4, rfl, by decide, by decide⟩
      simp [Json.numbers, Json.itemNumbers, Json.memberNumbers, Json.integer, three, minusFour]
  obtain ⟨read, same⟩ := ofText_text writable
  have missing : groupedNotes.compile ["title", "rank"] = .error .noValue := by rfl
  exact ⟨read, (same _).trans missing, missing⟩

end FilterExpression

end RecordAccess
