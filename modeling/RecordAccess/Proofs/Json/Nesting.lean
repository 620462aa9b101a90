import RecordAccess.Proofs.Json.Documents

/-!
# Values that are read back

A value is read back from its text when its numbers are integers of 64 bits, there are never more
containers open in it than a reader has room for, and no object in it has a key twice
(`Json.readsBack_of_isDistinct`). What a document is decoded to has no key twice
(`Json.isDistinct_of_toJson?`), and what a value is decoded to has no other numbers than the value and is
nested as deep at most (`Json.isWithin_of_toJson?`). So what is made of a legible value is read back, at
every place of it.

The text of a legible value and the value itself are one document (`Json.IsLegible.readIn_zero`), so there
is nothing that a decoder could make of the one and not of the other. The document keeps every member
that is written, also those with one key; a value is that of its document when no object in it has a key
twice (`Json.toJson?_toDocument`).
-/

namespace RecordAccess

/-- A number is an integer of 64 bits, with a sign or without. -/
def Number.IsInteger (n : Number) : Prop :=
  ∃ value : Int, n = .integer value ∧ -(Nat.pow 2 63 : Nat) ≤ value ∧ value < (Nat.pow 2 64 : Nat)

namespace Json

mutual

/-- How many containers are open at once in a value. -/
def nesting : Json → Nat
  | array items => itemsNesting items + 1
  | object members => membersNesting members + 1
  | _ => 0

/-- How many containers are open at once in some items. -/
def itemsNesting : List Json → Nat
  | [] => 0
  | item :: rest => max item.nesting (itemsNesting rest)

/-- How many containers are open at once in some members. -/
def membersNesting : List (String × Json) → Nat
  | [] => 0
  | member :: rest => max member.2.nesting (membersNesting rest)

end

/-- A value is read back from its text, inside some number of open containers. -/
def ReadsBack (depth : Nat) (value : Json) : Prop :=
  (value.readIn depth).toJson? = some value

/-- A value has no other numbers than integers of 64 bits, and no more containers than can be open at
once. -/
structure IsLegible (value : Json) : Prop where
  integers : ∀ n ∈ value.numbers, n.IsInteger
  nested : value.nesting ≤ Document.depthLimit

variable {depth : Nat} {items : List Json} {members : List (String × Json)}

theorem numbers_strings (texts : List String) : (strings texts).numbers = [] := by
  rw [strings, numbers]
  induction texts with
  | nil => rfl
  | cons first rest ih => exact ih

theorem nesting_strings (texts : List String) : (strings texts).nesting = 1 := by
  rw [strings, nesting]
  induction texts with
  | nil => rfl
  | cons first rest ih =>
    show max 0 (itemsNesting (rest.map string)) + 1 = 1
    rwa [Nat.zero_max]

/-! ### The document of a legible value -/

mutual

/-- What the text of a value of integers is read as, where there is room for it, is the document of the
value. -/
theorem readIn_eq_toDocument {value : Json} {depth : Nat}
    (integers : ∀ n ∈ value.numbers, n.IsInteger)
    (room : depth + value.nesting ≤ Document.depthLimit) : value.readIn depth = value.toDocument := by
  match value with
  | null => rfl
  | bool flag => rfl
  | string text => rfl
  | number n =>
    obtain ⟨value, rfl, least, greatest⟩ := integers n (List.mem_singleton.2 rfl)
    rw [readIn, Number.reread?_integer least greatest]
    rfl
  | array items =>
    rw [nesting] at room
    rw [readIn, if_pos (by omega), itemsReadIn_eq_itemsToDocument integers (by omega)]
    rfl
  | object members =>
    rw [nesting] at room
    rw [readIn, if_pos (by omega), membersReadIn_eq_membersToDocument integers (by omega)]
    rfl

theorem itemsReadIn_eq_itemsToDocument {items : List Json} {depth : Nat}
    (integers : ∀ n ∈ itemNumbers items, n.IsInteger)
    (room : depth + itemsNesting items ≤ Document.depthLimit) :
    itemsReadIn depth items = itemsToDocument items := by
  match items with
  | [] => rfl
  | item :: rest =>
    simp only [itemNumbers, List.mem_append] at integers
    rw [itemsNesting] at room
    rw [itemsReadIn, itemsToDocument,
      readIn_eq_toDocument (fun n among => integers n (.inl among)) (by omega),
      itemsReadIn_eq_itemsToDocument (fun n among => integers n (.inr among)) (by omega)]

theorem membersReadIn_eq_membersToDocument {members : List (String × Json)} {depth : Nat}
    (integers : ∀ n ∈ memberNumbers members, n.IsInteger)
    (room : depth + membersNesting members ≤ Document.depthLimit) :
    membersReadIn depth members = membersToDocument members := by
  match members with
  | [] => rfl
  | (key, value) :: rest =>
    simp only [memberNumbers, List.mem_append] at integers
    simp only [membersNesting] at room
    rw [membersReadIn, membersToDocument,
      readIn_eq_toDocument (fun n among => integers n (.inl among)) (by omega),
      membersReadIn_eq_membersToDocument (fun n among => integers n (.inr among)) (by omega)]

end

/-- The text of a legible value is read as the document of the value. -/
theorem IsLegible.readIn_zero {value : Json} (legible : value.IsLegible) :
    value.readIn 0 = value.toDocument :=
  readIn_eq_toDocument legible.integers (by simpa using legible.nested)

/-- A legible value and its text decode alike: both to the same, or neither to anything. -/
theorem IsLegible.ofText_agrees {α : Type} {value : Json} (legible : value.IsLegible)
    (decode : Decoder α) :
    (∃ made, decode.ofJson value = .ok made ∧ decode.ofText value.text = .ok made) ∨
      ∃ cause other, decode.ofJson value = .error cause ∧
        decode.ofText value.text = .error other := by
  unfold Decoder.ofJson
  rw [← legible.readIn_zero]
  exact decode.ofText_agrees value

/-! ### Values with different keys -/

mutual

/-- No object in a value has a key twice. -/
def IsDistinct : Json → Prop
  | array items => ItemsAreDistinct items
  | object members => (Keyed.keys members).Nodup ∧ MembersAreDistinct members
  | _ => True

/-- No object in some items has a key twice. -/
def ItemsAreDistinct : List Json → Prop
  | [] => True
  | item :: rest => item.IsDistinct ∧ ItemsAreDistinct rest

/-- No object in the values of some members has a key twice. -/
def MembersAreDistinct : List (String × Json) → Prop
  | [] => True
  | member :: rest => member.2.IsDistinct ∧ MembersAreDistinct rest

end

mutual

/-- A value without repeated keys is the value of its document. -/
theorem toJson?_toDocument {value : Json} (distinct : value.IsDistinct) :
    value.toDocument.toJson? = some value := by
  match value with
  | null => rfl
  | bool flag => rfl
  | string text => rfl
  | number n => rfl
  | array items =>
    have read := itemsToJson?_itemsToDocument distinct
    rw [toDocument, Document.toJson?, read]
    rfl
  | object members =>
    have read := membersToJson?_membersToDocument distinct.2
    rw [toDocument, Document.toJson?, read, Option.map_some, Keyed.ofList_of_nodup distinct.1]

theorem itemsToJson?_itemsToDocument {items : List Json} (distinct : ItemsAreDistinct items) :
    Document.itemsToJson? (itemsToDocument items) = some items := by
  match items with
  | [] => rfl
  | item :: rest =>
    rw [itemsToDocument, Document.itemsToJson?, toJson?_toDocument distinct.1,
      itemsToJson?_itemsToDocument distinct.2]
    rfl

theorem membersToJson?_membersToDocument {members : List (String × Json)}
    (distinct : MembersAreDistinct members) :
    Document.membersToJson? (membersToDocument members) = some members := by
  match members with
  | [] => rfl
  | (key, value) :: rest =>
    rw [membersToDocument, Document.membersToJson?, toJson?_toDocument distinct.1,
      membersToJson?_membersToDocument distinct.2]
    rfl

end

/-- A value of integers without repeated keys is read back, where there is room for it. -/
theorem readsBack_of_isDistinct {value : Json} {depth : Nat}
    (integers : ∀ n ∈ value.numbers, n.IsInteger)
    (room : depth + value.nesting ≤ Document.depthLimit) (distinct : value.IsDistinct) :
    value.ReadsBack depth := by
  rw [ReadsBack, readIn_eq_toDocument integers room]
  exact toJson?_toDocument distinct

theorem membersAreDistinct_of_forall (distinct : ∀ member ∈ members, member.2.IsDistinct) :
    MembersAreDistinct members := by
  induction members with
  | nil => trivial
  | cons first rest ih =>
    obtain ⟨here, later⟩ := List.forall_mem_cons.1 distinct
    exact ⟨here, ih later⟩

mutual

/-- What a document is decoded to has no key twice. -/
theorem isDistinct_of_toJson? {document : Document} {read : Json}
    (found : document.toJson? = some read) : read.IsDistinct := by
  match document with
  | .null => cases found; trivial
  | .bool flag => cases found; trivial
  | .string text => cases found; trivial
  | .number n => cases found; trivial
  | .unreadable => cases found
  | .array items =>
    obtain ⟨others, othersFound, rfl⟩ := Option.map_eq_some_iff.1 found
    exact itemsAreDistinct_of_itemsToJson? othersFound
  | .object members =>
    obtain ⟨others, othersFound, rfl⟩ := Option.map_eq_some_iff.1 found
    refine ⟨Keyed.nodup_ofList others, membersAreDistinct_of_forall fun member present => ?_⟩
    exact isDistinct_of_membersToJson? othersFound member (Keyed.mem_ofList present)

theorem itemsAreDistinct_of_itemsToJson? {items : List Document} {others : List Json}
    (found : Document.itemsToJson? items = some others) : ItemsAreDistinct others := by
  match items with
  | [] => cases found; trivial
  | item :: rest =>
    simp only [Document.itemsToJson?, Option.bind_eq_bind, Option.bind_eq_some_iff, Option.pure_def,
      Option.some.injEq] at found
    obtain ⟨first, firstFound, more, moreFound, rfl⟩ := found
    exact ⟨isDistinct_of_toJson? firstFound, itemsAreDistinct_of_itemsToJson? moreFound⟩

theorem isDistinct_of_membersToJson? {members : List (Option String × Document)}
    {others : List (String × Json)} (found : Document.membersToJson? members = some others) :
    ∀ member ∈ others, member.2.IsDistinct := by
  match members with
  | [] =>
    cases found
    exact List.forall_mem_nil _
  | (none, _) :: _ => cases found
  | (some key, document) :: rest =>
    simp only [Document.membersToJson?, Option.bind_eq_bind, Option.bind_eq_some_iff,
      Option.pure_def, Option.some.injEq] at found
    obtain ⟨first, firstFound, more, moreFound, rfl⟩ := found
    exact List.forall_mem_cons.2 ⟨isDistinct_of_toJson? firstFound,
      isDistinct_of_membersToJson? moreFound⟩

end

/-! ### Values that were decoded -/

theorem exists_of_mem_memberNumbers {n : Number} (among : n ∈ memberNumbers members) :
    ∃ member ∈ members, n ∈ member.2.numbers := by
  induction members with
  | nil => cases among
  | cons first rest ih =>
    rw [memberNumbers, List.mem_append] at among
    rcases among with here | later
    · exact ⟨first, List.mem_cons_self .., here⟩
    · obtain ⟨member, present, there⟩ := ih later
      exact ⟨member, List.mem_cons_of_mem _ present, there⟩

theorem membersNesting_le {bound : Nat} (within : ∀ member ∈ members, member.2.nesting ≤ bound) :
    membersNesting members ≤ bound := by
  induction members with
  | nil => exact Nat.zero_le _
  | cons first rest ih =>
    obtain ⟨here, later⟩ := List.forall_mem_cons.1 within
    exact Nat.max_le.2 ⟨here, ih later⟩

/-- A value has no other numbers than some given ones, and no more containers open at once than some
number. -/
structure IsWithin (numbers : List Number) (nesting : Nat) (value : Json) : Prop where
  numbers : ∀ n ∈ value.numbers, n ∈ numbers
  nested : value.nesting ≤ nesting

theorem IsWithin.mono {numbers others : List Number} {nesting bound : Nat} {value : Json}
    (within : value.IsWithin numbers nesting) (more : ∀ n ∈ numbers, n ∈ others)
    (deeper : nesting ≤ bound) : value.IsWithin others bound :=
  ⟨fun n among => more n (within.numbers n among), Nat.le_trans within.nested deeper⟩

mutual

/-- What a value is decoded to has its numbers, and is nested as deep at most. -/
theorem isWithin_of_toJson? {value read : Json} (found : value.toDocument.toJson? = some read) :
    read.IsWithin value.numbers value.nesting := by
  match value with
  | null => cases found; exact ⟨fun _ among => among, Nat.le_refl _⟩
  | bool flag => cases found; exact ⟨fun _ among => among, Nat.le_refl _⟩
  | string text => cases found; exact ⟨fun _ among => among, Nat.le_refl _⟩
  | number n => cases found; exact ⟨fun _ among => among, Nat.le_refl _⟩
  | array items =>
    obtain ⟨others, othersFound, rfl⟩ := Option.map_eq_some_iff.1 found
    obtain ⟨numbers, nested⟩ := isWithin_of_itemsToJson? othersFound
    exact ⟨numbers, Nat.succ_le_succ nested⟩
  | object members =>
    obtain ⟨others, othersFound, rfl⟩ := Option.map_eq_some_iff.1 found
    have each : ∀ member ∈ Keyed.ofList others, _ := fun member present =>
      isWithin_of_membersToJson? othersFound member (Keyed.mem_ofList present)
    refine ⟨fun n among => ?_, Nat.succ_le_succ ?_⟩
    · obtain ⟨member, present, there⟩ := exists_of_mem_memberNumbers among
      exact (each member present).numbers n there
    · exact membersNesting_le fun member present => (each member present).nested

theorem isWithin_of_itemsToJson? {items others : List Json}
    (found : Document.itemsToJson? (itemsToDocument items) = some others) :
    (∀ n ∈ itemNumbers others, n ∈ itemNumbers items) ∧ itemsNesting others ≤ itemsNesting items := by
  match items with
  | [] => cases found; exact ⟨fun _ among => among, Nat.le_refl _⟩
  | item :: rest =>
    simp only [itemsToDocument, Document.itemsToJson?, Option.bind_eq_bind,
      Option.bind_eq_some_iff, Option.pure_def, Option.some.injEq] at found
    obtain ⟨first, firstFound, more, moreFound, rfl⟩ := found
    have here := isWithin_of_toJson? firstFound
    obtain ⟨numbers, nested⟩ := isWithin_of_itemsToJson? moreFound
    refine ⟨fun n among => ?_, ?_⟩
    · rw [itemNumbers, List.mem_append] at among ⊢
      exact among.imp (here.numbers n) (numbers n)
    · rw [itemsNesting, itemsNesting]
      have := here.nested
      omega

theorem isWithin_of_membersToJson? {members others : List (String × Json)}
    (found : Document.membersToJson? (membersToDocument members) = some others) :
    ∀ member ∈ others, member.2.IsWithin (memberNumbers members) (membersNesting members) := by
  match members with
  | [] =>
    cases found
    exact List.forall_mem_nil _
  | (key, value) :: rest =>
    simp only [membersToDocument, Document.membersToJson?, Option.bind_eq_bind,
      Option.bind_eq_some_iff, Option.pure_def, Option.some.injEq] at found
    obtain ⟨first, firstFound, more, moreFound, rfl⟩ := found
    refine List.forall_mem_cons.2 ⟨?_, fun member present => ?_⟩
    · refine (isWithin_of_toJson? firstFound).mono (fun n among => ?_) (Nat.le_max_left _ _)
      exact List.mem_append_left _ among
    · refine (isWithin_of_membersToJson? moreFound member present).mono (fun n among => ?_)
        (Nat.le_max_right _ _)
      exact List.mem_append_right _ among

end

/-- What a value of integers is decoded to is read back, where there is room for it. -/
theorem readsBack_of_toJson? {value read : Json} {depth : Nat}
    (integers : ∀ n ∈ value.numbers, n.IsInteger)
    (room : depth + value.nesting ≤ Document.depthLimit)
    (found : value.toDocument.toJson? = some read) : read.ReadsBack depth := by
  have within := isWithin_of_toJson? found
  have nested := within.nested
  exact readsBack_of_isDistinct (fun n among => integers n (within.numbers n among)) (by omega)
    (isDistinct_of_toJson? found)

/-! ### Members -/

theorem mem_memberNumbers {member : String × Json} {n : Number} (present : member ∈ members)
    (among : n ∈ member.2.numbers) : n ∈ memberNumbers members := by
  induction members with
  | nil => cases present
  | cons first rest ih =>
    rw [memberNumbers, List.mem_append]
    rcases List.mem_cons.1 present with rfl | later
    · exact .inl among
    · exact .inr (ih later)

theorem nesting_le_membersNesting {member : String × Json} (present : member ∈ members) :
    member.2.nesting ≤ membersNesting members := by
  induction members with
  | nil => cases present
  | cons first rest ih =>
    rw [membersNesting]
    rcases List.mem_cons.1 present with rfl | later
    · exact Nat.le_max_left ..
    · exact Nat.le_trans (ih later) (Nat.le_max_right ..)

/-- The document of an object has the documents of its members. -/
theorem mem_membersToDocument {name : String} {document : Document}
    (present : (some name, document) ∈ membersToDocument members) :
    ∃ value, (name, value) ∈ members ∧ document = value.toDocument := by
  induction members with
  | nil => cases present
  | cons first rest ih =>
    rw [membersToDocument] at present
    rcases List.mem_cons.1 present with same | later
    · cases same
      exact ⟨_, List.mem_cons_self .., rfl⟩
    · obtain ⟨value, there, made⟩ := ih later
      exact ⟨value, List.mem_cons_of_mem _ there, made⟩

/-- The members of a legible object are read back inside it. -/
theorem IsLegible.readsBack_member (legible : (object members).IsLegible) {name : String}
    {value read : Json} (member : (name, value) ∈ members)
    (found : value.toDocument.toJson? = some read) : read.ReadsBack 1 := by
  have inner := nesting_le_membersNesting member
  have nested := legible.nested
  rw [nesting] at nested
  exact readsBack_of_toJson? (fun n among => legible.integers n (mem_memberNumbers member among))
    (by omega) found

end Json

/-- An array of texts is decoded as the list of them. -/
theorem Decoder.list_text_strings (texts : List String) :
    list text (Json.strings texts).toDocument = .ok texts := by
  show (Json.itemsToDocument (texts.map .string)).mapM text = .ok texts
  induction texts with
  | nil => rfl
  | cons first rest ih =>
    rw [List.map_cons, Json.itemsToDocument, List.mapM_cons, ih]
    rfl

end RecordAccess
