import RecordAccess.Json.Decode
import RecordAccess.Json.Document
import RecordAccess.Proofs.Json.Tokens
import RecordAccess.Proofs.Tables

/-!
# Written values are read back

`Json.readIn` is the document that the text of a value is read as, inside some number of open
containers (`Document.read_text`). It is the value itself but for numbers that come back as
others, and for what lies too deep.

A value is stable if it is read back or rejected, wherever its text stands. A value that was read,
in which no number comes back as another, is stable (`Json.isStable_of_toJson?`).
-/

namespace RecordAccess

/-! ## What is read -/

mutual

/-- The document that the text of a value is read as inside `depth` open containers. -/
def Json.readIn (depth : Nat) : Json → Document
  | .null => .null
  | .bool value => .bool value
  | .number value => (value.reread?.map Document.number).getD .unreadable
  | .string value => .string value
  | .array items =>
    if depth < Document.depthLimit then .array (Json.itemsReadIn (depth + 1) items)
    else .array [.unreadable]
  | .object members =>
    if depth < Document.depthLimit then .object (Json.membersReadIn (depth + 1) members)
    else .object [(none, .unreadable)]

/-- The documents of some items. -/
def Json.itemsReadIn (depth : Nat) : List Json → List Document
  | [] => []
  | item :: rest => item.readIn depth :: Json.itemsReadIn depth rest

/-- The documents of some members. -/
def Json.membersReadIn (depth : Nat) : List (String × Json) → List (Option String × Document)
  | [] => []
  | (key, value) :: rest => (some key, value.readIn depth) :: Json.membersReadIn depth rest

end

namespace Document

open Json (Token itemTokens memberTokens)
open Json.Token (reread)

/-! ## Reading tokens -/

theorem readTokens_cons {progress next : Progress} {token : Token}
    (step : step? progress token = some next) (rest : List Token) :
    readTokens progress (token :: rest) = readTokens next rest := by
  rw [readTokens, step]

theorem arrayIn_eq (stack : List Frame) (items : List Json) :
    arrayIn stack (Json.itemsReadIn (stack.length + 1) items) =
      (Json.array items).readIn stack.length := by
  simp only [arrayIn, hasRoom_iff, Json.readIn]

theorem objectIn_eq (stack : List Frame) (members : List (String × Json)) :
    objectIn stack (Json.membersReadIn (stack.length + 1) members) =
      (Json.object members).readIn stack.length := by
  simp only [objectIn, hasRoom_iff, Json.readIn]

/-- The first item of an array is read as any other value. -/
theorem readTokens_firstItem (stack : List Frame) (item : Json) (rest : List Token) :
    readTokens (.firstItem stack) (item.tokens.map reread ++ rest) =
      readTokens (.value (.items [] :: stack)) (item.tokens.map reread ++ rest) := by
  cases item with
  | number value => rfl
  | _ => rfl

theorem exists_itemTokens_eq (item : Json) (others : List Json) :
    ∃ after, itemTokens (item :: others) = item.tokens ++ after := by
  cases others with
  | nil => exact ⟨_, rfl⟩
  | cons next more => exact ⟨_, Json.itemTokens.eq_3 item (next :: more) (List.cons_ne_nil _ _)⟩

mutual

/-- The tokens of a value are read as that value. -/
theorem readTokens_tokens (value : Json) (stack : List Frame) (rest : List Token) :
    readTokens (.value stack) (value.tokens.map reread ++ rest) =
      readTokens (.complete (value.readIn stack.length) stack) rest := by
  cases value with
  | null => rfl
  | bool value => rfl
  | number value => rfl
  | string value => rfl
  | array items =>
    rw [← arrayIn_eq]
    cases items with
    | nil => rfl
    | cons item others =>
      change readTokens (.firstItem stack) ((itemTokens (item :: others)).map reread ++ rest) = _
      have read := readTokens_itemTokens (item :: others) (List.cons_ne_nil _ _) [] stack rest
      obtain ⟨after, same⟩ := exists_itemTokens_eq item others
      rw [same, List.map_append, List.append_assoc] at read ⊢
      rw [readTokens_firstItem, read]
      rfl
  | object members =>
    rw [← objectIn_eq]
    cases members with
    | nil => rfl
    | cons member others =>
      have read := readTokens_memberTokens (member :: others) (List.cons_ne_nil _ _) [] stack rest
      cases others with
      | nil => exact read
      | cons next more => exact read

theorem readTokens_itemTokens (items : List Json) (nonempty : items ≠ []) (done : List Document)
    (stack : List Frame) (rest : List Token) :
    readTokens (.value (.items done :: stack)) ((itemTokens items).map reread ++ rest) =
      readTokens (.complete (arrayIn stack
        (done.reverse ++ Json.itemsReadIn (stack.length + 1) items)) stack) rest := by
  match items with
  | [] => exact absurd rfl nonempty
  | [item] =>
    rw [itemTokens, List.map_append, List.append_assoc, readTokens_tokens item]
    simp only [List.map_cons, List.map_nil, List.cons_append, List.nil_append, reread]
    rw [readTokens_cons rfl, List.reverse_cons]
    rfl
  | item :: next :: more =>
    rw [itemTokens, List.map_append, List.append_assoc, readTokens_tokens item]
    · simp only [List.map_cons, List.cons_append, reread]
      rw [readTokens_cons rfl, readTokens_itemTokens (next :: more) (List.cons_ne_nil _ _),
        List.reverse_cons, List.append_assoc]
      rfl
    · exact List.cons_ne_nil _ _

theorem readTokens_memberTokens (members : List (String × Json)) (nonempty : members ≠ [])
    (done : List Member) (stack : List Frame) (rest : List Token) :
    readTokens (.key done stack) ((memberTokens members).map reread ++ rest) =
      readTokens (.complete (objectIn stack
        (done.reverse ++ Json.membersReadIn (stack.length + 1) members)) stack) rest := by
  match members with
  | [] => exact absurd rfl nonempty
  | [(key, value)] =>
    simp only [memberTokens, List.map_cons, List.map_append, List.map_nil, List.cons_append,
      List.append_assoc, List.nil_append, reread]
    rw [readTokens_cons rfl, readTokens_cons rfl, readTokens_tokens value, readTokens_cons rfl,
      List.reverse_cons]
    rfl
  | (key, value) :: next :: more =>
    rw [memberTokens]
    · simp only [List.map_cons, List.map_append, List.cons_append, List.append_assoc, reread]
      rw [readTokens_cons rfl, readTokens_cons rfl, readTokens_tokens value, readTokens_cons rfl,
        readTokens_memberTokens (next :: more) (List.cons_ne_nil _ _), List.reverse_cons,
        List.append_assoc]
      rfl
    · exact List.cons_ne_nil _ _

end

/-- The text of a value is read to its end, as the document of the value. -/
theorem read_text (value : Json) : read value.text = ⟨value.readIn 0, true⟩ := by
  have read := readTokens_tokens value [] []
  rw [List.append_nil] at read
  rw [Document.read, Json.sequence_text, read]
  rfl

end Document

/-! ## Values -/

theorem Json.ofText?_text (value : Json) : ofText? value.text = (value.readIn 0).toJson? := by
  rw [ofText?, Document.read_text]
  rfl

/-- A decoder makes the same of the text of a value and of the document that the text is read as, or it
rejects both. -/
theorem Decoder.ofText_agrees {α : Type} (decode : Decoder α) (value : Json) :
    (∃ made, decode (value.readIn 0) = .ok made ∧ decode.ofText value.text = .ok made) ∨
      ∃ cause other, decode (value.readIn 0) = .error cause ∧
        decode.ofText value.text = .error other := by
  unfold ofText
  simp only [Document.read_text]
  cases decode (value.readIn 0) with
  | ok made => exact .inl ⟨made, rfl, rfl⟩
  | error cause =>
    -- One fault of a structure is told of a text in another way; that is all the difference.
    cases cause with
    | tooManyElements given => exact .inr ⟨_, .notJson, rfl, rfl⟩
    | _ => exact .inr ⟨_, _, rfl, rfl⟩

namespace Number

/-- A number whose text is read back or rejected. -/
def IsFaithful (n : Number) : Prop :=
  Json.ofText? (Json.number n).text = some (.number n) ∨
    Json.ofText? (Json.number n).text = none

theorem toJson?_readIn (n : Number) (depth : Nat) :
    ((Json.number n).readIn depth).toJson? = n.reread?.map .number := by
  rw [Json.readIn]
  cases n.reread? with
  | none => rfl
  | some other => rfl

/-- Every integer of 64 bits is read back. -/
theorem isFaithful_integer {value : Int} (least : -(Nat.pow 2 63 : Nat) ≤ value)
    (greatest : value < (Nat.pow 2 64 : Nat)) :
    (integer value).IsFaithful := by
  refine .inl ?_
  rw [Json.ofText?_text, toJson?_readIn, reread?_integer least greatest, Option.map_some]

end Number

namespace Json

/-- A value that is read back or rejected, wherever its text stands. -/
def IsStable (value : Json) : Prop :=
  ∀ depth, (value.readIn depth).toJson? = some value ∨ (value.readIn depth).toJson? = none

variable {value : Json} {items : List Json} {members : List (String × Json)}

theorem isStable_number {n : Number} (faithful : n.IsFaithful) : (number n).IsStable := by
  intro depth
  unfold Number.IsFaithful at faithful
  rwa [ofText?_text, n.toJson?_readIn, ← n.toJson?_readIn depth] at faithful

theorem itemsToJson?_readIn (stable : ∀ item ∈ items, item.IsStable) (depth : Nat) :
    Document.itemsToJson? (itemsReadIn depth items) = some items ∨
      Document.itemsToJson? (itemsReadIn depth items) = none := by
  induction items with
  | nil => exact .inl rfl
  | cons item rest ih =>
    have rest_read := ih fun other member => stable other (List.mem_cons_of_mem _ member)
    rcases stable item (List.mem_cons_self ..) depth with read | rejected
    · rcases rest_read with rest_read | rest_rejected
      · exact .inl (by simp [itemsReadIn, Document.itemsToJson?, read, rest_read])
      · exact .inr (by simp [itemsReadIn, Document.itemsToJson?, rest_rejected])
    · exact .inr (by simp [itemsReadIn, Document.itemsToJson?, rejected])

theorem membersToJson?_readIn (stable : ∀ member ∈ members, member.2.IsStable) (depth : Nat) :
    Document.membersToJson? (membersReadIn depth members) = some members ∨
      Document.membersToJson? (membersReadIn depth members) = none := by
  induction members with
  | nil => exact .inl rfl
  | cons member rest ih =>
    have rest_read := ih fun other later => stable other (List.mem_cons_of_mem _ later)
    rcases stable member (List.mem_cons_self ..) depth with read | rejected
    · rcases rest_read with rest_read | rest_rejected
      · exact .inl (by simp [membersReadIn, Document.membersToJson?, read, rest_read])
      · exact .inr (by simp [membersReadIn, Document.membersToJson?, rest_rejected])
    · exact .inr (by simp [membersReadIn, Document.membersToJson?, rejected])

theorem isStable_array (stable : ∀ item ∈ items, item.IsStable) : (array items).IsStable := by
  intro depth
  rw [readIn]
  split
  · simp only [Document.toJson?]
    exact (itemsToJson?_readIn stable (depth + 1)).imp (fun read => by rw [read]; rfl)
      fun rejected => by rw [rejected]; rfl
  · exact .inr rfl

theorem isStable_object (nodup : (Keyed.keys members).Nodup)
    (stable : ∀ member ∈ members, member.2.IsStable) : (object members).IsStable := by
  intro depth
  rw [readIn]
  split
  · simp only [Document.toJson?]
    refine (membersToJson?_readIn stable (depth + 1)).imp (fun read => ?_)
      fun rejected => by rw [rejected]; rfl
    rw [read, Option.map_some, Keyed.ofList_of_nodup nodup]
  · exact .inr rfl

/-! ### Values that were read -/

mutual

/-- The numbers in a value. -/
def numbers : Json → List Number
  | number n => [n]
  | array items => itemNumbers items
  | object members => memberNumbers members
  | _ => []

/-- The numbers in some items. -/
def itemNumbers : List Json → List Number
  | [] => []
  | item :: rest => item.numbers ++ itemNumbers rest

/-- The numbers in some members. -/
def memberNumbers : List (String × Json) → List Number
  | [] => []
  | member :: rest => member.2.numbers ++ memberNumbers rest

end

/-- A value whose numbers are read back from their texts or rejected. -/
def IsFaithful (value : Json) : Prop :=
  ∀ n ∈ value.numbers, n.IsFaithful

mutual

/-- What a value without unfaithful numbers is decoded to is stable: no object in it has a key
twice. -/
theorem isStable_of_toJson? {value read : Json} (faithful : ∀ n ∈ value.numbers, n.IsFaithful)
    (found : value.toDocument.toJson? = some read) : read.IsStable := by
  match value with
  | null => cases found; exact fun _ => .inl rfl
  | bool flag => cases found; exact fun _ => .inl rfl
  | string text => cases found; exact fun _ => .inl rfl
  | number n =>
    cases found
    exact isStable_number (faithful n (List.mem_singleton.2 rfl))
  | array items =>
    obtain ⟨others, others_found, rfl⟩ := Option.map_eq_some_iff.1 found
    exact isStable_array (isStable_of_itemsToJson? faithful others_found)
  | object members =>
    obtain ⟨others, others_found, rfl⟩ := Option.map_eq_some_iff.1 found
    exact isStable_object (Keyed.nodup_ofList others) fun member present =>
      isStable_of_membersToJson? faithful others_found member (Keyed.mem_ofList present)

theorem isStable_of_itemsToJson? {items others : List Json}
    (faithful : ∀ n ∈ itemNumbers items, n.IsFaithful)
    (found : Document.itemsToJson? (itemsToDocument items) = some others) :
    ∀ item ∈ others, item.IsStable := by
  match items with
  | [] =>
    cases found
    exact List.forall_mem_nil _
  | item :: rest =>
    simp only [itemsToDocument, Document.itemsToJson?, Option.bind_eq_bind,
      Option.bind_eq_some_iff, Option.pure_def, Option.some.injEq] at found
    obtain ⟨first, first_found, more, more_found, rfl⟩ := found
    simp only [itemNumbers, List.mem_append] at faithful
    refine List.forall_mem_cons.2 ⟨?_, ?_⟩
    · exact isStable_of_toJson? (fun n member => faithful n (.inl member)) first_found
    · exact isStable_of_itemsToJson? (fun n member => faithful n (.inr member)) more_found

theorem isStable_of_membersToJson? {members others : List (String × Json)}
    (faithful : ∀ n ∈ memberNumbers members, n.IsFaithful)
    (found : Document.membersToJson? (membersToDocument members) = some others) :
    ∀ member ∈ others, member.2.IsStable := by
  match members with
  | [] =>
    cases found
    exact List.forall_mem_nil _
  | (key, value) :: rest =>
    simp only [membersToDocument, Document.membersToJson?, Option.bind_eq_bind,
      Option.bind_eq_some_iff, Option.pure_def, Option.some.injEq] at found
    obtain ⟨first, first_found, more, more_found, rfl⟩ := found
    simp only [memberNumbers, List.mem_append] at faithful
    refine List.forall_mem_cons.2 ⟨?_, ?_⟩
    · exact isStable_of_toJson? (fun n member => faithful n (.inl member)) first_found
    · exact isStable_of_membersToJson? (fun n member => faithful n (.inr member)) more_found

end

end Json

end RecordAccess
