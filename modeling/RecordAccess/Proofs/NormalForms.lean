import RecordAccess.Proofs.RecordText

/-!
# Normal forms of records

A record has many written forms. Its members may stand in any order, its id may be a number, and its
roles may be a text; a text may be laid out in any way. Whatever a record was decoded from, its own text
and its own value decode to it again (`Written.describes_normal`), so objects describe one record exactly
when the records that they decode to have one text.

What a decoder makes of an object is plain (`Record.IsPlain`): the names of the fields are different from
each other and from those of the record's own members, so that nothing is lost when all are written into
one object. What is left out of it, no permission or a revision of zero, is what a decoder takes when it
finds nothing there.

Of the data it is assumed that their numbers are integers, as the text of another number need not be read
back as that number, and that a reader has room for them inside an object.
-/

namespace RecordAccess

/-! ## Written forms -/

/-- Something that is decoded: a value, or a text that may be laid out in any way. -/
inductive Written where
  | value (json : Json)
  | text (body : String)

/-- A value inside an object: its numbers are integers of 64 bits, and a reader has room for it. -/
structure Json.IsDatum (value : Json) : Prop where
  integers : ∀ n ∈ value.numbers, n.IsInteger
  nested : value.nesting < Document.depthLimit

namespace Written

/-- The document that is decoded. -/
def document : Written → Document
  | value json => json.toDocument
  | text body => (Document.read body).document

/-- Decodes a value or a text. -/
def decode {α : Type} (written : Written) (decoder : Decoder α) : Except DecodeError α :=
  match written with
  | value json => decoder.ofJson json
  | text body => decoder.ofText body

/-- What is decoded is an object that describes a record: it decodes to the record, and its members
beside the id, the permission and the revision are data. -/
structure Describes (written : Written) (record : Record) : Prop where
  decoded : written.decode Record.decode = .ok record
  data : ∀ members, written.document = .object members → ∀ name document value,
    (some name, document) ∈ members → name ≠ "id" → name ≠ "permission" → name ≠ "revision" →
    document.toJson? = some value → value.IsDatum

variable {written : Written} {record : Record}

/-- A text decodes to what its document decodes to. -/
theorem decode_document {α : Type} {decoder : Decoder α} {made : α}
    (decoded : written.decode decoder = .ok made) : decoder written.document = .ok made := by
  cases written with
  | value json => exact decoded
  | text body =>
    simp only [decode, Decoder.ofText] at decoded
    rw [document]
    split at decoded
    · next other succeeded =>
      rw [succeeded]
      split at decoded
      · exact decoded
      · cases decoded
    · cases decoded
    · cases decoded

/-- The fields of a record that is described are data without repeated keys. -/
theorem Describes.isDatum (described : written.Describes record) :
    ∀ field ∈ record.fields, field.2.IsDatum ∧ field.2.IsDistinct := by
  intro field member
  obtain ⟨members, same, made⟩ := Record.isMadeOf_of_decode (decode_document described.decoded)
  obtain ⟨unknown, document, present, read⟩ := made.given field member
  obtain ⟨notId, notPermission, notRevision⟩ := Record.find?_ownFields_eq_none.1 unknown
  exact ⟨described.data members same _ document _ present notId notPermission notRevision read,
    Json.isDistinct_of_toJson? read⟩

end Written

/-! ## The record's own written form -/

/-- An object of data is legible. -/
theorem Json.isLegible_object {members : List (String × Json)}
    (data : ∀ member ∈ members, member.2.IsDatum) : (object members).IsLegible where
  integers n among := by
    obtain ⟨member, present, there⟩ := exists_of_mem_memberNumbers among
    exact (data member present).integers n there
  nested := Nat.succ_le_of_lt (Nat.lt_of_le_of_lt
    (membersNesting_le fun member present => Nat.le_pred_of_lt (data member present).nested)
    (by decide))

/-- The written form of a permission has no numbers and two containers that are open at once. -/
theorem Permission.isDatum_toJson (permission : Permission) : permission.toJson.IsDatum where
  integers n among := by
    simp [toJson, RoleSet.toJson, Json.numbers, Json.memberNumbers, Json.numbers_strings] at among
  nested := by
    simp [toJson, RoleSet.toJson, Json.nesting, Json.membersNesting, Json.nesting_strings,
      Document.depthLimit]

namespace Record

/-- A record that can be written as an object and read back: its fields are data without repeated keys,
their names are different from each other and from those of the record's own members, and its revision has
64 bits with a sign. -/
structure IsPlain (record : Record) : Prop where
  nodup : record.fields.keys.Nodup
  foreign : ∀ field ∈ record.fields,
    field.1 ≠ "id" ∧ field.1 ≠ "permission" ∧ field.1 ≠ "revision"
  data : ∀ field ∈ record.fields, field.2.IsDatum ∧ field.2.IsDistinct
  least : -(Nat.pow 2 63 : Nat) ≤ record.revision
  greatest : record.revision < (Nat.pow 2 63 : Nat)

variable {record : Record}

theorem isPlain_of_describes {written : Written} (described : written.Describes record) :
    record.IsPlain := by
  obtain ⟨members, -, made⟩ := isMadeOf_of_decode (Written.decode_document described.decoded)
  exact ⟨made.nodup, fun field member => find?_ownFields_eq_none.1 (made.given field member).1,
    described.isDatum, made.least, made.greatest⟩

/-- A member of the written form is one of the record's own or a field. -/
theorem cases_of_mem_members {member : String × Json} (present : member ∈ record.members) :
    member = ("id", .string record.id) ∨
      (∃ permission : Permission, member = ("permission", permission.toJson)) ∨
      member = ("revision", .integer record.revision) ∨ member ∈ record.fields := by
  rw [members, List.mem_cons, List.mem_append, List.mem_append, Option.mem_toList,
    Option.map_eq_some_iff] at present
  rcases present with same | (⟨permission, -, same⟩ | revised) | field
  · exact .inl same
  · exact .inr (.inl ⟨permission, same.symm⟩)
  · split at revised
    · cases revised
    · exact .inr (.inr (.inl (List.mem_singleton.1 revised)))
  · exact .inr (.inr (.inr field))

namespace IsPlain

/-- All members of the written form are data. -/
theorem isDatum (plain : record.IsPlain) : ∀ member ∈ record.members, member.2.IsDatum := by
  intro member present
  rcases cases_of_mem_members present with rfl | ⟨permission, rfl⟩ | rfl | field
  · exact ⟨List.forall_mem_nil _, Nat.zero_lt_succ _⟩
  · exact permission.isDatum_toJson
  · have wide : record.revision < (Nat.pow 2 64 : Nat) := Int.lt_trans plain.greatest (by decide)
    exact ⟨fun n among => ⟨_, List.mem_singleton.1 among, plain.least, wide⟩, Nat.zero_lt_succ _⟩
  · exact (plain.data member field).1

/-- The members of the written form have different names. -/
theorem nodup_members (plain : record.IsPlain) : (Keyed.keys record.members).Nodup := by
  have foreign : ∀ name ∈ record.fields.keys,
      name ≠ "id" ∧ name ≠ "permission" ∧ name ≠ "revision" := by
    intro name present
    obtain ⟨field, member, rfl⟩ := List.mem_map.1 present
    exact plain.foreign field member
  have nodup := plain.nodup
  simp only [members, Keyed.keys] at foreign nodup ⊢
  cases record.permission <;> by_cases unset : record.revision = 0 <;>
    simp [unset, nodup] <;> grind

/-- The value of a plain record has the members of its text. -/
theorem toJson_eq (plain : record.IsPlain) : record.toJson = .object record.members := by
  rw [toJson, Keyed.ofList_of_nodup plain.nodup_members]

theorem isLegible (plain : record.IsPlain) : record.IsLegible where
  nodup := plain.nodup
  unrevised field member := (plain.foreign field member).2.2
  back field member := by
    obtain ⟨datum, distinct⟩ := plain.data field member
    exact Json.readsBack_of_isDistinct datum.integers
      (by have := datum.nested; omega) distinct

/-- What the text of a plain record is read as is the document of its value. -/
theorem read_text (plain : record.IsPlain) :
    Document.read record.text = ⟨record.toJson.toDocument, true⟩ := by
  have legible := Json.isLegible_object plain.isDatum
  rw [text, Document.read_text, legible.readIn_zero, plain.toJson_eq]

/-- A plain record is decoded from its document. -/
theorem decode_toJson (plain : record.IsPlain) : decode record.toJson.toDocument = .ok record := by
  have legible := Json.isLegible_object plain.isDatum
  rw [plain.toJson_eq, ← legible.readIn_zero]
  exact plain.isLegible.decode_readIn (fun field member =>
    ⟨(plain.foreign field member).1, (plain.foreign field member).2.1⟩) plain.least plain.greatest

/-- The members of a plain record are data after they are read. -/
theorem isDatum_of_toJson? (plain : record.IsPlain) {members : List (Option String × Document)}
    (same : record.toJson.toDocument = .object members) {name : String} {document : Document}
    {value : Json} (member : (some name, document) ∈ members)
    (read : document.toJson? = some value) : value.IsDatum := by
  rw [plain.toJson_eq] at same
  cases same
  obtain ⟨given, present, rfl⟩ := Json.mem_membersToDocument member
  have datum := plain.isDatum _ present
  have within := Json.isWithin_of_toJson? read
  exact ⟨fun n among => datum.integers n (within.numbers n among),
    Nat.lt_of_le_of_lt within.nested datum.nested⟩

/-- The value of a plain record describes it. -/
theorem describes_toJson (plain : record.IsPlain) : (Written.value record.toJson).Describes record where
  decoded := plain.decode_toJson
  data _ same _ _ _ member _ _ _ read := plain.isDatum_of_toJson? same member read

/-- The text of a plain record describes it. -/
theorem describes_text (plain : record.IsPlain) : (Written.text record.text).Describes record where
  decoded := by
    rw [Written.decode, Decoder.ofText, plain.read_text]
    simp only [plain.decode_toJson]
    rfl
  data _ same _ _ _ member _ _ _ read := by
    rw [Written.document, plain.read_text] at same
    exact plain.isDatum_of_toJson? same member read

end IsPlain

end Record

/-! ## Normal forms -/

namespace Written

/-- There is one record that an object describes. -/
theorem Describes.unique {written : Written} {record other : Record}
    (described : written.Describes record) (also : written.Describes other) : record = other :=
  Except.ok.inj (described.decoded.symm.trans also.decoded)

/-- Whatever a record is decoded from, its own text and its own value describe it again. So two records
that are described are the same when their texts are, or their values. The text of a record is never that
of a tombstone. -/
theorem describes_normal {written : Written} {record : Record} (described : written.Describes record) :
    (text record.text).Describes record ∧ (value record.toJson).Describes record ∧
      (∀ (other : Written) (made : Record), other.Describes made →
        (made.text = record.text ↔ made = record) ∧ (made.toJson = record.toJson ↔ made = record)) ∧
      ∀ made : Record, made.text ≠ CacheAside.tombstoneText := by
  have plain := Record.isPlain_of_describes described
  refine ⟨plain.describes_text, plain.describes_toJson, fun other made also => ?_,
    CacheAside.text_ne_tombstoneText⟩
  have alsoPlain := Record.isPlain_of_describes also
  refine ⟨⟨fun same => ?_, fun same => by rw [same]⟩, fun same => ?_, fun same => by rw [same]⟩
  · have read := alsoPlain.describes_text
    rw [same] at read
    exact read.unique plain.describes_text
  · have read := alsoPlain.describes_toJson
    rw [same] at read
    exact read.unique plain.describes_toJson

/-- A letter as it may come in: its roles are a text, with one of them twice, its revision is that of no
revision, and its id stands last and is a number. -/
def letter : Json :=
  .object [("permission", .object [("read", .string "[\"b\",\"a\",\"b\"]")]),
    ("revision", .integer 0), ("to", .array [.string "b", .object [("at", .integer (-1))]]),
    ("id", .integer 12)]

/-- The record that the letter describes. -/
def letterRecord : Record :=
  ⟨"12", some ⟨.ofList ["a", "b"], .empty⟩, 0,
    [("to", .array [.string "b", .object [("at", .integer (-1))]])]⟩

theorem describes_letter : (value letter).Describes letterRecord where
  decoded := by
    have written : "[\"b\",\"a\",\"b\"]" = (Json.strings ["b", "a", "b"]).text := by decide
    have read : (Decoder.list Decoder.text).ofText "[\"b\",\"a\",\"b\"]" = .ok ["b", "a", "b"] := by
      rw [written, Decoder.ofText, Document.read_text]
      rfl
    have roles : RoleSet.decode (.string "[\"b\",\"a\",\"b\"]") = .ok (.ofList ["a", "b"]) := by
      simp only [RoleSet.decode, Decoder.json, Document.toJson?, bind, Except.bind]
      rw [RoleSet.ofText, if_neg (by decide), read]
      exact congrArg Except.ok (by decide)
    have permission : Permission.decode (.object [(some "read", .string "[\"b\",\"a\",\"b\"]")]) =
        .ok ⟨.ofList ["a", "b"], .empty⟩ := by
      simp [Permission.decode, Decoder.struct, Decoder.readMembers, Field.withDefault, roles]
      rfl
    change (Decoder.readMembers _ _ _ _ (_ :: _)).bind _ = _
    rw [@Decoder.readMembers_field _ _ _ _ _ _ _ Record.ownFields[1] rfl rfl]
    change (((Permission.decode (.object [(some "read", .string _)])).map _ |>.map _).bind _).bind _ = _
    rw [permission]
    rfl
  data := by
    intro members same name document value member notId notPermission notRevision read
    cases same
    obtain ⟨given, present, rfl⟩ := Json.mem_membersToDocument member
    simp only [List.mem_cons, Prod.mk.injEq, List.not_mem_nil, or_false] at present
    rcases present with ⟨rfl, -⟩ | ⟨rfl, -⟩ | ⟨rfl, rfl⟩ | ⟨rfl, -⟩
    · exact absurd rfl notPermission
    · exact absurd rfl notRevision
    · cases read
      refine ⟨fun n among => ?_, by decide⟩
      obtain rfl := List.mem_singleton.1 among
      exact ⟨-1, rfl, by decide, by decide⟩
    · exact absurd rfl notId

theorem describes_normal_letter :
    (value letter).Describes letterRecord ∧ (text letterRecord.text).Describes letterRecord ∧
      letterRecord.text =
        "\x7b\"id\":\"12\",\"permission\":\x7b\"read\":[\"a\",\"b\"],\"write\":[]\x7d," ++
          "\"to\":[\"b\",\x7b\"at\":-1\x7d]\x7d" :=
  ⟨describes_letter, (describes_normal describes_letter).1, by decide⟩

end Written

end RecordAccess
