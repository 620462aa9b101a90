import RecordAccess.Cache.Aside
import RecordAccess.Proofs.Json.Nesting
import RecordAccess.Proofs.Outcomes

/-!
# Cached texts

What the text of a record decodes to (`CacheAside.decodeEntry_text`). A record that is storable
comes back as it is, or its text counts as corrupt (`CacheAside.decodeEntry_of_isStorable`): its
fields have different names, none of them that of one of the record's own members, and stable
values. What is read back of a permission is the permission; a revision beyond 64 bits is
rejected.

What is known of every record that was decoded, whatever from, says `Record.IsMadeOf`. It is shown member
by member, as is all else that a decoder of structures keeps (`Decoder.readMembers_keeps`).
-/

namespace RecordAccess

/-! ## Permissions -/

namespace RoleSet

variable {depth : Nat}

theorem nodup_toList (set : RoleSet) : set.toList.Nodup := by
  refine set.ascending.imp ?_
  rintro role _ below rfl
  exact String.lt_irrefl role below

/-- Sets with the same roles are the same. -/
theorem ext {a b : RoleSet} (same : ∀ role, role ∈ a ↔ role ∈ b) : a = b := by
  have sameList : a.toList = b.toList := by
    refine List.Perm.eq_of_pairwise ?_ a.ascending b.ascending ?_
    · exact fun _ _ _ _ below above => absurd above (String.lt_asymm below)
    · exact (List.perm_ext_iff_of_nodup (nodup_toList a) (nodup_toList b)).2 same
  cases a
  cases b
  cases sameList
  rfl

/-- A set is what its roles make, however they are listed. -/
theorem ofList_toList (set : RoleSet) : ofList set.toList = set :=
  ext fun _ => mem_ofList

theorem itemsToJson?_strings (texts : List String) :
    Document.itemsToJson? (Json.itemsReadIn depth (texts.map .string)) =
      some (texts.map .string) := by
  induction texts with
  | nil => rfl
  | cons text rest ih => simp [Json.itemsReadIn, Json.readIn, Document.itemsToJson?,
      Document.toJson?, ih]

theorem rolesOf?_strings (texts : List String) : rolesOf? (.strings texts) = some texts := by
  simp only [rolesOf?, Json.strings]
  induction texts with
  | nil => rfl
  | cons text rest ih => simp [ih]

/-- A set is read back from its written form. -/
theorem decode_readIn (set : RoleSet) (room : depth < Document.depthLimit) :
    decode (set.toJson.readIn depth) = .ok set := by
  have read : (set.toJson.readIn depth).toJson? = some set.toJson := by
    simp only [toJson, Json.strings, Json.readIn, room, if_true, Document.toJson?,
      itemsToJson?_strings, Option.map_some]
  have roles := rolesOf?_strings set.toList
  simp only [decode, Decoder.json, read, bind, Except.bind]
  simp only [Json.strings, toJson] at roles ⊢
  rw [roles]
  exact congrArg Except.ok (ofList_toList set)

end RoleSet

/-- A permission is read back from its written form. -/
theorem Permission.decode_readIn (permission : Permission) {depth : Nat}
    (room : depth + 1 < Document.depthLimit) :
    decode (permission.toJson.readIn depth) = .ok permission := by
  have outer : depth < Document.depthLimit := Nat.lt_of_succ_lt room
  have read := RoleSet.decode_readIn permission.read room
  have write := RoleSet.decode_readIn permission.write room
  simp only [toJson, Json.readIn, outer, if_true, Json.membersReadIn]
  generalize permission.read.toJson.readIn (depth + 1) = readDocument at read
  generalize permission.write.toJson.readIn (depth + 1) = writeDocument at write
  simp [decode, Decoder.struct, Decoder.readMembers, Field.withDefault, read, write]
  rfl

/-! ## Members -/

namespace Decoder

variable {α : Type} {fields : List (Field α)} {value : α} {seen : List String} {key : String}
  {other : α → String → Document → Except DecodeError α} {document : Document}

theorem readMembers_field {field : Field α}
    (found : fields.find? (fun field => field.name = key) = some field)
    (fresh : seen.contains key = false) (rest : List (Option String × Document)) :
    readMembers fields other value seen ((some key, document) :: rest) =
      (field.read value document).bind fun value =>
        readMembers fields other value (key :: seen) rest := by
  rw [readMembers, found]
  simp only [fresh, Bool.false_eq_true, if_false]
  rfl

theorem readMembers_other (unknown : fields.find? (fun field => field.name = key) = none)
    (rest : List (Option String × Document)) :
    readMembers fields other value seen ((some key, document) :: rest) =
      (other value key document).bind fun value => readMembers fields other value seen rest := by
  rw [readMembers, unknown]
  rfl

theorem json_eq_ok {value : Json} : json document = .ok value ↔ document.toJson? = some value := by
  unfold json
  cases document.toJson? <;> simp

/-- An integer that is decoded has 64 bits with a sign. -/
theorem integer_eq_ok {value : Int} (decoded : integer document = .ok value) :
    -(Nat.pow 2 63 : Nat) ≤ value ∧ value < (Nat.pow 2 63 : Nat) := by
  match document with
  | .number (.integer n) =>
    rw [integer] at decoded
    split at decoded
    · next fits =>
      cases decoded
      exact fits
    · cases decoded
  | .number (.real _) | .null | .bool _ | .string _ | .array _ | .object _ | .unreadable =>
    cases decoded

/-- What holds of a structure, and is kept by its fields and by all that is made of other members, holds
of the structure that is read. -/
theorem readMembers_keeps (holds : α → Prop) {members : List (Option String × Document)} {read : α}
    {found : List String}
    (own : ∀ field ∈ fields, ∀ {value document next}, (some field.name, document) ∈ members →
      holds value → field.read value document = .ok next → holds next)
    (others : ∀ {value key document next}, (some key, document) ∈ members →
      fields.find? (fun field => field.name = key) = none → holds value →
      other value key document = .ok next → holds next)
    (start : holds value)
    (succeeded : readMembers fields other value seen members = .ok (read, found)) : holds read := by
  induction members generalizing value seen with
  | nil =>
    cases succeeded
    exact start
  | cons first rest ih =>
    obtain ⟨_ | key, document⟩ := first
    · cases succeeded
    have ownLater := fun field known {value document next} member =>
      @own field known value document next (List.mem_cons_of_mem _ member)
    have othersLater := fun {value key document next} member =>
      @others value key document next (List.mem_cons_of_mem _ member)
    cases known : fields.find? fun field => field.name = key with
    | some field =>
      have there := List.mem_of_find?_eq_some known
      obtain rfl : field.name = key := by simpa using List.find?_some known
      cases fresh : seen.contains field.name with
      | true =>
        rw [readMembers, known] at succeeded
        simp only [fresh, if_true] at succeeded
        cases succeeded
      | false =>
        rw [readMembers_field known fresh] at succeeded
        obtain ⟨next, taken, succeeded⟩ := exists_of_bind_eq_ok succeeded
        exact ih ownLater othersLater (own field there (List.mem_cons_self ..) start taken) succeeded
    | none =>
      rw [readMembers_other known] at succeeded
      obtain ⟨next, taken, succeeded⟩ := exists_of_bind_eq_ok succeeded
      exact ih ownLater othersLater (others (List.mem_cons_self ..) known start taken) succeeded

end Decoder

/-! ## Fields that are read -/

theorem Field.eq_of_withDefault {α β : Type} {name : String} {decode : Decoder β}
    {set : α → β → α} {value taken : α} {document : Document}
    (read : (withDefault name decode set).read value document = .ok taken) :
    ∃ part, decode document = .ok part ∧ taken = set value part := by
  change (decode document).map (set value) = .ok taken at read
  cases decoded : decode document with
  | error cause =>
    rw [decoded] at read
    cases read
  | ok part =>
    rw [decoded] at read
    cases read
    exact ⟨part, rfl, rfl⟩

namespace Record

/-- The names that are not those of the record's own members. -/
theorem find?_ownFields_eq_none {name : String} :
    ownFields.find? (fun field => field.name = name) = none ↔
      name ≠ "id" ∧ name ≠ "permission" ∧ name ≠ "revision" := by
  simp [ownFields, Field.withDefault, @eq_comm _ name]

/-- What is known of a record that is made of some members. Its fields have different names, none of them
that of a member of its own, and each was decoded from a member; its revision has 64 bits with a sign. -/
structure IsMadeOf (members : List (Option String × Document)) (record : Record) : Prop where
  nodup : record.fields.keys.Nodup
  given : ∀ field ∈ record.fields, ownFields.find? (fun own => own.name = field.1) = none ∧
    ∃ document, (some field.1, document) ∈ members ∧ document.toJson? = some field.2
  least : -(Nat.pow 2 63 : Nat) ≤ record.revision
  greatest : record.revision < (Nat.pow 2 63 : Nat)

variable {members : List (Option String × Document)} {record : Record} {document : Document}

theorem isMadeOf_ofId (id : String) : (ofId id).IsMadeOf members where
  nodup := List.nodup_nil
  given := List.forall_mem_nil _
  least := (by decide : -(Nat.pow 2 63 : Nat) ≤ (0 : Int))
  greatest := (by decide : (0 : Int) < (Nat.pow 2 63 : Nat))

/-- A member of the record's own is no field. -/
theorem IsMadeOf.own {taken : Record} {field : Field Record} (own : field ∈ ownFields)
    (made : record.IsMadeOf members) (read : field.read record document = .ok taken) :
    taken.IsMadeOf members := by
  simp only [ownFields, List.mem_cons, List.not_mem_nil, or_false] at own
  rcases own with rfl | rfl | rfl
  · obtain ⟨id, -, rfl⟩ := Field.eq_of_withDefault read
    exact ⟨made.nodup, made.given, made.least, made.greatest⟩
  · obtain ⟨permission, -, rfl⟩ := Field.eq_of_withDefault read
    exact ⟨made.nodup, made.given, made.least, made.greatest⟩
  · obtain ⟨revision, decoded, rfl⟩ := Field.eq_of_withDefault read
    obtain ⟨least, greatest⟩ := Decoder.integer_eq_ok decoded
    exact ⟨made.nodup, made.given, least, greatest⟩

/-- Any other member is a field. -/
theorem IsMadeOf.other {taken : Record} {name : String} (member : (some name, document) ∈ members)
    (unknown : ownFields.find? (fun field => field.name = name) = none)
    (made : record.IsMadeOf members) (read : readField record name document = .ok taken) :
    taken.IsMadeOf members := by
  obtain ⟨value, decoded, same⟩ := exists_of_bind_eq_ok read
  cases same
  refine ⟨Keyed.nodup_insert made.nodup, fun field present => ?_, made.least, made.greatest⟩
  rcases Keyed.mem_insert present with rfl | old
  · exact ⟨unknown, document, member, Decoder.json_eq_ok.1 decoded⟩
  · exact made.given field old

/-- A decoded record is made of the members of an object. -/
theorem isMadeOf_of_decode (decoded : decode document = .ok record) :
    ∃ members, document = .object members ∧ record.IsMadeOf members := by
  cases document with
  | object members =>
    obtain ⟨⟨read, found⟩, succeeded, same⟩ := exists_of_bind_eq_ok decoded
    cases same
    exact ⟨members, rfl, Decoder.readMembers_keeps (IsMadeOf members)
      (fun _ own _ _ _ _ => IsMadeOf.own own) IsMadeOf.other (isMadeOf_ofId "") succeeded⟩
  | _ => cases decoded

/-- A field of a decoded record was decoded from a member that is none of the record's own. -/
theorem member_of_decode (decoded : decode document = .ok record) {field : String × Json}
    (member : field ∈ record.fields) :
    ownFields.find? (fun own => own.name = field.1) = none ∧
      ∃ members, document = .object members ∧
        ∃ value, (some field.1, value) ∈ members ∧ value.toJson? = some field.2 := by
  obtain ⟨members, same, made⟩ := isMadeOf_of_decode decoded
  obtain ⟨foreign, there⟩ := made.given field member
  exact ⟨foreign, members, same, there⟩

end Record

/-! ## Records that are read back -/

namespace Record

/-- A record that its own text can be read back as. Its fields have different names, none of them
that of another member, and stable values. -/
structure IsStorable (record : Record) : Prop where
  nodup : record.fields.keys.Nodup
  foreign : ∀ field ∈ record.fields,
    field.1 ≠ "id" ∧ field.1 ≠ "permission" ∧ field.1 ≠ "revision"
  stable : ∀ field ∈ record.fields, field.2.IsStable

/-- A member that is not the record's own is taken in as a field when its value is read back. -/
theorem readMembers_taken {record : Record} {seen : List String} {depth : Nat} {name : String}
    {value : Json} (unknown : ownFields.find? (fun field => field.name = name) = none)
    (absent : name ∉ record.fields.keys) (back : value.ReadsBack depth)
    (rest : List (Option String × Document)) :
    Decoder.readMembers ownFields readField record seen ((some name, value.readIn depth) :: rest) =
      Decoder.readMembers ownFields readField
        { record with fields := record.fields ++ [(name, value)] } seen rest := by
  have taken : readField record name (value.readIn depth) =
      .ok { record with fields := record.fields ++ [(name, value)] } := by
    have read : Decoder.json (value.readIn depth) = .ok value := Decoder.json_eq_ok.2 back
    simp only [readField, read]
    exact congrArg (fun fields => Except.ok { record with fields }) (Keyed.insert_of_not_mem absent)
  rw [Decoder.readMembers_other unknown, taken]
  rfl

/-- The first of some fields is none of those that are there, and the others are none of those that are
there then. -/
theorem nodup_keys_cons {table rest : Keyed Json} {name : String} {value : Json}
    (nodup : (Keyed.keys (table ++ (name, value) :: rest)).Nodup) :
    name ∉ table.keys ∧ (Keyed.keys ((table ++ [(name, value)]) ++ rest)).Nodup := by
  refine ⟨fun member => ?_, by simpa using nodup⟩
  rw [Keyed.keys_append] at nodup
  exact (List.nodup_append.1 nodup).2.2 _ member name (List.mem_cons_self ..) rfl

/-- Fields that are not the record's own are taken in one after another, or one is rejected. -/
theorem readMembers_fields {fields : Keyed Json} (record : Record) (seen : List String)
    (depth : Nat) (nodup : (Keyed.keys (record.fields ++ fields)).Nodup)
    (foreign : ∀ field ∈ fields,
      field.1 ≠ "id" ∧ field.1 ≠ "permission" ∧ field.1 ≠ "revision")
    (stable : ∀ field ∈ fields, field.2.IsStable) :
    (∃ seen', Decoder.readMembers ownFields readField record seen
      (Json.membersReadIn depth fields) =
        .ok ({ record with fields := record.fields ++ fields }, seen')) ∨
    ∃ cause, Decoder.readMembers ownFields readField record seen
      (Json.membersReadIn depth fields) = .error cause := by
  induction fields generalizing record with
  | nil => exact .inl ⟨seen, by simp [Json.membersReadIn, Decoder.readMembers]⟩
  | cons field rest ih =>
    obtain ⟨name, value⟩ := field
    have unknown := find?_ownFields_eq_none.2 (foreign _ (List.mem_cons_self ..))
    obtain ⟨absent, nodup⟩ := nodup_keys_cons nodup
    rw [Json.membersReadIn]
    rcases stable _ (List.mem_cons_self ..) depth with back | rejected
    · rw [readMembers_taken unknown absent back, List.append_cons record.fields (name, value) rest]
      exact ih { record with fields := record.fields ++ [(name, value)] } nodup
        (fun other member => foreign other (List.mem_cons_of_mem _ member))
        fun other member => stable other (List.mem_cons_of_mem _ member)
    · refine .inr ⟨.notJson, ?_⟩
      rw [Decoder.readMembers_other unknown]
      simp only [readField, Decoder.json, rejected]
      rfl

/-- Fields that are not the record's own are taken in one after another when their values are read
back. -/
theorem readMembers_fields_eq {fields : Keyed Json} (record : Record) (seen : List String)
    (depth : Nat) (nodup : (Keyed.keys (record.fields ++ fields)).Nodup)
    (foreign : ∀ field ∈ fields,
      field.1 ≠ "id" ∧ field.1 ≠ "permission" ∧ field.1 ≠ "revision")
    (back : ∀ field ∈ fields, field.2.ReadsBack depth) :
    Decoder.readMembers ownFields readField record seen (Json.membersReadIn depth fields) =
      .ok ({ record with fields := record.fields ++ fields }, seen) := by
  induction fields generalizing record with
  | nil => simp [Json.membersReadIn, Decoder.readMembers]
  | cons field rest ih =>
    obtain ⟨name, value⟩ := field
    have unknown := find?_ownFields_eq_none.2 (foreign _ (List.mem_cons_self ..))
    obtain ⟨absent, nodup⟩ := nodup_keys_cons nodup
    rw [Json.membersReadIn, readMembers_taken unknown absent (back _ (List.mem_cons_self ..)),
      List.append_cons record.fields (name, value) rest]
    exact ih { record with fields := record.fields ++ [(name, value)] } nodup
      (fun other member => foreign other (List.mem_cons_of_mem _ member))
      fun other member => back other (List.mem_cons_of_mem _ member)

theorem membersReadIn_append (depth : Nat) (members others : List (String × Json)) :
    Json.membersReadIn depth (members ++ others) =
      Json.membersReadIn depth members ++ Json.membersReadIn depth others := by
  induction members with
  | nil => rfl
  | cons member rest ih =>
    rw [List.cons_append, Json.membersReadIn, Json.membersReadIn, ih]
    rfl

/-- An integer that is read back is the one that was written. -/
theorem eq_of_integer_readIn {value other : Int} {depth : Nat}
    (read : Decoder.integer ((Json.integer value).readIn depth) = .ok other) : other = value := by
  rw [Json.integer, Json.readIn] at read
  cases found : (Number.integer value).reread? with
  | none => rw [found] at read; cases read
  | some n =>
    rw [found] at read
    cases n with
    | real x => cases read
    | integer n =>
      have same := Number.eq_of_reread?_integer found
      simp only [Option.map_some, Option.getD_some, Decoder.integer] at read
      split at read
      · cases read
        exact same
      · cases read

/-- A permission is taken in as it was written. -/
theorem readMembers_permission (id : String) (permission : Option Permission)
    (rest : List (Option String × Document)) :
    ∃ seen, "revision" ∉ seen ∧
      Decoder.readMembers ownFields readField (ofId id) ["id"]
        (Json.membersReadIn 1
          (permission.map fun permission => ("permission", permission.toJson)).toList ++ rest) =
        Decoder.readMembers ownFields readField ⟨id, permission, 0, []⟩ seen rest := by
  cases permission with
  | none => exact ⟨["id"], by decide, rfl⟩
  | some permission =>
    refine ⟨["permission", "id"], by decide, ?_⟩
    have decoded : Decoder.nullable Permission.decode (permission.toJson.readIn 1) =
        .ok (some permission) := by
      have read := @Permission.decode_readIn permission 1 (by decide)
      simp only [Permission.toJson, Json.readIn] at read ⊢
      rw [if_pos (by decide)] at read ⊢
      simp only [Decoder.nullable, read]
      rfl
    simp only [Option.map_some, Option.toList_some, Json.membersReadIn, List.cons_append,
      List.nil_append]
    rw [@Decoder.readMembers_field _ _ _ _ _ _ _ ownFields[1] rfl rfl]
    change ((Decoder.nullable Permission.decode _).map _).bind _ = _
    rw [decoded]
    rfl

/-- An integer of 64 bits with a sign is read back. -/
theorem integer_readIn {value : Int} {depth : Nat} (least : -(Nat.pow 2 63 : Nat) ≤ value)
    (greatest : value < (Nat.pow 2 63 : Nat)) :
    Decoder.integer ((Json.integer value).readIn depth) = .ok value := by
  have wide : value < (Nat.pow 2 64 : Nat) := Int.lt_trans greatest (by decide)
  rw [Json.integer, Json.readIn, Number.reread?_integer least wide]
  simp only [Option.map_some, Option.getD_some, Decoder.integer, if_pos (And.intro least greatest)]

/-- A revision is taken in when it is read back. -/
theorem readMembers_revision_eq (record : Record) (seen : List String) (fresh : "revision" ∉ seen)
    (revision : Int) (none_yet : record.revision = 0)
    (back : Decoder.integer ((Json.integer revision).readIn 1) = .ok revision)
    (rest : List (Option String × Document)) :
    ∃ seen', Decoder.readMembers ownFields readField record seen
        (Json.membersReadIn 1
          (if revision = 0 then [] else [("revision", Json.integer revision)]) ++ rest) =
        Decoder.readMembers ownFields readField { record with revision } seen' rest := by
  by_cases zero : revision = 0
  · subst zero
    refine ⟨seen, ?_⟩
    cases record
    cases none_yet
    rfl
  · have unseen : seen.contains "revision" = false := by simpa using fresh
    refine ⟨"revision" :: seen, ?_⟩
    simp only [if_neg zero, Json.membersReadIn, List.cons_append, List.nil_append]
    rw [@Decoder.readMembers_field _ _ _ _ _ _ _ ownFields[2] rfl unseen]
    change ((Decoder.integer _).map _).bind _ = _
    rw [back]
    rfl

/-- A revision is taken in as it was written, or rejected. -/
theorem readMembers_revision (record : Record) (seen : List String) (fresh : "revision" ∉ seen)
    (revision : Int) (none_yet : record.revision = 0) (rest : List (Option String × Document)) :
    (∃ seen', Decoder.readMembers ownFields readField record seen
        (Json.membersReadIn 1
          (if revision = 0 then [] else [("revision", Json.integer revision)]) ++ rest) =
        Decoder.readMembers ownFields readField { record with revision } seen' rest) ∨
      ∃ cause, Decoder.readMembers ownFields readField record seen
        (Json.membersReadIn 1
          (if revision = 0 then [] else [("revision", Json.integer revision)]) ++ rest) =
        .error cause := by
  cases read : Decoder.integer ((Json.integer revision).readIn 1) with
  | ok value =>
    obtain rfl : value = revision := eq_of_integer_readIn read
    exact .inl (readMembers_revision_eq record seen fresh value none_yet read rest)
  | error cause =>
    by_cases zero : revision = 0
    · rw [zero, integer_readIn (by decide) (by decide)] at read
      cases read
    · have unseen : seen.contains "revision" = false := by simpa using fresh
      refine .inr ⟨cause, ?_⟩
      simp only [if_neg zero, Json.membersReadIn, List.cons_append, List.nil_append]
      rw [@Decoder.readMembers_field _ _ _ _ _ _ _ ownFields[2] rfl unseen]
      change ((Decoder.integer _).map _).bind _ = _
      rw [read]
      rfl

/-- The id and the permission of a record are taken in first. -/
theorem decode_members (record : Record) : ∃ seen, "revision" ∉ seen ∧
    decode ((Json.object record.members).readIn 0) =
      (Decoder.readMembers ownFields readField ⟨record.id, record.permission, 0, []⟩ seen
        (Json.membersReadIn 1
          (if record.revision = 0 then [] else [("revision", Json.integer record.revision)]) ++
          Json.membersReadIn 1 record.fields)).bind fun result => .ok result.1 := by
  obtain ⟨seen, fresh, permission_read⟩ := readMembers_permission record.id record.permission
    (Json.membersReadIn 1
      (if record.revision = 0 then [] else [("revision", Json.integer record.revision)]) ++
      Json.membersReadIn 1 record.fields)
  refine ⟨seen, fresh, ?_⟩
  rw [Json.readIn, if_pos (by decide), decode, members, Json.membersReadIn, membersReadIn_append,
    membersReadIn_append, List.append_assoc, ← permission_read]
  rw [@Decoder.readMembers_field _ _ _ _ _ _ _ ownFields[0] rfl rfl]
  rfl

/-- The members of a record that is storable are read back, or one is rejected. -/
theorem decode_readIn {record : Record} (storable : record.IsStorable) :
    decode ((Json.object record.members).readIn 0) = .ok record ∨
      ∃ cause, decode ((Json.object record.members).readIn 0) = .error cause := by
  obtain ⟨seen, fresh, same⟩ := decode_members record
  rw [same]
  rcases readMembers_revision ⟨record.id, record.permission, 0, []⟩ seen fresh record.revision rfl
    (Json.membersReadIn 1 record.fields) with ⟨seen', revision_read⟩ | ⟨cause, rejected⟩
  · rw [revision_read]
    rcases readMembers_fields ⟨record.id, record.permission, record.revision, []⟩ seen' 1
      storable.nodup storable.foreign storable.stable with ⟨all, read⟩ | ⟨cause, rejected⟩
    · exact .inl (by rw [read]; rfl)
    · exact .inr ⟨cause, by rw [rejected]; rfl⟩
  · exact .inr ⟨cause, by rw [rejected]; rfl⟩

/-- What is read back of members has their names. -/
theorem mem_keys_of_mem_membersReadIn {members : Keyed Json} {depth : Nat} {name : String}
    {document : Document} (present : (some name, document) ∈ Json.membersReadIn depth members) :
    name ∈ members.keys := by
  induction members with
  | nil => cases present
  | cons first rest ih =>
    rw [Json.membersReadIn] at present
    rcases List.mem_cons.1 present with same | later
    · cases same
      exact List.mem_cons_self ..
    · exact List.mem_cons_of_mem _ (ih later)

/-- A record whose members are read back to some record has the revision of that one, unless a field has
the name of the revision. -/
theorem revision_of_decode_readIn {record read : Record}
    (unrevised : ∀ field ∈ record.fields, field.1 ≠ "revision")
    (decoded : decode ((Json.object record.members).readIn 0) = .ok read) :
    read.revision = record.revision := by
  obtain ⟨seen, fresh, same⟩ := decode_members record
  rw [same] at decoded
  rcases readMembers_revision ⟨record.id, record.permission, 0, []⟩ seen fresh record.revision rfl
    (Json.membersReadIn 1 record.fields) with ⟨seen', taken⟩ | ⟨cause, rejected⟩
  · rw [taken] at decoded
    obtain ⟨⟨made, found⟩, succeeded, same⟩ := exists_of_bind_eq_ok decoded
    cases same
    -- None of the other members is a revision.
    refine Decoder.readMembers_keeps (fun taken => taken.revision = record.revision) ?_ ?_ rfl
      succeeded
    · intro field own value document next present kept read
      simp only [ownFields, List.mem_cons, List.not_mem_nil, or_false] at own
      rcases own with rfl | rfl | rfl
      · obtain ⟨id, -, rfl⟩ := Field.eq_of_withDefault read
        exact kept
      · obtain ⟨permission, -, rfl⟩ := Field.eq_of_withDefault read
        exact kept
      · obtain ⟨field, member, named⟩ := List.mem_map.1 (mem_keys_of_mem_membersReadIn present)
        exact absurd named (unrevised field member)
    · intro value key document next _ _ kept read
      obtain ⟨value, -, same⟩ := exists_of_bind_eq_ok read
      cases same
      exact kept
  · rw [rejected] at decoded
    cases decoded

/-- A record whose fields are read back, each for itself. They may have any names but that of the
revision. -/
structure IsLegible (record : Record) : Prop where
  nodup : record.fields.keys.Nodup
  unrevised : ∀ field ∈ record.fields, field.1 ≠ "revision"
  back : ∀ field ∈ record.fields, field.2.ReadsBack 1

/-- A legible record is read back when no field has the name of one of its own members. -/
theorem IsLegible.decode_readIn {record : Record} (legible : record.IsLegible)
    (foreign : ∀ field ∈ record.fields, field.1 ≠ "id" ∧ field.1 ≠ "permission")
    (least : -(Nat.pow 2 63 : Nat) ≤ record.revision)
    (greatest : record.revision < (Nat.pow 2 63 : Nat)) :
    decode ((Json.object record.members).readIn 0) = .ok record := by
  obtain ⟨seen, fresh, same⟩ := decode_members record
  obtain ⟨seen', revision_read⟩ := readMembers_revision_eq ⟨record.id, record.permission, 0, []⟩
    seen fresh record.revision rfl (integer_readIn least greatest)
    (Json.membersReadIn 1 record.fields)
  rw [same, revision_read, readMembers_fields_eq ⟨record.id, record.permission, record.revision, []⟩
    seen' 1 legible.nodup (fun field member => ⟨(foreign field member).1, (foreign field member).2,
      legible.unrevised field member⟩) legible.back]
  rfl

/-- A legible record is read back exactly when no field has the name of one of its own members. -/
theorem decode_eq_ok_iff {record : Record} (legible : record.IsLegible)
    (least : 0 ≤ record.revision) (greatest : record.revision < (Nat.pow 2 63 : Nat)) :
    decode ((Json.object record.members).readIn 0) = .ok record ↔
      ∀ field ∈ record.fields, field.1 ≠ "id" ∧ field.1 ≠ "permission" := by
  constructor
  · intro decoded field member
    obtain ⟨not_id, not_permission, -⟩ :=
      find?_ownFields_eq_none.1 (member_of_decode decoded member).1
    exact ⟨not_id, not_permission⟩
  · intro foreign
    exact legible.decode_readIn foreign (by omega) greatest

end Record

/-! ## Cached texts -/

namespace CacheAside

variable {record : Record}

theorem text_ne_tombstoneText (record : Record) : record.text ≠ tombstoneText := by
  intro same
  have first := congrArg (fun text => text.toList.head?) same
  rw [Record.text, Json.text, String.toList_ofList] at first
  cases first

/-- The text of a record says what the members say that are read back. -/
theorem decodeEntry_text (record : Record) :
    decodeEntry record.text =
      match Record.decode ((Json.object record.members).readIn 0) with
      | .ok record => .record record
      | .error _ => .corrupt := by
  rw [decodeEntry, if_neg (text_ne_tombstoneText record), Record.text]
  rcases Record.decode.ofText_agrees (.object record.members) with
    ⟨made, read, told⟩ | ⟨cause, other, rejected, untold⟩
  · rw [read, told]
  · rw [rejected, untold]

/-- The text of a record says no other revision than that of the record, unless a field has its name. -/
theorem revision_of_decodeEntry {said : Record}
    (unrevised : ∀ field ∈ record.fields, field.1 ≠ "revision")
    (decoded : decodeEntry record.text = .record said) : said.revision = record.revision := by
  rw [decodeEntry_text] at decoded
  split at decoded
  · next read succeeded =>
    cases decoded
    exact Record.revision_of_decode_readIn unrevised succeeded
  · cases decoded

/-- The text of a record that is storable says that record, or counts as corrupt. -/
theorem decodeEntry_of_isStorable (storable : record.IsStorable) :
    decodeEntry record.text = .record record ∨ decodeEntry record.text = .corrupt := by
  rw [decodeEntry_text]
  rcases Record.decode_readIn storable with read | ⟨cause, rejected⟩
  · exact .inl (by rw [read])
  · exact .inr (by rw [rejected])

/-- The text of a legible record says that record exactly when no field of it has the name of one of its
own members. -/
theorem decodeEntry_text_iff (legible : record.IsLegible) (least : 0 ≤ record.revision)
    (greatest : record.revision < (Nat.pow 2 63 : Nat)) :
    decodeEntry record.text = .record record ↔
      ∀ field ∈ record.fields, field.1 ≠ "id" ∧ field.1 ≠ "permission" := by
  rw [decodeEntry_text, ← Record.decode_eq_ok_iff legible least greatest]
  cases Record.decode ((Json.object record.members).readIn 0) with
  | ok read => simp
  | error cause => simp

end CacheAside

end RecordAccess
