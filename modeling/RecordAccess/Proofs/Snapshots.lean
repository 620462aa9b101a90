import RecordAccess.Proofs.CommittedEntries
import RecordAccess.Proofs.Reads

/-!
# Cached snapshots

The text that is written to the cache for a committed record says that record, and a read of it is
answered as one of the record itself, exactly when no field of the record has the name of one of its
own members (`Scene.isSnapshot_of_cachesAt`). The revision has a column of its own that is never a
field; but a column may be declared `permission`, or `id` when another one holds the id, and a member
of a payload comes into it that is spelt in another case. In the text it then stands where the
permission of the record is looked for, and anybody who may write a record can so hide or disclose what
the cache answers.

All that is asked of payloads is that they are legible, as what a parser reads is.
-/

namespace RecordAccess

open Service

/-! ## Accepted records -/

/-- A record that a service can have stored under a kind after some calls: its fields are legible and
stand in data columns of the kind, and it was revised no more often than there were calls. -/
structure Record.IsAccepted (service : Service) (kind : String) (calls : Nat) (row : Record) :
    Prop where
  legible : row.IsLegible
  least : 0 ≤ row.revision
  greatest : row.revision ≤ calls
  declared : ∀ field ∈ row.fields, ∃ schema name, service.Serves schema ∧ schema.kind = kind ∧
    schema.dataColumn? name = some field.1

/-- No field has the name of one of the record's own members. -/
def Record.IsUnambiguous (record : Record) : Prop :=
  ∀ field ∈ record.fields, field.1 ≠ "id" ∧ field.1 ≠ "permission"

/-- All fields of a payload are read back. -/
def Record.HasLegibleFields (record : Record) : Prop :=
  ∀ field ∈ record.fields, field.2.ReadsBack 1

/-- A legible payload describes a record with legible fields. -/
theorem Service.legible_of_decodePayload {body : Json} {payload : Record} (legible : body.IsLegible)
    (decoded : decodePayload body = .ok payload) : payload.HasLegibleFields := by
  obtain ⟨members, rfl, given⟩ := member_of_decodePayload decoded
  intro field member
  obtain ⟨value, there, read⟩ := given field member
  exact legible.readsBack_member there read

namespace Record

variable {service : Service} {schema : Schema} {kind : String} {calls : Nat} {row proposed : Record}

/-- A payload is accepted when it is stored first. -/
theorem isAccepted_initial (served : service.Serves schema) (legible : proposed.HasLegibleFields)
    (calls : Nat) : (proposed.initial schema).IsAccepted service schema.kind (calls + 1) where
  legible := by
    refine ⟨Keyed.nodup_ofList _, fun field member => ?_, fun field member => ?_⟩
    · obtain ⟨name, -, named⟩ := Schema.of_mem_retainColumns member
      exact (Schema.declared_of_dataColumn? named).2.2
    · obtain ⟨name, given, -⟩ := Schema.of_mem_retainColumns member
      exact legible (name, field.2) given
  least := by
    unfold initial
    cases schema.revisioned <;> simp
  greatest := by
    unfold initial
    split
    · show (1 : Int) ≤ (calls + 1 : Nat)
      omega
    · show (0 : Int) ≤ (calls + 1 : Nat)
      omega
  declared field member := by
    obtain ⟨name, -, named⟩ := Schema.of_mem_retainColumns member
    exact ⟨schema, name, served, rfl, named⟩

/-- A record stays accepted when a payload is merged into it. -/
theorem IsAccepted.merge (accepted : row.IsAccepted service schema.kind calls)
    (served : service.Serves schema) (legible : proposed.HasLegibleFields) :
    (row.merge proposed schema).IsAccepted service schema.kind (calls + 1) := by
  -- A field was there before, or it was retained of what is proposed.
  have cases_of_mem : ∀ field ∈ (row.merge proposed schema).fields, field ∈ row.fields ∨
      ∃ name, (name, field.2) ∈ proposed.fields ∧ schema.dataColumn? name = some field.1 :=
    fun field member => (Keyed.mem_insertAll member).imp_right fun changed =>
      Schema.of_mem_retainColumns (List.mem_of_mem_filter changed)
  have least := accepted.least
  have greatest := accepted.greatest
  refine ⟨⟨Keyed.nodup_insertAll accepted.legible.nodup _, fun field member => ?_,
    fun field member => ?_⟩, ?_, ?_, fun field member => ?_⟩
  · rcases cases_of_mem field member with old | ⟨name, -, named⟩
    · exact accepted.legible.unrevised field old
    · exact (Schema.declared_of_dataColumn? named).2.2
  · rcases cases_of_mem field member with old | ⟨name, given, -⟩
    · exact accepted.legible.back field old
    · exact legible (name, field.2) given
  · unfold Record.merge
    cases schema.revisioned <;> simp <;> omega
  · unfold Record.merge
    cases schema.revisioned <;> simp <;> omega
  · rcases cases_of_mem field member with old | ⟨name, -, named⟩
    · exact accepted.declared field old
    · exact ⟨schema, name, served, rfl, named⟩

theorem IsAccepted.mono {more : Nat} (accepted : row.IsAccepted service kind calls)
    (less : calls ≤ more) : row.IsAccepted service kind more where
  legible := accepted.legible
  least := accepted.least
  greatest := Int.le_trans accepted.greatest (Int.ofNat_le.2 less)
  declared := accepted.declared

end Record

/-! ## Runs -/

/-- The payload that an operation brings. -/
def Ask.body? : Ask → Option Json
  | .create _ body | .update _ _ body => some body
  | _ => none

namespace Scene

variable {service : Service} {start : Scene} {moves : List Move} {i : Nat} {key text : String}
  {newId : Nat → String}

/-- All payloads that come in are legible. -/
def HasLegiblePayloads (moves : List Move) : Prop :=
  ∀ caller ask body, .begin caller ask ∈ moves → ask.body? = some body → body.IsLegible

/-- What a task brings to the store comes of a payload that has come in. -/
theorem legible_of_asked (fresh : start.tasks = []) (legible : HasLegiblePayloads moves)
    {call : StoreCall} (asked : (start.run service moves).next? i = some (.store call)) :
    match call with
    | .create schema record | .update schema record _ =>
      service.Serves schema ∧ record.HasLegibleFields
    | _ => True := by
  obtain ⟨task, there, turn⟩ := turn_of_asked fresh asked
  have came := begin_of_task (by simp [fresh]) there
  generalize start.transcript service i moves = log at turn
  generalize called : Call.store call = next at turn
  cases turn with
  | create asks granted decoded =>
    cases called
    exact ⟨⟨_, _, granted⟩, legible_of_decodePayload (legible _ _ _ came (by rw [asks]; rfl)) decoded⟩
  | update asks granted decoded =>
    cases called
    have brings := legible_of_decodePayload (legible _ _ _ came (by rw [asks]; rfl)) decoded
    exact ⟨⟨_, _, granted⟩, brings⟩
  | look | list | delete =>
    cases called
    trivial
  | _ => cases called

/-- When nothing was stored at first, all records are accepted after some moves. -/
theorem isAccepted_of_row? (fresh : start.tasks = []) (empty : start.store = .empty newId)
    (legible : HasLegiblePayloads moves) : ∀ kind id row,
    (start.run service moves).row? kind id = some row → row.IsAccepted service kind moves.length := by
  induction moves using List.reverseRecOn with
  | nil =>
    intro kind id row there
    rw [run_nil, row?, empty] at there
    cases there
  | append_singleton moves move ih =>
    have earlier : HasLegiblePayloads moves := fun caller ask body came =>
      legible caller ask body (List.mem_append_left _ came)
    replace ih := ih earlier
    have still : ∀ kind id row, (start.run service moves).row? kind id = some row →
        row.IsAccepted service kind (moves.length + 1) :=
      fun kind id row there => (ih kind id row there).mono (Nat.le_succ _)
    rw [run_snoc, List.length_append, List.length_singleton]
    unfold row?
    rcases store_step service (start.run service moves) move with same | ⟨i, call, rfl, asked, same⟩
    · rw [same]
      exact still
    · rw [same]
      have brings := legible_of_asked fresh earlier asked
      have distinct : (start.run service moves).store.Distinct :=
        distinct_run (by rw [empty]; exact fun _ => List.nodup_nil) moves
      refine Store.forall_rows_answer distinct still fun kind record stored => ?_
      rcases Store.cases_of_stored? stored with ⟨schema, payload, id, rfl, rfl, rfl⟩ |
        ⟨schema, proposed, expected, before, rfl, rfl, there, rfl⟩
      · have legible : Record.HasLegibleFields { payload with id := id } := brings.2
        exact Record.isAccepted_initial brings.1 legible _
      · exact (ih _ _ _ there).merge brings.1 brings.2

/-! ## What is cached -/

/-- A text that a task writes to the cache, if it is no tombstone, is that of a record which was
stored then or before, and which is accepted. -/
theorem accepted_of_cachesAt (fresh : start.tasks = []) (empty : start.store = .empty newId)
    (legible : HasLegiblePayloads moves) (caches : CachesAt service start key text moves i)
    (snapshot : text ≠ CacheAside.tombstoneText) :
    ∃ schema row earlier later, service.Serves schema ∧ key = Record.cacheKey schema.kind row.id ∧
      text = row.text ∧ moves = earlier ++ later ∧
      (start.run service earlier).row? schema.kind row.id = some row ∧
      row.IsAccepted service schema.kind moves.length := by
  obtain ⟨schema, id, served, rfl, source⟩ := source_of_cachesAt fresh caches
  generalize logged : start.transcript service i moves = log at source
  cases source with
  | tombstone => exact absurd rfl snapshot
  | @delivered row exchange before after delivers =>
    have distinct : start.store.Distinct := by rw [empty]; exact fun _ => List.nodup_nil
    obtain ⟨first, last, rfl, -, there, -⟩ := row?_of_delivers distinct logged delivers
    obtain rfl : row.id = id := Store.id_of_row? there
    have split : first ++ .proceed i :: last = (first ++ [.proceed i]) ++ last := by simp
    have earlier : HasLegiblePayloads (first ++ [.proceed i]) := fun caller ask body came =>
      legible caller ask body (split ▸ List.mem_append_left _ came)
    have accepted := isAccepted_of_row? fresh empty earlier _ _ _ there
    exact ⟨schema, row, _, last, served, rfl, rfl, split, there, accepted.mono (by simp)⟩

/-- A text under a key of the cache is a snapshot of a record that is stored after some moves, or was
before. When no field of the record has the name of one of its own members, and only then, the text
says that record; and then every read of it that finds the text is answered as one that finds nothing
in the cache and the record in the store. -/
structure IsSnapshot (service : Service) (start : Scene) (moves : List Move) (key text : String)
    (schema : Schema) (row : Record) : Prop where
  served : service.Serves schema
  key_eq : key = Record.cacheKey schema.kind row.id
  text_eq : text = row.text
  stored : ∃ earlier later, moves = earlier ++ later ∧
    (start.run service earlier).row? schema.kind row.id = some row
  says_iff : CacheAside.decodeEntry text = .record row ↔ row.IsUnambiguous
  reads (unambiguous : row.IsUnambiguous) (caller : Option Principal) (clock : Nat → Nat)
    (warm cold : Backend) (isOpen : warm.cache.closed = false)
    (held : warm.cache.live? (clock warm.calls) key = some text)
    (missed : cold.cache.live? (clock cold.calls) key = none)
    (there : cold.store.row? schema.kind row.id = some row) :
    (Program.run (Backend.answer clock) (service.read caller schema.kind row.id).run warm).1 =
      (Program.run (Backend.answer clock) (service.read caller schema.kind row.id).run cold).1
  of_plain : schema.HasPlainColumns → row.IsUnambiguous

/-- What a task writes to the cache, if it is no tombstone, is a snapshot of a record of its kind. -/
theorem isSnapshot_of_cachesAt (built : service.registry.IsBuilt)
    (enabled : service.aside.enabled = true) (fresh : start.tasks = []) (empty : start.store = .empty newId)
    (legible : HasLegiblePayloads moves) (few : moves.length < 2 ^ 63)
    (caches : CachesAt service start key text moves i)
    (snapshot : text ≠ CacheAside.tombstoneText) :
    ∃ schema row, IsSnapshot service start moves key text schema row := by
  obtain ⟨schema, row, earlier, later, served, rfl, rfl, split, there, accepted⟩ :=
    accepted_of_cachesAt fresh empty legible caches snapshot
  have greatest : row.revision < (Nat.pow 2 63 : Nat) :=
    Int.lt_of_le_of_lt accepted.greatest (Int.ofNat_lt.2 few)
  have says_iff := CacheAside.decodeEntry_text_iff accepted.legible accepted.least greatest
  refine ⟨schema, row, served, rfl, rfl, ⟨earlier, later, split, there⟩, says_iff, ?_, ?_⟩
  · intro unambiguous caller clock warm cold isOpen held missed stored
    rw [Backend.run_read, Backend.run_read]
    refine Backend.readAnswer_congr fun _ granted => ?_
    have same := built.kind_eq granted
    rw [← same] at held missed stored
    rw [Backend.fetched_of_missed missed, Store.findOne_eq_ok.2 stored]
    exact Backend.fetched_of_lookup
      ((Backend.lookup_of_live? enabled isOpen held).trans (says_iff.2 unambiguous))
  · intro plain field member
    obtain ⟨other, name, otherServed, same, named⟩ := accepted.declared field member
    obtain rfl := otherServed.eq_of_kind_eq served built same
    obtain ⟨not_id, not_permission, -⟩ := plain.foreign named
    exact ⟨not_id, not_permission⟩

/-! ### A note, and a note with a forged permission -/

/-- A scene in which nothing is stored and nothing is cached. -/
def nothing : Scene := ⟨0, .empty Store.uuid, .empty 0, []⟩

/-- A note is created, and its creation looks for a later revision in the cache. -/
def createdNote : List Move :=
  [.begin none (.create "note" (.object [("id", .string "1"), ("TITLE", .string "a")])), .proceed 0,
    .proceed 0]

theorem isSnapshot_createdNote :
    CachesAt .notes nothing "note:1" (Record.text ⟨"1", none, 1, [("title", .string "a")]⟩) createdNote 0 ∧
    ∃ schema row, IsSnapshot .notes nothing createdNote "note:1"
        (Record.text ⟨"1", none, 1, [("title", .string "a")]⟩) schema row ∧
      CacheAside.decodeEntry (Record.text ⟨"1", none, 1, [("title", .string "a")]⟩) = .record row := by
  have caches : CachesAt .notes nothing "note:1" (Record.text ⟨"1", none, 1, [("title", .string "a")]⟩)
      createdNote 0 := ⟨_, rfl, rfl⟩
  have legible : HasLegiblePayloads createdNote := by
    intro caller ask body came brings
    simp only [createdNote, List.mem_cons, reduceCtorEq, Move.begin.injEq, List.not_mem_nil,
      or_false] at came
    obtain ⟨-, rfl⟩ := came
    cases brings
    exact ⟨by simp [Json.numbers, Json.memberNumbers], by decide⟩
  obtain ⟨schema, row, snapshot⟩ := isSnapshot_of_cachesAt Service.isBuilt_notes rfl rfl rfl legible
    (by decide) caches (CacheAside.text_ne_tombstoneText _)
  refine ⟨caches, schema, row, snapshot, snapshot.says_iff.2 (snapshot.of_plain ?_)⟩
  obtain ⟨kind, operation, granted⟩ := snapshot.served
  exact Service.hasPlainColumns_notes.of_authorize granted

end Scene

/-- Notes for administrators only, with a column that is called like the permission of a record. -/
def Schema.gated : Schema :=
  ((Schema.ofKind "note").addColumn "permission").withDefaultPermission (.restrictedTo ["admin"])

/-- The service at which such notes are registered, beside a cache. -/
def Service.gated : Service := ⟨Registry.empty.register ⟨.gated, .all⟩, ⟨true⟩⟩

namespace Scene

/-- An administrator creates a note of which a member is spelt almost like the permission. -/
def forgedNote : List Move :=
  [.begin (some ((Principal.bare "u").withRole "admin"))
    (.create "note" (.object [("id", .string "1"), ("Permission", Permission.unrestricted.toJson)])),
    .proceed 0]

/-- The note as it is stored: a field is called like the permission, and it has none of its own. -/
def forgedRow : Record := ⟨"1", none, 0, [("permission", Permission.unrestricted.toJson)]⟩

/-- The text of the note gives it the permission that was a field. An anonymous caller reads the note
when it is cached, and may not read it as it is stored. -/
theorem misread_forgedNote :
    CachesAt .gated nothing "note:1" forgedRow.text forgedNote 0 ∧
    (nothing.run .gated forgedNote).row? "note" "1" = some forgedRow ∧
    CacheAside.decodeEntry forgedRow.text = .record ⟨"1", some .unrestricted, 0, []⟩ ∧
    (Program.run (Backend.answer id) (Service.gated.read none "note" "1").run
      ⟨(nothing.run .gated forgedNote).store, (Cache.empty 0).write 0 "note:1" forgedRow.text, 1⟩).1 =
        .ok ⟨"1", some .unrestricted, 0, []⟩ ∧
    (Program.run (Backend.answer id) (Service.gated.read none "note" "1").run
      ⟨(nothing.run .gated forgedNote).store, .empty 0, 1⟩).1 = .error .permissionDenied := by
  have decodes : CacheAside.decodeEntry forgedRow.text = .record ⟨"1", some .unrestricted, 0, []⟩ := by
    rw [CacheAside.decodeEntry_text]
    rfl
  refine ⟨⟨_, rfl, rfl⟩, rfl, decodes, ?_, rfl⟩
  have granted : Service.gated.registry.authorize "note" .read = .ok .gated := rfl
  have fetched : Backend.fetched id Service.gated.aside .gated "1"
      ⟨(nothing.run .gated forgedNote).store, (Cache.empty 0).write 0 "note:1" forgedRow.text, 1⟩ =
        .ok ⟨"1", some .unrestricted, 0, []⟩ :=
    Backend.fetched_of_lookup ((Backend.lookup_of_live? rfl rfl rfl).trans decodes)
  rw [Backend.run_read, Backend.readAnswer_of_granted granted rfl, fetched]
  rfl

end Scene

end RecordAccess
