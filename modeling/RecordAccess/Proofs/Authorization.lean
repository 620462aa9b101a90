import RecordAccess.Proofs.LostUpdate
import RecordAccess.Proofs.Permits

/-!
# Authorization at the time of a commit

An update and a delete check the permission on a record that they have looked at, and write it some
calls later. Whoever commits one was allowed to write the record as it was when the request looked
first; whether the same holds for the row that the commit changes depends on what was committed in
between (`Scene.authorized_at_commit`). A revisioned update is safe from other updates, since each of
them raises the revision that it expects; but a record that is deleted and created again starts
anew, with a revision that may fit and with any permission. A delete, and an update of a kind without
revisions, expect nothing, so an update that brings a permission is enough.
-/

namespace RecordAccess

open Service

/-- A task that is about to delete a record has looked at it twice, and was allowed to write what it
saw first. -/
theorem removing_of_next? {service : Service} {task : Task} {log : List Exchange} {schema : Schema}
    {removed : String} (stage : TaskStage service task log)
    (asked : task.next? = some (.store (.delete schema removed))) :
    ∃ kind id found current buried, service.registry.authorize kind .delete = .ok schema ∧
      log = .store (.findOne schema id) (.ok found) ::
        .store (.findOne schema (Record.id found)) (.ok current) :: buried ∧
      removed = Record.id current ∧ checkAccess schema task.caller .write found = .ok () := by
  have pending := pending_of_next? stage asked
  generalize called : Call.store (StoreCall.delete schema removed) = next at pending
  cases pending with
  | delete ask granted allowed =>
    cases called
    exact ⟨_, _, _, _, _, granted, rfl, rfl, allowed⟩
  | _ => cases called

namespace Scene

/-! ## Commits -/

/-- After some moves, the next call of a task is an update of a record that takes effect. -/
def UpdatesAt (service : Service) (start : Scene) (kind id : String) (moves : List Move) (i : Nat)
    (proposed : Record) : Prop :=
  WritesAt service start kind id moves i ∧ ∃ schema expected,
    (start.run service moves).next? i = some (.store (.update schema proposed expected))

/-- After some moves, the next call of a task is a delete of a record that takes effect. -/
def DeletesAt (service : Service) (start : Scene) (kind id : String) (moves : List Move) (i : Nat) :
    Prop :=
  WritesAt service start kind id moves i ∧ ∃ schema removed,
    (start.run service moves).next? i = some (.store (.delete schema removed))

/-- In the later of some moves a delete of a record takes effect. -/
def DeletedSince (service : Service) (start : Scene) (kind id : String) (earlier later : List Move) :
    Prop :=
  ∃ first j last, later = first ++ .proceed j :: last ∧
    DeletesAt service start kind id (earlier ++ first) j

/-- In the later of some moves an update of a record takes effect that brings a permission. -/
def RepermittedSince (service : Service) (start : Scene) (kind id : String)
    (earlier later : List Move) : Prop :=
  ∃ first j last proposed, later = first ++ .proceed j :: last ∧
    UpdatesAt service start kind id (earlier ++ first) j proposed ∧ proposed.permission ≠ none

/-- Who makes the next call of a task may write the record as it is stored. -/
def IsAuthorized (service : Service) (start : Scene) (schema : Schema) (kind id : String)
    (moves : List Move) (i : Nat) : Prop :=
  ∀ task row, (start.run service moves).tasks[i]? = some task →
    (start.run service moves).row? kind id = some row → schema.Permits task.caller .write row

variable {service : Service} {start : Scene} {kind id : String} {moves earlier later : List Move}
  {move : Move} {i : Nat} {descriptor : Descriptor} {seen : Record}

theorem DeletedSince.snoc (deleted : DeletedSince service start kind id earlier later) :
    DeletedSince service start kind id earlier (later ++ [move]) := by
  obtain ⟨first, j, last, rfl, deletes⟩ := deleted
  exact ⟨first, j, last ++ [move], by simp, deletes⟩

theorem RepermittedSince.snoc (changed : RepermittedSince service start kind id earlier later) :
    RepermittedSince service start kind id earlier (later ++ [move]) := by
  obtain ⟨first, j, last, proposed, rfl, updates, brings⟩ := changed
  exact ⟨first, j, last ++ [move], proposed, by simp, updates, brings⟩

section Run

variable (built : service.registry.IsBuilt)
  (known : service.registry.get? kind = some descriptor) (fresh : start.tasks = [])

include built known fresh

/-- A record that is not deleted has the same permission until an update brings another, and of a
revisioned kind it is the same until its revision rises. -/
theorem row?_of_undeleted (there : (start.run service earlier).row? kind id = some seen)
    (undeleted : ¬DeletedSince service start kind id earlier later) :
    ∃ row, (start.run service (earlier ++ later)).row? kind id = some row ∧
      (¬RepermittedSince service start kind id earlier later → row.permission = seen.permission) ∧
      (descriptor.schema.revisioned = true → row = seen ∨ seen.revision < row.revision) := by
  induction later using List.reverseRecOn with
  | nil =>
    rw [List.append_nil]
    exact ⟨seen, there, fun _ => rfl, fun _ => .inl rfl⟩
  | append_singleton later move ih =>
    obtain ⟨row, now, permission, revision⟩ := ih fun deleted => undeleted deleted.snoc
    rw [← List.append_assoc]
    cases rewriting_step built known fresh now move with
    | keep unwritten same =>
      exact ⟨row, same, fun unchanged => permission fun changed => unchanged changed.snoc, revision⟩
    | @merge j payload current expected written asked checked matching merged =>
      refine ⟨_, merged, fun unchanged => ?_, fun revisioned => .inr ?_⟩
      · -- A permission that was brought would count as a change.
        have before := permission fun changed => unchanged changed.snoc
        cases brought : payload.permission with
        | none => simpa [Record.merge, brought] using before
        | some other =>
          refine absurd ⟨later, j, [], { payload with id := id }, rfl,
            ⟨written, descriptor.schema, expected, asked⟩, ?_⟩ unchanged
          rw [brought]
          exact Option.some_ne_none other
      · rw [revision_merge _ _ revisioned]
        rcases revision revisioned with rfl | risen <;> omega
    | @delete j task written present ask asked =>
      exact absurd ⟨later, j, [], rfl, written, _, _, asked⟩ undeleted

/-- Who commits an update or a delete has looked at the record first, and was allowed to write what
was seen. An update of a revisioned kind is merged into a record of the revision that was seen. -/
theorem looked_of_commit (commits : (∃ proposed, UpdatesAt service start kind id moves i proposed) ∨
      DeletesAt service start kind id moves i) :
    ∃ task earlier later seen, (start.run service moves).tasks[i]? = some task ∧
      moves = earlier ++ .proceed i :: later ∧ start.transcript service i earlier = [] ∧
      (start.run service earlier).next? i = some (.store (.findOne descriptor.schema id)) ∧
      (start.run service earlier).row? kind id = some seen ∧
      descriptor.schema.Permits task.caller .write seen ∧
      ((∃ proposed, UpdatesAt service start kind id moves i proposed) →
        descriptor.schema.revisioned = true → ∀ row,
          (start.run service moves).row? kind id = some row → row.revision = seen.revision) := by
  rcases commits with ⟨proposed, writes, schema, expected, asked⟩ | ⟨writes, schema, removed, asked⟩
  · obtain ⟨task, present, turn⟩ := turn_of_asked fresh asked
    rw [WritesAt, written?_proceed asked] at writes
    obtain ⟨updated, succeeded, kind_eq, named⟩ := StoreCall.written?_update writes
    obtain ⟨stored, found, -, rfl, -⟩ := Store.update_ok succeeded
    generalize logged : start.transcript service i moves = log at turn
    cases turn with
    | @update name target body _ payload current _ ask granted decoded allowed revision =>
      obtain rfl : target = id := (Store.id_of_row? found).symm.trans named
      subst kind_eq
      obtain rfl := built.schema_eq known granted
      obtain ⟨earlier, later, rfl, first, looks, there⟩ := row?_of_first logged
      refine ⟨task, earlier, later, current, present, rfl, first, looks, there,
        Schema.checkAccess_eq_ok.1 allowed, fun _ revisioned row now => ?_⟩
      obtain ⟨rfl, proposed, -⟩ := revision_of_expected revisioned revision
      rw [(Store.merged_of_written? writes now).2.1 _ rfl, proposed]
  · obtain ⟨task, present, next⟩ := Option.bind_eq_some_iff.1 asked
    rw [WritesAt, written?_proceed asked] at writes
    obtain ⟨-, rfl, rfl⟩ := StoreCall.written?_delete writes
    rcases stage_transcript fresh present with stage | ⟨-, givenUp⟩
    case inr => simp [Task.next?, givenUp] at next
    generalize logged : start.transcript service i moves = log at stage
    obtain ⟨name, target, found, current, buried, granted, rfl, same, allowed⟩ :=
      removing_of_next? stage next
    obtain rfl := built.schema_eq known granted
    obtain rfl : removed = target := same.trans (id_of_deleting logged)
    obtain ⟨earlier, later, rfl, first, looks, there⟩ := row?_of_first logged
    refine ⟨task, earlier, later, found, present, rfl, first, looks, there,
      Schema.checkAccess_eq_ok.1 allowed, fun updating => ?_⟩
    obtain ⟨_, _, _, _, updates⟩ := updating
    cases asked.symm.trans updates

/-- Who commits an update or a delete was allowed to write the record as it was when the request
looked at it first, and is allowed to write it as it is stored right before the commit, unless in
between the record was deleted or, if the commit expects no revision, was given a permission. -/
theorem authorized_at_commit
    (commits : (∃ proposed, UpdatesAt service start kind id moves i proposed) ∨
      DeletesAt service start kind id moves i) :
    ∃ task earlier later seen, (start.run service moves).tasks[i]? = some task ∧
      moves = earlier ++ .proceed i :: later ∧ start.transcript service i earlier = [] ∧
      (start.run service earlier).next? i = some (.store (.findOne descriptor.schema id)) ∧
      (start.run service earlier).row? kind id = some seen ∧
      descriptor.schema.Permits task.caller .write seen ∧
      (¬DeletedSince service start kind id earlier (.proceed i :: later) →
        ((∃ proposed, UpdatesAt service start kind id moves i proposed) ∧
            descriptor.schema.revisioned = true ∨
          ¬RepermittedSince service start kind id earlier (.proceed i :: later)) →
        IsAuthorized service start descriptor.schema kind id moves i) := by
  obtain ⟨task, earlier, later, seen, present, rfl, first, looks, there, allowed, expected⟩ :=
    looked_of_commit built known fresh commits
  refine ⟨task, earlier, later, seen, present, rfl, first, looks, there, allowed, ?_⟩
  intro undeleted guarded same row same_task now
  cases present.symm.trans same_task
  obtain ⟨last, finally_there, permission, revision⟩ :=
    row?_of_undeleted built known fresh there undeleted
  cases now.symm.trans finally_there
  rcases guarded with ⟨updates, revisioned⟩ | unchanged
  · rcases revision revisioned with rfl | risen
    · exact allowed
    · have := expected updates revisioned row now
      omega
  · exact (Schema.permits_congr (permission unchanged)).2 allowed

end Run

end Scene

/-! ## Commits that stay authorized, and commits that do not -/

/-- Only admins may write. -/
def Permission.adminsOnly : Permission := ⟨.empty, .ofList ["admin"]⟩

/-- An editor. -/
def Principal.editor : Principal := (bare "1").withRole "editor"

/-- Memos have a title, and carry no revisions. -/
def Schema.memo : Schema := (Schema.ofKind "memo").addColumn "title"

/-- The service at which memos are registered, beside a cache. -/
def Service.memos : Service := ⟨Registry.empty.register ⟨.memo, .all⟩, ⟨true⟩⟩

namespace Scene

/-- A scene in which one note is stored, which only editors may read or write. -/
def guardedNote : Scene :=
  { oneNote with
    store := ⟨[("note", [⟨"1", some (.restrictedTo ["editor"]), 1, []⟩])], ⟨0, 0, 0⟩, 0, Store.uuid⟩ }

/-- An editor looks at a note in order to delete it, and another changes its title before it is
deleted. -/
def retitledDelete : List Move :=
  [.begin (some .editor) (.delete "note" "1"), .proceed 0,
    .begin (some .editor)
      (.update "note" "1" (.object [("revision", .integer 1), ("title", .string "b")])),
    .proceed 1, .proceed 1, .proceed 0, .proceed 0]

/-- Nothing is deleted while the editor is about to delete the note, and what is updated brings no
permission. -/
theorem call_of_retitledDelete {first last : List Move} {j : Nat} {call : Call}
    (split : retitledDelete = first ++ .proceed j :: last)
    (asked : (guardedNote.run .notes first).next? j = some call) :
    call ∈ [.store (.findOne .note "1"),
      .store (.update .note ⟨"1", none, 1, [("title", .string "b")]⟩ (some 1)),
      .cache (.set (Record.cacheKey "note" "1") CacheAside.tombstoneText)] := by
  have calls : ∀ n, (inside : n < retitledDelete.length) → ∀ j < 2,
      ((guardedNote.run .notes (retitledDelete.take n)).exchange? j retitledDelete[n]).all
        (fun made => made.call ∈ [.store (.findOne .note "1"),
          .store (.update .note ⟨"1", none, 1, [("title", .string "b")]⟩ (some 1)),
          .cache (.set (Record.cacheKey "note" "1") CacheAside.tombstoneText)]) = true := by
    decide +kernel
  have inside : j < 2 := by
    have member : .proceed j ∈ retitledDelete := by simp [split]
    simp [retitledDelete] at member
    omega
  have found := @holds_of_split _ _ _ _ (fun first move => ∀ j < 2,
    ((guardedNote.run .notes first).exchange? j move).all (fun made =>
      made.call ∈ [.store (.findOne .note "1"),
        .store (.update .note ⟨"1", none, 1, [("title", .string "b")]⟩ (some 1)),
        .cache (.set (Record.cacheKey "note" "1") CacheAside.tombstoneText)]) = true)
    calls split j inside
  simpa [exchange?, asked, exchange] using found

/-- The editor may still write the note when it is deleted. -/
theorem isAuthorized_retitledDelete :
    DeletesAt .notes guardedNote "note" "1" retitledDelete 0 ∧
      IsAuthorized .notes guardedNote .note "note" "1" retitledDelete 0 := by
  have deletes : DeletesAt .notes guardedNote "note" "1" retitledDelete 0 :=
    ⟨by unfold WritesAt; decide +kernel, .note, "1", rfl⟩
  obtain ⟨task, earlier, later, seen, -, split, -, -, -, -, authorized⟩ :=
    authorized_at_commit Service.isBuilt_notes
      (show Service.notes.registry.get? "note" = some ⟨.note, .all⟩ from rfl) rfl (.inr deletes)
  refine ⟨deletes, authorized ?_ (.inr ?_)⟩
  · rintro ⟨first, j, last, same, -, schema, removed, asked⟩
    simpa using call_of_retitledDelete (by rw [split, same, List.append_assoc]) asked
  · rintro ⟨first, j, last, proposed, same, ⟨-, schema, expected, asked⟩, brings⟩
    have made := call_of_retitledDelete (by rw [split, same, List.append_assoc]) asked
    simp only [List.mem_cons, Call.store.injEq, StoreCall.update.injEq, reduceCtorEq, false_or,
      List.not_mem_nil, or_false] at made
    exact brings (by rw [made.2.1])

theorem not_isAuthorized {service : Service} {start : Scene} {kind id : String} {moves : List Move}
    {i : Nat} {schema : Schema} {caller : Option Principal} {row : Record}
    (present : ((start.run service moves).tasks[i]?).map Task.caller = some caller)
    (now : (start.run service moves).row? kind id = some row)
    (refused : ¬schema.Permits caller .write row) :
    ¬IsAuthorized service start schema kind id moves i := by
  intro authorized
  obtain ⟨task, there, rfl⟩ := Option.map_eq_some_iff.1 present
  exact refused (authorized task row there now)

/-- A note is given a permission after a delete of it has looked at it. -/
def repermittedDelete : List Move :=
  [.begin none (.delete "note" "1"), .proceed 0,
    .begin none (.update "note" "1"
      (.object [("revision", .integer 1), ("permission", Permission.adminsOnly.toJson)])),
    .proceed 1, .proceed 1, .proceed 0, .proceed 0]

/-- A note is deleted and created with a permission after an update of it has looked at it. -/
def recreatedUpdate : List Move :=
  [.begin none (.update "note" "1" (.object [("revision", .integer 1), ("title", .string "b")])),
    .proceed 0, .begin none (.delete "note" "1"), .proceed 1, .proceed 1, .proceed 1, .proceed 1,
    .begin none (.create "note" (.object [("id", .string "1"), ("permission", Permission.adminsOnly.toJson)])),
    .proceed 2]

/-- A scene in which one memo is stored and nothing is cached. -/
def oneMemo : Scene := ⟨0, ⟨[("memo", [⟨"1", none, 0, []⟩])], ⟨0, 0, 0⟩, 0, Store.uuid⟩, .empty 0, []⟩

/-- A memo is given a permission after an update of it has looked at it. -/
def repermittedUpdate : List Move :=
  [.begin none (.update "memo" "1" (.object [("title", .string "b")])), .proceed 0,
    .begin none (.update "memo" "1" (.object [("permission", Permission.adminsOnly.toJson)])), .proceed 1,
    .proceed 1]

/-- A delete, an update of a revisioned kind and one of a kind without revisions, each of which is
committed by a caller who may not write the row that it changes. -/
theorem unauthorized_commits :
    (DeletesAt .notes oneNote "note" "1" repermittedDelete 0 ∧
      ¬IsAuthorized .notes oneNote .note "note" "1" repermittedDelete 0) ∧
    ((∃ proposed, UpdatesAt .notes oneNote "note" "1" recreatedUpdate 0 proposed) ∧
      ¬IsAuthorized .notes oneNote .note "note" "1" recreatedUpdate 0) ∧
    (∃ proposed, UpdatesAt .memos oneMemo "memo" "1" repermittedUpdate 0 proposed) ∧
      ¬IsAuthorized .memos oneMemo .memo "memo" "1" repermittedUpdate 0 := by
  refine ⟨⟨⟨?_, .note, "1", rfl⟩, ?_⟩, ⟨⟨_, ?_, .note, _, rfl⟩, ?_⟩, ⟨_, ?_, .memo, _, rfl⟩, ?_⟩
  · unfold WritesAt
    decide +kernel
  · exact @not_isAuthorized _ _ _ _ _ _ _ none ⟨"1", some .adminsOnly, 2, []⟩ rfl
      (by decide +kernel) (by decide +kernel)
  · unfold WritesAt
    decide +kernel
  · exact @not_isAuthorized _ _ _ _ _ _ _ none ⟨"1", some .adminsOnly, 1, []⟩ rfl
      (by decide +kernel) (by decide +kernel)
  · unfold WritesAt
    decide +kernel
  · exact @not_isAuthorized _ _ _ _ _ _ _ none ⟨"1", some .adminsOnly, 0, []⟩ rfl
      (by decide +kernel) (by decide +kernel)

end Scene

end RecordAccess
