import RecordAccess.Proofs.Writes

/-!
# No lost update

Of a revisioned kind, an update looks at the stored record, checks the permission and the revision
that it brings, and then writes on the condition that this is still the stored revision. Between
the look and the write any number of other updates can fall. `Scene.commits` lists the updates of
one record that took effect in a run; as long as the record is not deleted, it is what they make of
the record at the start, one after another (`Scene.row?_run`), each merged into the very version
that its own checks looked at (`Scene.isChecked_of_commit`).
-/

namespace RecordAccess

open Service

/-! ## Commits -/

/-- An update that took effect: the task that made it, and the record that it proposed. -/
structure Commit where
  task : Nat
  proposed : Record

/-- What updates make of a record, one after another. -/
def Record.mergeAll (record : Record) (schema : Schema) (commits : List Commit) : Record :=
  commits.foldl (fun record commit => record.merge commit.proposed schema) record

namespace Scene

/-- The update of a record that a move commits, if it commits one. -/
def commit? (scene : Scene) (kind id : String) : Move → Option Commit
  | .proceed i =>
    match scene.next? i with
    | some (.store (.update _ proposed _)) =>
      if scene.written? (.proceed i) = some (kind, id) then some ⟨i, proposed⟩ else none
    | _ => none
  | _ => none

/-- The updates of a record that a run commits, in order. -/
def commits (service : Service) (scene : Scene) (kind id : String) : List Move → List Commit
  | [] => []
  | move :: rest =>
    (scene.commit? kind id move).toList ++ commits service (scene.step service move) kind id rest

/-- What is committed after some moves was asked for as an update, and its permission and its
revision were checked on the very record that it is merged into. -/
def IsChecked (service : Service) (start : Scene) (kind id : String) (schema : Schema)
    (moves : List Move) (commit : Commit) : Prop :=
  ∃ task body payload current earlier later,
    (start.run service moves).tasks[commit.task]? = some task ∧ task.ask = .update kind id body ∧
    decodePayload body = .ok payload ∧ commit.proposed = { payload with id := id } ∧
    -- It looked at the record at an earlier call of its own, and checked what it saw.
    moves = earlier ++ .proceed commit.task :: later ∧
    (start.run service earlier).next? commit.task = some (.store (.findOne schema id)) ∧
    (start.run service earlier).row? kind id = some current ∧
    checkAccess schema task.caller .write current = .ok () ∧
    checkRevision current.revision commit.proposed.revision = .ok () ∧
    -- This is what is stored now, and what the update is merged into.
    (start.run service moves).row? kind id = some current ∧
    (start.run service (moves ++ [.proceed commit.task])).row? kind id =
      some (current.merge commit.proposed schema)

variable {service : Service} {start scene : Scene} {moves : List Move} {move : Move} {i : Nat}
  {kind id : String}

theorem commits_append (service : Service) (scene : Scene) (kind id : String)
    (first second : List Move) :
    scene.commits service kind id (first ++ second) =
      scene.commits service kind id first ++
        (scene.run service first).commits service kind id second := by
  induction first generalizing scene with
  | nil => rfl
  | cons move rest ih =>
    rw [List.cons_append, commits, ih, commits, List.append_assoc]
    rfl

theorem commits_snoc (service : Service) (scene : Scene) (kind id : String) (moves : List Move)
    (move : Move) :
    scene.commits service kind id (moves ++ [move]) =
      scene.commits service kind id moves ++
        ((scene.run service moves).commit? kind id move).toList := by
  rw [commits_append]
  exact congrArg _ (List.append_nil _)

theorem commit?_eq_some {proposed : Record} :
    scene.commit? kind id move = some ⟨i, proposed⟩ ↔
      ∃ schema expected, move = .proceed i ∧
        scene.next? i = some (.store (.update schema proposed expected)) ∧
        scene.written? move = some (kind, id) := by
  constructor
  · intro committed
    cases move with
    | proceed i =>
      simp only [commit?] at committed
      split at committed
      · next schema proposed expected asked =>
        split at committed
        · next written =>
          cases committed
          exact ⟨schema, expected, rfl, asked, written⟩
        · cases committed
      · cases committed
    | _ => cases committed
  · rintro ⟨schema, expected, rfl, asked, written⟩
    simp only [commit?, asked, written, ↓reduceIte]

/-! ## One move -/

/-- What the revision check lets through: the proposed revision is that of the record looked at. -/
theorem revision_of_expected {schema : Schema} {current proposed : Record} {expected : Option Int}
    (revisioned : schema.revisioned = true)
    (granted : expectedRevision schema current proposed = .ok expected) :
    expected = some proposed.revision ∧ proposed.revision = current.revision ∧
      checkRevision current.revision proposed.revision = .ok () := by
  simp only [expectedRevision, revisioned, ↓reduceIte] at granted
  split at granted
  · next checked =>
    cases granted
    refine ⟨rfl, ?_, checked⟩
    unfold checkRevision at checked
    split at checked
    · cases checked
    · split at checked
      · next current => simpa [canMerge] using current
      · cases checked
  · cases granted

theorem revision_merge {schema : Schema} (stored proposed : Record)
    (revisioned : schema.revisioned = true) :
    (stored.merge proposed schema).revision = stored.revision + 1 := by
  simp [Record.merge, revisioned]

variable {descriptor : Descriptor}

/-- A move commits no update, and the record stays, or it merges an update that proposed the stored
revision. -/
theorem row?_step_of_kept (built : service.registry.IsBuilt)
    (known : service.registry.get? kind = some descriptor)
    (revisioned : descriptor.schema.revisioned = true) (fresh : start.tasks = [])
    (kept : ∀ caller, .begin caller (.delete kind id) ∉ moves) {row : Record}
    (there : (start.run service moves).row? kind id = some row) (move : Move) :
    (start.run service moves).commit? kind id move = none ∧
        (start.run service (moves ++ [move])).row? kind id = some row ∨
      ∃ commit, (start.run service moves).commit? kind id move = some commit ∧
        commit.proposed.revision = row.revision ∧
        (start.run service (moves ++ [move])).row? kind id =
          some (row.merge commit.proposed descriptor.schema) := by
  cases rewriting_step built known fresh there move with
  | keep unwritten same =>
    refine .inl ⟨?_, same⟩
    cases committed : (start.run service moves).commit? kind id move with
    | none => rfl
    | some commit =>
      obtain ⟨-, -, -, -, wrote⟩ := commit?_eq_some.1 committed
      exact absurd wrote unwritten
  | @merge i payload _ _ written asked checked matching merged =>
    obtain ⟨rfl, -, -⟩ := revision_of_expected revisioned checked
    exact .inr ⟨⟨i, { payload with id := id }⟩, commit?_eq_some.2 ⟨_, _, rfl, asked, written⟩,
      (matching _ rfl).symm, merged⟩
  | @delete i task _ present ask =>
    exact absurd (ask ▸ begin_of_task (by simp [fresh]) present) (kept task.caller)

/-! ## A whole run -/

theorem mergeAll_append (record : Record) (schema : Schema) (first second : List Commit) :
    record.mergeAll schema (first ++ second) = (record.mergeAll schema first).mergeAll schema second :=
  List.foldl_append

theorem revision_mergeAll {schema : Schema} (revisioned : schema.revisioned = true)
    (record : Record) (commits : List Commit) :
    (record.mergeAll schema commits).revision = record.revision + commits.length := by
  induction commits generalizing record with
  | nil => simp [Record.mergeAll]
  | cons commit rest ih =>
    have later := ih (record.merge commit.proposed schema)
    rw [revision_merge _ _ revisioned] at later
    rw [List.length_cons]
    exact later.trans (by omega)

section Run

variable (built : service.registry.IsBuilt)
  (known : service.registry.get? kind = some descriptor)
  (revisioned : descriptor.schema.revisioned = true) (fresh : start.tasks = [])
  {origin : Record} (stored : start.row? kind id = some origin)

include built known revisioned fresh stored

/-- The record is always what the committed updates make of the one at the start. -/
theorem row?_run (kept : ∀ caller, .begin caller (.delete kind id) ∉ moves) :
    (start.run service moves).row? kind id =
      some (origin.mergeAll descriptor.schema (start.commits service kind id moves)) := by
  induction moves using List.reverseRecOn with
  | nil => exact stored
  | append_singleton moves move ih =>
    have there := ih fun caller member => kept caller (List.mem_append_left _ member)
    rcases row?_step_of_kept built known revisioned fresh
        (fun caller member => kept caller (List.mem_append_left _ member)) there move with
      ⟨idle, same⟩ | ⟨commit, committed, -, merged⟩
    · rw [commits_snoc, idle, same]
      simp
    · rw [commits_snoc, committed, merged, mergeAll_append]
      rfl

/-- Each committed update proposed the revision that the updates before it had led to. -/
theorem revision_of_commits (kept : ∀ caller, .begin caller (.delete kind id) ∉ moves) :
    (start.commits service kind id moves).map (fun commit => commit.proposed.revision) =
      (List.range (start.commits service kind id moves).length).map
        fun n : Nat => origin.revision + n := by
  induction moves using List.reverseRecOn with
  | nil => rfl
  | append_singleton moves move ih =>
    have earlier : ∀ caller, .begin caller (.delete kind id) ∉ moves :=
      fun caller member => kept caller (List.mem_append_left _ member)
    have there := row?_run built known revisioned fresh stored earlier
    rcases row?_step_of_kept built known revisioned fresh earlier there move with
      ⟨idle, -⟩ | ⟨commit, committed, proposed, -⟩
    · rw [commits_snoc, idle, Option.toList_none, List.append_nil]
      exact ih earlier
    · rw [commits_snoc, committed, Option.toList_some, List.map_append, ih earlier,
        List.length_append, List.length_singleton, List.range_succ, List.map_append,
        List.map_singleton, List.map_singleton, proposed, revision_mergeAll revisioned]

/-- A committed update was checked on the very record that it is merged into. -/
theorem isChecked_of_commit (kept : ∀ caller, .begin caller (.delete kind id) ∉ moves)
    {commit : Commit}
    (committed : (start.run service moves).commit? kind id (.proceed i) = some commit) :
    IsChecked service start kind id descriptor.schema moves commit := by
  obtain ⟨k, proposed⟩ := commit
  obtain ⟨schema, expected, same, asked, written⟩ := commit?_eq_some.1 committed
  obtain rfl := Move.proceed.inj same
  obtain ⟨task, present, turn⟩ := turn_of_asked fresh asked
  generalize logged : start.transcript service i moves = log at turn
  cases turn with
  | @update name target body _ payload current _ ask granted decoded allowed revision =>
    rw [written?_proceed asked] at written
    obtain ⟨updated, succeeded, rfl, same⟩ := StoreCall.written?_update written
    obtain ⟨row, found, matching, rfl, -⟩ := Store.update_ok succeeded
    obtain rfl : target = id := (Store.id_of_row? found).symm.trans same
    obtain rfl := built.schema_eq known granted
    obtain ⟨rfl, proposed, checked⟩ := revision_of_expected revisioned revision
    obtain rfl := built.kind_eq granted
    have found_before : .store (.findOne descriptor.schema target) (.ok current) ∈
        start.transcript service i moves := logged ▸ List.mem_cons_self ..
    obtain ⟨earlier, later, rfl, looked, seen⟩ := row?_of_found found_before
    -- Between the look and the write nothing was committed, as each commit raises the revision.
    have before := row?_run built known revisioned fresh stored
      fun caller (member : _ ∈ earlier) => kept caller (List.mem_append_left _ member)
    have now := row?_run built known revisioned fresh stored kept
    rw [commits_append, mergeAll_append] at now
    rw [before] at seen
    generalize commits service _ _ _ (.proceed i :: later) = between at now
    rw [Option.some.inj seen] at now
    have unchanged : between = [] := by
      rw [row?, found] at now
      have raised := revision_mergeAll revisioned current between
      rw [← Option.some.inj now, matching _ rfl, proposed] at raised
      exact List.length_eq_zero_iff.1 (by omega)
    subst unchanged
    refine ⟨task, body, payload, current, earlier, later, present, ask, decoded, rfl, rfl, looked,
      before.trans seen, allowed, checked, now, ?_⟩
    rcases row?_step_of_kept built known revisioned fresh kept now (.proceed i) with
      ⟨idle, -⟩ | ⟨_, same, -, merged⟩
    · cases idle.symm.trans committed
    · cases same.symm.trans committed
      exact merged

end Run

/-- An update that is answered with a conflict was told another revision when it looked, at a record
that its caller may write, or when it wrote. -/
theorem transcript_of_conflict (fresh : start.tasks = []) {task : Task} {body : Json}
    {current : Record} (present : (start.run service moves).tasks[i]? = some task)
    (ask : task.ask = .update kind id body)
    (answered : (start.run service moves).outcome? i = some (.error (.revisionConflict current))) :
    ∃ schema, service.registry.authorize kind .update = .ok schema ∧
      (start.transcript service i moves = [.store (.findOne schema id) (.ok current)] ∧
          checkAccess schema task.caller .write current = .ok () ∨
        ∃ (seen payload : Record) (expected : Option Int),
          start.transcript service i moves = [.store (.findOne schema id) (.ok seen),
            .store (.update schema { payload with id := id } expected)
              (.error (.revisionMismatch current))]) := by
  obtain ⟨same, there, rest⟩ := outcome?_eq_some.1 answered
  obtain rfl := Option.some.inj (present.symm.trans there)
  rcases stage_transcript fresh present with stage | ⟨-, givenUp⟩
  case inr => cases rest.symm.trans givenUp
  generalize logged : start.transcript service i moves = log at stage
  cases stage with
  | update stage =>
    cases ask
    cases stage with
    | refused plain =>
      cases rest
      cases plain
    | looking | writing => cases rest
    | missing =>
      obtain ⟨_, _, -, -, failed⟩ := moves_of_mem_transcript (logged ▸ List.mem_singleton.2 rfl)
      obtain ⟨-, rfl⟩ := Store.findOne_eq_error failed.symm
      cases rest
    | stopped granted decoded refusal =>
      cases rest
      rcases refusal with forbidden | ⟨allowed, stale⟩
      · cases eq_permissionDenied forbidden
      · rcases eq_of_unexpected stale with same | same
        · cases same
          exact ⟨_, granted, .inl ⟨rfl, allowed⟩⟩
        · cases same
    | @failed _ _ _ _ error granted =>
      cases error <;> cases rest
      exact ⟨_, granted, .inr ⟨_, _, _, rfl⟩⟩
    | written granted named stage => cases stage <;> cases rest
  | _ => cases ask

/-- An update that is answered with a conflict is answered with what was stored at one of its own
calls. -/
theorem row?_of_conflict (built : service.registry.IsBuilt) (fresh : start.tasks = [])
    {task : Task} {body : Json} {current : Record}
    (present : (start.run service moves).tasks[i]? = some task)
    (ask : task.ask = .update kind id body)
    (answered : (start.run service moves).outcome? i = some (.error (.revisionConflict current))) :
    ∃ earlier later, moves = earlier ++ .proceed i :: later ∧
      (start.run service earlier).row? kind id = some current := by
  obtain ⟨schema, granted, ⟨logged, -⟩ | ⟨seen, payload, expected, logged⟩⟩ :=
    transcript_of_conflict fresh present ask answered
  · obtain ⟨earlier, later, rfl, -, found⟩ := row?_of_found (logged ▸ List.mem_singleton.2 rfl)
    exact ⟨earlier, later, rfl, built.kind_eq granted ▸ found⟩
  · obtain ⟨earlier, later, rfl, -, failed⟩ :=
      moves_of_mem_transcript (logged ▸ List.mem_cons_of_mem _ (List.mem_singleton.2 rfl))
    obtain ⟨-, impossible | ⟨stored, found, same⟩⟩ := Store.update_error failed.symm
    · cases impossible
    · cases same
      exact ⟨earlier, later, rfl, built.kind_eq granted ▸ found⟩

/-- The updates of a record in a run take effect as if they were made one after another. -/
structure Serialized (service : Service) (start : Scene) (kind id : String) (schema : Schema)
    (origin : Record) (moves : List Move) : Prop where
  /-- At every moment the record is what the updates committed so far make of the one at the
  start. -/
  row : ∀ before after, moves = before ++ after →
    (start.run service before).row? kind id =
      some (origin.mergeAll schema (start.commits service kind id before))
  /-- Its revision counts them. -/
  revision : ∀ before after current, moves = before ++ after →
    (start.run service before).row? kind id = some current →
    current.revision = origin.revision + (start.commits service kind id before).length
  /-- They are committed in the order of the revisions submitted, of each at most one. -/
  ascending : ((start.commits service kind id moves).map fun commit =>
    commit.proposed.revision).Pairwise (· < ·)
  checked : ∀ before i after commit, moves = before ++ .proceed i :: after →
    (start.run service before).commit? kind id (.proceed i) = some commit →
    IsChecked service start kind id schema before commit
  /-- A move that commits nothing leaves the record as it is. -/
  unchanged : ∀ before move after, moves = before ++ move :: after →
    (start.run service before).commit? kind id move = none →
    (start.run service (before ++ [move])).row? kind id = (start.run service before).row? kind id
  /-- A conflict is answered with what was stored at one of the calls of the update. -/
  conflict : ∀ i task body current, (start.run service moves).tasks[i]? = some task →
    task.ask = .update kind id body →
    (start.run service moves).outcome? i = some (.error (.revisionConflict current)) →
    ∃ before after, moves = before ++ .proceed i :: after ∧
      (start.run service before).row? kind id = some current

/-- No update is lost: of a revisioned kind, the updates of a record that is not deleted take effect
one after another, however many requests are interleaved. -/
theorem serialized_run (built : service.registry.IsBuilt)
    (known : service.registry.get? kind = some descriptor)
    (revisioned : descriptor.schema.revisioned = true) (fresh : start.tasks = [])
    {origin : Record} (stored : start.row? kind id = some origin)
    (kept : ∀ caller, .begin caller (.delete kind id) ∉ moves) :
    Serialized service start kind id descriptor.schema origin moves := by
  have row : ∀ before after, moves = before ++ after →
      (start.run service before).row? kind id =
        some (origin.mergeAll descriptor.schema (start.commits service kind id before)) := by
    rintro before after rfl
    exact row?_run built known revisioned fresh stored fun caller member =>
      kept caller (List.mem_append_left _ member)
  refine ⟨row, ?_, ?_, ?_, ?_, ?_⟩
  · intro before after current split there
    rw [row before after split] at there
    rw [← Option.some.inj there, revision_mergeAll revisioned]
  · rw [revision_of_commits built known revisioned fresh stored kept, List.pairwise_map]
    exact List.pairwise_lt_range.imp fun below => by omega
  · rintro before i after commit rfl committed
    exact isChecked_of_commit built known revisioned fresh stored
      (fun caller member => kept caller (List.mem_append_left _ member)) committed
  · rintro before move after rfl idle
    have there := row before (move :: after) rfl
    rcases row?_step_of_kept built known revisioned fresh
        (fun caller member => kept caller (List.mem_append_left _ member)) there move with
      ⟨-, same⟩ | ⟨commit, committed, -, -⟩
    · rw [same, there]
    · cases idle.symm.trans committed
  · intro i task body current present ask answered
    exact row?_of_conflict built fresh present ask answered

/-- Two clients who update the same revision of a note, and both look before one of them writes. -/
def twoClients : List Move :=
  let body (title : String) : Json := .object [("revision", .integer 1), ("title", .string title)]
  [.begin none (.update "note" "1" (body "a")), .begin none (.update "note" "1" (body "b")),
    .proceed 0, .proceed 1, .proceed 0, .proceed 1]

/-- One of two clients who update the same revision of a note commits. -/
theorem serialized_twoClients :
    Serialized .notes oneNote "note" "1" .note ⟨"1", none, 1, []⟩ twoClients ∧
      (oneNote.commits .notes "note" "1" twoClients).length = 1 :=
  ⟨serialized_run Service.isBuilt_notes
    (show Service.notes.registry.get? "note" = some ⟨.note, .all⟩ from rfl) rfl rfl rfl
    (by simp [twoClients]), by decide⟩

end Scene

end RecordAccess
