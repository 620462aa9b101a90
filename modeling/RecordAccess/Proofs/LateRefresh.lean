import RecordAccess.Proofs.Entries
import RecordAccess.Proofs.RecordText

/-!
# Late refreshes

A delete of a record beside one other write of it. Once both have returned, and the record was not
created again, it is not stored. Whether later reads find it all the same depends on what the
cache was told last (`Scene.notFound_iff_not_isLate`): the delete leaves a tombstone behind, but a
write that took effect before the delete may tell the cache only after it. That refresh replaces
the tombstone, and brings the record back to every reader.
-/

namespace RecordAccess

/-- Whether a request is an update of a record, or a create of its kind. -/
def Ask.Rewrites (kind id : String) (ask : Ask) : Prop :=
  (∃ body, ask = .update kind id body) ∨ ∃ body, ask = .create kind body

namespace Scene

/-- After some moves, the next call of a task creates the record of a kind with an id. -/
def CreatesAt (service : Service) (start : Scene) (kind id : String) (moves : List Move)
    (i : Nat) : Prop :=
  WritesAt service start kind id moves i ∧
    ∃ schema record, (start.run service moves).next? i = some (.store (.create schema record))

/-- A run of two requests and no more: the task `d` deletes a record, and the task `o` is an update
or a create. Both have returned, the delete with success, and the record was not created after
it was deleted. -/
structure Raced (service : Service) (start : Scene) (kind id : String) (moves : List Move)
    (d o : Nat) : Prop where
  only : (start.run service moves).tasks.length = 2
  different : d ≠ o
  deletes : ∃ task, (start.run service moves).tasks[d]? = some task ∧ task.ask = .delete kind id
  rewrites : ∃ task, (start.run service moves).tasks[o]? = some task ∧ task.ask.Rewrites kind id
  deleted : ∃ record, (start.run service moves).outcome? d = some (.ok (.one record))
  returned : (start.run service moves).outcome? o ≠ none
  uncreated : ∀ first middle last,
    moves = first ++ .proceed d :: (middle ++ .proceed o :: last) →
    WritesAt service start kind id first d →
    ¬CreatesAt service start kind id (first ++ .proceed d :: middle) o

/-- The task `o` was answered after the task `d`, with the record of an id that its own text is
read back as a record. -/
def IsLate (service : Service) (start : Scene) (id : String) (moves : List Move) (d o : Nat) :
    Prop :=
  ∃ record cached, (start.run service moves).outcome? o = some (.ok (.one record)) ∧
    record.id = id ∧ CacheAside.decodeEntry record.text = .record cached ∧
    ∃ before after, moves = before ++ after ∧ (start.run service before).outcome? d ≠ none ∧
      (start.run service before).outcome? o = none

/-- Moves by which nothing comes in but reads of a record. -/
def OnlyReads (kind id : String) (moves : List Move) : Prop :=
  ∀ move ∈ moves, move.isPlain = true ∧ ∀ caller ask, move = .begin caller ask → ask = .read kind id

variable {service : Service} {start : Scene} {kind id : String} {moves : List Move} {d o i : Nat}

/-! ## The two tasks -/

/-- A task that updates or creates, and is about to set a key or has succeeded, has come to its
refresh. -/
theorem refreshStage_of_rewrites {task : Task} {log : List Exchange}
    (stage : TaskStage service task log) (rewrites : task.ask.Rewrites kind id)
    (late : (∃ key text resume, task.rest = .call (.cache (.set key text)) resume) ∨
      ∃ delivery, task.rest = .done (.ok delivery)) :
    ∃ schema operation record before seen work,
      service.registry.authorize kind operation = .ok schema ∧ log = before ++ seen ∧
      service.aside.RefreshStage schema record seen work ∧
      task.rest = (work.bind fun _ => .done (.ok record)).deliver .one := by
  cases stage with
  | create stage =>
    rcases rewrites with ⟨body, same⟩ | ⟨body, same⟩ <;> cases same
    cases stage with
    | written granted decoded stage => exact ⟨_, _, _, [_], _, _, granted, rfl, stage, rfl⟩
    | _ =>
      rcases late with ⟨_, _, _, asked⟩ | ⟨_, finished⟩
      · cases asked
      · cases finished
  | update stage =>
    rcases rewrites with ⟨body, same⟩ | ⟨body, same⟩ <;> cases same
    cases stage with
    | written granted named stage => exact ⟨_, _, _, [_, _], _, _, granted, rfl, stage, rfl⟩
    | _ =>
      rcases late with ⟨_, _, _, asked⟩ | ⟨_, finished⟩
      · cases asked
      · cases finished
  | _ => rcases rewrites with ⟨body, same⟩ | ⟨body, same⟩ <;> cases same

/-- A task that updates or creates and is about to set a key tells the cache the record that it
will be answered with. -/
theorem refresh_of_set {task : Task} {log : List Exchange} {key text : String}
    {resume : Except CacheError Unit → Program (Except ServiceError Delivery)}
    (stage : TaskStage service task log) (rewrites : task.ask.Rewrites kind id)
    (asked : task.rest = .call (.cache (.set key text)) resume) :
    ∃ schema record operation, service.registry.authorize kind operation = .ok schema ∧
      key = Record.cacheKey schema.kind record.id ∧ text = record.text ∧
      ∀ reply, resume reply = .done (.ok (.one record)) := by
  obtain ⟨schema, operation, record, before, seen, work, granted, -, refreshing, rest⟩ :=
    refreshStage_of_rewrites stage rewrites (.inl ⟨_, _, _, asked⟩)
  rw [asked] at rest
  cases refreshing <;> cases rest
  exact ⟨schema, record, operation, granted, rfl, rfl, fun _ => rfl⟩

/-- A task that has updated or created a record told the cache about it last, unless it found a later
revision there. -/
theorem refresh_of_done {task : Task} {log : List Exchange} {record : Record}
    (stage : TaskStage service task log) (enabled : service.aside.enabled = true)
    (rewrites : task.ask.Rewrites kind id) (finished : task.rest = .done (.ok (.one record))) :
    ∃ schema operation front last, service.registry.authorize kind operation = .ok schema ∧
      log = front ++ [last] ∧
      ((∃ reply cached, last = .cache (.get (Record.cacheKey schema.kind record.id)) reply ∧
          CacheLookup.ofReply reply = .record cached) ∨
        ∃ reply, last = .cache (.set (Record.cacheKey schema.kind record.id) record.text) reply) := by
  obtain ⟨schema, operation, written, before, seen, work, granted, rfl, refreshing, rest⟩ :=
    refreshStage_of_rewrites stage rewrites (.inr ⟨_, finished⟩)
  rw [finished] at rest
  cases work with
  | call => cases rest
  | done =>
    cases rest
    obtain ⟨front, last, rfl, told⟩ := refreshing.last_of_done enabled
    refine ⟨schema, operation, before ++ front, last, granted, (List.append_assoc ..).symm, ?_⟩
    exact told.imp_left fun ⟨_, reply, cached, same, found, _⟩ => ⟨reply, cached, same, found⟩

/-- Where a task has returned, it has made every call before. -/
theorem append_of_returned {first last before after : List Move} {next : Call}
    (split : first ++ .proceed i :: last = before ++ after)
    (asked : (start.run service first).next? i = some next)
    (returned : (start.run service before).outcome? i ≠ none) :
    ∃ more, before = first ++ .proceed i :: more := by
  have unreturned := outcome?_of_next? asked
  rcases List.append_eq_append_iff.1 split with ⟨more, rfl, rest⟩ | ⟨more, rfl, -⟩
  · cases more with
    | nil =>
      rw [List.append_nil] at returned
      exact absurd unreturned returned
    | cons move more =>
      obtain ⟨rfl, -⟩ := List.cons.inj rest
      exact ⟨more, rfl⟩
  · exact absurd unreturned (outcome?_ne_none returned more)

/-- Where a task has not returned, it has not made the call that it returns with. -/
theorem append_of_unreturned {first last before after : List Move} {move : Move}
    (split : first ++ move :: last = before ++ after)
    (returned : (start.run service (first ++ [move])).outcome? i ≠ none)
    (unreturned : (start.run service before).outcome? i = none) :
    ∃ more, first = before ++ more := by
  rw [List.append_cons] at split
  rcases List.append_eq_append_iff.1 split with ⟨more, rfl, -⟩ | ⟨more, same, -⟩
  · exact absurd unreturned (outcome?_ne_none returned more)
  · rcases List.eq_nil_or_concat more with rfl | ⟨more, last, rfl⟩
    · rw [List.append_nil] at same
      exact absurd unreturned (same ▸ returned)
    · rw [List.concat_eq_append, ← List.append_assoc] at same
      exact ⟨more, (List.append_inj' same rfl).1⟩

/-- A task was begun as what it is. -/
theorem ask_of_prefix {before after : List Move} {task final : Task}
    (there : (start.run service before).tasks[i]? = some task)
    (last : (start.run service (before ++ after)).tasks[i]? = some final) :
    task.ask = final.ask := by
  obtain ⟨rest, still, -⟩ := task_run service there after
  rw [← run_append, last] at still
  cases still
  rfl

/-- A record that is stored later and not now is created in between. -/
theorem exists_createsAt {earlier later : List Move} {record : Record}
    (absent : (start.run service earlier).row? kind id = none)
    (there : (start.run service (earlier ++ later)).row? kind id = some record) :
    ∃ middle k last, later = middle ++ .proceed k :: last ∧
      CreatesAt service start kind id (earlier ++ middle) k := by
  induction later using List.reverseRecOn generalizing record with
  | nil =>
    rw [List.append_nil, absent] at there
    cases there
  | append_singleton later move ih =>
    cases before : (start.run service (earlier ++ later)).row? kind id with
    | some row =>
      obtain ⟨middle, k, last, rfl, creates⟩ := ih before
      exact ⟨middle, k, last ++ [move], by simp, creates⟩
    | none =>
      by_cases writes : (start.run service (earlier ++ later)).written? move = some (kind, id)
      · obtain ⟨k, call, rfl, asked, written⟩ := written?_eq_some writes
        obtain ⟨schema, created, rfl⟩ := Store.create_of_written? before written
        exact ⟨later, k, [], rfl, writes, schema, created, asked⟩
      · rw [← List.append_assoc, run_snoc, row?_step_of_ne writes, before] at there
        cases there

namespace Raced

variable (raced : Raced service start kind id moves d o)

include raced

/-- No other task makes a call. -/
theorem eq_of_next? {before after : List Move} {next : Call} (split : moves = before ++ after)
    (asked : (start.run service before).next? i = some next) : i = d ∨ i = o := by
  obtain ⟨deleting, there, -⟩ := raced.deletes
  obtain ⟨rewriting, alsoThere, -⟩ := raced.rewrites
  obtain ⟨task, resume, here, -⟩ := task_of_next? asked
  have few := raced.only
  have grown := length_tasks_run service (start.run service before) after
  rw [← run_append, ← split, few] at grown
  have := (List.getElem?_eq_some_iff.1 there).1
  have := (List.getElem?_eq_some_iff.1 alsoThere).1
  have := (List.getElem?_eq_some_iff.1 here).1
  have := raced.different
  omega

/-- Both tasks have returned. -/
theorem next?_eq_none (j : Nat) : (start.run service moves).next? j = none := by
  refine Option.eq_none_iff_forall_not_mem.2 fun next asked => ?_
  have unreturned := outcome?_of_next? asked
  rcases raced.eq_of_next? (List.append_nil moves).symm asked with rfl | rfl
  · obtain ⟨record, deleted⟩ := raced.deleted
    cases unreturned.symm.trans deleted
  · exact raced.returned unreturned

/-- The transcript of the delete ends with the two calls by which it removes the record and leaves
the second tombstone. -/
theorem transcript_delete (fresh : start.tasks = []) (built : service.registry.IsBuilt)
    (enabled : service.aside.enabled = true) (plain : ∀ move ∈ moves, move.isPlain = true) :
    ∃ schema log reply, schema.kind = kind ∧ Service.requireId id = .ok () ∧
      start.transcript service d moves = log ++ [.store (.delete schema id) (.ok ()),
        .cache (.set (Record.cacheKey kind id) CacheAside.tombstoneText) reply] := by
  obtain ⟨⟨caller, ask, rest⟩, there, asked⟩ := raced.deletes
  obtain ⟨record, deleted⟩ := raced.deleted
  obtain ⟨task, same, finished⟩ := outcome?_eq_some.1 deleted
  cases there.symm.trans same
  change ask = .delete kind id at asked
  subst asked
  have stage := stage_of_plain fresh plain there
  generalize logged : start.transcript service d moves = log at stage
  cases stage with
  | delete stage =>
    cases stage with
    | @removed schema found current buried log work granted named noted burying =>
      obtain rfl := built.kind_eq granted
      obtain rfl := id_of_deleting logged
      rcases CacheAside.leads_bury burying with ⟨-, resume, rfl⟩ | ⟨rfl, ⟨disabled, -⟩ | ⟨-, reply, rfl⟩⟩
      · cases finished
      · cases enabled.symm.trans disabled
      · refine ⟨schema, .store (.findOne schema current.id) (.ok found) ::
          .store (.findOne schema found.id) (.ok current) :: buried, reply, rfl, named, ?_⟩
        simp
    | _ => cases finished

/-- At some move the delete leaves its second tombstone, and returns. By then it has removed the
record. -/
theorem exists_bury (fresh : start.tasks = []) (built : service.registry.IsBuilt)
    (enabled : service.aside.enabled = true) (plain : ∀ move ∈ moves, move.isPlain = true) :
    ∃ first last schema, moves = first ++ .proceed d :: last ∧ schema.kind = kind ∧
      (start.run service first).next? d =
        some (.cache (.set (Record.cacheKey kind id) CacheAside.tombstoneText)) ∧
      .store (.delete schema id) (.ok ()) ∈ start.transcript service d first ∧
      (start.run service (first ++ [.proceed d])).outcome? d ≠ none := by
  obtain ⟨schema, log, reply, kind_eq, -, logged⟩ :=
    raced.transcript_delete fresh built enabled plain
  rw [List.append_cons] at logged
  obtain ⟨first, move, last, rfl, before, took⟩ := moves_of_transcript logged
  obtain ⟨rfl, asked⟩ := asked_of_exchange? (plain _ (by simp)) took
  refine ⟨first, last, schema, rfl, kind_eq, asked, by rw [before]; simp, ?_⟩
  obtain ⟨record, deleted⟩ := raced.deleted
  rw [← outcome?_of_last logged before took asked fun move member => plain move (by simp [member]),
    deleted]
  exact nofun

/-- The task that deletes the record creates nothing. -/
theorem not_createsAt (fresh : start.tasks = []) {before after : List Move}
    (split : moves = before ++ after) : ¬CreatesAt service start kind id before d := by
  rintro ⟨-, schema, payload, asked⟩
  obtain ⟨task, there, turn⟩ := turn_of_asked fresh asked
  obtain ⟨final, alsoThere, deletes⟩ := raced.deletes
  rw [split] at alsoThere
  have creates := ask_of_prefix there alsoThere
  rw [deletes] at creates
  generalize called : Call.store (StoreCall.create schema payload) = next at turn
  generalize start.transcript service d before = log at turn
  cases turn with
  | create asked => cases creates.symm.trans asked
  | _ => cases called

/-- The record is not stored in the end. -/
theorem row?_eq_none (fresh : start.tasks = []) (built : service.registry.IsBuilt)
    (enabled : service.aside.enabled = true) (distinct : start.store.Distinct)
    (plain : ∀ move ∈ moves, move.isPlain = true) :
    (start.run service moves).row? kind id = none := by
  obtain ⟨first, last, schema, split, rfl, -, removed, -⟩ :=
    raced.exists_bury fresh built enabled plain
  obtain ⟨early, late, rfl, asked, succeeded⟩ := moves_of_mem_transcript removed
  have writes : WritesAt service start schema.kind id early d := by
    rw [WritesAt, written?_proceed asked, ← succeeded]
    rfl
  have gone : (start.run service (early ++ [.proceed d])).row? schema.kind id = none := by
    rw [run_snoc, row?, store_proceed asked]
    exact Store.row?_delete (distinct_run distinct early schema.kind) succeeded.symm
  have whole : moves = (early ++ [.proceed d]) ++ (late ++ .proceed d :: last) := by simp [split]
  refine Option.eq_none_iff_forall_not_mem.2 fun record there => ?_
  rw [whole] at there
  -- To be stored again it would have to be created, which neither of the two tasks does.
  obtain ⟨middle, j, rest, same, written, recordSchema, payload, calls⟩ :=
    exists_createsAt gone there
  have next_split : moves = (early ++ [.proceed d] ++ middle) ++ .proceed j :: rest := by
    rw [whole, same, ← List.append_assoc]
  rcases raced.eq_of_next? next_split calls with rfl | rfl
  · exact raced.not_createsAt fresh next_split ⟨written, _, _, calls⟩
  · have between : early ++ [.proceed d] ++ middle = early ++ .proceed d :: middle := by simp
    rw [between] at next_split written calls
    exact raced.uncreated early middle rest (by simpa using next_split) writes
      ⟨written, _, _, calls⟩

/-- Who sets the key after the delete has returned is the other task. It sets the text of the record
that it is then answered with. -/
theorem answered_of_set (fresh : start.tasks = []) (built : service.registry.IsBuilt)
    (unmarked : ':' ∉ kind.toList) (plain : ∀ move ∈ moves, move.isPlain = true)
    {before after : List Move} (split : moves = before ++ after) {text : String}
    (deleted : (start.run service before).outcome? d ≠ none)
    (asked : (start.run service before).next? i =
      some (.cache (.set (Record.cacheKey kind id) text))) :
    i = o ∧ ∃ record : Record, text = record.text ∧ record.id = id ∧
      (start.run service (before ++ [.proceed o])).outcome? o = some (.ok (.one record)) := by
  obtain rfl : i = o := by
    refine (raced.eq_of_next? split asked).resolve_left ?_
    rintro rfl
    exact deleted (outcome?_of_next? asked)
  obtain ⟨task, resume, there, rest⟩ := task_of_next? asked
  obtain ⟨final, alsoThere, rewrites⟩ := raced.rewrites
  rw [split] at alsoThere
  rw [← ask_of_prefix there alsoThere] at rewrites
  have stage := stage_of_plain fresh (fun move member =>
    plain move (split ▸ List.mem_append_left _ member)) there
  obtain ⟨schema, record, operation, granted, key, rfl, finishes⟩ :=
    refresh_of_set stage rewrites rest
  rw [built.kind_eq granted] at key
  obtain ⟨-, named⟩ := cacheKey_inj unmarked unmarked key
  refine ⟨rfl, record, rfl, named.symm, ?_⟩
  rw [run_snoc]
  exact outcome?_eq_some.2 ⟨_, task_proceed there rest, finishes _⟩

/-- Once the delete has returned, the text that is held stays, unless the other task then tells the
cache the record that it is answered with. -/
theorem held?_of_deleted (fresh : start.tasks = []) (built : service.registry.IsBuilt)
    (lasting : start.cache.IsLasting)
    (unmarked : ':' ∉ kind.toList)
    (plain : ∀ move ∈ moves, move.isPlain = true) {text : String} {before : List Move}
    (held : (start.run service before).held? kind id = some text)
    (deleted : (start.run service before).outcome? d ≠ none) (more rest : List Move)
    (split : moves = before ++ (more ++ rest)) :
    (start.run service (before ++ more)).held? kind id = some text ∨
      ∃ record : Record, (start.run service before).outcome? o = none ∧
        (start.run service (before ++ more)).outcome? o = some (.ok (.one record)) ∧
        record.id = id ∧ (start.run service (before ++ more)).held? kind id = some record.text := by
  induction more using List.reverseRecOn generalizing rest with
  | nil =>
    rw [List.append_nil]
    exact .inl held
  | append_singleton more move ih =>
    have prefix_eq : moves = (before ++ more) ++ ([move] ++ rest) := by simpa using split
    have earlier := ih ([move] ++ rest) (by simpa using split)
    rw [← List.append_assoc]
    rcases held?_step fresh lasting (before ++ more) move kind id with
      same | ⟨i, other, rfl, now, asked | ⟨-, empty⟩⟩
    · rw [same]
      refine earlier.imp_right fun ⟨record, unreturned, finished, named, there⟩ =>
        ⟨record, unreturned, ?_, named, there⟩
      rw [run_snoc]
      exact outcome?_run finished [move]
    · obtain ⟨rfl, record, rfl, named, finished⟩ := raced.answered_of_set fresh built unmarked plain
        prefix_eq (outcome?_ne_none deleted more) asked
      refine .inr ⟨record, ?_, finished, named, now⟩
      exact Decidable.byContradiction fun returned =>
        outcome?_ne_none returned more (outcome?_of_next? asked)
    · rcases earlier with there | ⟨record, -, -, -, there⟩ <;> cases empty.symm.trans there

/-- When the other task is not late, what is held in the end is no record. -/
theorem held?_of_not_isLate (fresh : start.tasks = []) (built : service.registry.IsBuilt)
    (unmarked : ':' ∉ kind.toList) (enabled : service.aside.enabled = true)
    (lasting : start.cache.IsLasting) (plain : ∀ move ∈ moves, move.isPlain = true)
    (timely : ¬IsLate service start id moves d o) :
    ∃ text, (start.run service moves).held? kind id = some text ∧
      ∀ cached, CacheAside.decodeEntry text ≠ .record cached := by
  obtain ⟨first, last, schema, split, -, asked, -, deleted⟩ :=
    raced.exists_bury fresh built enabled plain
  have buried := held?_of_set fresh lasting asked
  have whole : moves = (first ++ [.proceed d]) ++ (last ++ []) := by simpa using split
  have outcome := raced.held?_of_deleted fresh built lasting unmarked plain buried deleted last []
    whole
  rw [List.append_nil] at whole
  rw [← whole] at outcome
  rcases outcome with there | ⟨record, unreturned, finished, named, there⟩
  · exact ⟨_, there, fun cached found => nomatch found⟩
  · refine ⟨_, there, fun cached decoded => timely ?_⟩
    exact ⟨record, cached, finished, named, decoded, _, _, whole, deleted, unreturned⟩

/-- When the delete has returned and the other task has not, a tombstone is held. -/
theorem held?_of_unreturned (fresh : start.tasks = []) (built : service.registry.IsBuilt)
    (unmarked : ':' ∉ kind.toList) (enabled : service.aside.enabled = true)
    (lasting : start.cache.IsLasting) (plain : ∀ move ∈ moves, move.isPlain = true)
    {before after : List Move} (split : moves = before ++ after)
    (deleted : (start.run service before).outcome? d ≠ none)
    (unreturned : (start.run service before).outcome? o = none) :
    (start.run service before).held? kind id = some CacheAside.tombstoneText := by
  obtain ⟨first, last, schema, split', -, asked, -, deleted'⟩ :=
    raced.exists_bury fresh built enabled plain
  obtain ⟨more, rfl⟩ := append_of_returned (split'.symm.trans split) asked deleted
  rw [List.append_cons] at unreturned split ⊢
  rcases raced.held?_of_deleted fresh built lasting unmarked plain
    (held?_of_set fresh lasting asked) deleted' more after (by rw [split, List.append_assoc])
    with there | ⟨other, -, returned, -⟩
  · exact there
  · cases unreturned.symm.trans returned

/-- When the other task is late, its record is what is held in the end. -/
theorem held?_of_isLate (fresh : start.tasks = []) (built : service.registry.IsBuilt)
    (unmarked : ':' ∉ kind.toList) (enabled : service.aside.enabled = true)
    (lasting : start.cache.IsLasting) (plain : ∀ move ∈ moves, move.isPlain = true)
    (late : IsLate service start id moves d o) :
    ∃ text cached, (start.run service moves).held? kind id = some text ∧
      CacheAside.decodeEntry text = .record cached := by
  obtain ⟨record, cached, finished, rfl, decoded, before, after, split, deleted, unreturned⟩ := late
  obtain ⟨task, there, rest⟩ := outcome?_eq_some.1 finished
  obtain ⟨final, alsoThere, rewrites⟩ := raced.rewrites
  cases there.symm.trans alsoThere
  obtain ⟨schema, operation, log, last, granted, logged, told⟩ :=
    refresh_of_done (stage_of_plain fresh plain there) enabled rewrites rest
  rw [built.kind_eq granted] at told
  -- The other task makes its last call after the delete has returned, when a tombstone is held.
  obtain ⟨earlier, move, later, split', rfl, took⟩ := moves_of_transcript logged
  obtain ⟨rfl, asked⟩ := asked_of_exchange? (plain move (by simp [split'])) took
  have returned : (start.run service (earlier ++ [.proceed o])).outcome? o ≠ none := by
    rw [← outcome?_of_last (split' ▸ logged) rfl took asked fun move member =>
      plain move (by simp [split', member]), ← split']
    exact raced.returned
  obtain ⟨more, rfl⟩ := append_of_unreturned (split'.symm.trans split) returned unreturned
  have deletedThen : (start.run service (before ++ more)).outcome? d ≠ none :=
    outcome?_ne_none deleted more
  rcases told with ⟨reply, kept, rfl, found⟩ | ⟨reply, rfl⟩
  · have buried := raced.held?_of_unreturned fresh built unmarked enabled lasting plain split'
      deletedThen (outcome?_of_next? asked)
    simp only [exchange?, if_true, asked, Option.map_some, Option.some.injEq] at took
    obtain ⟨-, rfl⟩ := reply_of_get (isLasting_run service fresh lasting _).isOpen took
    rw [buried] at found
    cases found
  · refine ⟨record.text, cached, ?_, decoded⟩
    have whole : moves = (before ++ more ++ [.proceed o]) ++ (later ++ []) := by simpa using split'
    have deletedBy : (start.run service (before ++ more ++ [.proceed o])).outcome? d ≠ none :=
      outcome?_ne_none deletedThen _
    have outcome := raced.held?_of_deleted fresh built lasting unmarked plain
      (held?_of_set fresh lasting asked) deletedBy later [] whole
    rw [List.append_nil] at whole
    rw [← whole] at outcome
    rcases outcome with there | ⟨other, absent, -⟩
    · exact there
    · exact absurd absent returned

end Raced

/-! ## Reads that come in later -/

/-- Where all tasks have returned, whoever makes a call then has come in since. -/
theorem length_le_of_next? {before : List Move} {next : Call}
    (finished : ∀ j, (start.run service moves).next? j = none)
    (asked : (start.run service (moves ++ before)).next? i = some next) :
    (start.run service moves).tasks.length ≤ i := by
  refine Nat.le_of_not_lt fun inside => ?_
  obtain ⟨⟨caller, ask, rest⟩, here⟩ : ∃ early, (start.run service moves).tasks[i]? = some early :=
    ⟨_, List.getElem?_eq_getElem inside⟩
  have idle := finished i
  cases rest with
  | call next resume =>
    rw [next?, here] at idle
    cases idle
  | done outcome =>
    have returned : (start.run service moves).outcome? i = some outcome :=
      outcome?_eq_some.2 ⟨_, here, rfl⟩
    rw [run_append] at asked
    cases (outcome?_of_next? asked).symm.trans (outcome?_run returned before)

section Later

variable {later : List Move} (fresh : start.tasks = [])
  (finished : ∀ j, (start.run service moves).next? j = none) (reads : OnlyReads kind id later)

include fresh finished reads

/-- Whoever makes a call then is a read of the record that has come in since. In the store it only
looks, and it sets the key only to a record that it was shown. -/
theorem read_of_next? (built : service.registry.IsBuilt) {before after : List Move} {next : Call}
    (split : later = before ++ after)
    (asked : (start.run service (moves ++ before)).next? i = some next) :
    (start.run service moves).tasks.length ≤ i ∧
      (∀ call, next = .store call → ∃ schema, call = .findOne schema id) ∧
      ∀ key text, next = .cache (.set key text) → ∃ schema record, schema.kind = kind ∧
        .store (.findOne schema id) (.ok record) ∈ start.transcript service i (moves ++ before) := by
  have absent := length_le_of_next? finished asked
  obtain ⟨⟨caller, ask, rest⟩, there, next_eq⟩ := Option.bind_eq_some_iff.1 asked
  have came : ask = .read kind id := by
    have alsoThere := there
    rw [run_append] at alsoThere
    have came := begin_of_task absent alsoThere
    exact (reads _ (split ▸ List.mem_append_left _ came)).2 _ _ rfl
  subst came
  refine ⟨absent, ?_⟩
  rcases stage_transcript fresh there with stage | ⟨-, givenUp⟩
  · generalize start.transcript service i (moves ++ before) = log at stage ⊢
    cases stage with
    | read stage =>
      cases stage with
      | refused => cases next_eq
      | @fetching schema log work granted named stage =>
        cases stage with
        | looking =>
          cases next_eq
          exact ⟨fun call same => ⟨schema, by cases same; rfl⟩, fun _ _ same => by cases same⟩
        | @replacing seen record resume missed =>
          cases next_eq
          refine ⟨fun _ same => (by cases same), fun _ _ _ =>
            ⟨schema, record, built.kind_eq granted, ?_⟩⟩
          exact List.mem_append_right _ (List.mem_singleton.2 rfl)
        | asking | filling =>
          cases next_eq
          exact ⟨fun _ same => (by cases same), fun _ _ same => by cases same⟩
        | _ => cases next_eq
  · change rest = _ at givenUp
    subst givenUp
    cases next_eq

/-- What comes in stores nothing. -/
theorem row?_of_onlyReads (built : service.registry.IsBuilt) {before after : List Move}
    (split : later = before ++ after) (absent : (start.run service moves).row? kind id = none) :
    (start.run service (moves ++ before)).row? kind id = none := by
  rw [row?_of_unwritten, absent]
  rintro first j last rfl writes
  obtain ⟨i, call, same, asked, written⟩ := written?_eq_some writes
  cases same
  have split' : later = first ++ (.proceed j :: last ++ after) := by simpa using split
  obtain ⟨-, looks, -⟩ := read_of_next? fresh finished reads built split' asked
  obtain ⟨schema, rfl⟩ := looks call rfl
  cases written

/-- A text that is no record stays under the key. -/
theorem held?_of_onlyReads (built : service.registry.IsBuilt) (lasting : start.cache.IsLasting)
    (absent : (start.run service moves).row? kind id = none) {text : String}
    (held : (start.run service moves).held? kind id = some text)
    {before after : List Move} (split : later = before ++ after) :
    (start.run service (moves ++ before)).held? kind id = some text := by
  induction before using List.reverseRecOn generalizing after with
  | nil => rwa [List.append_nil]
  | append_singleton before move ih =>
    have split' : later = before ++ (move :: after) := by simpa using split
    have earlier := ih split'
    rw [← List.append_assoc]
    rcases held?_step fresh lasting (moves ++ before) move kind id with same |
      ⟨i, other, rfl, -, asked | ⟨-, empty⟩⟩
    · rwa [same]
    · obtain ⟨beyond, -, sets⟩ := read_of_next? fresh finished reads built split' asked
      obtain ⟨schema, record, rfl, shown⟩ := sets _ _ rfl
      obtain ⟨first, last, place, looked, there⟩ := row?_of_found shown
      obtain ⟨more, rfl⟩ := eq_append_of_next? beyond place looked
      have split'' : later = more ++ (.proceed i :: last ++ .proceed i :: after) := by
        rw [split', List.append_cancel_left (by simpa using place : moves ++ before =
          moves ++ (more ++ .proceed i :: last))]
        simp
      cases (row?_of_onlyReads fresh finished reads built split'' absent).symm.trans there
    · cases empty.symm.trans earlier

/-- When the record is not stored and no record is held, such a read does not find it. -/
theorem notFound_of_onlyReads (built : service.registry.IsBuilt) (lasting : start.cache.IsLasting)
    (plain : ∀ move ∈ moves, move.isPlain = true)
    (granted : ∃ schema, service.registry.authorize kind .read = .ok schema)
    (named : Service.requireId id = .ok ())
    (absent : (start.run service moves).row? kind id = none) {text : String}
    (held : (start.run service moves).held? kind id = some text)
    (noRecord : ∀ cached, CacheAside.decodeEntry text ≠ .record cached)
    (beyond : (start.run service moves).tasks.length ≤ i) {outcome : Except ServiceError Delivery}
    (answered : (start.run service (moves ++ later)).outcome? i = some outcome) :
    outcome = .error (.notFound kind id) := by
  obtain ⟨schema, granted⟩ := granted
  obtain ⟨⟨caller, ask, rest⟩, there, finish⟩ := outcome?_eq_some.1 answered
  change rest = _ at finish
  subst finish
  obtain rfl : ask = .read kind id := by
    have alsoThere := there
    rw [run_append] at alsoThere
    exact (reads _ (begin_of_task beyond alsoThere)).2 _ _ rfl
  have plainly : ∀ move ∈ moves ++ later, move.isPlain = true := fun move member =>
    (List.mem_append.1 member).elim (plain move) fun member => (reads move member).1
  cases readsFrom_of_done fresh lasting plainly there with
  | refused refusal =>
    rcases refusal with refused | ⟨-, refused⟩
    · cases granted.symm.trans refused
    · cases named.symm.trans refused
  | @cache _ _ record _ last granted' _ place asked found decoded =>
    cases granted.symm.trans granted'
    obtain rfl := built.kind_eq granted
    obtain ⟨more, rfl⟩ := eq_append_of_next? beyond place asked
    have split : later = more ++ .proceed i :: last := by simpa using place
    rw [held?_of_onlyReads fresh finished reads built lasting absent held split] at found
    cases found
    exact absurd decoded (noRecord record)
  | @store _ _ last granted' _ place asked =>
    cases granted.symm.trans granted'
    obtain rfl := built.kind_eq granted
    obtain ⟨more, rfl⟩ := eq_append_of_next? beyond place asked
    have split : later = more ++ .proceed i :: last := by simpa using place
    rw [row?_of_onlyReads fresh finished reads built split absent]
    rfl

end Later

/-- A read that is not refused looks in the cache first. -/
theorem rest_begin_read (enabled : service.aside.enabled = true) {schema : Schema}
    (granted : service.registry.authorize kind .read = .ok schema)
    (named : Service.requireId id = .ok ()) (caller : Option Principal) :
    (Task.begin service caller (.read kind id)).rest =
      .call (.cache (.get (Record.cacheKey schema.kind id))) fun reply =>
        Program.deliver .one (Program.bind (match CacheLookup.ofReply reply with
          | .record record => .done (.ok record)
          | cached => service.aside.fetchStored schema id cached) fun reply =>
            .done (Service.readAnswer schema caller reply)) := by
  change ExceptT.run (Delivery.one <$> service.read caller kind id) = _
  rw [run_deliver, Service.read_eq granted named, CacheAside.fetchOne_eq,
    CacheAside.lookup_eq enabled]
  rfl

/-- A record that an open cache holds is found by the next read that comes in, unless the caller may
not read it. -/
theorem found_of_isOpen (fresh : start.tasks = []) (enabled : service.aside.enabled = true)
    (built : service.registry.IsBuilt) (isOpen : start.cache.closed = false) {schema : Schema}
    (granted : service.registry.authorize kind .read = .ok schema)
    (named : Service.requireId id = .ok ()) (caller : Option Principal) {text : String}
    {record : Record} (held : (start.run service moves).held? kind id = some text)
    (decoded : CacheAside.decodeEntry text = .record record) :
    (start.run service (moves ++ [.begin caller (.read kind id),
      .proceed (start.run service moves).tasks.length])).outcome?
        (start.run service moves).tasks.length =
      some ((Service.readAnswer schema caller (.ok record)).map .one) := by
  generalize count : (start.run service moves).tasks.length = n
  have there : (start.run service (moves ++ [.begin caller (.read kind id)])).tasks[n]? =
      some (.begin service caller (.read kind id)) := by
    rw [run_snoc, ← count]
    simp [step]
  have begun := rest_begin_read enabled granted named caller
  have split : moves ++ [.begin caller (.read kind id), .proceed n] =
      (moves ++ [.begin caller (.read kind id)]) ++ [.proceed n] := by simp
  rw [split, run_snoc]
  refine outcome?_eq_some.2 ⟨_, task_proceed there begun, ?_⟩
  have stillOpen := (isOpen_run service fresh isOpen (moves ++ [.begin caller (.read kind id)])).1
  have still : (start.run service (moves ++ [.begin caller (.read kind id)])).held? kind id =
      some text := by
    rw [run_snoc, ← held]
    rfl
  simp only [answer_get stillOpen, built.kind_eq granted, still, CacheLookup.ofReply, decoded]
  rfl

/-- A record that is held is found by the next read that comes in, unless the caller may not
read it. -/
theorem found_of_held? (fresh : start.tasks = []) (enabled : service.aside.enabled = true)
    (built : service.registry.IsBuilt) (lasting : start.cache.IsLasting) {schema : Schema}
    (granted : service.registry.authorize kind .read = .ok schema)
    (named : Service.requireId id = .ok ()) (caller : Option Principal) {text : String}
    {record : Record} (held : (start.run service moves).held? kind id = some text)
    (decoded : CacheAside.decodeEntry text = .record record) :
    (start.run service (moves ++ [.begin caller (.read kind id),
      .proceed (start.run service moves).tasks.length])).outcome?
        (start.run service moves).tasks.length =
      some ((Service.readAnswer schema caller (.ok record)).map .one) :=
  found_of_isOpen fresh enabled built lasting.isOpen granted named caller held decoded

/-- A read of a record that was fetched is not told that there is none. -/
theorem readAnswer_ne_notFound (schema : Schema) (caller : Option Principal) (record : Record)
    (kind id : String) : (Service.readAnswer schema caller (.ok record)).map Delivery.one ≠
      .error (.notFound kind id) := by
  simp only [Service.readAnswer]
  cases checked : Service.checkAccess schema caller .read record with
  | ok =>
    intro same
    cases same
  | error cause =>
    rw [Service.eq_permissionDenied checked]
    intro same
    cases same

/-- After a delete and one other write of a record, it is gone for all reads that come in later
exactly when the other write was not late. -/
theorem notFound_iff_not_isLate (built : service.registry.IsBuilt)
    (colonFree : service.registry.IsColonFree) (enabled : service.aside.enabled = true)
    (granted : ∃ schema, service.registry.authorize kind .read = .ok schema)
    (fresh : start.tasks = []) (lasting : start.cache.IsLasting) (distinct : start.store.Distinct)
    (plain : ∀ move ∈ moves, move.isPlain = true)
    (raced : Raced service start kind id moves d o) :
    (∀ later, OnlyReads kind id later → ∀ i outcome, 2 ≤ i →
        (start.run service (moves ++ later)).outcome? i = some outcome →
        outcome = .error (.notFound kind id)) ↔
      ¬IsLate service start id moves d o := by
  obtain ⟨schema, log, reply, -, named, -⟩ := raced.transcript_delete fresh built enabled plain
  obtain ⟨readable, readGranted⟩ := granted
  have unmarked : ':' ∉ kind.toList := by
    rw [← built.kind_eq readGranted]
    exact Service.Serves.colonFree ⟨kind, .read, readGranted⟩ built colonFree
  constructor
  · intro gone late
    obtain ⟨text, cached, held, decoded⟩ :=
      raced.held?_of_isLate fresh built unmarked enabled lasting plain late
    have found := found_of_held? fresh enabled built lasting readGranted named none held decoded
    refine readAnswer_ne_notFound readable none cached kind id
      (gone _ ?_ _ _ (Nat.le_of_eq raced.only.symm) found)
    simp [OnlyReads, Move.isPlain]
  · intro timely later reads i outcome beyond answered
    obtain ⟨text, held, noRecord⟩ :=
      raced.held?_of_not_isLate fresh built unmarked enabled lasting plain timely
    refine notFound_of_onlyReads fresh raced.next?_eq_none reads built lasting plain
      ⟨readable, readGranted⟩ named (raced.row?_eq_none fresh built enabled distinct plain) held
      noRecord ?_ answered
    rw [raced.only]
    exact beyond

/-! ## A refresh in time, and one that is late -/

/-- Where only two moves write a record, and the first of them is a call of the task `o`, the task
creates nothing after the record was deleted. -/
theorem not_createsAt_of_pair {k n : Nat}
    (pair : ∀ m < moves.length, m ≠ k → m ≠ n →
      moves[m]?.bind (start.run service (moves.take m)).written? ≠ some (kind, id))
    (earlier : k < n) (there : moves[k]? = some (.proceed o)) (different : d ≠ o)
    (first middle last : List Move)
    (split : moves = first ++ .proceed d :: (middle ++ .proceed o :: last))
    (writes : WritesAt service start kind id first d) :
    ¬CreatesAt service start kind id (first ++ .proceed d :: middle) o := by
  rintro ⟨again, -⟩
  have position : ∀ first i last, moves = first ++ .proceed i :: last →
      WritesAt service start kind id first i → first.length = k ∨ first.length = n := by
    rintro first i last rfl writes
    refine Decidable.byContradiction fun other =>
      pair first.length (by simp) (mt .inl other) (mt .inr other) ?_
    rw [List.getElem?_append_right (Nat.le_refl _), Nat.sub_self, List.take_left]
    exact writes
  have before := position first d _ split writes
  have after := position (first ++ .proceed d :: middle) o last (by simpa using split) again
  rw [List.length_append, List.length_cons] at after
  have same : first.length = k := by omega
  rw [split, ← same, List.getElem?_append_right (Nat.le_refl _), Nat.sub_self] at there
  cases there
  exact different rfl

/-- The first moves of an update of a note and of a delete of it: the note has been updated and then
deleted, and neither has told the cache. -/
def updateThenDelete : List Move :=
  [.begin none (.update "note" "1" (.object [("revision", .integer 1), ("title", .string "b")])),
    .proceed 0, .proceed 0, .begin none (.delete "note" "1"), .proceed 1, .proceed 1, .proceed 1,
    .proceed 1]

/-- The update tells the cache first. -/
def timelyRefresh : List Move :=
  updateThenDelete ++ [.proceed 0, .proceed 0, .proceed 1]

/-- The update tells the cache last. -/
def lateRefresh : List Move :=
  updateThenDelete ++ [.proceed 1, .proceed 0, .proceed 0]

theorem raced_timelyRefresh : Raced .notes oneNote "note" "1" timelyRefresh 1 0 where
  only := rfl
  different := by decide
  deletes := ⟨_, rfl, rfl⟩
  rewrites := ⟨_, rfl, .inl ⟨_, rfl⟩⟩
  deleted := ⟨⟨"1", none, 2, [("title", .string "b")]⟩, rfl⟩
  returned := Option.isSome_iff_ne_none.1 rfl
  uncreated := @not_createsAt_of_pair _ _ _ _ _ _ _ 2 7 (by decide) (by decide) rfl (by decide)

theorem raced_lateRefresh : Raced .notes oneNote "note" "1" lateRefresh 1 0 where
  only := rfl
  different := by decide
  deletes := ⟨_, rfl, rfl⟩
  rewrites := ⟨_, rfl, .inl ⟨_, rfl⟩⟩
  deleted := ⟨⟨"1", none, 2, [("title", .string "b")]⟩, rfl⟩
  returned := Option.isSome_iff_ne_none.1 rfl
  uncreated := @not_createsAt_of_pair _ _ _ _ _ _ _ 2 7 (by decide) (by decide) rfl (by decide)

/-- The refresh in time is not late, and after it the note is gone for all reads that come in
later. -/
theorem notFound_after_timelyRefresh : ¬IsLate .notes oneNote "1" timelyRefresh 1 0 ∧
    ∀ later, OnlyReads "note" "1" later → ∀ i outcome, 2 ≤ i →
      (oneNote.run .notes (timelyRefresh ++ later)).outcome? i = some outcome →
      outcome = .error (.notFound "note" "1") := by
  have timely : ¬IsLate .notes oneNote "1" timelyRefresh 1 0 := by
    rintro ⟨record, cached, -, -, -, before, after, split, deleted, unreturned⟩
    have returned : ∀ n ≤ timelyRefresh.length,
        ((oneNote.run .notes (timelyRefresh.take n)).outcome? 1).isSome = true →
        ((oneNote.run .notes (timelyRefresh.take n)).outcome? 0).isSome = true := by decide
    have then_too := returned before.length (by rw [split]; simp)
    rw [split, List.take_left, unreturned] at then_too
    cases then_too (Option.isSome_iff_ne_none.2 deleted)
  exact ⟨timely, (notFound_iff_not_isLate Service.isBuilt_notes Service.isColonFree_notes rfl
    ⟨_, rfl⟩ rfl Cache.isLasting_empty distinct_oneNote (by decide) raced_timelyRefresh).2 timely⟩

/-- After a late refresh, the note is not stored, and the next read finds it. -/
theorem found_after_lateRefresh : Raced .notes oneNote "note" "1" lateRefresh 1 0 ∧
    (∀ move ∈ lateRefresh, move.isPlain = true) ∧
    (oneNote.run .notes lateRefresh).row? "note" "1" = none ∧
    (oneNote.run .notes (lateRefresh ++ [.begin none (.read "note" "1"), .proceed 2])).outcome? 2 =
      some (.ok (.one ⟨"1", none, 2, [("title", .string "b")]⟩)) := by
  refine ⟨raced_lateRefresh, by decide, by decide, ?_⟩
  have held : (oneNote.run .notes lateRefresh).held? "note" "1" =
      some (Record.text ⟨"1", none, 2, [("title", .string "b")]⟩) := rfl
  have decoded : CacheAside.decodeEntry (Record.text ⟨"1", none, 2, [("title", .string "b")]⟩) =
      .record ⟨"1", none, 2, [("title", .string "b")]⟩ := by
    rw [CacheAside.decodeEntry_text]
    rfl
  exact found_of_held? rfl rfl Service.isBuilt_notes Cache.isLasting_empty rfl rfl none held
    decoded

end Scene

end RecordAccess
