import RecordAccess.Proofs.Stages.Turn

/-!
# Writes in a run

A move writes at most one record (`Scene.written?`), and any other record is stored after it as
before. A transcript tells which record a task has written, and what it was shown of the store was
stored at a move before. A record that is stored is kept by a move, merged with an update or deleted
(`Scene.rewriting_step`); what holds of a record over a run is an induction on these cases.
-/

namespace RecordAccess

namespace Scene

/-- The kind and the id of the record that a move writes. -/
def written? (scene : Scene) : Move → Option (String × String)
  | .proceed i =>
    match scene.next? i with
    | some (.store call) => call.written? (scene.store.answer call).1
    | _ => none
  | _ => none

/-- After some moves, the next call of a task writes the record of a kind with an id. -/
def WritesAt (service : Service) (start : Scene) (kind id : String) (moves : List Move)
    (i : Nat) : Prop :=
  (start.run service moves).written? (.proceed i) = some (kind, id)

variable {service : Service} {start scene : Scene} {moves : List Move} {move : Move} {i : Nat}
  {kind id : String}

theorem written?_proceed {call : StoreCall} (asked : scene.next? i = some (.store call)) :
    scene.written? (.proceed i) = call.written? (scene.store.answer call).1 := by
  simp only [written?, asked]

theorem written?_of_cache {call : CacheCall} (asked : scene.next? i = some (.cache call)) :
    scene.written? (.proceed i) = none := by
  simp only [written?, asked]

theorem written?_eq_some {record : String × String}
    (written : scene.written? move = some record) :
    ∃ i call, move = .proceed i ∧ scene.next? i = some (.store call) ∧
      call.written? (scene.store.answer call).1 = some record := by
  cases move with
  | proceed i =>
    simp only [written?] at written
    split at written
    · next call asked => exact ⟨i, call, rfl, asked, written⟩
    · cases written
  | _ => cases written

theorem task_of_next? {next : Call} (asked : scene.next? i = some next) :
    ∃ task resume, scene.tasks[i]? = some task ∧ task.rest = .call next resume := by
  obtain ⟨task, there, asked⟩ := Option.bind_eq_some_iff.1 asked
  rw [Task.next?] at asked
  split at asked
  · next next resume rest =>
    cases asked
    exact ⟨task, resume, there, rest⟩
  · cases asked

/-- A task that is about to make a call has not returned. -/
theorem outcome?_of_next? {scene : Scene} {next : Call} (asked : scene.next? i = some next) :
    scene.outcome? i = none := by
  obtain ⟨task, resume, there, rest⟩ := task_of_next? asked
  simp [outcome?, there, Task.outcome?, rest]

/-- A task that is given up is answered with that. -/
theorem outcome?_quit {scene : Scene} (unreturned : scene.outcome? i = none)
    (inside : i < scene.tasks.length) :
    (scene.quit i).outcome? i = some (.error .deadlineExceeded) := by
  have there := List.getElem?_eq_getElem inside
  rw [outcome?, there, Option.bind_some, Task.outcome?] at unreturned
  split at unreturned
  · next next resume rest =>
    simp [quit, rest, setRest, outcome?, inside, Task.outcome?]
  · cases unreturned

/-- What a task is answered with, unless it is given up, it is answered with at its last exchange. -/
theorem outcome?_of_silent {task : Task} {outcome : Except ServiceError Delivery}
    (there : scene.tasks[i]? = some task) (silent : scene.transcript service i moves = [])
    (answered : (scene.run service moves).outcome? i = some outcome)
    (kept : outcome ≠ .error .deadlineExceeded) : scene.outcome? i = some outcome := by
  induction moves generalizing scene with
  | nil => exact answered
  | cons move rest ih =>
    obtain ⟨first, later⟩ := List.append_eq_nil_iff.1 silent
    by_cases quits : move = .quit i
    · subst quits
      cases found : scene.outcome? i with
      | some other =>
        rw [outcome?_run found] at answered
        exact answered
      | none =>
        have givenUp := outcome?_quit found (List.getElem?_eq_some_iff.1 there).1
        have last : ((scene.quit i).run service rest).outcome? i = _ := outcome?_run givenUp rest
        exact absurd (Option.some.inj (answered.symm.trans last)) kept
    · have still := task_step_of_silent service there (Option.toList_eq_nil_iff.1 first) quits
      have before := ih still later answered
      rwa [outcome?, still, ← there] at before

theorem outcome?_ne_none {first : List Move} (returned : (start.run service first).outcome? i ≠ none)
    (later : List Move) : (start.run service (first ++ later)).outcome? i ≠ none := by
  obtain ⟨outcome, found⟩ := Option.ne_none_iff_exists'.1 returned
  rw [run_append, outcome?_run found]
  exact nofun

/-- A task makes its calls after it has come in. -/
theorem eq_append_of_next? {first earlier rest later : List Move} {move : Move} {next : Call}
    (absent : (start.run service first).tasks.length ≤ i)
    (split : first ++ rest = earlier ++ move :: later)
    (asked : (start.run service earlier).next? i = some next) :
    ∃ more, earlier = first ++ more := by
  rcases List.append_eq_append_iff.1 split with ⟨more, same, -⟩ | ⟨more, rfl, -⟩
  · exact ⟨more, same⟩
  · have before := Nat.le_trans (length_tasks_run service _ more) (run_append .. ▸ absent)
    rw [next?_eq_none before] at asked
    cases asked

/-- A call takes a task on to what it does with the answer. -/
theorem task_proceed {task : Task} {next : Call}
    {resume : next.Reply → Program (Except ServiceError Delivery)}
    (there : scene.tasks[i]? = some task) (rest : task.rest = .call next resume) :
    (scene.proceed i).tasks[i]? = some { task with rest := resume (scene.answer next).1 } := by
  have inside := (List.getElem?_eq_some_iff.1 there).1
  obtain ⟨caller, ask, left⟩ := task
  subst rest
  simp only [proceed, there, setRest, answer_tasks]
  exact List.getElem?_set_self inside

/-- A task that is not given up is answered when it makes its last call. -/
theorem outcome?_proceed {first last : List Move} {log : List Exchange} {exchange : Exchange}
    {next : Call} {outcome : Except ServiceError Delivery}
    (logged : start.transcript service i (first ++ .proceed i :: last) = log ++ [exchange])
    (before : start.transcript service i first = log)
    (asked : (start.run service first).next? i = some next)
    (answered : (start.run service (first ++ .proceed i :: last)).outcome? i = some outcome)
    (kept : outcome ≠ .error .deadlineExceeded) :
    (start.run service (first ++ [.proceed i])).outcome? i = some outcome := by
  obtain ⟨task, resume, there, rest⟩ := task_of_next? asked
  have took : (start.run service first).exchange? i (.proceed i) =
      some ((start.run service first).exchange next) := by
    simp [exchange?, asked]
  rw [List.append_cons] at logged answered
  rw [transcript_append, transcript_snoc, before, took, List.append_assoc] at logged
  have silent := (List.cons.inj (List.append_cancel_left logged)).2
  rw [run_append] at answered
  rw [run_snoc] at silent answered ⊢
  exact outcome?_of_silent (task_proceed there rest) silent answered kept

/-- When a task makes a call, all else is as the call leaves it. -/
theorem proceed_of_next? {next : Call} (asked : scene.next? i = some next) :
    (scene.proceed i).store = (scene.answer next).2.store ∧
      (scene.proceed i).cache = (scene.answer next).2.cache ∧
      (scene.proceed i).now = scene.now := by
  obtain ⟨task, resume, there, rest⟩ := task_of_next? asked
  obtain ⟨caller, ask, left⟩ := task
  subst rest
  simp only [proceed, there, setRest_store, setRest_cache, setRest_now, answer_now, and_self]

/-- A move that is no call of the store leaves the store as it is. -/
theorem store_step (service : Service) (scene : Scene) (move : Move) :
    (scene.step service move).store = scene.store ∨
      ∃ i call, move = .proceed i ∧ scene.next? i = some (.store call) ∧
        (scene.step service move).store = (scene.store.answer call).2 := by
  generalize found : scene.step service move = after
  have effect := effect_step service scene move
  rw [found] at effect
  cases effect with
  | begin => exact .inl rfl
  | @call i task next resume there rest =>
    cases next with
    | store call => exact .inr ⟨i, call, rfl, next?_of_rest there rest, rfl⟩
    | cache call => exact .inl rfl
  | fail => exact .inl rfl
  | quit => exact .inl rfl
  | idle => exact .inl rfl

/-- A move leaves every record as it was that it does not write. -/
theorem row?_step_of_ne (elsewhere : scene.written? move ≠ some (kind, id)) :
    (scene.step service move).row? kind id = scene.row? kind id := by
  rcases store_step service scene move with same | ⟨i, call, rfl, asked, same⟩
  · rw [row?, same, row?]
  · rw [written?_proceed asked] at elsewhere
    rw [row?, same, row?, Store.row?_answer_of_ne elsewhere]

/-- The record stays as long as nothing writes it. -/
theorem row?_of_unwritten {earlier later : List Move}
    (unwritten : ∀ first i last, later = first ++ .proceed i :: last →
      ¬WritesAt service start kind id (earlier ++ first) i) :
    (start.run service (earlier ++ later)).row? kind id =
      (start.run service earlier).row? kind id := by
  induction later using List.reverseRecOn with
  | nil => rw [List.append_nil]
  | append_singleton later move ih =>
    rw [← List.append_assoc, run_snoc, row?_step_of_ne, ih]
    · rintro first j last rfl writes
      exact unwritten first j (last ++ [move]) (by simp) writes
    · intro written
      obtain ⟨j, call, rfl, -, -⟩ := written?_eq_some written
      exact unwritten later j [] rfl written

theorem store_proceed {call : StoreCall} (asked : scene.next? i = some (.store call)) :
    (scene.step service (.proceed i)).store = (scene.store.answer call).2 :=
  (proceed_of_next? asked).1

/-- What a write left behind is stored after it. -/
theorem row?_of_stored? {call : StoreCall} {record : Record}
    (asked : scene.next? i = some (.store call))
    (stored : call.stored? (scene.store.answer call).1 = some (kind, record)) :
    (scene.step service (.proceed i)).row? kind record.id = some record := by
  rw [row?, store_proceed asked]
  exact Store.row?_of_stored? stored

theorem distinct_step (distinct : scene.store.Distinct) :
    (scene.step service move).store.Distinct := by
  rcases store_step service scene move with same | ⟨i, call, -, -, same⟩
  · rwa [same]
  · rw [same]
    exact Store.distinct_answer distinct call

/-- No run makes two records of a kind with the same id. -/
theorem distinct_run (distinct : scene.store.Distinct) (moves : List Move) :
    (scene.run service moves).store.Distinct := by
  induction moves generalizing scene with
  | nil => exact distinct
  | cons move rest ih => exact ih (distinct_step distinct)

/-- In a run from a scene without tasks, every call is a turn of its task. -/
theorem turn_of_asked (fresh : start.tasks = []) {next : Call}
    (asked : (start.run service moves).next? i = some next) :
    ∃ task, (start.run service moves).tasks[i]? = some task ∧
      Turn service task (start.transcript service i moves) next := by
  obtain ⟨task, there, next⟩ := Option.bind_eq_some_iff.1 asked
  rcases stage_transcript fresh there with stage | ⟨-, givenUp⟩
  · exact ⟨task, there, turn_of_next? stage next⟩
  · simp [Task.next?, givenUp] at next

/-! ## What was seen -/

/-- A record that a look-up found was stored when it was looked up. -/
theorem row?_of_found {schema : Schema} {record : Record}
    (found : .store (.findOne schema id) (.ok record) ∈ start.transcript service i moves) :
    ∃ earlier later, moves = earlier ++ .proceed i :: later ∧
      (start.run service earlier).next? i = some (.store (.findOne schema id)) ∧
      (start.run service earlier).row? schema.kind id = some record := by
  obtain ⟨earlier, later, rfl, asked, answered⟩ := moves_of_mem_transcript found
  exact ⟨earlier, later, rfl, asked, Store.findOne_eq_ok.1 answered.symm⟩

/-- A record that a task was told of first was stored when it looked, before any other exchange. -/
theorem row?_of_first {schema : Schema} {record : Record} {log : List Exchange}
    (logged : start.transcript service i moves = .store (.findOne schema id) (.ok record) :: log) :
    ∃ earlier later, moves = earlier ++ .proceed i :: later ∧
      start.transcript service i earlier = [] ∧
      (start.run service earlier).next? i = some (.store (.findOne schema id)) ∧
      (start.run service earlier).row? schema.kind id = some record := by
  obtain ⟨earlier, move, later, rfl, first, took⟩ := @moves_of_transcript _ _ _ _ [] _ _ logged
  obtain ⟨rfl, asked, answered⟩ := exchange?_store took
  exact ⟨earlier, later, rfl, first, asked, Store.findOne_eq_ok.1 answered.symm⟩

theorem id_of_found {schema : Schema} {record : Record}
    (found : .store (.findOne schema id) (.ok record) ∈ start.transcript service i moves) :
    record.id = id := by
  obtain ⟨earlier, -, -, -, there⟩ := row?_of_found found
  exact Store.id_of_row? there

/-- A record that an exchange has shown was stored. -/
theorem row?_of_shows (distinct : start.store.Distinct) {schema : Schema} {record : Record}
    {exchange : Exchange} (seen : exchange ∈ start.transcript service i moves)
    (shows : Shows schema id record exchange) :
    ∃ earlier later, moves = earlier ++ later ∧
      (start.run service earlier).row? schema.kind id = some record := by
  cases shows with
  | one =>
    obtain ⟨earlier, later, rfl, -, there⟩ := row?_of_found seen
    exact ⟨earlier, _, rfl, there⟩
  | many plain member =>
    obtain ⟨earlier, later, rfl, -, answered⟩ := moves_of_mem_transcript seen
    exact ⟨earlier, _, rfl,
      Store.row?_of_findMany (distinct_run distinct earlier) plain answered.symm member⟩

/-- What a delete removes is the record that it was asked to delete. -/
theorem id_of_deleting {schema : Schema} {found current : Record} {buried : List Exchange}
    (logged : start.transcript service i moves =
      .store (.findOne schema id) (.ok found) ::
        .store (.findOne schema found.id) (.ok current) :: buried) : current.id = id := by
  have looked : .store (.findOne schema id) (.ok found) ∈ start.transcript service i moves := by
    rw [logged]
    exact List.mem_cons_self ..
  have reloaded : .store (.findOne schema found.id) (.ok current) ∈
      start.transcript service i moves := by
    rw [logged]
    exact List.mem_cons_of_mem _ (List.mem_cons_self ..)
  exact (id_of_found reloaded).trans (id_of_found looked)

/-! ## What a move makes of a record -/

/-- What a move makes of a record that is stored, where the requests of its kind use one schema. -/
inductive Rewriting (service : Service) (start : Scene) (schema : Schema) (kind id : String)
    (moves : List Move) (row : Record) : Move → Prop
  | keep {move : Move} (unwritten : (start.run service moves).written? move ≠ some (kind, id))
      (same : (start.run service (moves ++ [move])).row? kind id = some row) :
      Rewriting service start schema kind id moves row move
  | merge {i : Nat} {payload current : Record} {expected : Option Int}
      (written : WritesAt service start kind id moves i)
      (asked : (start.run service moves).next? i =
        some (.store (.update schema { payload with id := id } expected)))
      (checked : Service.expectedRevision schema current { payload with id := id } = .ok expected)
      (matching : ∀ revision ∈ expected, row.revision = revision)
      (merged : (start.run service (moves ++ [.proceed i])).row? kind id =
        some (row.merge { payload with id := id } schema)) :
      Rewriting service start schema kind id moves row (.proceed i)
  | delete {i : Nat} {task : Task} (written : WritesAt service start kind id moves i)
      (present : (start.run service moves).tasks[i]? = some task) (ask : task.ask = .delete kind id)
      (asked : (start.run service moves).next? i = some (.store (.delete schema id))) :
      Rewriting service start schema kind id moves row (.proceed i)

/-- A record that is stored is kept, merged with an update that was checked, or deleted. -/
theorem rewriting_step (built : service.registry.IsBuilt) {descriptor : Descriptor}
    (known : service.registry.get? kind = some descriptor) (fresh : start.tasks = []) {row : Record}
    (there : (start.run service moves).row? kind id = some row) (move : Move) :
    Rewriting service start descriptor.schema kind id moves row move := by
  by_cases written : (start.run service moves).written? move = some (kind, id)
  case neg => exact .keep written (by rw [run_snoc, row?_step_of_ne written, there])
  obtain ⟨i, call, rfl, asked, wrote⟩ := written?_eq_some written
  obtain ⟨task, present, turn⟩ := turn_of_asked fresh asked
  generalize logged : start.transcript service i moves = log at turn
  cases turn with
  | look => cases wrote
  | list => cases wrote
  | create =>
    obtain ⟨created, succeeded, rfl, rfl⟩ := StoreCall.written?_create wrote
    cases there.symm.trans (Store.create_ok succeeded).1
  | update ask granted decoded allowed revision =>
    obtain ⟨rfl, matching, merged⟩ := Store.merged_of_written? wrote there
    obtain ⟨updated, succeeded, -, rfl⟩ := StoreCall.written?_update wrote
    obtain ⟨stored, found, -, rfl, -⟩ := Store.update_ok succeeded
    obtain rfl := built.schema_eq known granted
    rw [Record.merge_id, Store.id_of_row? found] at written there merged ⊢
    refine .merge written asked revision matching ?_
    rw [run_snoc, row?, store_proceed asked]
    exact merged
  | delete ask granted =>
    obtain ⟨-, rfl, rfl⟩ := StoreCall.written?_delete wrote
    obtain rfl := built.schema_eq known granted
    rw [id_of_deleting logged] at asked written ⊢
    exact .delete written present (by rw [ask, built.kind_eq granted]) asked

/-- A scene in which one note is stored and nothing is cached. -/
def oneNote : Scene :=
  ⟨0, ⟨[("note", [⟨"1", none, 1, []⟩])], ⟨0, 0, 0⟩, 0, Store.uuid⟩, .empty 0, []⟩

theorem distinct_oneNote : oneNote.store.Distinct := by
  intro kind
  change Rows.Distinct ((if "note" = kind then some _ else none).getD [])
  split
  · exact List.nodup_cons.2 ⟨List.not_mem_nil, List.nodup_nil⟩
  · exact List.nodup_nil

end Scene

end RecordAccess
