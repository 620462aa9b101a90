import RecordAccess.Proofs.Authorization
import RecordAccess.Proofs.StorableRecords

/-!
# What a conflict discloses

An update that is answered with a conflict is shown the record as it is stored. The conflict is found
at one of two places: on the record that the update has looked at, which its caller may write; or by
the store, on the record as it is by the time of the write, on which nobody has checked a permission.
So a caller may write what it is shown unless, between the look and the answer, the record was given
a permission that shuts the caller out (`Scene.conflict_permits_iff`).
-/

namespace RecordAccess

open Service

/-! ## Permissions that writes leave -/

/-- The permission that a write leaves a record with, unless it keeps the one that was there. What was
deleted has none. -/
def StoreCall.granted? : (call : StoreCall) → call.Reply → Option (Option Permission)
  | .create _ payload, .ok _ => some payload.permission
  | .update _ proposed _, .ok _ => proposed.permission.map some
  | .delete _ _, .ok _ => some none
  | _, _ => none

theorem Store.permission_answer {store : Store} {kind id : String} (distinct : store.Distinct)
    {call : StoreCall} (written : call.written? (store.answer call).1 = some (kind, id)) :
    ((store.answer call).2.row? kind id).bind Record.permission =
      (call.granted? (store.answer call).1).getD ((store.row? kind id).bind Record.permission) := by
  cases call with
  | create schema payload =>
    obtain ⟨created, succeeded, rfl, rfl⟩ := StoreCall.written?_create written
    change (store.create schema payload).1 = _ at succeeded
    have stored := row?_create succeeded
    obtain ⟨id, rfl⟩ := eq_initial_of_create succeeded
    simp only [answer, stored, succeeded]
    rfl
  | update schema proposed expected =>
    obtain ⟨updated, succeeded, rfl, rfl⟩ := StoreCall.written?_update written
    change (store.update schema proposed expected).1 = _ at succeeded
    have stored := row?_update succeeded
    obtain ⟨before, found, -, rfl, -⟩ := update_ok succeeded
    rw [← id_of_row? found] at found
    simp only [answer, stored, succeeded]
    rw [Record.merge_id, found]
    change (proposed.permission <|> before.permission) =
      (proposed.permission.map some).getD before.permission
    cases proposed.permission <;> rfl
  | delete schema removed =>
    obtain ⟨succeeded, rfl, rfl⟩ := StoreCall.written?_delete written
    change (store.delete schema removed).1 = _ at succeeded
    simp only [answer, row?_delete (distinct schema.kind) succeeded, succeeded]
    rfl
  | findMany => cases written
  | findOne => cases written

namespace Scene

/-- The permission that a move leaves a record with, if it writes the record and does not keep the one
that was there. -/
def granted? (scene : Scene) (kind id : String) : Move → Option (Option Permission)
  | .proceed i =>
    match scene.next? i with
    | some (.store call) =>
      if scene.written? (.proceed i) = some (kind, id) then call.granted? (scene.store.answer call).1
      else none
    | _ => none
  | _ => none

/-- The permission that a record was last left with by some moves, if they do not keep the one that was
there. -/
def lastGranted? (service : Service) (scene : Scene) (kind id : String) :
    List Move → Option (Option Permission)
  | [] => none
  | move :: rest =>
    (lastGranted? service (scene.step service move) kind id rest).or (scene.granted? kind id move)

variable {service : Service} {start scene : Scene} {kind id : String} {moves : List Move}
  {move : Move} {i : Nat}

theorem granted?_of_unwritten (elsewhere : scene.written? move ≠ some (kind, id)) :
    scene.granted? kind id move = none := by
  unfold granted?
  split
  · split
    · exact if_neg elsewhere
    · rfl
  · rfl

theorem permission_step (distinct : scene.store.Distinct) (move : Move) :
    ((scene.step service move).row? kind id).bind Record.permission =
      (scene.granted? kind id move).getD ((scene.row? kind id).bind Record.permission) := by
  by_cases written : scene.written? move = some (kind, id)
  · obtain ⟨i, call, rfl, asked, wrote⟩ := written?_eq_some written
    rw [row?, store_proceed asked, Store.permission_answer distinct wrote]
    simp only [granted?, asked, written, ↓reduceIte]
    rfl
  · rw [row?_step_of_ne written, granted?_of_unwritten written, Option.getD_none]

/-- A record has the permission that it was given last, or else the one that it had. -/
theorem permission_run (distinct : scene.store.Distinct) (moves : List Move) :
    ((scene.run service moves).row? kind id).bind Record.permission =
      (scene.lastGranted? service kind id moves).getD
        ((scene.row? kind id).bind Record.permission) := by
  induction moves generalizing scene with
  | nil => rfl
  | cons move rest ih =>
    have kept : (scene.step service move).store.Distinct := distinct_step distinct
    have later := ih kept
    rw [permission_step distinct] at later
    rw [lastGranted?, Option.getD_or]
    exact later

/-! ## Where a conflict comes from -/

/-- A task that makes a call is then at a stage at which this is the last of its exchanges. -/
theorem stage_proceed (fresh : start.tasks = []) {next : Call}
    (asked : (start.run service moves).next? i = some next) :
    ∃ task, (start.run service (moves ++ [.proceed i])).tasks[i]? = some task ∧
      TaskStage service task
        (start.transcript service i moves ++ [(start.run service moves).exchange next]) := by
  obtain ⟨task, resume, there, rest⟩ := task_of_next? asked
  rcases isLed_transcript fresh there with led | ⟨-, givenUp⟩
  · have moved := task_proceed there rest
    rw [run_snoc]
    exact ⟨_, moved, taskStage_of_leads (led.snoc rest _)⟩
  · cases rest.symm.trans givenUp

section Update

variable {task : Task} {body : Json} (fresh : start.tasks = [])
  (present : (start.run service moves).tasks[i]? = some task) (ask : task.ask = .update kind id body)

include fresh present ask

/-- An update whose caller may not write the record that it sees is answered so, and with nothing
else. -/
theorem denied_of_look {schema : Schema} {seen : Record} {log : List Exchange}
    (logged : start.transcript service i moves = .store (.findOne schema id) (.ok seen) :: log)
    (refused : ¬schema.Permits task.caller .write seen) :
    (start.run service moves).outcome? i = some (.error .permissionDenied) := by
  obtain ⟨earlier, later, rfl, first, asked, found⟩ := row?_of_first logged
  obtain ⟨looked, there, stage⟩ := stage_proceed fresh asked
  -- It is the task that it was when it looked.
  obtain ⟨rest, still, -⟩ := task_run service there later
  rw [List.append_cons, run_append] at present ⊢
  obtain rfl := Option.some.inj (still.symm.trans present)
  refine outcome?_run (outcome?_eq_some.2 ⟨looked, there, ?_⟩) later
  have made : (start.run service earlier).exchange (.store (.findOne schema id)) =
      .store (.findOne schema id) (.ok seen) := congrArg _ (Store.findOne_eq_ok.2 found)
  rw [first, made, List.nil_append] at stage
  generalize shown : [Exchange.store (.findOne schema id) (.ok seen)] = log at stage
  cases stage with
  | update stage =>
    cases ask
    cases stage with
    | stopped granted decoded refusal =>
      cases shown
      rw [Schema.checkAccess_of_not_permits refused] at refusal
      rcases refusal with forbidden | ⟨impossible, -⟩
      · cases forbidden
        rfl
      · cases impossible
    | writing granted decoded allowed =>
      cases shown
      exact absurd (Schema.checkAccess_eq_ok.1 allowed) refused
    | _ => cases shown
  | _ => cases ask

/-- A conflict is answered with the record as it is stored at the answer. The caller may write it as it
was stored at the look. -/
theorem shown_of_conflict (built : service.registry.IsBuilt)
    {descriptor : Descriptor} (known : service.registry.get? kind = some descriptor)
    {current : Record}
    (answered : (start.run service moves).outcome? i = some (.error (.revisionConflict current))) :
    ∃ earlier between after seen, moves = earlier ++ between ++ .proceed i :: after ∧
      start.transcript service i earlier = [] ∧
      (start.run service earlier).next? i = some (.store (.findOne descriptor.schema id)) ∧
      (start.run service earlier).row? kind id = some seen ∧
      descriptor.schema.Permits task.caller .write seen ∧
      (start.run service (earlier ++ between)).outcome? i = none ∧
      (start.run service (earlier ++ between ++ [.proceed i])).outcome? i =
        some (.error (.revisionConflict current)) ∧
      (start.run service (earlier ++ between)).row? kind id = some current := by
  obtain ⟨schema, granted, ⟨logged, allowed⟩ | ⟨seen, payload, expected, logged⟩⟩ :=
    transcript_of_conflict fresh present ask answered
  · obtain rfl := built.kind_eq granted
    obtain rfl := built.schema_eq known granted
    -- Nothing was written between the look and the answer.
    obtain ⟨earlier, later, rfl, first, asked, found⟩ := row?_of_first logged
    refine ⟨earlier, [], later, current, by simp, first, asked, found,
      Schema.checkAccess_eq_ok.1 allowed, ?_, ?_, ?_⟩
    · rw [List.append_nil]
      exact outcome?_of_next? asked
    · rw [List.append_nil]
      exact outcome?_proceed logged first asked answered nofun
    · rwa [List.append_nil]
  · obtain ⟨before, move, after, rfl, first, took⟩ :=
      @moves_of_transcript _ _ _ _ [.store (.findOne schema id) (.ok seen)] [] _ logged
    obtain ⟨rfl, asked, refused⟩ := exchange?_store took
    obtain ⟨-, impossible | ⟨stored, now, same⟩⟩ := Store.update_error refused.symm
    · cases impossible
    cases same
    obtain rfl := built.kind_eq granted
    obtain rfl := built.schema_eq known granted
    -- Before the write came the look, at which the caller was allowed to write.
    obtain ⟨earlier, between, rfl, nothing, looked, found⟩ := row?_of_first first
    refine ⟨earlier, .proceed i :: between, after, seen, by simp, nothing, looked, found, ?_,
      outcome?_of_next? asked, outcome?_proceed logged first asked answered nofun, now⟩
    obtain ⟨turning, present', turn⟩ := turn_of_asked fresh asked
    obtain ⟨_, still, -⟩ := task_run service present' (.proceed i :: after)
    rw [← run_append] at still
    have sameCaller := congrArg Task.caller (Option.some.inj (still.symm.trans present))
    generalize told : start.transcript service i (earlier ++ .proceed i :: between) = log at turn
    generalize called : Call.store _ = next at turn
    cases turn with
    | update _ _ _ allowed =>
      cases first.symm.trans told
      exact Schema.checkAccess_eq_ok.1 (sameCaller ▸ allowed)
    | _ => cases called

/-- An update whose caller may not write the record that it sees is answered so, without data. One that
is answered with a conflict was allowed to write what it saw, and may write what the conflict shows if
and only if no permission shuts it out that the record was given last in the time until the answer. -/
theorem conflict_permits_iff (built : service.registry.IsBuilt) (distinct : start.store.Distinct)
    {descriptor : Descriptor} (known : service.registry.get? kind = some descriptor) :
    (∀ seen log, start.transcript service i moves =
        .store (.findOne descriptor.schema id) (.ok seen) :: log →
      ¬descriptor.schema.Permits task.caller .write seen →
      ∃ error, (start.run service moves).outcome? i = some (.error error) ∧
        error = .permissionDenied ∧ error.data? = none) ∧
    ∀ current, (start.run service moves).outcome? i = some (.error (.revisionConflict current)) →
      ∃ earlier between after seen, moves = earlier ++ between ++ .proceed i :: after ∧
        start.transcript service i earlier = [] ∧
        (start.run service earlier).next? i = some (.store (.findOne descriptor.schema id)) ∧
        (start.run service earlier).row? kind id = some seen ∧
        descriptor.schema.Permits task.caller .write seen ∧
        (start.run service (earlier ++ between)).outcome? i = none ∧
        (start.run service (earlier ++ between ++ [.proceed i])).outcome? i =
          some (.error (.revisionConflict current)) ∧
        (descriptor.schema.Permits task.caller .write current ↔
          ∀ permission, (start.run service earlier).lastGranted? service kind id between =
              some permission →
            descriptor.schema.Permits task.caller .write { seen with permission := permission }) := by
  constructor
  · intro seen log logged refused
    exact ⟨_, denied_of_look fresh present ask logged refused, rfl, rfl⟩
  · intro current answered
    obtain ⟨earlier, between, after, seen, split, first, asked, found, allowed, busy, finished, now⟩ :=
      shown_of_conflict fresh present ask built known answered
    refine ⟨earlier, between, after, seen, split, first, asked, found, allowed, busy, finished, ?_⟩
    have given : ((start.run service earlier).run service between |>.row? kind id).bind
        Record.permission = _ := permission_run (distinct_run distinct earlier) between
    rw [← run_append, now, found, Option.bind_some, Option.bind_some] at given
    cases last : (start.run service earlier).lastGranted? service kind id between with
    | none =>
      rw [last, Option.getD_none] at given
      exact iff_of_true ((Schema.permits_congr given).2 allowed) nofun
    | some permission =>
      rw [last, Option.getD_some] at given
      have same : descriptor.schema.Permits task.caller .write current ↔
          descriptor.schema.Permits task.caller .write { seen with permission := permission } :=
        Schema.permits_congr given
      constructor
      · rintro holds _ ⟨⟩
        exact same.1 holds
      · intro each
        exact same.2 (each permission rfl)

end Update

/-- A note is restricted to editors after an update of it has looked at it. -/
def restrictedUpdate (caller : Option Principal) : List Move :=
  [.begin caller (.update "note" "1" (.object [("revision", .integer 1), ("title", .string "b")])),
    .proceed 0,
    .begin none (.update "note" "1" (.object
      [("revision", .integer 1), ("permission", (Permission.restrictedTo ["editor"]).toJson)])),
    .proceed 1, .proceed 1, .proceed 0]

/-- The note as it is restricted to editors. -/
def restrictedNote : Record := ⟨"1", some (.restrictedTo ["editor"]), 2, []⟩

/-- An editor may write the note that the conflict shows. -/
theorem permits_restrictedUpdate :
    (oneNote.run .notes (restrictedUpdate (some .editor))).outcome? 0 =
        some (.error (.revisionConflict restrictedNote)) ∧
      Schema.note.Permits (some .editor) .write restrictedNote := by
  have answered : (oneNote.run .notes (restrictedUpdate (some .editor))).outcome? 0 =
      some (.error (.revisionConflict restrictedNote)) := rfl
  obtain ⟨-, conflict⟩ := @conflict_permits_iff .notes oneNote "note" "1"
    (restrictedUpdate (some .editor)) 0 _ _ rfl rfl rfl Service.isBuilt_notes distinct_oneNote
    ⟨.note, .all⟩ rfl
  obtain ⟨earlier, between, after, seen, split, -, -, -, -, -, -, permits⟩ := conflict _ answered
  refine ⟨answered, permits.2 fun permission last => ?_⟩
  -- Whatever part of the moves that is, the note is restricted to editors in it or to nobody.
  have editors : ∀ n ≤ 6, ∀ m ≤ 6, ∀ permission ∈ (oneNote.run .notes
      ((restrictedUpdate (some .editor)).take n)).lastGranted? .notes "note" "1"
        (((restrictedUpdate (some .editor)).drop n).take m),
      Schema.note.Permits (some .editor) .write ⟨"1", permission, 1, []⟩ := by
    decide +kernel
  have inside : earlier.length + between.length < 6 := by
    have length := congrArg List.length split
    simp only [restrictedUpdate, List.length_append, List.length_cons, List.length_nil] at length
    omega
  rw [split, List.append_assoc] at editors
  have granted := editors earlier.length (by omega) between.length (by omega) permission
  rw [List.take_left, List.drop_left, List.take_left] at granted
  exact (Schema.permits_congr rfl).1 (granted last)

/-- Anyone else is shown a note that it may neither read nor write. -/
theorem discloses_restrictedUpdate :
    (oneNote.run .notes (restrictedUpdate none)).outcome? 0 =
        some (.error (.revisionConflict restrictedNote)) ∧
      ¬Schema.note.Permits none .read restrictedNote ∧
      ¬Schema.note.Permits none .write restrictedNote := by
  refine ⟨rfl, ?_, ?_⟩
  · decide +kernel
  · decide +kernel

end Scene

end RecordAccess
