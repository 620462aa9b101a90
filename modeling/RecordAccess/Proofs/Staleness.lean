import RecordAccess.Proofs.Authorization
import RecordAccess.Proofs.Coherence
import RecordAccess.Proofs.CommittedEntries
import RecordAccess.Proofs.LateRefresh

/-!
# Bounded staleness

When requests are handled one after another, a read never answers with a record that was not stored
within the last lifetime of an entry, whichever cache calls fail (`Scene.read_within_lifetime`). So a
record is not read any more once a lifetime has passed since it was deleted, unless it was created
again.

While a request is at work no other one is, so from the moment at which the store has delivered a
record until the request writes it in the cache the record stays as it is
(`Scene.row?_of_caching`). The entry dates from that moment, and expires a lifetime later.
-/

namespace RecordAccess

namespace Scene

/-- Requests come in one after another, each when those before it have no call left to make. -/
def IsSequential (service : Service) (start : Scene) (moves : List Move) : Prop :=
  ∀ first caller ask last, moves = first ++ .begin caller ask :: last →
    ∀ task ∈ (start.run service first).tasks, task.next? = none

variable {service : Service} {start scene : Scene} {moves : List Move} {i j : Nat}
  {kind id text : String} {record : Record}

/-! ## One request at a time -/

theorem IsSequential.of_append {first later : List Move}
    (sequential : IsSequential service start (first ++ later)) :
    IsSequential service start first := by
  rintro before caller ask last rfl
  exact sequential before caller ask (last ++ later) (by simp)

/-- When a request comes in, no task is about to make a call. -/
theorem IsSequential.idle {caller : Option Principal} {ask : Ask}
    (sequential : IsSequential service start (moves ++ [.begin caller ask])) (i : Nat) :
    (start.run service moves).next? i = none := by
  rw [next?, Option.bind_eq_none_iff]
  intro task there
  exact sequential moves caller ask [] rfl task (List.mem_of_getElem? there)

/-- A task that has come in and has not returned is about to make a call. -/
theorem next?_ne_none (inside : i < scene.tasks.length) (unreturned : scene.outcome? i = none) :
    scene.next? i ≠ none := by
  have there := List.getElem?_eq_getElem inside
  generalize scene.tasks[i] = task at there
  obtain ⟨caller, ask, rest⟩ := task
  cases rest with
  | call next resume =>
    rw [next?, there]
    exact Option.some_ne_none next
  | done outcome =>
    rw [outcome?, there] at unreturned
    cases unreturned

/-- A task that is about to make a call was so before the last move, or has come in by it. -/
theorem next?_step_cases {move : Move} (busy : (scene.step service move).next? i ≠ none) :
    scene.next? i ≠ none ∨ ∃ caller ask, move = .begin caller ask ∧ i = scene.tasks.length := by
  obtain ⟨next, asked⟩ := Option.ne_none_iff_exists'.1 busy
  cases there : scene.tasks[i]? with
  | some task =>
    refine .inl (next?_ne_none (List.getElem?_eq_some_iff.1 there).1 ?_)
    by_contra returned
    obtain ⟨outcome, found⟩ := Option.ne_none_iff_exists'.1 returned
    cases (outcome?_of_next? asked).symm.trans (outcome?_run found [move])
  | none =>
    have beyond := List.getElem?_eq_none_iff.1 there
    obtain ⟨task, resume, now, -⟩ := task_of_next? asked
    generalize found : scene.step service move = after at now
    have effect := effect_step service scene move
    rw [found] at effect
    cases effect with
    | begin caller ask =>
      rcases begin_cases now with early | ⟨same, -⟩
      · cases there.symm.trans early
      · exact .inr ⟨caller, ask, rfl, same⟩
    | _ =>
      rw [List.getElem?_eq_none (by simpa [setRest] using beyond)] at now
      cases now

/-- Of the tasks of a sequential run, at most one is about to make a call. -/
theorem IsSequential.eq_of_next? (fresh : start.tasks = [])
    (sequential : IsSequential service start moves)
    (busy : (start.run service moves).next? i ≠ none)
    (other : (start.run service moves).next? j ≠ none) : i = j := by
  induction moves using List.reverseRecOn with
  | nil => exact absurd (next?_eq_none (by simp [fresh])) busy
  | append_singleton moves move ih =>
    rw [run_snoc] at busy other
    rcases next?_step_cases busy with before | ⟨caller, ask, came, rfl⟩
    · rcases next?_step_cases other with alsoBefore | ⟨caller, ask, rfl, -⟩
      · exact ih sequential.of_append before alsoBefore
      · exact absurd (sequential.idle i) before
    · rcases next?_step_cases other with before | ⟨_, _, -, rfl⟩
      · subst came
        exact absurd (sequential.idle j) before
      · rfl

/-- As long as the task at work calls only the cache, every record stays as it is. -/
theorem row?_of_caching (fresh : start.tasks = []) {first later : List Move}
    (sequential : IsSequential service start (first ++ later))
    (inside : i < (start.run service first).tasks.length)
    (unreturned : (start.run service (first ++ later)).outcome? i = none)
    (cached : ∀ exchange ∈ (start.run service first).transcript service i later,
      exchange.isCache = true) :
    (start.run service (first ++ later)).row? kind id =
      (start.run service first).row? kind id := by
  refine row?_of_unwritten ?_
  rintro middle j last rfl writes
  obtain ⟨_, call, same, asked, -⟩ := written?_eq_some writes
  cases same
  rw [← List.append_assoc] at unreturned sequential
  have busy : (start.run service (first ++ middle)).next? i ≠ none := by
    refine next?_ne_none (Nat.lt_of_lt_of_le inside ?_) ?_
    · rw [run_append]
      exact length_tasks_run service _ middle
    · by_contra returned
      exact outcome?_ne_none returned _ unreturned
  obtain rfl : i = j := sequential.of_append.eq_of_next? fresh busy (by rw [asked]; exact nofun)
  have made : (start.run service (first ++ middle)).exchange (.store call) ∈
      (start.run service first).transcript service i (middle ++ .proceed i :: last) := by
    rw [transcript_append, transcript, ← run_append]
    simp [exchange?, asked]
  cases cached _ made

/-! ## Time -/

theorem now_proceed (scene : Scene) (i : Nat) : (scene.proceed i).now = scene.now := by
  unfold proceed
  split
  · split
    · simp
    · rfl
  · rfl

theorem now_fail (scene : Scene) (i : Nat) (error : CacheError) :
    (scene.fail i error).now = scene.now := by
  unfold fail
  split
  · split <;> rfl
  · rfl

theorem now_quit (scene : Scene) (i : Nat) : (scene.quit i).now = scene.now := by
  unfold quit
  split
  · split <;> rfl
  · rfl

/-- Time never goes back. -/
theorem now_step (service : Service) (scene : Scene) (move : Move) :
    scene.now ≤ (scene.step service move).now := by
  cases move with
  | begin caller ask => exact Nat.le_refl _
  | proceed i => exact Nat.le_of_eq (now_proceed scene i).symm
  | fail i error => exact Nat.le_of_eq (now_fail scene i error).symm
  | quit i => exact Nat.le_of_eq (now_quit scene i).symm
  | pass duration => exact Nat.le_add_right _ _

theorem now_run (service : Service) (scene : Scene) (moves : List Move) :
    scene.now ≤ (scene.run service moves).now := by
  induction moves generalizing scene with
  | nil => exact Nat.le_refl _
  | cons move rest ih => exact Nat.le_trans (now_step service scene move) (ih _)

end Scene

/-! ## Reads -/

/-- A read that has answered with a record was told it: by the cache, or by the store and then only by
the cache. -/
theorem cases_of_read {service : Service} {caller : Option Principal} {kind id : String}
    {record : Record} {log : List Exchange}
    (stage : TaskStage service ⟨caller, .read kind id, .done (.ok (.one record))⟩ log) :
    ∃ schema, service.registry.authorize kind .read = .ok schema ∧
      ((∃ reply : Except CacheError (Option String),
          log = [.cache (.get (Record.cacheKey schema.kind id)) reply] ∧
          CacheLookup.ofReply reply = .record record) ∨
        ∃ seen after, log = seen ++ .store (.findOne schema id) (.ok record) :: after ∧
          ∀ exchange ∈ after, exchange.isCache = true) := by
  have delivered : ∀ {schema : Schema} {found : Record},
      (Program.done (Service.readAnswer schema caller (.ok found))).deliver Delivery.one =
        .done (.ok (.one record)) → found = record := by
    intro schema found same
    simp only [Service.readAnswer] at same
    cases allowed : Service.checkAccess schema caller .read found with
    | error error =>
      rw [allowed] at same
      cases same
    | ok _ =>
      rw [allowed] at same
      cases same
      rfl
  generalize returned : Program.done (Except.ok (Delivery.one record)) = rest at stage
  cases stage with
  | read stage =>
    cases stage with
    | refused => cases returned
    | @fetching schema _ _ granted named stage =>
      refine ⟨schema, granted, ?_⟩
      cases stage with
      | hit found =>
        cases delivered returned.symm
        exact .inl ⟨_, rfl, found⟩
      | fetched missed cached =>
        cases delivered returned.symm
        exact .inr ⟨_, _, rfl, cached⟩
      | _ => cases returned

namespace Scene

variable {service : Service} {start : Scene} {moves : List Move} {move : Move} {i j : Nat}
  {kind id text : String} {record : Record}

/-- A record that was delivered to the task at work, which since then has called only the cache, is
stored as it was delivered. -/
theorem row?_of_delivered (fresh : start.tasks = []) (distinct : start.store.Distinct)
    (sequential : IsSequential service start moves)
    (unreturned : (start.run service moves).outcome? i = none) {schema : Schema}
    {exchange : Exchange} {before after : List Exchange}
    (logged : start.transcript service i moves = before ++ exchange :: after)
    (delivers : Delivers schema id record exchange)
    (cached : ∀ later ∈ after, later.isCache = true) :
    (start.run service moves).row? schema.kind id = some record := by
  obtain ⟨first, last, rfl, asked, there, rest⟩ := row?_of_delivers distinct logged delivers
  have inside : i < (start.run service (first ++ [.proceed i])).tasks.length := by
    obtain ⟨task, resume, here, -⟩ := task_of_next? asked
    rw [run_snoc]
    exact Nat.lt_of_lt_of_le (List.getElem?_eq_some_iff.1 here).1 (length_tasks_step service _ _)
  rw [List.append_cons] at sequential unreturned ⊢
  rw [row?_of_caching fresh sequential inside unreturned (by rwa [rest]), there]

/-- A task that has been told something, and now returns with success, does so by an exchange. -/
theorem exchange?_of_return {delivery : Delivery}
    (told : start.transcript service i (moves ++ [move]) ≠ [])
    (unreturned : (start.run service moves).outcome? i = none)
    (returned : (start.run service (moves ++ [move])).outcome? i = some (.ok delivery)) :
    ∃ exchange, (start.run service moves).exchange? i move = some exchange := by
  rw [← Option.ne_none_iff_exists']
  intro silent
  rw [transcript_snoc, silent, Option.toList_none, List.append_nil] at told
  rw [run_snoc] at returned
  have inside : i < (start.run service moves).tasks.length := by
    by_contra beyond
    exact told (transcript_eq_nil (Nat.not_lt.1 beyond))
  have there := List.getElem?_eq_getElem inside
  by_cases quit : move = .quit i
  · subst quit
    rw [step, outcome?_quit unreturned inside] at returned
    cases returned
  · have still := task_step_of_silent service there silent quit
    rw [outcome?, still] at returned
    rw [outcome?, there, returned] at unreturned
    cases unreturned

/-- A look-up that has found a record has found what is held. -/
theorem held?_of_hit {scene : Scene} (isOpen : scene.cache.closed = false)
    {reply : Except CacheError (Option String)}
    (took : scene.exchange? i move = some (.cache (.get (Record.cacheKey kind id)) reply))
    (found : CacheLookup.ofReply reply = .record record) :
    ∃ text, scene.held? kind id = some text ∧ CacheAside.decodeEntry text = .record record := by
  obtain ⟨text, rfl, decoded⟩ := CacheLookup.exists_of_ofReply found nofun
  rcases cases_of_get isOpen took with ⟨-, -, same⟩ | ⟨error, -, same⟩
  · exact ⟨text, (Except.ok.inj same).symm, decoded⟩
  · cases same

/-- A record that was read last is stored as it was read, unless the cache holds it. -/
theorem read_cases (built : service.registry.IsBuilt) (fresh : start.tasks = [])
    (isOpen : start.cache.closed = false) (distinct : start.store.Distinct)
    (sequential : IsSequential service start (moves ++ [move]))
    (asks : (start.run service (moves ++ [move])).tasks[i]?.map Task.ask = some (.read kind id))
    (unreturned : (start.run service moves).outcome? i = none)
    (answered : (start.run service (moves ++ [move])).outcome? i = some (.ok (.one record))) :
    (start.run service moves).row? kind id = some record ∨
      (∃ schema, service.Serves schema ∧ schema.kind = kind) ∧
      ∃ text, (start.run service moves).held? kind id = some text ∧
        CacheAside.decodeEntry text = .record record := by
  obtain ⟨⟨caller, ask, rest⟩, there, rfl⟩ := outcome?_eq_some.1 answered
  rw [there, Option.map_some, Option.some.injEq] at asks
  subst asks
  rcases stage_transcript fresh there with stage | ⟨-, givenUp⟩
  swap
  · cases givenUp
  obtain ⟨schema, granted, told⟩ := cases_of_read stage
  obtain rfl := built.kind_eq granted
  rcases told with ⟨reply, logged, found⟩ | ⟨seen, after, logged, cached⟩
  · obtain ⟨exchange, took⟩ := exchange?_of_return (by simp [logged]) unreturned answered
    rw [transcript_snoc, took, Option.toList_some] at logged
    obtain ⟨-, same⟩ := List.append_inj' (logged.trans (List.nil_append _).symm) rfl
    cases same
    refine .inr ⟨⟨schema, ⟨_, _, granted⟩, rfl⟩, ?_⟩
    exact held?_of_hit (isOpen_run service fresh isOpen moves).1 took found
  · obtain ⟨exchange, took⟩ := exchange?_of_return (by simp [logged]) unreturned answered
    rw [transcript_snoc, took, Option.toList_some] at logged
    rcases List.eq_nil_or_concat after with rfl | ⟨front, final, rfl⟩
    · obtain ⟨-, same⟩ := List.append_inj' logged rfl
      cases same
      obtain ⟨rfl, asked, answer⟩ := exchange?_store took
      exact .inl (Store.findOne_eq_ok.1 answer.symm)
    · rw [List.concat_eq_append, ← List.cons_append, ← List.append_assoc] at logged
      obtain ⟨before, -⟩ := List.append_inj' logged rfl
      refine .inl (row?_of_delivered fresh distinct sequential.of_append unreturned before
        (.shown .one) fun exchange member => cached exchange ?_)
      rw [List.concat_eq_append]
      exact List.mem_append_left _ member

/-- In a sequential run, what the cache holds for a record is a tombstone, or the text of the record
as it was stored less than a lifetime ago. -/
theorem entry_of_held? (built : service.registry.IsBuilt) (colonFree : service.registry.IsColonFree)
    (fresh : start.tasks = []) {lifetime : Nat} (lasts : 0 < lifetime)
    (empty : start.cache = .empty lifetime) (distinct : start.store.Distinct)
    (sequential : IsSequential service start moves) (plain : ':' ∉ kind.toList)
    (held : (start.run service moves).held? kind id = some text) :
    text = CacheAside.tombstoneText ∨
      ∃ earlier later row, moves = earlier ++ later ∧
        (start.run service earlier).row? kind id = some row ∧ text = row.text ∧
        (start.run service moves).now < (start.run service earlier).now + lifetime := by
  obtain ⟨entry, listed, rfl, live⟩ := find?_of_held? held
  obtain ⟨earlier, i, later, rfl, caches, expires⟩ :=
    cachesAt_of_find? fresh (by rw [empty]; rfl) (by rw [empty]; rfl) listed
  have young : (start.run service (earlier ++ .proceed i :: later)).now <
      (start.run service earlier).now + lifetime := by
    have limit : start.cache.lifetime = some lifetime := by
      rw [empty]
      exact if_neg (Nat.ne_of_gt lasts)
    rw [limit, Option.map_some] at expires
    simpa [CacheEntry.isLive, expires] using live
  obtain ⟨schema, rfl, source⟩ := source_of_cacheKey built colonFree fresh plain caches
  obtain ⟨next, asked, -⟩ := caches
  generalize logged : start.transcript service i earlier = log at source
  generalize entry.value = text at source
  cases source with
  | tombstone => exact .inl rfl
  | @delivered record exchange before after delivers cached =>
    refine .inr ⟨earlier, .proceed i :: later, record, rfl, ?_, rfl, young⟩
    exact row?_of_delivered fresh distinct sequential.of_append (outcome?_of_next? asked) logged
      delivers cached

/-- A record that was just deleted is not stored. -/
theorem row?_of_deletesAt (distinct : start.store.Distinct)
    (deletes : DeletesAt service start kind id moves i) :
    (start.run service (moves ++ [.proceed i])).row? kind id = none := by
  obtain ⟨writes, schema, removed, asked⟩ := deletes
  rw [WritesAt, written?_proceed asked] at writes
  obtain ⟨finished, rfl, rfl⟩ := StoreCall.written?_delete writes
  rw [run_snoc, row?, store_proceed asked]
  exact Store.row?_delete (distinct_run distinct moves _) finished

/-- Of two moments of a run, the one at the later time comes after the other. -/
theorem append_of_now_lt {first tail earlier later : List Move}
    (split : first ++ tail = earlier ++ later)
    (passed : (start.run service first).now < (start.run service earlier).now) :
    ∃ since, earlier = first ++ since ∧ tail = since ++ later := by
  rcases List.append_eq_append_iff.1 split with after | ⟨more, rfl, -⟩
  · exact after
  · have order := now_run service (start.run service earlier) more
    rw [← run_append] at order
    omega

/-- A record that was deleted, and is stored at a later time, is created in between. -/
theorem exists_createsAt_of_deletesAt (distinct : start.store.Distinct)
    {first rest earlier later : List Move} (deletes : DeletesAt service start kind id first i)
    (split : first ++ .proceed i :: rest = earlier ++ later)
    (passed : (start.run service first).now < (start.run service earlier).now)
    (there : (start.run service earlier).row? kind id = some record) :
    ∃ middle k last, rest = middle ++ .proceed k :: last ∧
      CreatesAt service start kind id (first ++ .proceed i :: middle) k := by
  obtain ⟨since, rfl, parted⟩ := append_of_now_lt split passed
  cases since with
  | nil =>
    rw [List.append_nil] at passed
    exact absurd passed (Nat.lt_irrefl _)
  | cons next since =>
    obtain ⟨rfl, rfl⟩ := List.cons.inj parted
    rw [List.append_cons] at there
    obtain ⟨middle, k, last, rfl, creates⟩ :=
      exists_createsAt (row?_of_deletesAt distinct deletes) there
    refine ⟨middle, k, last ++ later, by simp, ?_⟩
    rwa [← List.append_cons] at creates

/-- What a read of a sequential run answers with was stored less than a lifetime before. A record that
was deleted a lifetime ago or earlier has been created since. -/
theorem read_within_lifetime (built : service.registry.IsBuilt)
    (colonFree : service.registry.IsColonFree) (fresh : start.tasks = []) {lifetime : Nat}
    (lasts : 0 < lifetime) (empty : start.cache = .empty lifetime)
    (distinct : start.store.Distinct) (sequential : IsSequential service start (moves ++ [move]))
    (readsBack : ReadsBack service start kind id moves)
    (asks : (start.run service (moves ++ [move])).tasks[i]?.map Task.ask = some (.read kind id))
    (unreturned : (start.run service moves).outcome? i = none)
    (answered : (start.run service (moves ++ [move])).outcome? i = some (.ok (.one record))) :
    (∃ earlier later, moves = earlier ++ later ∧
      (start.run service earlier).row? kind id = some record ∧
      (start.run service earlier).now ≤ (start.run service moves).now ∧
      (start.run service moves).now < (start.run service earlier).now + lifetime) ∧
    ∀ first j rest, moves = first ++ .proceed j :: rest →
      DeletesAt service start kind id first j →
      (start.run service first).now + lifetime ≤ (start.run service moves).now →
      ∃ middle k last, rest = middle ++ .proceed k :: last ∧
        CreatesAt service start kind id (first ++ .proceed j :: middle) k := by
  have isOpen : start.cache.closed = false := by
    rw [empty]
    rfl
  have stored : ∃ earlier later, moves = earlier ++ later ∧
      (start.run service earlier).row? kind id = some record ∧
      (start.run service earlier).now ≤ (start.run service moves).now ∧
      (start.run service moves).now < (start.run service earlier).now + lifetime := by
    rcases read_cases built fresh isOpen distinct sequential asks unreturned answered with
      there | ⟨⟨schema, served, rfl⟩, text, held, found⟩
    · exact ⟨moves, [], (List.append_nil _).symm, there, Nat.le_refl _, Nat.lt_add_of_pos_right lasts⟩
    · rcases entry_of_held? built colonFree fresh lasts empty distinct sequential.of_append
        (served.colonFree built colonFree) held with rfl | ⟨earlier, later, row, rfl, there, rfl, young⟩
      · cases found
      · cases found.symm.trans (readsBack earlier later row rfl there)
        refine ⟨earlier, later, rfl, there, ?_, young⟩
        rw [run_append]
        exact now_run service _ later
  refine ⟨stored, fun first j rest split deletes late => ?_⟩
  obtain ⟨earlier, later, split', there, -, young⟩ := stored
  exact exists_createsAt_of_deletesAt distinct deletes (split.symm.trans split') (by omega) there

/-- Where a list of moves is given in full, it can be checked position by position that no task has a
call left to make when a request comes in. -/
theorem isSequential_of_idle
    (idle : ∀ n, (inside : n < moves.length) →
      (match moves[n] with
        | .begin _ _ => (start.run service (moves.take n)).tasks.all fun task => task.next?.isNone
        | _ => true) = true) : IsSequential service start moves := by
  rintro first caller ask last split task member
  have checked := @holds_of_split _ _ _ _
    (fun before move => (match move with
      | .begin _ _ => (start.run service before).tasks.all fun task => task.next?.isNone
      | _ => true) = true) idle split
  exact Option.isNone_iff_eq_none.1 (List.all_eq_true.1 checked task member)

/-- A read caches a note, which is then deleted. Neither tombstone can be left, since the calls of the
cache fail. In the end the entry has one more millisecond to live. -/
def leftBehind : List Move :=
  [.begin none (.read "note" "1"), .proceed 0, .proceed 0, .proceed 0, .pass 3,
    .begin none (.delete "note" "1"), .proceed 1, .proceed 1, .fail 1 .timeout, .proceed 1,
    .fail 1 .timeout, .pass 6]

/-- Another read comes in. -/
def staleRead : List Move :=
  leftBehind ++ [.begin none (.read "note" "1")]

theorem outcome?_staleRead :
    (timedNote.run .notes (staleRead ++ [.proceed 2])).outcome? 2 =
      some (.ok (.one ⟨"1", none, 1, []⟩)) := by
  have held : (timedNote.run .notes leftBehind).held? "note" "1" =
      some (Record.text ⟨"1", none, 1, []⟩) := rfl
  have decoded : CacheAside.decodeEntry (Record.text ⟨"1", none, 1, []⟩) =
      .record ⟨"1", none, 1, []⟩ := by
    decide +kernel
  exact found_of_isOpen rfl rfl Service.isBuilt_notes rfl rfl rfl none held decoded

/-- The second read answers with the note, which was deleted six milliseconds before but was stored
less than ten milliseconds before. -/
theorem read_staleRead :
    (timedNote.run .notes staleRead).row? "note" "1" = none ∧
    (timedNote.run .notes (staleRead ++ [.proceed 2])).outcome? 2 =
      some (.ok (.one ⟨"1", none, 1, []⟩)) ∧
    ∃ earlier later, staleRead = earlier ++ later ∧
      (timedNote.run .notes earlier).row? "note" "1" = some ⟨"1", none, 1, []⟩ ∧
      (timedNote.run .notes earlier).now ≤ (timedNote.run .notes staleRead).now ∧
      (timedNote.run .notes staleRead).now < (timedNote.run .notes earlier).now + 10 := by
  have sequential : IsSequential .notes timedNote (staleRead ++ [.proceed 2]) :=
    isSequential_of_idle (by decide)
  have readsBack : ReadsBack .notes timedNote "note" "1" staleRead :=
    readsBack_of_rows (by decide +kernel)
  have stored := read_within_lifetime Service.isBuilt_notes Service.isColonFree_notes rfl
    (by decide) (show timedNote.cache = .empty 10 from rfl) distinct_oneNote sequential readsBack
    (by rfl) rfl outcome?_staleRead
  exact ⟨rfl, outcome?_staleRead, stored.1⟩

/-- A millisecond later the entry has expired, and the note is not found. -/
example : (timedNote.run .notes (staleRead ++ [.pass 1, .proceed 2, .proceed 2])).outcome? 2 =
    some (.error (.notFound "note" "1")) := by
  rfl

end Scene

end RecordAccess
