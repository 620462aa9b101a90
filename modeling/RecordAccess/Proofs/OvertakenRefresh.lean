import RecordAccess.Proofs.Coherence
import RecordAccess.Proofs.LostUpdate

/-!
# Overtaken refreshes

Of a revisioned kind, the refresh after an update looks at the entry first, and keeps it if it is of
a later revision. The look and the write are two calls, though. A refresh is overtaken if between
them another task puts a record of a later revision into the cache: then it puts the earlier one
over it, and the cache falls back.

Of a record that is not deleted, this is the only way in which an entry can fall back, and the only
way in which it can differ from what is stored once all writes have returned
(`Scene.advances_iff_not_overtaken`). What the cache holds is always what was stored at some moment
(`Scene.holdsStored_run`), and what a refresh has seen when it looks is not later than what it puts.
-/

namespace RecordAccess

open Service

/-! ## What sets a key -/

/-- A task that is about to set a key, with what it has been told by then: a delete has looked twice,
a read has seen a text that is no record, and a write has looked for a later revision last. -/
inductive Setting (service : Service) (task : Task) : List Exchange → String → String → Prop
  | bury {kind id : String} {schema : Schema} {found current : Record} {log : List Exchange}
      (asked : task.ask = .delete kind id)
      (granted : service.registry.authorize kind .delete = .ok schema) :
      Setting service task
        (.store (.findOne schema id) (.ok found) ::
          .store (.findOne schema found.id) (.ok current) :: log)
        (Record.cacheKey schema.kind current.id) CacheAside.tombstoneText
  | replace {schema : Schema} {id : String} {record : Record} {log : List Exchange}
      {reply : Except CacheError (Option String)} (served : service.Serves schema)
      (seen : .cache (.get (Record.cacheKey schema.kind id)) reply ∈ log)
      (corrupt : CacheLookup.ofReply reply = .corrupt) :
      Setting service task log (Record.cacheKey schema.kind id) record.text
  | refresh {kind : String} {operation : Operation} {schema : Schema} {record : Record}
      {call : StoreCall} {reply : call.Reply} {log seen : List Exchange}
      (granted : service.registry.authorize kind operation = .ok schema)
      (wrote : .store call reply ∈ log) (stored : call.stored? reply = some (schema.kind, record))
      (looked : CacheAside.NotLater schema record seen) :
      Setting service task (log ++ seen) (Record.cacheKey schema.kind record.id) record.text

theorem setting_of_next? {service : Service} {task : Task} {log : List Exchange}
    {key text : String} (stage : TaskStage service task log)
    (asked : task.next? = some (.cache (.set key text))) : Setting service task log key text := by
  have pending := pending_of_next? stage asked
  generalize called : Call.cache (.set key text) = next at pending
  cases pending with
  | replace served corrupt =>
    cases called
    exact .replace served (List.mem_cons_self ..) corrupt
  | @refresh _ _ _ _ call reply before seen granted stored looked =>
    cases called
    have split : before ++ .store call reply :: seen = (before ++ [.store call reply]) ++ seen :=
      List.append_cons ..
    exact split ▸ .refresh granted (by simp) stored looked
  | bury ask granted =>
    cases called
    exact .bury ask granted
  | _ => cases called

namespace Scene

/-! ## Revisions held -/

/-- The revision of the record that the cache holds. -/
def heldRevision? (scene : Scene) (kind id : String) : Option Int :=
  match (scene.held? kind id).map CacheAside.decodeEntry with
  | some (.record record) => some record.revision
  | _ => none

/-- After some moves, a task is about to look a record up in the cache. -/
def LooksAt (service : Service) (start : Scene) (kind id : String) (moves : List Move) (i : Nat) :
    Prop :=
  (start.run service moves).next? i = some (.cache (.get (Record.cacheKey kind id)))

/-- After some moves, a task is about to put a record of a revision into the cache. -/
def PutsAt (service : Service) (start : Scene) (kind id : String) (moves : List Move) (i : Nat)
    (revision : Int) : Prop :=
  ∃ text record,
    (start.run service moves).next? i = some (.cache (.set (Record.cacheKey kind id) text)) ∧
    CacheAside.decodeEntry text = .record record ∧ record.revision = revision

/-- Between the look and the write of a task, another task puts a later revision into the cache than
the one that the task then puts over it. -/
def Overtaken (service : Service) (start : Scene) (kind id : String) (moves : List Move) : Prop :=
  ∃ first i middle j between last older newer,
    moves = first ++ .proceed i :: (middle ++ .proceed j :: (between ++ .proceed i :: last)) ∧
    LooksAt service start kind id first i ∧
    PutsAt service start kind id (first ++ .proceed i :: middle) j newer ∧
    PutsAt service start kind id (first ++ .proceed i :: (middle ++ .proceed j :: between)) i older ∧
    older < newer

/-- All tasks that have written a record have returned. -/
def Settled (service : Service) (start : Scene) (kind id : String) (moves : List Move) : Prop :=
  ∀ before i after, moves = before ++ .proceed i :: after →
    WritesAt service start kind id before i → (start.run service moves).outcome? i ≠ none

/-- At no move the revision held decreases. -/
def NeverFalls (service : Service) (start : Scene) (kind id : String) (moves : List Move) : Prop :=
  ∀ before move after, moves = before ++ move :: after →
    ∃ old new, (start.run service before).heldRevision? kind id = some old ∧
      (start.run service (before ++ [move])).heldRevision? kind id = some new ∧ old ≤ new

/-- The revision held never decreases, and is the stored one when all writes have returned. -/
structure Advances (service : Service) (start : Scene) (kind id : String) (moves : List Move) :
    Prop where
  neverFalls : NeverFalls service start kind id moves
  current : Settled service start kind id moves →
    (start.run service moves).heldRevision? kind id =
      ((start.run service moves).row? kind id).map Record.revision

/-- A run in which no cache call fails and no task is given up, and which does not delete the
record. -/
structure Undisturbed (service : Service) (start : Scene) (kind id : String) (moves : List Move) :
    Prop where
  plain : ∀ move ∈ moves, move.isPlain = true
  kept : ∀ caller, .begin caller (.delete kind id) ∉ moves
  readsBack : ReadsBack service start kind id moves

/-- The cache holds the text of what was stored at some moment of a run. -/
def HoldsStored (service : Service) (start : Scene) (kind id : String) (moves : List Move) : Prop :=
  ∃ earlier later row, moves = earlier ++ later ∧
    (start.run service earlier).row? kind id = some row ∧
    (start.run service moves).held? kind id = some row.text

variable {service : Service} {start scene : Scene} {kind id text : String} {moves : List Move}
  {i : Nat} {descriptor : Descriptor} {origin : Record}

theorem Undisturbed.of_append {first later : List Move}
    (undisturbed : Undisturbed service start kind id (first ++ later)) :
    Undisturbed service start kind id first where
  plain move member := undisturbed.plain move (List.mem_append_left _ member)
  kept caller member := undisturbed.kept caller (List.mem_append_left _ member)
  readsBack := undisturbed.readsBack.of_append

theorem heldRevision?_eq_some {revision : Int} :
    scene.heldRevision? kind id = some revision ↔
      ∃ text record, scene.held? kind id = some text ∧
        CacheAside.decodeEntry text = .record record ∧ record.revision = revision := by
  unfold heldRevision?
  cases scene.held? kind id with
  | none => simp
  | some text => cases decoded : CacheAside.decodeEntry text <;> simp [decoded]

/-- What is held is read back as what was stored. -/
theorem HoldsStored.decoded (holds : HoldsStored service start kind id moves)
    (readsBack : ReadsBack service start kind id moves) :
    ∃ earlier later row, moves = earlier ++ later ∧
      (start.run service earlier).row? kind id = some row ∧
      (start.run service moves).held? kind id = some row.text ∧
      CacheAside.decodeEntry row.text = .record row := by
  obtain ⟨earlier, later, row, split, there, held⟩ := holds
  exact ⟨earlier, later, row, split, there, held, readsBack earlier later row split there⟩

/-! ## One move -/

/-- What a write has stored is there after it. -/
theorem row?_snoc_of_stored? {call : StoreCall} {record : Record}
    (asked : (start.run service moves).next? i = some (.store call))
    (stored : call.stored? ((start.run service moves).store.answer call).1 = some (kind, record)) :
    (start.run service (moves ++ [.proceed i])).row? kind record.id = some record := by
  rw [run_snoc]
  exact row?_of_stored? asked stored

section Lasting

variable (fresh : start.tasks = []) (lasting : start.cache.IsLasting)

include fresh lasting

/-- A put leaves its revision. -/
theorem PutsAt.heldRevision? {revision : Int}
    (puts : PutsAt service start kind id moves i revision) :
    (start.run service (moves ++ [.proceed i])).heldRevision? kind id = some revision := by
  obtain ⟨text, record, asked, decoded, same⟩ := puts
  exact heldRevision?_eq_some.2 ⟨text, record, held?_of_set fresh lasting asked, decoded, same⟩

/-- A move leaves the revision held, or puts another. -/
theorem heldRevision?_step {old new : Int} {move : Move}
    (before : (start.run service moves).heldRevision? kind id = some old)
    (after : (start.run service (moves ++ [move])).heldRevision? kind id = some new) :
    old = new ∨ ∃ i, move = .proceed i ∧ PutsAt service start kind id moves i new := by
  obtain ⟨text, record, held, decoded, rfl⟩ := heldRevision?_eq_some.1 before
  obtain ⟨other, next, now, readBack, rfl⟩ := heldRevision?_eq_some.1 after
  rcases held?_step fresh lasting moves move kind id with same | ⟨i, put, rfl, there, asked | ⟨-, empty⟩⟩
  · cases now.symm.trans (same.trans held)
    cases readBack.symm.trans decoded
    exact .inl rfl
  · cases now.symm.trans there
    exact .inr ⟨i, rfl, other, next, asked, readBack, rfl⟩
  · cases held.symm.trans empty

/-- Where the revision held has risen above another, a revision above it was put. -/
theorem exists_put_of_lt {before later : List Move} {old new bound : Int}
    (held : (start.run service before).heldRevision? kind id = some old)
    (now : (start.run service (before ++ later)).heldRevision? kind id = some new)
    (holds : ∀ first last, before ++ later = first ++ last →
      ∃ revision, (start.run service first).heldRevision? kind id = some revision)
    (below : old ≤ bound) (above : bound < new) :
    ∃ middle j between newer, later = middle ++ .proceed j :: between ∧
      PutsAt service start kind id (before ++ middle) j newer ∧ bound < newer := by
  induction later using List.reverseRecOn generalizing new with
  | nil =>
    rw [List.append_nil] at now
    cases held.symm.trans now
    omega
  | append_singleton later move ih =>
    rw [← List.append_assoc] at now
    obtain ⟨revision, earlier⟩ := holds (before ++ later) [move] (List.append_assoc ..).symm
    rcases heldRevision?_step fresh lasting earlier now with rfl | ⟨j, rfl, puts⟩
    · obtain ⟨middle, j, between, newer, rfl, puts, higher⟩ := ih earlier
        (fun first last split => holds first (last ++ [move])
          (by rw [← List.append_assoc, split, List.append_assoc])) above
      exact ⟨middle, j, between ++ [move], newer, by simp, puts, higher⟩
    · exact ⟨later, j, [], new, rfl, puts, above⟩

omit fresh lasting in
/-- Where the revision held never decreases, it is at least what it was before. -/
theorem NeverFalls.le {before middle after : List Move} {old : Int}
    (neverFalls : NeverFalls service start kind id (before ++ (middle ++ after)))
    (held : (start.run service before).heldRevision? kind id = some old) :
    ∃ new, (start.run service (before ++ middle)).heldRevision? kind id = some new ∧ old ≤ new := by
  induction middle using List.reverseRecOn generalizing after with
  | nil => exact ⟨old, by rw [List.append_nil, held], Int.le_refl old⟩
  | append_singleton middle move ih =>
    obtain ⟨last, there, atLeast⟩ := @ih (move :: after) (by simpa using neverFalls)
    obtain ⟨same, new, earlier, now, grown⟩ :=
      neverFalls (before ++ middle) move after (by simp)
    cases earlier.symm.trans there
    exact ⟨new, by rw [← List.append_assoc, now], Int.le_trans atLeast grown⟩

/-- A refresh that is overtaken makes the revision held decrease. -/
theorem NeverFalls.not_overtaken (neverFalls : NeverFalls service start kind id moves) :
    ¬Overtaken service start kind id moves := by
  rintro ⟨first, i, middle, j, between, last, older, newer, rfl, -, put, late, lower⟩
  have left := put.heldRevision? fresh lasting
  have overwritten := late.heldRevision? fresh lasting
  have split : first ++ .proceed i :: (middle ++ .proceed j :: (between ++ .proceed i :: last)) =
      (first ++ .proceed i :: middle ++ [.proceed j]) ++ (between ++ .proceed i :: last) := by simp
  rw [split] at neverFalls
  obtain ⟨held, there, atLeast⟩ := neverFalls.le left
  have position : first ++ .proceed i :: middle ++ [.proceed j] ++ between =
      first ++ .proceed i :: (middle ++ .proceed j :: between) := by simp
  obtain ⟨old, new, before, after, grown⟩ :=
    neverFalls (first ++ .proceed i :: (middle ++ .proceed j :: between)) (.proceed i) last
      (by simp)
  rw [position] at there
  cases there.symm.trans before
  cases after.symm.trans overwritten
  omega

end Lasting

section Run

variable (built : service.registry.IsBuilt) (colonFree : service.registry.IsColonFree)
  (known : service.registry.get? kind = some descriptor) (fresh : start.tasks = [])
  (lasting : start.cache.IsLasting)

include built colonFree known fresh lasting

/-- While the record is not deleted and the cache holds what was stored, only a write of the record
sets its key: to what it has written, and after a look that found nothing later. -/
theorem refresh_of_undisturbed (undisturbed : Undisturbed service start kind id moves)
    (holds : ∀ earlier later, moves = earlier ++ later → HoldsStored service start kind id earlier)
    (asked : (start.run service moves).next? i =
      some (.cache (.set (Record.cacheKey kind id) text))) :
    ∃ (record : Record) (call : StoreCall) (reply : call.Reply) (log seen : List Exchange),
      descriptor.schema.kind = kind ∧ text = record.text ∧ record.id = id ∧
      start.transcript service i moves = log ++ seen ∧ .store call reply ∈ log ∧
      call.stored? reply = some (kind, record) ∧
      CacheAside.NotLater descriptor.schema record seen := by
  have unmarked := colonFree kind descriptor known
  obtain ⟨task, there, next⟩ := Option.bind_eq_some_iff.1 asked
  have setting := setting_of_next? (stage_of_plain fresh undisturbed.plain there) next
  generalize logged : start.transcript service i moves = log at setting
  generalize keyed : Record.cacheKey kind id = key at setting
  cases setting with
  | @bury name target schema found current rest ask granted =>
    have served : service.Serves schema := ⟨_, _, granted⟩
    obtain ⟨rfl, rfl⟩ := cacheKey_inj unmarked (served.colonFree built colonFree) keyed
    have kept := undisturbed.kept
    rw [id_of_deleting logged, built.kind_eq granted] at kept
    exact absurd (ask ▸ begin_of_task (by simp [fresh]) there) (kept task.caller)
  | @replace schema name record _ reply served seen corrupt =>
    obtain ⟨rfl, rfl⟩ := cacheKey_inj unmarked (served.colonFree built colonFree) keyed
    -- What it saw was held, and so it was a record.
    rw [← logged] at seen
    obtain ⟨earlier, later, rfl, -, rfl⟩ := held?_of_get fresh lasting undisturbed.plain seen
    obtain ⟨-, -, row, -, -, held, decoded⟩ :=
      (holds earlier _ rfl).decoded undisturbed.readsBack.of_append
    rw [held] at corrupt
    cases decoded.symm.trans corrupt
  | @refresh name operation schema record call reply log seen granted wrote stored looked =>
    have served : service.Serves schema := ⟨_, _, granted⟩
    obtain ⟨rfl, rfl⟩ := cacheKey_inj unmarked (served.colonFree built colonFree) keyed
    obtain rfl := built.schema_eq known granted
    exact ⟨record, call, reply, log, seen, rfl, rfl, rfl, rfl, wrote, stored, looked⟩

variable (stored : start.row? kind id = some origin) (held : start.held? kind id = some origin.text)

include stored held

/-- As long as the record is not deleted, the cache holds what was stored at some moment. -/
theorem holdsStored_run (undisturbed : Undisturbed service start kind id moves)
    {earlier later : List Move} (split : moves = earlier ++ later) :
    HoldsStored service start kind id earlier := by
  induction moves using List.reverseRecOn generalizing earlier later with
  | nil =>
    obtain ⟨rfl, rfl⟩ := List.append_eq_nil_iff.1 split.symm
    exact ⟨[], [], origin, rfl, stored, held⟩
  | append_singleton moves move ih =>
    have before : ∀ earlier later, moves = earlier ++ later →
        HoldsStored service start kind id earlier := fun earlier later split =>
      ih undisturbed.of_append split
    rcases List.eq_nil_or_concat later with rfl | ⟨front, final, rfl⟩
    case inr =>
      rw [List.concat_eq_append, ← List.append_assoc] at split
      exact before earlier front (List.append_inj' split rfl).1
    rw [List.append_nil] at split
    subst split
    obtain ⟨first, last, row, whole, there, now⟩ := before moves [] (List.append_nil _).symm
    rcases held?_step fresh lasting moves move kind id with same | ⟨i, text, rfl, put, how⟩
    · exact ⟨first, last ++ [move], row, by rw [whole, List.append_assoc], there, same.trans now⟩
    rcases how with asked | ⟨-, empty⟩
    · obtain ⟨record, call, reply, log, seen, -, rfl, rfl, logged, wrote, kept, -⟩ :=
        refresh_of_undisturbed built colonFree known fresh lasting undisturbed.of_append before asked
      obtain ⟨first, last, rfl, turn, rfl⟩ := moves_of_mem_transcript
        (logged ▸ List.mem_append_left _ wrote)
      have there := row?_snoc_of_stored? turn kept
      have whole : first ++ .proceed i :: last ++ [.proceed i] =
          (first ++ [.proceed i]) ++ (last ++ [.proceed i]) := by simp
      exact ⟨_, _, record, whole, there, put⟩
    · cases now.symm.trans empty

/-- The revision held is that of what was stored at some moment. -/
theorem exists_heldRevision? (undisturbed : Undisturbed service start kind id moves)
    {earlier later : List Move} (split : moves = earlier ++ later) :
    ∃ first last row, earlier = first ++ last ∧ (start.run service first).row? kind id = some row ∧
      (start.run service earlier).held? kind id = some row.text ∧
      CacheAside.decodeEntry row.text = .record row ∧
      (start.run service earlier).heldRevision? kind id = some row.revision := by
  subst split
  obtain ⟨first, last, row, whole, there, now, decoded⟩ :=
    (holdsStored_run built colonFree known fresh lasting stored held undisturbed rfl).decoded
      undisturbed.readsBack.of_append
  exact ⟨first, last, row, whole, there, now, decoded,
    heldRevision?_eq_some.2 ⟨_, row, now, decoded, rfl⟩⟩

variable (revisioned : descriptor.schema.revisioned = true)

include revisioned

/-- A refresh that puts an earlier revision over a later one was overtaken. -/
theorem overtaken_of_lt {last : List Move} {old new : Int}
    (undisturbed : Undisturbed service start kind id moves)
    (puts : PutsAt service start kind id moves i new)
    (now : (start.run service moves).heldRevision? kind id = some old) (lower : new < old) :
    Overtaken service start kind id (moves ++ .proceed i :: last) := by
  have late := puts
  obtain ⟨text, record, asked, decoded, rfl⟩ := puts
  have holds : ∀ earlier later, moves = earlier ++ later →
      HoldsStored service start kind id earlier := fun earlier later split =>
    holdsStored_run built colonFree known fresh lasting stored held undisturbed split
  obtain ⟨written, call, reply, log, seen, kind_eq, rfl, named, logged, wrote, kept, looked⟩ :=
    refresh_of_undisturbed built colonFree known fresh lasting undisturbed holds asked
  obtain rfl : written = record := by
    obtain ⟨first, rest, rfl, turn, rfl⟩ := moves_of_mem_transcript
      (logged ▸ List.mem_append_left _ wrote)
    have there := row?_snoc_of_stored? turn kept
    rw [named] at there
    have readBack := undisturbed.readsBack (first ++ [.proceed i]) rest written (by simp) there
    exact CacheLookup.record.inj (readBack.symm.trans decoded)
  rcases looked with ⟨plain, -⟩ | ⟨-, reply, rfl, notLater⟩
  · cases plain.symm.trans revisioned
  rw [kind_eq, named] at logged
  -- What it has seen was not later, so what is held now was put since then.
  obtain ⟨first, rest, rfl, looks, rfl⟩ := held?_of_get fresh lasting undisturbed.plain
    (logged ▸ List.mem_append_right _ (List.mem_singleton.2 rfl))
  obtain ⟨-, -, row, -, -, seen, readBack, then_held⟩ := exists_heldRevision? built colonFree known
    fresh lasting stored held undisturbed rfl
  have atMost : row.revision ≤ written.revision := notLater row (by rw [seen]; exact readBack)
  have split : first ++ .proceed i :: rest = (first ++ [.proceed i]) ++ rest := by simp
  have revisions : ∀ before after, first ++ .proceed i :: rest = before ++ after →
      ∃ revision, (start.run service before).heldRevision? kind id = some revision := by
    intro before after same
    obtain ⟨-, -, _, -, -, -, -, there⟩ := exists_heldRevision? built colonFree known fresh lasting
      stored held undisturbed same
    exact ⟨_, there⟩
  obtain ⟨looked, unchanged⟩ := revisions (first ++ [.proceed i]) rest split
  rcases heldRevision?_step fresh lasting then_held unchanged with rfl | ⟨j, same, _, _, sets, -⟩
  · rw [split] at now
    obtain ⟨middle, j, between, newer, rfl, put, above⟩ := exists_put_of_lt fresh lasting unchanged
      now (fun before after same => revisions before after (split.trans same)) atMost lower
    refine ⟨first, i, middle, j, between, last, _, newer, by simp, looks, ?_, late, above⟩
    rwa [List.append_cons]
  · cases same
    cases looks.symm.trans sets

/-- Where no refresh is overtaken, the revision held never decreases. -/
theorem neverFalls_of_not_overtaken (undisturbed : Undisturbed service start kind id moves)
    (timely : ¬Overtaken service start kind id moves) :
    NeverFalls service start kind id moves := by
  rintro before move after rfl
  obtain ⟨-, -, row, -, -, -, -, now⟩ := exists_heldRevision? built colonFree known
    fresh lasting stored held undisturbed rfl
  obtain ⟨-, -, next, -, -, -, -, then_held⟩ := exists_heldRevision? built colonFree known
    fresh lasting stored held undisturbed (List.append_cons before move after)
  refine ⟨_, _, now, then_held, Int.not_lt.1 fun lower => timely ?_⟩
  rcases heldRevision?_step fresh lasting now then_held with same | ⟨i, rfl, puts⟩
  · omega
  · exact overtaken_of_lt built colonFree known fresh lasting stored held revisioned
      undisturbed.of_append puts now lower

/-! ## When all writes have returned -/

omit colonFree lasting held in
/-- The stored revision never decreases. -/
theorem revision_le_run {earlier later : List Move} {row final : Record}
    (kept : ∀ caller, .begin caller (.delete kind id) ∉ earlier ++ later)
    (there : (start.run service earlier).row? kind id = some row)
    (finally_there : (start.run service (earlier ++ later)).row? kind id = some final) :
    row.revision ≤ final.revision := by
  have before := row?_run built known revisioned fresh stored
    fun caller (member : _ ∈ earlier) => kept caller (List.mem_append_left _ member)
  have after := row?_run built known revisioned fresh stored kept
  rw [before] at there
  rw [after, commits_append, mergeAll_append, Option.some.inj there] at finally_there
  rw [← Option.some.inj finally_there, revision_mergeAll revisioned]
  omega

omit revisioned in
/-- When a write of the record has returned, at least its revision has been held. -/
theorem held_of_returned (enabled : service.aside.enabled = true) {before after : List Move}
    {call : StoreCall} {record : Record}
    (undisturbed : Undisturbed service start kind id (before ++ .proceed i :: after))
    (asked : (start.run service before).next? i = some (.store call))
    (wrote : call.stored? ((start.run service before).store.answer call).1 = some (kind, record))
    (named : record.id = id)
    (returned : (start.run service (before ++ .proceed i :: after)).outcome? i ≠ none) :
    ∃ first last revision, before ++ .proceed i :: after = first ++ last ∧
      (start.run service first).heldRevision? kind id = some revision ∧
      record.revision ≤ revision := by
  subst named
  have written := StoreCall.written?_of_stored? wrote
  obtain ⟨front, final, logged, closing⟩ :=
    closing_of_returned fresh enabled undisturbed.plain asked written returned
  -- The record was stored right after the write, so its text is read back.
  have readBack : CacheAside.decodeEntry record.text = .record record :=
    undisturbed.readsBack (before ++ [.proceed i]) after record (by simp)
      (row?_snoc_of_stored? asked wrote)
  generalize whole : before ++ .proceed i :: after = moves at undisturbed logged ⊢
  obtain ⟨first, move, last, rfl, -, took⟩ := moves_of_transcript logged
  have plain : move.isPlain = true := undisturbed.plain move (by simp)
  cases closing with
  | bury again =>
    cases written.symm.trans again
    obtain ⟨rfl, sets⟩ := asked_of_exchange? plain took
    obtain ⟨other, -, -, -, -, -, same, -⟩ := refresh_of_undisturbed built colonFree known fresh
      lasting undisturbed.of_append (fun earlier later split =>
        holdsStored_run built colonFree known fresh lasting stored held undisturbed.of_append split)
      sets
    exact absurd same.symm (CacheAside.text_ne_tombstoneText other)
  | @refresh _ other _ again =>
    cases wrote.symm.trans again
    obtain ⟨rfl, sets⟩ := asked_of_exchange? plain took
    refine ⟨first ++ [.proceed i], last, record.revision, by simp, ?_, Int.le_refl _⟩
    exact heldRevision?_eq_some.2 ⟨_, record, held?_of_set fresh lasting sets, readBack, rfl⟩
  | @keep _ other cached reply again _ seen later =>
    cases wrote.symm.trans again
    have looked : .cache (.get (Record.cacheKey kind record.id)) reply ∈
        start.transcript service i (first ++ move :: last) := by
      rw [logged]
      exact List.mem_append_right _ (List.mem_singleton.2 rfl)
    obtain ⟨first, last, split, -, answered⟩ := held?_of_get fresh lasting undisturbed.plain looked
    obtain ⟨text, rfl, decoded⟩ := CacheLookup.exists_of_ofReply seen nofun
    exact ⟨first, _, cached.revision, split, heldRevision?_eq_some.2
      ⟨text, cached, (Except.ok.inj answered).symm, decoded, rfl⟩, Int.le_of_lt later⟩

/-- When all writes have returned, at least every revision stored so far has been held. -/
theorem held_of_settled (enabled : service.aside.enabled = true)
    (undisturbed : Undisturbed service start kind id moves)
    (settled : Settled service start kind id moves) {earlier later : List Move}
    (split : moves = earlier ++ later) {row : Record}
    (there : (start.run service earlier).row? kind id = some row) :
    ∃ first last revision, moves = first ++ last ∧
      (start.run service first).heldRevision? kind id = some revision ∧
      row.revision ≤ revision := by
  induction earlier using List.reverseRecOn generalizing later row with
  | nil =>
    obtain ⟨_, _, first, same, began, -, -, holding⟩ := exists_heldRevision? built colonFree known
      fresh lasting stored held undisturbed (List.nil_append moves).symm
    obtain ⟨rfl, -⟩ := List.append_eq_nil_iff.1 same.symm
    cases there.symm.trans began
    exact ⟨[], moves, _, rfl, holding, Int.le_refl _⟩
  | append_singleton earlier move ih =>
    have kept : ∀ caller, .begin caller (.delete kind id) ∉ earlier := fun caller member =>
      undisturbed.kept caller (by rw [split]; simp [member])
    have before := row?_run built known revisioned fresh stored kept
    rcases row?_step_of_kept built known revisioned fresh kept before move with
      ⟨-, same⟩ | ⟨⟨i, proposed⟩, committed, -, -⟩
    · rw [same, ← before] at there
      exact @ih (move :: later) (by simpa using split) row there
    · obtain ⟨schema, expected, rfl, asked, written⟩ := commit?_eq_some.1 committed
      have whole : moves = earlier ++ .proceed i :: later := by simpa using split
      rw [written?_proceed asked] at written
      obtain ⟨updated, succeeded, rfl, rfl⟩ := StoreCall.written?_update written
      have wrote : (StoreCall.update schema proposed expected).stored?
          ((start.run service earlier).store.answer (.update schema proposed expected)).1 =
            some (schema.kind, updated) := by
        rw [show ((start.run service earlier).store.answer (.update schema proposed expected)).1 =
          .ok updated from succeeded]
        rfl
      cases there.symm.trans (row?_snoc_of_stored? asked wrote)
      subst whole
      refine held_of_returned built colonFree known fresh lasting stored held enabled undisturbed
        asked wrote rfl (settled earlier i later rfl ?_)
      rwa [WritesAt, written?_proceed asked]

end Run

/-- Of a record that is not deleted, the revision held never decreases and is in the end the stored
one, exactly when no refresh is overtaken. -/
theorem advances_iff_not_overtaken (built : service.registry.IsBuilt)
    (colonFree : service.registry.IsColonFree) (enabled : service.aside.enabled = true)
    (known : service.registry.get? kind = some descriptor)
    (revisioned : descriptor.schema.revisioned = true) (fresh : start.tasks = [])
    (lasting : start.cache.IsLasting) (stored : start.row? kind id = some origin)
    (held : start.held? kind id = some origin.text)
    (undisturbed : Undisturbed service start kind id moves) :
    Advances service start kind id moves ↔ ¬Overtaken service start kind id moves := by
  refine ⟨fun advances => advances.neverFalls.not_overtaken fresh lasting, fun timely => ?_⟩
  have neverFalls := neverFalls_of_not_overtaken built colonFree known fresh lasting stored held
    revisioned undisturbed timely
  refine ⟨neverFalls, fun settled => ?_⟩
  obtain ⟨final, now⟩ : ∃ final, (start.run service moves).row? kind id = some final :=
    ⟨_, row?_run built known revisioned fresh stored undisturbed.kept⟩
  obtain ⟨first, last, revision, rfl, was, atLeast⟩ := held_of_settled built colonFree known fresh
    lasting stored held revisioned enabled undisturbed settled (List.append_nil moves).symm now
  obtain ⟨newest, there, grown⟩ := @NeverFalls.le _ _ _ _ first last [] _
    (by rwa [List.append_nil]) was
  obtain ⟨early, rest, row, split, seen, -, -, holding⟩ := exists_heldRevision? built colonFree known
    fresh lasting stored held undisturbed (List.append_nil _).symm
  cases there.symm.trans holding
  have kept := undisturbed.kept
  rw [split] at kept
  have atMost := revision_le_run built known fresh stored revisioned kept seen (split ▸ now)
  rw [there, now, Option.map_some, Option.some.injEq]
  omega

/-! ## Refreshes in turn, and one that is overtaken -/

/-- A scene in which one note is stored, and cached as it is stored. -/
def cachedNote : Scene :=
  { oneNote with
    cache := oneNote.cache.write 0 (Record.cacheKey "note" "1") (Record.text ⟨"1", none, 1, []⟩) }

theorem isLasting_cachedNote : cachedNote.cache.IsLasting :=
  Cache.isLasting_write Cache.isLasting_empty _ _ _

/-- Two updates of a note, one after the other, of which neither has told the cache. -/
def twoUpdates : List Move :=
  let body (revision : Int) (title : String) : Json :=
    .object [("revision", .integer revision), ("title", .string title)]
  [.begin none (.update "note" "1" (body 1 "b")), .begin none (.update "note" "1" (body 2 "c")),
    .proceed 0, .proceed 0, .proceed 1, .proceed 1]

/-- The first update looks and puts, and then the second. -/
def refreshesInTurn : List Move :=
  twoUpdates ++ [.proceed 0, .proceed 0, .proceed 1, .proceed 1]

/-- The second update looks and puts after the first has looked. -/
def overtakenRefresh : List Move :=
  twoUpdates ++ [.proceed 0, .proceed 1, .proceed 1, .proceed 0]

theorem undisturbed_refreshesInTurn :
    Undisturbed .notes cachedNote "note" "1" refreshesInTurn where
  plain := by decide
  kept caller := by simp [refreshesInTurn, twoUpdates]
  readsBack := readsBack_of_rows (by decide +kernel)

/-- In the run of refreshes in turn, each update looks at the cache and puts at once. -/
theorem length_of_refreshesInTurn {before after : List Move} {call : CacheCall}
    (split : refreshesInTurn = before ++ .proceed i :: after)
    (asked : (cachedNote.run .notes before).next? i = some (.cache call)) :
    before.length = (if call = .get (Record.cacheKey "note" "1") then 6 else 7) + 2 * i := by
  have positions : ∀ n, (inside : n < refreshesInTurn.length) → ∀ i < 2,
      (((cachedNote.run .notes (refreshesInTurn.take n)).exchange? i refreshesInTurn[n]).filter
        Exchange.isCache).all (fun made => (refreshesInTurn.take n).length =
          (if made.call = .cache (.get (Record.cacheKey "note" "1")) then 6 else 7) + 2 * i) =
        true := by
    decide +kernel
  have inside : i < 2 := by
    have member : .proceed i ∈ refreshesInTurn := by simp [split]
    simp [refreshesInTurn, twoUpdates] at member
    omega
  have found := @holds_of_split _ _ _ _ (fun before move => ∀ i < 2,
    (((cachedNote.run .notes before).exchange? i move).filter Exchange.isCache).all (fun made =>
      before.length = (if made.call = .cache (.get (Record.cacheKey "note" "1")) then 6 else 7) +
        2 * i) = true) positions split i inside
  simpa [exchange?, asked, exchange, Exchange.isCache] using found

/-- Refreshes in turn are not overtaken, so the revision held never decreases, and is the stored one
in the end. -/
theorem advances_refreshesInTurn : ¬Overtaken .notes cachedNote "note" "1" refreshesInTurn ∧
    Advances .notes cachedNote "note" "1" refreshesInTurn := by
  have timely : ¬Overtaken .notes cachedNote "note" "1" refreshesInTurn := by
    rintro ⟨first, i, middle, j, between, last, _, _, split, looks, ⟨_, _, put, -⟩,
      ⟨_, _, late, -⟩, -⟩
    have looked := length_of_refreshesInTurn split looks
    have putAt := length_of_refreshesInTurn (by simpa using split) put
    have lateAt := length_of_refreshesInTurn (by simpa using split) late
    simp only [reduceCtorEq, ↓reduceIte, List.length_append, List.length_cons] at looked putAt lateAt
    omega
  refine ⟨timely, (advances_iff_not_overtaken Service.isBuilt_notes Service.isColonFree_notes rfl
    (show Service.notes.registry.get? "note" = some ⟨.note, .all⟩ from rfl) rfl rfl
    isLasting_cachedNote (show cachedNote.row? "note" "1" = some ⟨"1", none, 1, []⟩ from rfl) rfl
    undisturbed_refreshesInTurn).2 timely⟩

/-- After an overtaken refresh, the revision held has decreased, and stays behind the stored one
although both updates have returned. -/
theorem fallsBack_overtakenRefresh :
    (∀ move ∈ overtakenRefresh, move.isPlain = true) ∧
    (cachedNote.row? "note" "1").map Record.revision = cachedNote.heldRevision? "note" "1" ∧
    (cachedNote.run .notes (overtakenRefresh.take 9)).heldRevision? "note" "1" = some 3 ∧
    (cachedNote.run .notes overtakenRefresh).heldRevision? "note" "1" = some 2 ∧
    ((cachedNote.run .notes overtakenRefresh).row? "note" "1").map Record.revision = some 3 ∧
    ∀ i < 2, ((cachedNote.run .notes overtakenRefresh).outcome? i).isSome = true := by
  decide +kernel

end Scene

end RecordAccess
