import RecordAccess.Proofs.Entries
import RecordAccess.Proofs.Stages.Source

/-!
# Committed entries

Whatever requests are at work, and wherever cache calls fail, time passes or requests are given up: a
text that the cache holds for a record is a tombstone, or was the text of the record as it was stored
at some moment (`Scene.entries_committed`). In particular nothing is cached that was only proposed,
and no record with relations loaded into it.

Every entry that is listed was written by a task (`Scene.cachesAt_of_find?`), and what a task writes
was delivered to it by the store (`Scene.row?_of_delivers`).
-/

namespace RecordAccess

namespace Scene

/-- After some moves, the next call of a task writes a text under a key of the cache. -/
def CachesAt (service : Service) (start : Scene) (key text : String) (moves : List Move) (i : Nat) :
    Prop :=
  ∃ next, (start.run service moves).next? i = some next ∧ next.cached? = some (key, text)

/-- A text is that of a record as it is stored, or was stored at an earlier moment of a run. -/
def IsCommitted (service : Service) (start : Scene) (kind id : String) (moves : List Move)
    (text : String) : Prop :=
  ∃ earlier later row, moves = earlier ++ later ∧
    (start.run service earlier).row? kind id = some row ∧ text = row.text

variable {service : Service} {start : Scene} {moves : List Move} {i : Nat} {kind id key text : String}

/-! ## Listed entries -/

/-- An entry that was not there at first was written by a task, and expires when its lifetime is over
from then on. -/
theorem cachesAt_of_find? (fresh : start.tasks = []) (isOpen : start.cache.closed = false)
    (unlisted : start.cache.entries.find? key = none) {entry : CacheEntry}
    (listed : (start.run service moves).cache.entries.find? key = some entry) :
    ∃ earlier i later, moves = earlier ++ .proceed i :: later ∧
      CachesAt service start key entry.value earlier i ∧
      entry.expiresAt = start.cache.lifetime.map ((start.run service earlier).now + ·) := by
  induction moves using List.reverseRecOn with
  | nil => cases unlisted.symm.trans listed
  | append_singleton moves move ih =>
    -- An entry that was there before the last move was written before it.
    have earlier : (start.run service moves).cache.entries.find? key = some entry →
        ∃ earlier i later, moves ++ [move] = earlier ++ .proceed i :: later ∧
          CachesAt service start key entry.value earlier i ∧
          entry.expiresAt = start.cache.lifetime.map ((start.run service earlier).now + ·) := by
      intro before
      obtain ⟨earlier, i, later, rfl, caches, expires⟩ := ih before
      exact ⟨earlier, i, later ++ [move], by simp, caches, expires⟩
    obtain ⟨stillOpen, lifetime⟩ := isOpen_run service fresh isOpen moves
    rcases cache_step_of_isOpen fresh stillOpen move with
      ⟨stats, same⟩ | ⟨i, written, text, rfl, asked, same⟩
    · rw [same] at listed
      exact earlier listed
    · rw [same, Cache.write] at listed
      by_cases here : written = key
      · subst here
        rw [Keyed.find?_insert_self] at listed
        cases listed
        refine ⟨moves, i, [], rfl, ?_, by rw [lifetime]⟩
        rcases asked with asked | ⟨asked, -⟩
        · exact ⟨_, asked, rfl⟩
        · exact ⟨_, asked, rfl⟩
      · rw [Keyed.find?_insert_of_ne _ _ here] at listed
        exact earlier listed

/-- What the cache holds for a record is listed, and has not expired. -/
theorem find?_of_held? {scene : Scene} (held : scene.held? kind id = some text) :
    ∃ entry, scene.cache.entries.find? (Record.cacheKey kind id) = some entry ∧
      entry.value = text ∧ entry.isLive scene.now = true := by
  obtain ⟨entry, found, same⟩ := Option.map_eq_some_iff.1 held
  obtain ⟨listed, live⟩ := Option.filter_eq_some_iff.1 found
  exact ⟨entry, listed, same, live⟩

/-! ## What tasks write -/

/-- What a task writes in the cache has a source in what it has been told. -/
theorem source_of_cachesAt (fresh : start.tasks = [])
    (caches : CachesAt service start key text moves i) :
    ∃ schema id, service.Serves schema ∧ key = Record.cacheKey schema.kind id ∧
      Source schema id text (start.transcript service i moves) := by
  obtain ⟨next, asked, writes⟩ := caches
  obtain ⟨task, there, next⟩ := Option.bind_eq_some_iff.1 asked
  rcases stage_transcript fresh there with stage | ⟨-, givenUp⟩
  · exact source_of_next? stage next writes
  · simp [Task.next?, givenUp] at next

/-- Under the key of a record, if no kind has a colon in its name, a task writes what is of this
record. -/
theorem source_of_cacheKey (built : service.registry.IsBuilt)
    (colonFree : service.registry.IsColonFree) (fresh : start.tasks = [])
    (plain : ':' ∉ kind.toList)
    (caches : CachesAt service start (Record.cacheKey kind id) text moves i) :
    ∃ schema, schema.kind = kind ∧ Source schema id text (start.transcript service i moves) := by
  obtain ⟨schema, _, served, same, source⟩ := source_of_cachesAt fresh caches
  obtain ⟨rfl, rfl⟩ := cacheKey_inj plain (served.colonFree built colonFree) same
  exact ⟨schema, rfl, source⟩

/-- A record that was delivered to a task was stored then. -/
theorem row?_of_delivers (distinct : start.store.Distinct) {schema : Schema} {record : Record}
    {exchange : Exchange} {before after : List Exchange}
    (logged : start.transcript service i moves = before ++ exchange :: after)
    (delivers : Delivers schema id record exchange) :
    ∃ earlier later, moves = earlier ++ .proceed i :: later ∧
      (start.run service earlier).next? i = some exchange.call ∧
      (start.run service (earlier ++ [.proceed i])).row? schema.kind id = some record ∧
      (start.run service (earlier ++ [.proceed i])).transcript service i later = after := by
  obtain ⟨earlier, move, later, rfl, rfl, took⟩ := moves_of_transcript logged
  have rest : ∀ {call : StoreCall} {reply : call.Reply},
      (start.run service earlier).exchange? i move = some (.store call reply) →
      exchange = .store call reply →
      (start.run service (earlier ++ [move])).transcript service i later = after := by
    rintro call reply took rfl
    rw [List.append_cons, transcript_append, transcript_snoc, took, Option.toList_some,
      List.append_assoc, List.singleton_append] at logged
    exact (List.cons.inj (List.append_cancel_left logged)).2
  cases delivers with
  | shown shows =>
    cases shows with
    | one =>
      obtain ⟨rfl, asked, answered⟩ := exchange?_store took
      refine ⟨earlier, later, rfl, asked, ?_, rest took rfl⟩
      rw [run_snoc, row?_step_of_ne (by rw [written?_proceed asked]; exact nofun)]
      exact Store.findOne_eq_ok.1 answered.symm
    | many plain member =>
      obtain ⟨rfl, asked, answered⟩ := exchange?_store took
      refine ⟨earlier, later, rfl, asked, ?_, rest took rfl⟩
      rw [run_snoc, row?_step_of_ne (by rw [written?_proceed asked]; exact nofun)]
      exact Store.row?_of_findMany (distinct_run distinct earlier) plain answered.symm member
  | stored stored =>
    obtain ⟨rfl, asked, rfl⟩ := exchange?_store took
    refine ⟨earlier, later, rfl, asked, ?_, rest took rfl⟩
    rw [run_snoc]
    exact row?_of_stored? asked stored

/-! ## What is held -/

/-- Starting from an empty cache, whatever the cache holds for a record at some moment is a tombstone,
or the text of the record as it was stored then or before. -/
theorem entries_committed (built : service.registry.IsBuilt)
    (colonFree : service.registry.IsColonFree) (fresh : start.tasks = []) {lifetime : Nat}
    (empty : start.cache = .empty lifetime) (distinct : start.store.Distinct)
    (plain : ':' ∉ kind.toList) (held : (start.run service moves).held? kind id = some text) :
    text = CacheAside.tombstoneText ∨ IsCommitted service start kind id moves text := by
  obtain ⟨entry, listed, rfl, -⟩ := find?_of_held? held
  obtain ⟨earlier, i, later, rfl, caches, -⟩ :=
    cachesAt_of_find? fresh (by rw [empty]; rfl) (by rw [empty]; rfl) listed
  obtain ⟨schema, rfl, source⟩ := source_of_cacheKey built colonFree fresh plain caches
  generalize logged : start.transcript service i earlier = log at source
  generalize entry.value = text at source
  cases source with
  | tombstone => exact .inl rfl
  | @delivered record exchange before after delivers =>
    obtain ⟨first, last, rfl, -, there, -⟩ := row?_of_delivers distinct logged delivers
    exact .inr ⟨first ++ [.proceed i], last ++ .proceed i :: later, record, by simp, there, rfl⟩

/-- A note beside a cache in which entries live for ten milliseconds. -/
def timedNote : Scene := { oneNote with cache := .empty 10 }

/-- A read asks the cache in vain and looks a note up, which is then deleted. The first tombstone of
the delete fails and the second is not tried, since the delete is given up. Some time later the read
caches what it found. -/
def abandonedDelete : List Move :=
  [.begin none (.read "note" "1"), .fail 0 .timeout, .proceed 0, .begin none (.delete "note" "1"),
    .proceed 1, .proceed 1, .fail 1 .timeout, .proceed 1, .quit 1, .pass 4, .proceed 0]

/-- The note is held although it is no longer stored, as it was stored before. -/
theorem committed_abandonedDelete :
    (timedNote.run .notes abandonedDelete).row? "note" "1" = none ∧
    (timedNote.run .notes abandonedDelete).held? "note" "1" =
      some (Record.text ⟨"1", none, 1, []⟩) ∧
    (Record.text ⟨"1", none, 1, []⟩ = CacheAside.tombstoneText ∨
      IsCommitted .notes timedNote "note" "1" abandonedDelete (Record.text ⟨"1", none, 1, []⟩)) :=
  ⟨rfl, rfl, entries_committed Service.isBuilt_notes Service.isColonFree_notes rfl
    (show timedNote.cache = .empty 10 from rfl) distinct_oneNote (by decide) rfl⟩

end Scene

end RecordAccess
