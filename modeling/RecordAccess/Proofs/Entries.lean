import RecordAccess.Proofs.Writes

/-!
# Entries in a run

What the calls of tasks make of the cache. In a cache that is open and whose entries do not expire,
a key that holds a text keeps holding one, and the text changes only by a `set` of that key or by a
`setIfAbsent` of a key that is empty (`Scene.held?_step`).
-/

namespace RecordAccess

/-! ## Lasting caches -/

namespace Cache

/-- A cache that is open and whose entries do not expire. -/
structure IsLasting (cache : Cache) : Prop where
  isOpen : cache.closed = false
  lifetime : cache.lifetime = none
  entries : ∀ key entry, cache.entries.find? key = some entry → entry.expiresAt = none

variable {cache : Cache} {now : Nat} {key : String}

theorem isLasting_empty : (empty 0).IsLasting :=
  ⟨rfl, rfl, fun _ _ found => nomatch found⟩

/-- When nothing expires, a key holds the text that is listed. -/
theorem live?_of_isLasting (lasting : cache.IsLasting) (now : Nat) (key : String) :
    cache.live? now key = (cache.entries.find? key).map CacheEntry.value := by
  unfold live?
  cases found : cache.entries.find? key with
  | none => rfl
  | some entry => simp [CacheEntry.isLive, lasting.entries key entry found]

theorem isLasting_write (lasting : cache.IsLasting) (now : Nat) (key value : String) :
    (cache.write now key value).IsLasting := by
  refine ⟨lasting.isOpen, lasting.lifetime, fun other entry found => ?_⟩
  by_cases same : key = other
  · subst same
    simp only [write, Keyed.find?_insert_self, Option.some.injEq] at found
    rw [← found, lasting.lifetime]
    rfl
  · simp only [write, Keyed.find?_insert_of_ne _ _ same] at found
    exact lasting.entries other entry found

theorem live?_write_of_isLasting (lasting : cache.IsLasting) (written now : Nat)
    (key value : String) : (cache.write written key value).live? now key = some value := by
  rw [live?_write_self, lasting.lifetime]
  rfl

end Cache

/-! ## Runs -/

namespace Scene

variable {service : Service} {start scene : Scene} {moves : List Move} {move : Move} {i : Nat}
  {kind id key text : String}

/-- A move that is no call of the cache leaves the cache as it is. -/
theorem cache_step (service : Service) (scene : Scene) (move : Move) :
    (scene.step service move).cache = scene.cache ∨
      ∃ i call, move = .proceed i ∧ scene.next? i = some (.cache call) ∧
        (scene.step service move).cache = (scene.cache.answer scene.now call).2 := by
  generalize found : scene.step service move = after
  have effect := effect_step service scene move
  rw [found] at effect
  cases effect with
  | begin => exact .inl rfl
  | @call i task next resume there rest =>
    cases next with
    | store call => exact .inl rfl
    | cache call => exact .inr ⟨i, call, rfl, next?_of_rest there rest, rfl⟩
  | fail => exact .inl rfl
  | quit => exact .inl rfl
  | idle => exact .inl rfl

theorem cache_proceed {call : CacheCall} (asked : scene.next? i = some (.cache call)) :
    (scene.step service (.proceed i)).cache = (scene.cache.answer scene.now call).2 :=
  (proceed_of_next? asked).2.1

/-- A move leaves an open cache as it is but for the statistics, or writes an entry: by a `set`, or by
a `setIfAbsent` of an empty key. -/
theorem cache_step_of_isOpen (fresh : start.tasks = [])
    (isOpen : (start.run service moves).cache.closed = false) (move : Move) :
    (∃ stats, (start.run service (moves ++ [move])).cache =
      { (start.run service moves).cache with stats := stats }) ∨
    ∃ i key text, move = .proceed i ∧
      ((start.run service moves).next? i = some (.cache (.set key text)) ∨
        (start.run service moves).next? i = some (.cache (.setIfAbsent key text)) ∧
          (start.run service moves).cache.live? (start.run service moves).now key = none) ∧
      (start.run service (moves ++ [move])).cache =
        (start.run service moves).cache.write (start.run service moves).now key text := by
  rw [run_snoc]
  rcases cache_step service (start.run service moves) move with same | ⟨i, call, rfl, asked, same⟩
  · exact .inl ⟨_, same⟩
  · obtain ⟨task, -, turn⟩ := turn_of_asked fresh asked
    rw [Cache.answer_of_isOpen isOpen] at same
    rw [same]
    generalize start.transcript service i moves = log at turn
    cases turn with
    | peek => exact .inl ⟨_, rfl⟩
    | replace | refresh | bury => exact .inr ⟨i, _, _, rfl, .inl asked, rfl⟩
    | fill =>
      simp only [Cache.answerOpen]
      split
      · exact .inl ⟨_, rfl⟩
      · next absent => exact .inr ⟨i, _, _, rfl, .inr ⟨asked, by simpa using absent⟩, rfl⟩

/-- A cache that is open stays open, and lets its entries live as long as before. -/
theorem isOpen_run (service : Service) (fresh : start.tasks = [])
    (isOpen : start.cache.closed = false) (moves : List Move) :
    (start.run service moves).cache.closed = false ∧
      (start.run service moves).cache.lifetime = start.cache.lifetime := by
  induction moves using List.reverseRecOn with
  | nil => exact ⟨isOpen, rfl⟩
  | append_singleton moves move ih =>
    rcases cache_step_of_isOpen fresh ih.1 move with ⟨stats, same⟩ | ⟨_, _, _, -, -, same⟩
    · rw [same]
      exact ih
    · rw [same]
      exact ih

/-- A move changes the entries of the cache by a `set`, or by a `setIfAbsent` of an empty key. -/
theorem writes_of_step (fresh : start.tasks = []) (lasting : (start.run service moves).cache.IsLasting)
    (move : Move) :
    ((start.run service (moves ++ [move])).cache.entries =
        (start.run service moves).cache.entries ∧
      (start.run service (moves ++ [move])).cache.IsLasting) ∨
    ∃ i key text, move = .proceed i ∧
      ((start.run service moves).next? i = some (.cache (.set key text)) ∨
        (start.run service moves).next? i = some (.cache (.setIfAbsent key text)) ∧
          (start.run service moves).cache.live? (start.run service moves).now key = none) ∧
      (start.run service (moves ++ [move])).cache =
        (start.run service moves).cache.write (start.run service moves).now key text := by
  refine (cache_step_of_isOpen fresh lasting.isOpen move).imp_left ?_
  rintro ⟨stats, same⟩
  rw [same]
  exact ⟨rfl, lasting.isOpen, lasting.lifetime, lasting.entries⟩

/-- A cache whose entries do not expire stays so. -/
theorem isLasting_run (service : Service) (fresh : start.tasks = []) (lasting : start.cache.IsLasting)
    (moves : List Move) : (start.run service moves).cache.IsLasting := by
  induction moves using List.reverseRecOn with
  | nil => exact lasting
  | append_singleton moves move ih =>
    rcases writes_of_step fresh ih move with ⟨-, kept⟩ | ⟨_, _, _, -, -, same⟩
    · exact kept
    · rw [same]
      exact Cache.isLasting_write ih _ _ _

theorem held?_eq (lasting : scene.cache.IsLasting) :
    scene.held? kind id =
      (scene.cache.entries.find? (Record.cacheKey kind id)).map CacheEntry.value :=
  Cache.live?_of_isLasting lasting _ _

/-- After a `set` of a key, the key holds the text. -/
theorem held?_of_set (fresh : start.tasks = []) (lasting : start.cache.IsLasting)
    (asked : (start.run service moves).next? i =
      some (.cache (.set (Record.cacheKey kind id) text))) :
    (start.run service (moves ++ [.proceed i])).held? kind id = some text := by
  have before := isLasting_run service fresh lasting moves
  rw [run_snoc, held?, cache_proceed asked, Cache.answer_of_isOpen before.isOpen]
  exact Cache.live?_write_of_isLasting before _ _ _ _

/-- A move leaves the text that is held for a record, or writes it. -/
theorem held?_step (fresh : start.tasks = []) (lasting : start.cache.IsLasting)
    (moves : List Move) (move : Move) (kind id : String) :
    (start.run service (moves ++ [move])).held? kind id =
        (start.run service moves).held? kind id ∨
      ∃ i text, move = .proceed i ∧
        (start.run service (moves ++ [move])).held? kind id = some text ∧
        ((start.run service moves).next? i =
            some (.cache (.set (Record.cacheKey kind id) text)) ∨
          (start.run service moves).next? i =
              some (.cache (.setIfAbsent (Record.cacheKey kind id) text)) ∧
            (start.run service moves).held? kind id = none) := by
  have before := isLasting_run service fresh lasting moves
  have after := isLasting_run service fresh lasting (moves ++ [move])
  rw [held?_eq before, held?_eq after]
  rcases writes_of_step fresh before move with ⟨same, -⟩ | ⟨i, key, text, rfl, asked, same⟩
  · rw [same]
    exact .inl rfl
  · rw [same, Cache.write]
    by_cases here : key = Record.cacheKey kind id
    · subst here
      refine .inr ⟨i, text, rfl, by rw [Keyed.find?_insert_self]; rfl, ?_⟩
      rwa [Cache.live?_of_isLasting before] at asked
    · rw [Keyed.find?_insert_of_ne _ _ here]
      exact .inl rfl

/-! ## Who writes an entry -/

/-- A task that sets a key leaves a tombstone, tells what it has written, or replaces a text that
is no record. -/
theorem cases_of_set (fresh : start.tasks = [])
    (asked : (start.run service moves).next? i = some (.cache (.set key text))) :
    ∃ schema id, service.Serves schema ∧ key = Record.cacheKey schema.kind id ∧
      (text = CacheAside.tombstoneText ∨
        (∃ (record : Record) (call : StoreCall) (reply : call.Reply), record.id = id ∧
          text = record.text ∧ .store call reply ∈ start.transcript service i moves ∧
          call.stored? reply = some (schema.kind, record)) ∨
        ∃ (reply : Except CacheError (Option String)),
          .cache (.get key) reply ∈ start.transcript service i moves ∧
          CacheLookup.ofReply reply = .corrupt) := by
  obtain ⟨task, -, turn⟩ := turn_of_asked fresh asked
  generalize called : Call.cache (.set key text) = call at turn
  generalize start.transcript service i moves = log at turn ⊢
  cases turn with
  | bury served =>
    cases called
    exact ⟨_, _, served, rfl, .inl rfl⟩
  | refresh served wrote stored =>
    cases called
    exact ⟨_, _, served, rfl, .inr (.inl ⟨_, _, _, rfl, rfl, wrote, stored⟩)⟩
  | replace served seen corrupt =>
    cases called
    exact ⟨_, _, served, rfl, .inr (.inr ⟨_, seen, corrupt⟩)⟩
  | _ => cases called

/-- A task that fills a key does it with a record that it was shown. -/
theorem shows_of_setIfAbsent (fresh : start.tasks = [])
    (asked : (start.run service moves).next? i = some (.cache (.setIfAbsent key text))) :
    ∃ schema id record exchange, service.Serves schema ∧ key = Record.cacheKey schema.kind id ∧
      text = record.text ∧ exchange ∈ start.transcript service i moves ∧
      Shows schema id record exchange := by
  obtain ⟨task, -, turn⟩ := turn_of_asked fresh asked
  generalize called : Call.cache (.setIfAbsent key text) = call at turn
  generalize start.transcript service i moves = log at turn ⊢
  cases turn with
  | fill served seen shows =>
    cases called
    exact ⟨_, _, _, _, served, rfl, rfl, seen, shows⟩
  | _ => cases called

/-- A look-up of a key is answered with what the key holds. -/
theorem answer_get (isOpen : scene.cache.closed = false) (kind id : String) :
    (scene.answer (.cache (.get (Record.cacheKey kind id)))).1 = .ok (scene.held? kind id) := by
  simp only [answer, Cache.answer_of_isOpen isOpen, Cache.answerOpen]
  rfl

theorem reply_of_get (isOpen : scene.cache.closed = false) {next : Call}
    {reply : Except CacheError (Option String)}
    (made : scene.exchange next = .cache (.get (Record.cacheKey kind id)) reply) :
    next = .cache (.get (Record.cacheKey kind id)) ∧ reply = .ok (scene.held? kind id) := by
  obtain rfl : next = .cache (.get (Record.cacheKey kind id)) := congrArg Exchange.call made
  have answered := eq_of_heq (Exchange.mk.inj made).2
  exact ⟨rfl, answered.symm.trans (answer_get isOpen kind id)⟩

/-- A look-up of a key is answered with what the key holds, or fails. -/
theorem cases_of_get (isOpen : scene.cache.closed = false) {move : Move}
    {reply : Except CacheError (Option String)}
    (took : scene.exchange? i move = some (.cache (.get (Record.cacheKey kind id)) reply)) :
    (move = .proceed i ∧ scene.next? i = some (.cache (.get (Record.cacheKey kind id))) ∧
        reply = .ok (scene.held? kind id)) ∨
      ∃ error, move = .fail i error ∧ reply = .error error := by
  rcases exchange?_cases took with ⟨next, rfl, asked, made⟩ | ⟨_, error, rfl, -, made⟩
  · obtain ⟨rfl, answered⟩ := reply_of_get isOpen made.symm
    exact .inl ⟨rfl, asked, answered⟩
  · cases made
    exact .inr ⟨error, rfl, rfl⟩

/-- A look-up of a key was answered with what the key held. -/
theorem held?_of_get (fresh : start.tasks = []) (lasting : start.cache.IsLasting)
    (plain : ∀ move ∈ moves, move.isPlain = true) {reply : Except CacheError (Option String)}
    (member : .cache (.get (Record.cacheKey kind id)) reply ∈ start.transcript service i moves) :
    ∃ earlier later, moves = earlier ++ .proceed i :: later ∧
      (start.run service earlier).next? i =
        some (.cache (.get (Record.cacheKey kind id))) ∧
      reply = .ok ((start.run service earlier).held? kind id) := by
  obtain ⟨before, after, found⟩ := List.append_of_mem member
  obtain ⟨earlier, move, later, rfl, -, took⟩ := moves_of_transcript found
  have plainMove := plain move (List.mem_append_right _ (List.mem_cons_self ..))
  rcases cases_of_get (isLasting_run service fresh lasting earlier).isOpen took with
    ⟨rfl, asked, answered⟩ | ⟨error, rfl, -⟩
  · exact ⟨earlier, later, rfl, asked, answered⟩
  · cases plainMove

/-! ## How reads are answered -/

/-- How a read of a record in a run came to its answer: it was refused before any call, it found a
record in the cache, or it looked the record up in the store. -/
inductive ReadsFrom (service : Service) (start : Scene) (caller : Option Principal) (kind id : String)
    (moves : List Move) (i : Nat) : Except ServiceError Delivery → Prop
  | refused {error : ServiceError}
      (refusal : service.registry.authorize kind .read = .error error ∨
        (∃ schema, service.registry.authorize kind .read = .ok schema) ∧
          Service.requireId id = .error error) :
      ReadsFrom service start caller kind id moves i (.error error)
  | cache {schema : Schema} {text : String} {record : Record} {earlier later : List Move}
      (granted : service.registry.authorize kind .read = .ok schema)
      (named : Service.requireId id = .ok ()) (split : moves = earlier ++ .proceed i :: later)
      (asked : (start.run service earlier).next? i =
        some (.cache (.get (Record.cacheKey schema.kind id))))
      (held : (start.run service earlier).held? schema.kind id = some text)
      (decoded : CacheAside.decodeEntry text = .record record) :
      ReadsFrom service start caller kind id moves i
        ((Service.readAnswer schema caller (.ok record)).map .one)
  | store {schema : Schema} {earlier later : List Move}
      (granted : service.registry.authorize kind .read = .ok schema)
      (named : Service.requireId id = .ok ()) (split : moves = earlier ++ .proceed i :: later)
      (asked : (start.run service earlier).next? i = some (.store (.findOne schema id))) :
      ReadsFrom service start caller kind id moves i
        ((Service.readAnswer schema caller
          (match (start.run service earlier).row? schema.kind id with
          | some record => .ok record
          | none => .error (.notFound schema.kind id))).map .one)

/-- A read that has returned was refused, or has read from the cache or from the store. -/
theorem readsFrom_of_done (fresh : start.tasks = []) (lasting : start.cache.IsLasting)
    (plain : ∀ move ∈ moves, move.isPlain = true) {caller : Option Principal}
    {outcome : Except ServiceError Delivery}
    (there : (start.run service moves).tasks[i]? = some ⟨caller, .read kind id, .done outcome⟩) :
    ReadsFrom service start caller kind id moves i outcome := by
  have stage := stage_of_plain fresh plain there
  generalize logged : start.transcript service i moves = log at stage
  generalize returned : Program.done outcome = rest at stage
  cases stage with
  | read stage =>
    cases stage with
    | refused refusal =>
      cases returned
      exact .refused refusal
    | @fetching schema _ _ granted named stage =>
      cases stage with
      | hit found =>
        cases returned
        obtain ⟨earlier, later, split, asked, answered⟩ :=
          held?_of_get fresh lasting plain (logged ▸ List.mem_singleton.2 rfl)
        obtain ⟨text, rfl, decoded⟩ := CacheLookup.exists_of_ofReply found nofun
        exact .cache granted named split asked (Except.ok.inj answered).symm decoded
      | missing =>
        cases returned
        obtain ⟨earlier, later, split, asked, failed⟩ := moves_of_mem_transcript
          (logged ▸ List.mem_append_right _ (List.mem_singleton.2 rfl))
        obtain ⟨absent, rfl⟩ := Store.findOne_eq_error failed.symm
        have looked : ReadsFrom service start caller kind id moves i _ :=
          .store granted named split asked
        rwa [row?, absent] at looked
      | fetched =>
        cases returned
        obtain ⟨earlier, later, split, asked, found⟩ :=
          row?_of_found (logged ▸ List.mem_append_right _ (List.mem_cons_self ..))
        have looked : ReadsFrom service start caller kind id moves i _ :=
          .store granted named split asked
        rwa [found] at looked
      | _ => cases returned

end Scene

end RecordAccess
