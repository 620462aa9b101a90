import RecordAccess.Proofs.Entries
import RecordAccess.Proofs.RecordText

/-!
# One writer, many readers

When the writes of a record are made one at a time, a read that begins after a write has returned
never answers with anything older than that write, however the calls of other reads and queries
fall in between.

The invariant (`Scene.Coherent`) says two things. A text that the cache holds for the record is a
tombstone or the text of a record that is recent: since it was stored, no write has both taken
effect and returned. And as long as the cache holds nothing, no write has returned, so that
whatever a stalled read may still fill in is recent. The last call of every write leaves a
tombstone or the text of what is stored at that time (`Scene.closing_of_return`), so that from
then on nothing older is there and nothing can be filled in.
-/

namespace RecordAccess

namespace Scene

/-- The writes of a record are made one at a time: when one takes effect, those before it have
returned. In particular it is so if each of them begins after those before it have returned. -/
def OneAtATime (service : Service) (start : Scene) (kind id : String) (moves : List Move) : Prop :=
  ∀ first i middle j last, moves = first ++ .proceed i :: (middle ++ .proceed j :: last) →
    WritesAt service start kind id first i →
    WritesAt service start kind id (first ++ .proceed i :: middle) j →
    (start.run service (first ++ .proceed i :: middle)).outcome? i ≠ none

/-- What was stored at some moment of a run, if since then no write has taken effect and
returned. -/
def IsRecent (service : Service) (start : Scene) (kind id : String) (moves : List Move)
    (row : Option Record) : Prop :=
  ∃ earlier later, moves = earlier ++ later ∧ (start.run service earlier).row? kind id = row ∧
    ∀ first i last, later = first ++ .proceed i :: last →
      WritesAt service start kind id (earlier ++ first) i →
      (start.run service moves).outcome? i = none

/-- Whatever is stored of a record in a run is read back from its own text. -/
def ReadsBack (service : Service) (start : Scene) (kind id : String) (moves : List Move) : Prop :=
  ∀ earlier later row, moves = earlier ++ later →
    (start.run service earlier).row? kind id = some row →
    CacheAside.decodeEntry row.text = .record row

/-- What the cache holds for a record is recent, and it holds something once a write has
returned. -/
structure Coherent (service : Service) (start : Scene) (kind id : String)
    (moves : List Move) : Prop where
  recent : ∀ text, (start.run service moves).held? kind id = some text →
    text = CacheAside.tombstoneText ∨
      ∃ row : Record, text = row.text ∧ IsRecent service start kind id moves (some row)
  held : (start.run service moves).held? kind id = none →
    ∀ before i after, moves = before ++ .proceed i :: after →
      WritesAt service start kind id before i → (start.run service moves).outcome? i = none

variable {service : Service} {start : Scene} {kind id : String} {moves : List Move} {i : Nat}

/-! ## Writes and outcomes -/

/-- A write that has taken effect is in the transcript. -/
theorem mem_transcript_of_writesAt {before : List Move}
    (writes : WritesAt service start kind id before i) (after : List Move) :
    ∃ call, (start.run service before).next? i = some (.store call) ∧
      call.written? ((start.run service before).store.answer call).1 = some (kind, id) ∧
      .store call ((start.run service before).store.answer call).1 ∈
        start.transcript service i (before ++ .proceed i :: after) := by
  obtain ⟨j, call, same, asked, written⟩ := written?_eq_some writes
  cases same
  refine ⟨call, asked, written, ?_⟩
  rw [transcript_append, transcript, exchange?, if_pos rfl, asked]
  simp [exchange, answer, Exchange.store]

theorem OneAtATime.of_append {first later : List Move}
    (serial : OneAtATime service start kind id (first ++ later)) :
    OneAtATime service start kind id first := by
  rintro front i middle j last rfl
  exact serial front i middle j (last ++ later) (by simp)

/-- Where no more than one move writes a record, its writes are made one at a time. -/
theorem oneAtATime_of_single {n : Nat}
    (single : ∀ m < moves.length, m ≠ n →
      moves[m]?.bind (start.run service (moves.take m)).written? ≠ some (kind, id)) :
    OneAtATime service start kind id moves := by
  have position : ∀ first i last, moves = first ++ .proceed i :: last →
      WritesAt service start kind id first i → first.length = n := by
    rintro first i last rfl writes
    refine Decidable.byContradiction fun other => single first.length (by simp) other ?_
    rw [List.getElem?_append_right (Nat.le_refl _), Nat.sub_self, List.take_left]
    exact writes
  intro first i middle j last split writes again
  have before := position first i _ split writes
  have after := position (first ++ .proceed i :: middle) j last (by simpa using split) again
  rw [List.length_append, List.length_cons] at after
  omega

/-- Until a write returns, the record stays as the write has left it. -/
theorem row?_of_unreturned {before after : List Move}
    (serial : OneAtATime service start kind id (before ++ .proceed i :: after))
    (writes : WritesAt service start kind id before i)
    (unreturned : (start.run service (before ++ .proceed i :: after)).outcome? i = none) :
    (start.run service (before ++ .proceed i :: after)).row? kind id =
      (start.run service (before ++ [.proceed i])).row? kind id := by
  have split : before ++ .proceed i :: after = (before ++ [.proceed i]) ++ after := by simp
  rw [split]
  refine row?_of_unwritten ?_
  rintro first j last rfl again
  have same : before ++ [.proceed i] ++ first = before ++ .proceed i :: first := by simp
  rw [same] at again
  have returned := serial before i first j last rfl writes again
  refine outcome?_ne_none returned (.proceed j :: last) ?_
  simpa using unreturned

/-- As long as a write has not returned, nothing that is recent has a later revision than what the
write left behind. -/
theorem revision_le_of_isRecent {before after : List Move} {call : StoreCall}
    {record row : Record}
    (serial : OneAtATime service start kind id (before ++ .proceed i :: after))
    (asked : (start.run service before).next? i = some (.store call))
    (stored : call.stored? ((start.run service before).store.answer call).1 = some (kind, record))
    (revisioned : call.schema.revisioned = true) (named : record.id = id)
    (unreturned : (start.run service (before ++ .proceed i :: after)).outcome? i = none)
    (recent : IsRecent service start kind id (before ++ .proceed i :: after) (some row)) :
    row.revision ≤ record.revision := by
  subst named
  have writes : WritesAt service start kind record.id before i := by
    rw [WritesAt, written?_proceed asked]
    exact StoreCall.written?_of_stored? stored
  obtain ⟨earlier, later, split, there, unfinished⟩ := recent
  rcases List.append_eq_append_iff.1 split with ⟨since, rfl, rest⟩ | ⟨since, rfl, rest⟩
  · cases since with
    | nil =>
      -- It was stored right before the write.
      rw [List.append_nil] at there
      exact Int.le_of_lt (Store.revision_lt_of_stored? stored revisioned there)
    | cons move since =>
      -- It was stored after the write, and is what the write left behind.
      obtain ⟨rfl, rfl⟩ := List.cons.inj rest
      rw [split] at serial unreturned
      have still : (start.run service (before ++ .proceed i :: since)).outcome? i = none :=
        Decidable.byContradiction fun returned => outcome?_ne_none returned later unreturned
      rw [row?_of_unreturned serial.of_append writes still, run_snoc,
        row?_of_stored? asked stored] at there
      cases there
      exact Int.le_refl _
  · -- It was stored before the write, and nothing was written in between: such a write would have
    -- returned when this one took effect.
    have unwritten : ∀ first j last, since = first ++ .proceed j :: last →
        ¬WritesAt service start kind record.id (earlier ++ first) j := by
      rintro first j last rfl again
      have before_it := serial (earlier ++ first) j last i after (by simp) again
        (by simpa using writes)
      refine outcome?_ne_none before_it (.proceed i :: after) ?_
      have := unfinished first j (last ++ .proceed i :: after) (by rw [rest]; simp) again
      simpa using this
    rw [← row?_of_unwritten unwritten] at there
    exact Int.le_of_lt (Store.revision_lt_of_stored? stored revisioned there)

/-! ## How a write returns -/

section Plain

variable (fresh : start.tasks = []) (enabled : service.aside.enabled = true)

include fresh enabled

/-- The transcript of a task that has written a record and returned ends with the exchange that closes
the write. -/
theorem closing_of_returned {before after : List Move} {call : StoreCall}
    (plain : ∀ move ∈ before ++ .proceed i :: after, move.isPlain = true)
    (asked : (start.run service before).next? i = some (.store call))
    (written : call.written? ((start.run service before).store.answer call).1 = some (kind, id))
    (returned : (start.run service (before ++ .proceed i :: after)).outcome? i ≠ none) :
    ∃ front last,
      start.transcript service i (before ++ .proceed i :: after) = front ++ [last] ∧
      Closing call ((start.run service before).store.answer call).1 last := by
  have writes : WritesAt service start kind id before i := by
    rwa [WritesAt, written?_proceed asked]
  obtain ⟨again, askedAgain, -, wrote⟩ := mem_transcript_of_writesAt writes after
  cases asked.symm.trans askedAgain
  obtain ⟨outcome, finished⟩ := Option.ne_none_iff_exists'.1 returned
  obtain ⟨task, there, rest⟩ := outcome?_eq_some.1 finished
  obtain ⟨front, last, same, -, closing⟩ :=
    closing_of_done (stage_of_plain fresh plain there) enabled rest wrote written
  exact ⟨front, last, same, closing⟩

/-- A task does not return with the call that writes. -/
theorem outcome?_of_writesAt (plain : ∀ move ∈ moves, move.isPlain = true)
    (writes : WritesAt service start kind id moves i) :
    (start.run service (moves ++ [.proceed i])).outcome? i = none := by
  refine Decidable.byContradiction fun returned => ?_
  have allPlain : ∀ move ∈ moves ++ [.proceed i], move.isPlain = true :=
    List.forall_mem_append.2 ⟨plain, List.forall_mem_singleton.2 rfl⟩
  obtain ⟨call, asked, written, -⟩ := mem_transcript_of_writesAt writes []
  obtain ⟨front, last, same, closing⟩ :=
    closing_of_returned fresh enabled allPlain asked written returned
  rw [transcript_snoc, exchange?, if_pos rfl, asked] at same
  obtain ⟨-, final⟩ := List.append_inj' same rfl
  cases final
  cases closing

/-- A write that has taken effect returns with a call that closes it. -/
theorem closing_of_return {before after : List Move} {move : Move}
    (plain : ∀ m ∈ before ++ .proceed i :: after ++ [move], m.isPlain = true)
    {call : StoreCall} (asked : (start.run service before).next? i = some (.store call))
    (written : call.written? ((start.run service before).store.answer call).1 = some (kind, id))
    (unreturned : (start.run service (before ++ .proceed i :: after)).outcome? i = none)
    (returned : (start.run service (before ++ .proceed i :: after ++ [move])).outcome? i ≠ none) :
    ∃ next, move = .proceed i ∧
      (start.run service (before ++ .proceed i :: after)).next? i = some next ∧
      Closing call ((start.run service before).store.answer call).1
        ((start.run service (before ++ .proceed i :: after)).exchange next) := by
  have plainMove : move.isPlain = true :=
    plain move (List.mem_append_right _ (List.mem_singleton.2 rfl))
  have whole : before ++ .proceed i :: after ++ [move] = before ++ .proceed i :: (after ++ [move]) :=
    List.append_assoc ..
  cases taken : (start.run service (before ++ .proceed i :: after)).exchange? i move with
  | none =>
    -- Without an exchange the task would be as it was.
    obtain ⟨first, -, present, -⟩ := task_of_next? asked
    obtain ⟨left, present, -⟩ := task_run service present (.proceed i :: after)
    rw [← run_append] at present
    have kept : move ≠ .quit i := by
      rintro rfl
      cases plainMove
    have still := task_step_of_silent service present taken kept
    rw [← run_snoc] at still
    refine absurd ?_ returned
    rw [outcome?, still, ← present]
    exact unreturned
  | some exchange =>
    obtain ⟨front, last, same, closing⟩ :=
      closing_of_returned fresh enabled (whole ▸ plain) asked written (whole ▸ returned)
    rw [← whole, transcript_snoc, taken] at same
    obtain ⟨-, final⟩ := List.append_inj' same rfl
    cases final
    rcases exchange?_cases taken with ⟨next, rfl, askedNow, rfl⟩ | ⟨_, _, rfl, -, -⟩
    · exact ⟨next, rfl, askedNow, closing⟩
    · cases plainMove

end Plain

/-! ## One move -/

theorem ReadsBack.of_append {first later : List Move}
    (readsBack : ReadsBack service start kind id (first ++ later)) :
    ReadsBack service start kind id first := by
  rintro earlier rest row rfl there
  exact readsBack earlier (rest ++ later) row (by simp) there

/-- Where a list of moves is given in full, what is stored can be checked position by position. -/
theorem readsBack_of_rows (rows : ∀ n ≤ moves.length,
    ((start.run service (moves.take n)).row? kind id).all
      (fun row => CacheAside.decodeEntry row.text = .record row) = true) :
    ReadsBack service start kind id moves := by
  intro earlier later row split there
  have found := rows earlier.length (by rw [split]; simp)
  rw [split, List.take_left, there] at found
  simpa using found

theorem isRecent_now (row : Option Record) (there : (start.run service moves).row? kind id = row) :
    IsRecent service start kind id moves row :=
  ⟨moves, [], (List.append_nil moves).symm, there, fun first _ _ split => by simp at split⟩

/-- What a look-up finds under the key of a record, as long as the cache is coherent, is a tombstone
or a record that is recent. -/
theorem Coherent.of_held {text : String} (coherent : Coherent service start kind id moves)
    (readsBack : ReadsBack service start kind id moves)
    (found : (start.run service moves).held? kind id = some text) :
    CacheAside.decodeEntry text = .tombstone ∨
      ∃ row, CacheAside.decodeEntry text = .record row ∧
        IsRecent service start kind id moves (some row) := by
  rcases coherent.recent text found with rfl | ⟨row, rfl, recent⟩
  · exact .inl rfl
  · have readBack : CacheAside.decodeEntry row.text = .record row := by
      obtain ⟨earlier, later, split, there, -⟩ := recent
      exact readsBack earlier later row split there
    exact .inr ⟨row, readBack, recent⟩

theorem coherent_of_held {text : String}
    (found : (start.run service moves).held? kind id = some text)
    (recent : text = CacheAside.tombstoneText ∨
      ∃ row : Record, text = row.text ∧ IsRecent service start kind id moves (some row)) :
    Coherent service start kind id moves := by
  refine ⟨fun other same => ?_, fun empty => ?_⟩
  · cases found.symm.trans same
    exact recent
  · cases found.symm.trans empty

section Move

variable (built : service.registry.IsBuilt) (colonFree : service.registry.IsColonFree)
  (plainKind : ':' ∉ kind.toList) (enabled : service.aside.enabled = true)
  (fresh : start.tasks = []) (lasting : start.cache.IsLasting)

include enabled fresh lasting

/-- After the move with which a write returns, the cache is coherent: it holds a tombstone or what is
stored. -/
theorem coherent_of_return {before after : List Move} {move : Move}
    (plain : ∀ m ∈ before ++ .proceed i :: after ++ [move], m.isPlain = true)
    (serial : OneAtATime service start kind id (before ++ .proceed i :: after ++ [move]))
    (readsBack : ReadsBack service start kind id (before ++ .proceed i :: after ++ [move]))
    (coherent : Coherent service start kind id (before ++ .proceed i :: after))
    (writes : WritesAt service start kind id before i)
    (unreturned : (start.run service (before ++ .proceed i :: after)).outcome? i = none)
    (returned : (start.run service (before ++ .proceed i :: after ++ [move])).outcome? i ≠ none) :
    Coherent service start kind id (before ++ .proceed i :: after ++ [move]) := by
  obtain ⟨call, asked, written, -⟩ := mem_transcript_of_writesAt writes after
  obtain ⟨next, rfl, askedNow, closing⟩ :=
    closing_of_return fresh enabled plain asked written unreturned returned
  generalize made : (start.run service (before ++ .proceed i :: after)).exchange next = exchange
    at closing
  have called := congrArg Exchange.call made
  cases closing with
  | bury again =>
    obtain rfl : next = _ := called
    cases written.symm.trans again
    exact coherent_of_held (held?_of_set fresh lasting askedNow) (.inl rfl)
  | @refresh _ record _ stored =>
    obtain rfl : next = _ := called
    cases written.symm.trans (StoreCall.written?_of_stored? stored)
    have there : (start.run service (before ++ .proceed i :: after ++ [.proceed i])).row? kind
        record.id = some record := by
      rw [run_snoc, row?_step_of_ne (by rw [written?_of_cache askedNow]; exact nofun),
        row?_of_unreturned serial.of_append writes unreturned, run_snoc,
        row?_of_stored? asked stored]
    exact coherent_of_held (held?_of_set fresh lasting askedNow)
      (.inr ⟨record, rfl, isRecent_now _ there⟩)
  | @keep _ record cached found stored revisioned seen later =>
    cases written.symm.trans (StoreCall.written?_of_stored? stored)
    -- What it found would be recent, and so of no later revision.
    obtain ⟨rfl, answered⟩ := reply_of_get (isLasting_run service fresh lasting _).isOpen made
    obtain ⟨text, rfl, decoded⟩ := CacheLookup.exists_of_ofReply seen nofun
    rcases coherent.of_held readsBack.of_append (Except.ok.inj answered).symm with
      tombstone | ⟨row, same, recent⟩
    · cases decoded.symm.trans tombstone
    · cases decoded.symm.trans same
      have notLater := revision_le_of_isRecent serial.of_append asked stored revisioned rfl
        unreturned recent
      exact absurd later (Int.not_lt.2 notLater)

/-- No write returns with a move. -/
def IsQuiet (service : Service) (start : Scene) (kind id : String) (moves : List Move)
    (move : Move) : Prop :=
  ∀ before i after, moves = before ++ .proceed i :: after →
    WritesAt service start kind id before i → (start.run service moves).outcome? i = none →
    (start.run service (moves ++ [move])).outcome? i = none

omit lasting in
/-- If no write has returned so far, then after a move with which none returns, none has. -/
theorem unreturned_snoc (earlier later : List Move) {move : Move}
    (plain : ∀ m ∈ earlier ++ later, m.isPlain = true)
    (quiet : IsQuiet service start kind id (earlier ++ later) move)
    (unreturned : ∀ first i last, later = first ++ .proceed i :: last →
      WritesAt service start kind id (earlier ++ first) i →
      (start.run service (earlier ++ later)).outcome? i = none)
    {first last : List Move} (split : later ++ [move] = first ++ .proceed i :: last)
    (writes : WritesAt service start kind id (earlier ++ first) i) :
    (start.run service (earlier ++ later ++ [move])).outcome? i = none := by
  rcases List.eq_nil_or_concat last with rfl | ⟨front, final, rfl⟩
  · obtain ⟨rfl, same⟩ := List.append_inj' split rfl
    cases same
    exact outcome?_of_writesAt fresh enabled plain writes
  · rw [List.concat_eq_append, ← List.cons_append, ← List.append_assoc] at split
    obtain ⟨rfl, -⟩ := List.append_inj' split rfl
    exact quiet (earlier ++ first) i front (by simp) writes (unreturned first i front rfl writes)

include built colonFree plainKind in
omit enabled in
/-- What a task sets the key of a record to is a tombstone or recent, if the cache was always coherent. -/
theorem recent_of_set (plain : ∀ m ∈ moves, m.isPlain = true)
    (serial : OneAtATime service start kind id moves)
    (readsBack : ReadsBack service start kind id moves)
    (coherent : ∀ earlier later, moves = earlier ++ later →
      Coherent service start kind id earlier) {text : String}
    (asked : (start.run service moves).next? i =
      some (.cache (.set (Record.cacheKey kind id) text))) :
    text = CacheAside.tombstoneText ∨ ∃ row : Record, text = row.text ∧
      IsRecent service start kind id (moves ++ [.proceed i]) (some row) := by
  obtain ⟨schema, name, served, same, cases⟩ := cases_of_set fresh asked
  obtain ⟨rfl, rfl⟩ := cacheKey_inj plainKind (served.colonFree built colonFree) same
  rcases cases with tombstone | ⟨record, call, reply, rfl, rfl, wrote, stored⟩ |
    ⟨reply, seen, corrupt⟩
  · exact .inl tombstone
  · -- The task has not returned, so what it has written is still stored.
    obtain ⟨before, after, rfl, wroteAt, rfl⟩ := moves_of_mem_transcript wrote
    have writes : WritesAt service start schema.kind record.id before i := by
      rw [WritesAt, written?_proceed wroteAt]
      exact StoreCall.written?_of_stored? stored
    refine .inr ⟨record, rfl, isRecent_now _ ?_⟩
    rw [run_snoc, row?_step_of_ne (by rw [written?_of_cache asked]; exact nofun),
      row?_of_unreturned serial writes (outcome?_of_next? asked), run_snoc,
      row?_of_stored? wroteAt stored]
  · -- It has seen a text that is no record, which was never there.
    obtain ⟨earlier, later, rfl, -, answered⟩ := held?_of_get fresh lasting plain seen
    obtain ⟨other, rfl, decoded⟩ := CacheLookup.exists_of_ofReply corrupt nofun
    rcases (coherent earlier _ rfl).of_held readsBack.of_append (Except.ok.inj answered).symm with
      tombstone | ⟨row, same, -⟩
    · cases decoded.symm.trans tombstone
    · cases decoded.symm.trans same

include built colonFree plainKind in
omit lasting in
/-- What a task fills an empty key with is recent after a move with which no write returns. -/
theorem recent_of_fill (distinct : start.store.Distinct) (plain : ∀ m ∈ moves, m.isPlain = true)
    (coherent : Coherent service start kind id moves)
    (quiet : IsQuiet service start kind id moves (.proceed i)) {text : String}
    (asked : (start.run service moves).next? i =
      some (.cache (.setIfAbsent (Record.cacheKey kind id) text)))
    (empty : (start.run service moves).held? kind id = none) :
    ∃ row : Record, text = row.text ∧
      IsRecent service start kind id (moves ++ [.proceed i]) (some row) := by
  obtain ⟨schema, name, record, exchange, served, same, rfl, seen, shows⟩ :=
    shows_of_setIfAbsent fresh asked
  obtain ⟨rfl, rfl⟩ := cacheKey_inj plainKind (served.colonFree built colonFree) same
  obtain ⟨earlier, later, rfl, there⟩ := row?_of_shows distinct seen shows
  refine ⟨record, rfl, earlier, later ++ [.proceed i], List.append_assoc .., there, ?_⟩
  intro first j last split writes
  refine unreturned_snoc enabled fresh earlier later plain quiet ?_ split writes
  intro first j last split writes
  exact coherent.held empty (earlier ++ first) j last (by simp [split]) writes

include built colonFree plainKind in
/-- After a move with which no write returns, the cache is coherent if it always was. -/
theorem coherent_of_quiet (distinct : start.store.Distinct) {move : Move}
    (plain : ∀ m ∈ moves, m.isPlain = true)
    (serial : OneAtATime service start kind id moves)
    (readsBack : ReadsBack service start kind id moves)
    (coherent : ∀ earlier later, moves = earlier ++ later →
      Coherent service start kind id earlier)
    (quiet : IsQuiet service start kind id moves move) :
    Coherent service start kind id (moves ++ [move]) := by
  have now := coherent moves [] (List.append_nil moves).symm
  rcases held?_step fresh lasting moves move kind id with same | ⟨i, text, rfl, held, asked⟩
  · refine ⟨fun text found => ?_, fun empty before i after split writes => ?_⟩
    · refine (now.recent text (same ▸ found)).imp_right ?_
      rintro ⟨row, rfl, earlier, later, rfl, there, unreturned⟩
      refine ⟨row, rfl, earlier, later ++ [move], List.append_assoc .., there, ?_⟩
      intro first i last split writes
      exact unreturned_snoc enabled fresh earlier later plain quiet unreturned split writes
    · exact unreturned_snoc enabled fresh [] moves plain quiet (now.held (same ▸ empty)) split writes
  refine coherent_of_held held ?_
  rcases asked with set | ⟨fill, empty⟩
  · exact recent_of_set built colonFree plainKind fresh lasting plain serial readsBack coherent set
  · exact .inr (recent_of_fill built colonFree plainKind enabled fresh distinct plain now quiet fill
      empty)

include built colonFree plainKind in
/-- In a run in which the writes of a record are made one at a time, the cache is always coherent. -/
theorem coherent_run (distinct : start.store.Distinct) (empty : start.held? kind id = none)
    (plain : ∀ move ∈ moves, move.isPlain = true)
    (serial : OneAtATime service start kind id moves)
    (readsBack : ReadsBack service start kind id moves) {earlier later : List Move}
    (split : moves = earlier ++ later) : Coherent service start kind id earlier := by
  induction moves using List.reverseRecOn generalizing earlier later with
  | nil =>
    obtain ⟨rfl, rfl⟩ := List.append_eq_nil_iff.1 split.symm
    refine ⟨fun text found => ?_, fun _ before i after split => absurd split (by simp)⟩
    cases empty.symm.trans found
  | append_singleton moves move ih =>
    have plain_before : ∀ m ∈ moves, m.isPlain = true := fun m member =>
      plain m (List.mem_append_left _ member)
    have before : ∀ earlier later, moves = earlier ++ later →
        Coherent service start kind id earlier := fun earlier later split =>
      ih plain_before serial.of_append readsBack.of_append split
    rcases List.eq_nil_or_concat later with rfl | ⟨front, final, rfl⟩
    · rw [List.append_nil] at split
      subst split
      by_cases quiet : IsQuiet service start kind id moves move
      · exact coherent_of_quiet built colonFree plainKind enabled fresh lasting distinct plain_before
          serial.of_append readsBack.of_append before quiet
      · simp only [IsQuiet, not_forall] at quiet
        obtain ⟨first, i, after, rfl, writes, unreturned, returned⟩ := quiet
        exact coherent_of_return enabled fresh lasting plain serial readsBack
          (before _ [] (List.append_nil _).symm) writes unreturned returned
    · rw [List.concat_eq_append, ← List.append_assoc] at split
      exact before earlier front (List.append_inj' split rfl).1

end Move

/-! ## Reads -/

/-- What a read of a record answers, apart from the cache, when a row is stored. -/
def readOutcome (service : Service) (caller : Option Principal) (kind id : String)
    (row : Option Record) : Except ServiceError Delivery :=
  match service.registry.authorize kind .read, Service.requireId id with
  | .error error, _ => .error error
  | .ok _, .error error => .error error
  | .ok schema, .ok _ =>
    match row with
    | some record => (Service.checkAccess schema caller .read record).map fun _ => .one record
    | none => .error (.notFound kind id)

theorem readOutcome_of_refusal {caller : Option Principal} {error : ServiceError}
    (refusal : service.registry.authorize kind .read = .error error ∨
      (∃ schema, service.registry.authorize kind .read = .ok schema) ∧
        Service.requireId id = .error error) (row : Option Record) :
    readOutcome service caller kind id row = .error error := by
  unfold readOutcome
  rcases refusal with refused | ⟨⟨schema, granted⟩, refused⟩
  · rw [refused]
  · rw [granted, refused]

/-- What a read makes of the answer to its fetch is what it answers by the row. -/
theorem readOutcome_of_granted {caller : Option Principal} {schema : Schema}
    (granted : service.registry.authorize schema.kind .read = .ok schema)
    (named : Service.requireId id = .ok ()) (row : Option Record) :
    readOutcome service caller schema.kind id row =
      (Service.readAnswer schema caller (match row with
        | some record => .ok record
        | none => .error (.notFound schema.kind id))).map .one := by
  unfold readOutcome
  rw [granted, named]
  cases row with
  | none => rfl
  | some record =>
    simp only [Service.readAnswer]
    cases Service.checkAccess schema caller .read record <;> rfl

/-- What is recent after a write has returned was stored by the time of the write or later. -/
theorem IsRecent.since {before middle more : List Move} {row : Option Record}
    (recent : IsRecent service start kind id (before ++ .proceed i :: middle ++ more) row)
    (writes : WritesAt service start kind id before i)
    (returned : (start.run service (before ++ .proceed i :: middle)).outcome? i ≠ none) :
    ∃ since rest, middle ++ more = since ++ rest ∧
      (start.run service (before ++ .proceed i :: since)).row? kind id = row := by
  obtain ⟨earlier, later, split, there, unreturned⟩ := recent
  rw [List.append_assoc, List.cons_append] at split
  rcases List.append_eq_append_iff.1 split with ⟨since, rfl, rest⟩ | ⟨between, rfl, rest⟩
  · cases since with
    | nil =>
      refine absurd (unreturned [] i (middle ++ more) rest.symm ?_) (outcome?_ne_none returned more)
      simpa using writes
    | cons move since =>
      obtain ⟨rfl, same⟩ := List.cons.inj rest
      exact ⟨since, later, same, there⟩
  · exact absurd (unreturned between i (middle ++ more) rest writes)
      (outcome?_ne_none returned more)

/-- A read of a record that begins after a write of it has returned answers with what was stored at
some moment from that write on. -/
theorem read_after_write (built : service.registry.IsBuilt)
    (colonFree : service.registry.IsColonFree) (enabled : service.aside.enabled = true)
    (fresh : start.tasks = []) (cleared : start.cache = .empty 0)
    (distinct : start.store.Distinct) {before middle after : List Move}
    {caller : Option Principal}
    (split : moves = before ++ .proceed i :: middle ++ .begin caller (.read kind id) :: after)
    (plain : ∀ move ∈ moves, move.isPlain = true)
    (serial : OneAtATime service start kind id moves)
    (readsBack : ReadsBack service start kind id moves)
    (writes : WritesAt service start kind id before i)
    (returned : (start.run service (before ++ .proceed i :: middle)).outcome? i ≠ none)
    {outcome : Except ServiceError Delivery}
    (answered : (start.run service moves).outcome?
      (start.run service (before ++ .proceed i :: middle)).tasks.length = some outcome) :
    ∃ since rest, moves = before ++ .proceed i :: (since ++ rest) ∧
      outcome = readOutcome service caller kind id
        ((start.run service (before ++ .proceed i :: since)).row? kind id) := by
  have lasting : start.cache.IsLasting := cleared ▸ Cache.isLasting_empty
  have empty : start.held? kind id = none := by
    rw [held?, cleared]
    rfl
  generalize first : before ++ .proceed i :: middle = arrived at split returned answered
  -- The read is the task that has come in last, and makes its calls after it has.
  obtain ⟨⟨asking, ask, left⟩, there, rest⟩ := outcome?_eq_some.1 answered
  change left = .done outcome at rest
  obtain ⟨rfl, rfl⟩ : asking = caller ∧ ask = .read kind id := by
    rw [split] at there
    exact task_of_begin there
  have later : ∀ {earlier after next}, moves =
      earlier ++ .proceed (start.run service arrived).tasks.length :: after →
      (start.run service earlier).next? (start.run service arrived).tasks.length = some next →
      ∃ since, earlier = before ++ .proceed i :: since ∧
        (∃ rest, moves = before ++ .proceed i :: (since ++ rest)) ∧
        ∃ more, since = middle ++ more := by
    intro earlier after next same asked
    obtain ⟨more, rfl⟩ := eq_append_of_next? (Nat.le_refl _) (split.symm.trans same) asked
    subst first
    exact ⟨middle ++ more, by simp, ⟨_, by simpa using same⟩, more, rfl⟩
  subst rest
  cases readsFrom_of_done fresh lasting plain there with
  | refused refusal =>
    refine ⟨middle ++ .begin asking (.read kind id) :: after, [], ?_,
      (readOutcome_of_refusal refusal _).symm⟩
    rw [split, ← first]
    simp
  | @cache schema _ _ _ _ granted named same asked held decoded =>
    obtain rfl := built.kind_eq granted
    obtain ⟨_, rfl, ⟨final, whole⟩, more, rfl⟩ := later same asked
    have served : service.Serves schema := ⟨_, _, granted⟩
    have coherent := coherent_run built colonFree (served.colonFree built colonFree) enabled fresh
      lasting distinct empty plain serial readsBack same
    rcases coherent.of_held (ReadsBack.of_append (same ▸ readsBack)) held with
      tombstone | ⟨row, readBack, recent⟩
    · cases decoded.symm.trans tombstone
    · cases decoded.symm.trans readBack
      rw [← List.cons_append, ← List.append_assoc] at recent
      subst first
      obtain ⟨since, others, together, there⟩ := recent.since writes returned
      refine ⟨since, others ++ final, by rw [whole, together, List.append_assoc], ?_⟩
      rw [readOutcome_of_granted granted named, there]
  | @store schema _ _ granted named same asked =>
    obtain rfl := built.kind_eq granted
    obtain ⟨since, rfl, ⟨final, whole⟩, -⟩ := later same asked
    exact ⟨since, final, whole, (readOutcome_of_granted granted named _).symm⟩

/-- A read looks a note up, which is then deleted, and after that tries to cache what it found. Then
another read of the note comes in. -/
def stalledRead : List Move :=
  [.begin none (.read "note" "1"), .proceed 0, .proceed 0, .begin none (.delete "note" "1"),
    .proceed 1, .proceed 1, .proceed 1, .proceed 1, .proceed 1, .proceed 0,
    .begin none (.read "note" "1"), .proceed 2, .proceed 2]

theorem readsBack_stalledRead : ReadsBack .notes oneNote "note" "1" stalledRead :=
  readsBack_of_rows (by decide +kernel)

/-- The read that comes in after the delete does not find the note, although the stalled read has
tried to cache it. -/
theorem read_after_stalledRead : ∃ since rest,
    stalledRead = stalledRead.take 7 ++ .proceed 1 :: (since ++ rest) ∧
      .error (.notFound "note" "1") = readOutcome .notes none "note" "1"
        ((oneNote.run .notes (stalledRead.take 7 ++ .proceed 1 :: since)).row? "note" "1") := by
  have returned : (oneNote.run .notes (stalledRead.take 7 ++ .proceed 1 ::
      [.proceed 1, .proceed 0])).outcome? 1 = some (.ok (.one ⟨"1", none, 1, []⟩)) := rfl
  have split : stalledRead = stalledRead.take 7 ++ .proceed 1 :: [.proceed 1, .proceed 0] ++
      .begin none (.read "note" "1") :: [.proceed 2, .proceed 2] := rfl
  refine read_after_write Service.isBuilt_notes Service.isColonFree_notes rfl rfl rfl
    distinct_oneNote split (by decide) (@oneAtATime_of_single _ _ _ _ _ 7 (by decide))
    readsBack_stalledRead (by unfold WritesAt; decide) ?_ rfl
  rw [returned]
  exact nofun

end Scene

end RecordAccess
