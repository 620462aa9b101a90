import Mathlib.Data.Finset.Max
import RecordAccess.Proofs.Reads
import RecordAccess.Proofs.Representation

/-!
# Refreshes that commute

Of a revisioned kind, some versions of a record are refreshed in any order, while queries and fetches fill
its key with versions that are no later. The order makes no difference: in the end the key holds the
version of the highest revision among those that were refreshed and what it held at first
(`Backend.refreshes_commute`). Once a version was refreshed, the revision that is cached never falls.

A refresh keeps a later revision, and overwrites everything else: nothing, a tombstone, an earlier record.
A query and a fetch write only where no record is held, so they do nothing any more when a version was
refreshed. What they wrote before may be read as some record, but never as one of another revision than
that of the version that they wrote (`CacheAside.revision_of_decodeEntry`).

Every call is made from beginning to end. None fails and no entry expires, but between two calls the store
may become any other.
-/

namespace RecordAccess

/-- Records of one kind have keys of their own. -/
theorem Record.id_eq_of_cacheKey_eq {kind id other : String}
    (same : Record.cacheKey kind id = Record.cacheKey kind other) : id = other := by
  have letters := congrArg String.toList same
  simp only [cacheKey, String.toList_append, List.append_cancel_left_eq] at letters
  exact String.ext letters

/-! ## Calls -/

/-- What a look-up makes of a text that the cache holds, if it holds one. -/
def CacheLookup.ofHeld (held : Option String) : CacheLookup :=
  .ofReply (.ok held)

/-- A call that refreshes what is cached of a record or fills its key. -/
inductive Visit where
  /-- A version has been stored. -/
  | refresh (version : Record)
  /-- A query has found some records. -/
  | query (filter : CompiledFilter) (found : List Record)
  /-- The record is fetched. -/
  | fetch

namespace Visit

/-- The work of a call. -/
def program (aside : CacheAside) (schema : Schema) (id : String) : Visit → Program Unit
  | refresh version => aside.onCreateOrUpdate schema version
  | query filter found => aside.onFetched schema filter found
  | fetch => (aside.fetchOne schema id).bind fun _ => .done ()

/-- A call brings a version of the record that it may fill the key with: a query without relations has
found it, or it is there to be fetched. -/
def Brings (schema : Schema) (id : String) (store : Store) (row : Record) : Visit → Prop
  | refresh _ => False
  | query filter found => filter.includes.isEmpty = true ∧ row ∈ found ∧ row.id = id
  | fetch => store.row? schema.kind id = some row

/-- What a call makes of what is held under the key of the record. -/
inductive Turns (schema : Schema) (id : String) (store : Store) :
    Visit → Option String → Option String → Prop
  | kept {visit : Visit} {held : Option String} (fills : ∀ version, visit ≠ .refresh version) :
      Turns schema id store visit held held
  | filled {visit : Visit} {held : Option String} {row : Record}
      (brings : visit.Brings schema id store row)
      (empty : ∀ cached, CacheLookup.ofHeld held ≠ .record cached) :
      Turns schema id store visit held (some row.text)
  | refreshed {version : Record} {held : Option String}
      (notLater : ∀ cached, CacheLookup.ofHeld held = .record cached →
        cached.revision ≤ version.revision) :
      Turns schema id store (.refresh version) held (some version.text)
  | outrun {version cached : Record} {held : Option String}
      (said : CacheLookup.ofHeld held = .record cached)
      (later : version.revision < cached.revision) :
      Turns schema id store (.refresh version) held held

/-- A fetch may leave what is held. -/
theorem Turns.fetch_kept {schema : Schema} {id : String} {store : Store} {held : Option String} :
    fetch.Turns schema id store held held :=
  .kept (by simp)

end Visit

namespace Backend

/-! ## What is held -/

/-- Whatever the time, an open cache holds a text under a key, or none, and what is written to it does not
expire. -/
structure Holds (clock : Nat → Nat) (key : String) (held : Option String) (backend : Backend) :
    Prop where
  isOpen : backend.cache.closed = false
  lasting : ∀ lifetime, backend.cache.lifetime = some lifetime → ∀ i j, clock i < clock j + lifetime
  live : ∀ i, backend.cache.live? (clock i) key = held

variable {clock : Nat → Nat} {aside : CacheAside} {schema : Schema} {key other id : String}
  {held now : Option String} {backend : Backend}

/-- What holds of what is held does not depend on the store. -/
theorem Holds.onStore (holds : backend.Holds clock key held) (store : Store) :
    Holds clock key held { backend with store } :=
  ⟨holds.isOpen, holds.lasting, holds.live⟩

theorem Holds.write_self (holds : backend.Holds clock key held) (i calls : Nat) (text : String) :
    Holds clock key (some text)
      ⟨backend.store, backend.cache.write (clock i) key text, calls⟩ where
  isOpen := holds.isOpen
  lasting := holds.lasting
  live j := by
    rw [Cache.live?_write_self, if_pos]
    rw [Option.all_eq_true]
    exact fun lifetime there => decide_eq_true (holds.lasting lifetime there j i)

theorem Holds.write_of_ne (holds : backend.Holds clock key held) (apart : other ≠ key)
    (time calls : Nat) (text : String) :
    Holds clock key held ⟨backend.store, backend.cache.write time other text, calls⟩ where
  isOpen := holds.isOpen
  lasting := holds.lasting
  live j := (Cache.live?_write_of_ne _ _ _ _ apart).trans (holds.live j)

/-- A look-up leaves what is held. -/
theorem Holds.count (holds : backend.Holds clock key held) (found : Bool) (calls : Nat) :
    Holds clock key held ⟨backend.store, backend.cache.countLookup found, calls⟩ :=
  ⟨holds.isOpen, holds.lasting, holds.live⟩

/-- A call of the store leaves what is held. -/
theorem Holds.askStore (holds : backend.Holds clock key held) (call : StoreCall) :
    (answer clock (.store call) backend).2.Holds clock key held :=
  ⟨holds.isOpen, holds.lasting, holds.live⟩

theorem answer_cache (isOpen : backend.cache.closed = false) (call : CacheCall) :
    answer clock (.cache call) backend =
      ((backend.cache.answerOpen (clock backend.calls) call).1,
        ⟨backend.store, (backend.cache.answerOpen (clock backend.calls) call).2,
          backend.calls + 1⟩) := by
  simp only [answer, Cache.answer_of_isOpen isOpen]
  rfl

/-! ### The parts of a call -/

theorem Holds.put (holds : backend.Holds clock key held) (enabled : aside.enabled = true)
    (record : Record) :
    (Program.run (answer clock) (aside.put key record) backend).2.Holds clock key
      (some record.text) := by
  rw [CacheAside.put_eq, if_pos enabled]
  change Holds clock key _ (answer clock (.cache (.set key record.text)) backend).2
  rw [answer_cache holds.isOpen]
  exact holds.write_self backend.calls _ _

/-- A fill writes where nothing is held. -/
theorem Holds.fill (holds : backend.Holds clock key held) (enabled : aside.enabled = true)
    (record : Record) :
    (Program.run (answer clock) (aside.fill key record) backend).2.Holds clock key
      (some (held.getD record.text)) := by
  rw [CacheAside.fill_eq, if_pos enabled]
  change Holds clock key _ (answer clock (.cache (.setIfAbsent key record.text)) backend).2
  rw [answer_cache holds.isOpen]
  simp only [Cache.answerOpen, holds.live]
  cases held with
  | none => exact holds.write_self backend.calls _ _
  | some text => exact ⟨holds.isOpen, holds.lasting, holds.live⟩

theorem Holds.fill_of_ne (holds : backend.Holds clock key held) (enabled : aside.enabled = true)
    (apart : other ≠ key) (record : Record) :
    (Program.run (answer clock) (aside.fill other record) backend).2.Holds clock key held := by
  rw [CacheAside.fill_eq, if_pos enabled]
  change Holds clock key _ (answer clock (.cache (.setIfAbsent other record.text)) backend).2
  rw [answer_cache holds.isOpen]
  simp only [Cache.answerOpen]
  split
  · exact ⟨holds.isOpen, holds.lasting, holds.live⟩
  · exact holds.write_of_ne apart _ _ _

/-- A look-up is told what is held. -/
theorem Holds.lookup (holds : backend.Holds clock key held) (enabled : aside.enabled = true) :
    Program.run (answer clock) (aside.lookup key) backend =
      (.ofHeld held,
        ⟨backend.store, backend.cache.countLookup held.isSome, backend.calls + 1⟩) := by
  rw [CacheAside.lookup_eq enabled]
  change (CacheLookup.ofReply (answer clock (.cache (.get key)) backend).1,
    (answer clock (.cache (.get key)) backend).2) = _
  rw [answer_cache holds.isOpen]
  simp only [Cache.answerOpen, holds.live]
  rfl

/-- Of some records that are found, one that has the id may be filled in where nothing is held. -/
theorem Holds.fillAll (holds : backend.Holds clock (Record.cacheKey schema.kind id) held)
    (enabled : aside.enabled = true) (found : List Record) :
    ∃ now, (Program.run (answer clock) (aside.fillAll schema.kind found) backend).2.Holds clock
        (Record.cacheKey schema.kind id) now ∧
      (now = held ∨ held = none ∧ ∃ row ∈ found, row.id = id ∧ now = some row.text) := by
  induction found generalizing backend held with
  | nil => exact ⟨held, holds, .inl rfl⟩
  | cons row rest ih =>
    change ∃ now, (Program.run (answer clock) ((aside.fill _ row).bind fun _ =>
      aside.fillAll schema.kind rest) backend).2.Holds _ _ now ∧ _
    rw [Program.run_bind]
    by_cases own : row.id = id
    · subst own
      obtain ⟨now, after, cases⟩ := ih (holds.fill enabled row)
      obtain rfl : now = some (held.getD row.text) := cases.resolve_right nofun
      refine ⟨_, after, ?_⟩
      cases held with
      | none => exact .inr ⟨rfl, row, List.mem_cons_self .., rfl, rfl⟩
      | some text => exact .inl rfl
    · have apart : Record.cacheKey schema.kind row.id ≠ Record.cacheKey schema.kind id :=
        fun same => own (Record.id_eq_of_cacheKey_eq same)
      obtain ⟨now, after, cases⟩ := ih (holds.fill_of_ne enabled apart row)
      refine ⟨now, after, cases.imp_right ?_⟩
      rintro ⟨nothing, version, member, same⟩
      exact ⟨nothing, version, List.mem_cons_of_mem _ member, same⟩

/-! ### Whole calls -/

/-- A refresh of a revisioned kind keeps a later revision, and else overwrites what is held. -/
theorem Holds.refresh {version : Record}
    (holds : backend.Holds clock (Record.cacheKey schema.kind version.id) held)
    (enabled : aside.enabled = true) (revisioned : schema.revisioned = true) (store : Store) :
    ∃ now, (Program.run (answer clock) (aside.onCreateOrUpdate schema version) backend).2.Holds clock
        (Record.cacheKey schema.kind version.id) now ∧
      Visit.Turns schema version.id store (.refresh version) held now := by
  have overwrites : (∀ cached, CacheLookup.ofHeld held = .record cached →
      cached.revision ≤ version.revision) →
      ∃ now, (Program.run (answer clock) (aside.put (Record.cacheKey schema.kind version.id) version)
          ⟨backend.store, backend.cache.countLookup held.isSome, backend.calls + 1⟩).2.Holds clock
            (Record.cacheKey schema.kind version.id) now ∧
        Visit.Turns schema version.id store (.refresh version) held now :=
    fun notLater => ⟨_, (holds.count _ _).put enabled version, .refreshed notLater⟩
  unfold CacheAside.onCreateOrUpdate
  rw [if_pos revisioned]
  change ∃ now, Holds _ _ _ (Program.run _ (Program.bind _ _) _).2 ∧ _
  rw [Program.run_bind, holds.lookup enabled]
  cases said : CacheLookup.ofHeld held with
  | record cached =>
    dsimp only
    split
    · next later => exact ⟨held, holds.count _ _, .outrun said later⟩
    · next notLater =>
      refine overwrites fun other also => ?_
      cases said.symm.trans also
      exact Int.not_lt.1 notLater
  | tombstone | corrupt | absent => exact overwrites fun other also => nomatch said.symm.trans also

/-- A query fills the key where nothing is held. -/
theorem Holds.query (holds : backend.Holds clock (Record.cacheKey schema.kind id) held)
    (enabled : aside.enabled = true) (filter : CompiledFilter) (found : List Record) (store : Store) :
    ∃ now, (Program.run (answer clock) (aside.onFetched schema filter found) backend).2.Holds clock
        (Record.cacheKey schema.kind id) now ∧
      Visit.Turns schema id store (.query filter found) held now := by
  unfold CacheAside.onFetched
  split
  · next caches =>
    obtain ⟨now, after, rfl | ⟨rfl, row, member, own, rfl⟩⟩ := holds.fillAll enabled found
    · exact ⟨now, after, .kept nofun⟩
    · exact ⟨_, after, .filled ⟨(Bool.and_eq_true_iff.1 caches).2, member, own⟩ nofun⟩
  · exact ⟨held, holds, .kept nofun⟩

/-- Where no record is held, a fetch fills the key with the record that is stored. -/
theorem Holds.fetchStored (holds : backend.Holds clock (Record.cacheKey schema.kind id) held)
    (enabled : aside.enabled = true) {cached : CacheLookup} (said : CacheLookup.ofHeld held = cached)
    (empty : ∀ record, cached ≠ .record record) :
    ∃ now, (Program.run (answer clock) (aside.fetchStored schema id cached) backend).2.Holds clock
        (Record.cacheKey schema.kind id) now ∧
      Visit.fetch.Turns schema id backend.store held now := by
  rw [CacheAside.fetchStored, Program.run_bind, run_findOne]
  have asked := holds.askStore (.findOne schema id)
  generalize (answer clock (.store (.findOne schema id)) backend).2 = after at asked ⊢
  cases there : backend.store.findOne schema id with
  | error error => exact ⟨held, asked, .fetch_kept⟩
  | ok row =>
    have filled : Visit.fetch.Turns schema id backend.store held (some row.text) :=
      .filled (Store.findOne_eq_ok.1 there) (said ▸ empty)
    dsimp only
    rw [Program.run_bind]
    split
    · exact ⟨_, asked.put enabled row, filled⟩
    · refine ⟨_, asked.fill enabled row, ?_⟩
      cases held with
      | none => exact filled
      | some text => exact .fetch_kept

/-- A fetch asks the store only when no record is held. -/
theorem Holds.fetch (holds : backend.Holds clock (Record.cacheKey schema.kind id) held)
    (enabled : aside.enabled = true) :
    ∃ now, (Program.run (answer clock) (aside.fetchOne schema id) backend).2.Holds clock
        (Record.cacheKey schema.kind id) now ∧
      Visit.fetch.Turns schema id backend.store held now := by
  have looked := holds.count held.isSome (backend.calls + 1)
  rw [CacheAside.fetchOne_eq, Program.run_bind, holds.lookup enabled]
  cases said : CacheLookup.ofHeld held with
  | record record => exact ⟨held, looked, .fetch_kept⟩
  | tombstone | corrupt | absent => exact looked.fetchStored enabled said (by simp)

/-! ## Schedules -/

/-- A call is made from beginning to end, on a store. -/
def visit (clock : Nat → Nat) (aside : CacheAside) (schema : Schema) (id : String) (backend : Backend)
    (step : Store × Visit) : Backend :=
  (Program.run (answer clock) (step.2.program aside schema id) { backend with store := step.1 }).2

/-- Calls are made one after another. -/
def visits (clock : Nat → Nat) (aside : CacheAside) (schema : Schema) (id : String) (backend : Backend)
    (schedule : List (Store × Visit)) : Backend :=
  schedule.foldl (visit clock aside schema id) backend

theorem visits_append (earlier later : List (Store × Visit)) :
    backend.visits clock aside schema id (earlier ++ later) =
      (backend.visits clock aside schema id earlier).visits clock aside schema id later :=
  List.foldl_append

/-- A call does one of the things that it can do. -/
theorem exists_turns (enabled : aside.enabled = true) (revisioned : schema.revisioned = true)
    (holds : backend.Holds clock (Record.cacheKey schema.kind id) held) (store : Store) {visit : Visit}
    (own : ∀ version, visit = .refresh version → version.id = id) :
    ∃ now, (backend.visit clock aside schema id (store, visit)).Holds clock
        (Record.cacheKey schema.kind id) now ∧
      visit.Turns schema id store held now := by
  have stored := holds.onStore store
  cases visit with
  | refresh version =>
    obtain rfl := own version rfl
    exact stored.refresh enabled revisioned store
  | query filter found => exact stored.query enabled filter found store
  | fetch =>
    rw [Backend.visit, Visit.program, Program.run_bind]
    exact stored.fetch enabled

/-- What is true of what is held at first, and stays true whatever the next call does, is true after all
calls. -/
theorem visits_keeps (enabled : aside.enabled = true) (revisioned : schema.revisioned = true)
    {schedule : List (Store × Visit)}
    (own : ∀ store version, (store, .refresh version) ∈ schedule → version.id = id)
    (inv : List (Store × Visit) → Option String → Prop)
    (holds : backend.Holds clock (Record.cacheKey schema.kind id) held) (start : inv [] held)
    (step : ∀ earlier store visit before after, (store, visit) ∈ schedule → inv earlier before →
      visit.Turns schema id store before after → inv (earlier ++ [(store, visit)]) after) :
    ∃ now, (backend.visits clock aside schema id schedule).Holds clock
        (Record.cacheKey schema.kind id) now ∧ inv schedule now := by
  induction schedule using List.reverseRecOn with
  | nil => exact ⟨held, holds, start⟩
  | append_singleton earlier last ih =>
    obtain ⟨before, reached, kept⟩ := ih
      (fun store version present => own store version (List.mem_append_left _ present))
      fun other store visit before after present =>
        step other store visit before after (List.mem_append_left _ present)
    have present : last ∈ earlier ++ [last] := List.mem_append_right _ (List.mem_cons_self ..)
    obtain ⟨after, turned, turns⟩ := exists_turns enabled revisioned reached last.1
      fun version same => own last.1 version (same ▸ present)
    rw [visits_append]
    exact ⟨after, turned, step _ _ _ _ _ present kept turns⟩

end Backend

/-! ## The latest version -/

/-- Some versions of a record that are read back from their texts, and that differ in their revisions. -/
structure AreVersions (id : String) (versions : List Record) : Prop where
  own : ∀ version ∈ versions, version.id = id
  distinct : ∀ version ∈ versions, ∀ other ∈ versions, version.revision = other.revision →
    version = other
  legible : ∀ version ∈ versions, CacheAside.decodeEntry version.text = .record version

/-- A text says a record of the highest revision among what was held before, if that is a record, and some
versions. It is what was held before only when this is later than all versions. -/
structure IsLatest (before : Option String) (versions : List Record) (text : String) (last : Record) :
    Prop where
  decoded : CacheAside.decodeEntry text = .record last
  held_le : ∀ cached, CacheLookup.ofHeld before = .record cached → cached.revision ≤ last.revision
  version_le : ∀ version ∈ versions, version.revision ≤ last.revision
  among : (before = some text ∧ ∀ version ∈ versions, version.revision < last.revision) ∨
    last ∈ versions ∧ text = last.text

/-- A schedule refreshes some versions, each at least once, and nothing else. What else its calls may fill
in are records that a store can hold, none of them later than all these versions. -/
structure IsSchedule (schema : Schema) (id : String) (versions : List Record)
    (schedule : List (Store × Visit)) : Prop where
  refreshes : ∀ version, (∃ store, (store, .refresh version) ∈ schedule) ↔ version ∈ versions
  fills : ∀ store visit row, (store, visit) ∈ schedule → visit.Brings schema id store row →
    row.IsCanonical schema ∧ ∃ version ∈ versions, row.revision ≤ version.revision

variable {schema : Schema} {id text : String} {before held now : Option String}
  {versions : List Record} {last : Record} {schedule : List (Store × Visit)}

theorem exists_isLatest (valid : AreVersions id versions) (present : versions ≠ [])
    (before : Option String) : ∃ text last, IsLatest before versions text last := by
  obtain ⟨newest, member, greatest⟩ := versions.toFinset.exists_max_image Record.revision
    ((List.toFinset_nonempty_iff versions).2 present)
  simp only [List.mem_toFinset] at member greatest
  -- What is held counts only when it is a record later than the newest version.
  by_cases later : ∃ cached, CacheLookup.ofHeld before = .record cached ∧
      newest.revision < cached.revision
  · obtain ⟨cached, said, later⟩ := later
    cases before with
    | none => cases said
    | some text =>
      refine ⟨text, cached, said, fun other also => ?_, fun version there => ?_,
        .inl ⟨rfl, fun version there => ?_⟩⟩
      · cases said.symm.trans also
        exact Int.le_refl _
      · exact Int.le_of_lt (Int.lt_of_le_of_lt (greatest version there) later)
      · exact Int.lt_of_le_of_lt (greatest version there) later
  · refine ⟨newest.text, newest, valid.legible newest member, fun cached said => ?_, greatest,
      .inr ⟨member, rfl⟩⟩
    exact Int.not_lt.1 fun above => later ⟨cached, said, above⟩

/-- The latest version was held at first, or has been refreshed. -/
def HasArrived (before : Option String) (versions : List Record) (text : String) (last : Record)
    (earlier : List (Store × Visit)) : Prop :=
  (before = some text ∧ ∀ version ∈ versions, version.revision < last.revision) ∨
    (last ∈ versions ∧ text = last.text ∧ ∃ store, (store, .refresh last) ∈ earlier)

/-- What is true on the way: nothing later than the latest version is held, and once this has arrived it
is held. -/
structure OnCourse (before : Option String) (versions : List Record) (text : String) (last : Record)
    (earlier : List (Store × Visit)) (held : Option String) : Prop where
  below : ∀ cached, CacheLookup.ofHeld held = .record cached → cached.revision ≤ last.revision
  arrived : HasArrived before versions text last earlier → held = some text

/-- The latest version had arrived before, or arrives with the last call. -/
theorem HasArrived.of_snoc {earlier : List (Store × Visit)} {store : Store} {visit : Visit}
    (arrived : HasArrived before versions text last (earlier ++ [(store, visit)])) :
    HasArrived before versions text last earlier ∨
      visit = .refresh last ∧ last ∈ versions ∧ text = last.text := by
  rcases arrived with first | ⟨member, same, other, present⟩
  · exact .inl (.inl first)
  · rcases List.mem_append.1 present with there | here
    · exact .inl (.inr ⟨member, same, other, there⟩)
    · cases List.mem_singleton.1 here
      exact .inr ⟨rfl, member, same⟩

/-- A call keeps to the course. -/
theorem OnCourse.step (valid : AreVersions id versions)
    (latest : IsLatest before versions text last)
    (planned : IsSchedule schema id versions schedule) {earlier : List (Store × Visit)} {store : Store}
    {visit : Visit} (present : (store, visit) ∈ schedule)
    (course : OnCourse before versions text last earlier held)
    (turns : visit.Turns schema id store held now) :
    OnCourse before versions text last (earlier ++ [(store, visit)]) now := by
  have held_of_arrived (arrived : HasArrived before versions text last earlier) :
      held = some text ∧ CacheLookup.ofHeld held = .record last := by
    obtain rfl := course.arrived arrived
    exact ⟨rfl, latest.decoded⟩
  cases turns with
  | kept fills =>
    refine ⟨course.below, fun arrived => ?_⟩
    rcases arrived.of_snoc with before | ⟨same, -⟩
    · exact course.arrived before
    · exact absurd same (fills last)
  | @filled _ _ row brings empty =>
    obtain ⟨canonical, version, member, atMost⟩ := planned.fills store visit row present brings
    refine ⟨fun cached said => ?_, fun arrived => ?_⟩
    · have same : cached.revision = row.revision := CacheAside.revision_of_decodeEntry
        (fun field there => (canonical.declared field there).2.2) said
      exact same ▸ Int.le_trans atMost (latest.version_le version member)
    · rcases arrived.of_snoc with before | ⟨rfl, -⟩
      · exact absurd (held_of_arrived before).2 (empty last)
      · exact brings.elim
  | @refreshed version _ notLater =>
    have member : version ∈ versions := (planned.refreshes version).1 ⟨store, present⟩
    have atMost := latest.version_le version member
    refine ⟨fun cached said => ?_, fun arrived => ?_⟩
    · cases (valid.legible version member).symm.trans said
      exact atMost
    · rcases arrived.of_snoc with before | ⟨same, -, written⟩
      · have atLeast := notLater last (held_of_arrived before).2
        rcases before with ⟨-, above⟩ | ⟨among, written, -⟩
        · exact absurd (above version member) (Int.not_lt.2 atLeast)
        · obtain rfl := valid.distinct version member last among (Int.le_antisymm atMost atLeast)
          rw [written]
      · cases same
        rw [written]
  | @outrun version cached _ said later =>
    refine ⟨course.below, fun arrived => ?_⟩
    rcases arrived.of_snoc with before | ⟨same, -⟩
    · exact course.arrived before
    · cases same
      exact absurd (course.below cached said) (Int.not_le.2 later)

/-! ## What is cached on the way -/

/-- What is held is a record of some revision or a later one. -/
def IsHeldFrom (revision : Int) (held : Option String) : Prop :=
  ∃ cached, CacheLookup.ofHeld held = .record cached ∧ revision ≤ cached.revision

/-- When some version has been refreshed, what is held is a record. -/
def IsHeldOnceRefreshed (earlier : List (Store × Visit)) (held : Option String) : Prop :=
  (∃ store version, (store, .refresh version) ∈ earlier) →
    ∃ cached, CacheLookup.ofHeld held = .record cached

namespace Visit.Turns

variable {store : Store} {visit : Visit}

/-- When a record is held, a call leaves it or writes one of no lower revision. -/
theorem isHeldFrom {revision : Int} (turns : visit.Turns schema id store held now)
    (legible : ∀ version, visit = .refresh version →
      CacheAside.decodeEntry version.text = .record version)
    (from_revision : IsHeldFrom revision held) : IsHeldFrom revision now := by
  obtain ⟨cached, said, atLeast⟩ := from_revision
  cases turns with
  | kept | outrun => exact ⟨cached, said, atLeast⟩
  | filled brings empty => exact absurd said (empty cached)
  | @refreshed version _ notLater =>
    exact ⟨version, legible version rfl, Int.le_trans atLeast (notLater cached said)⟩

/-- After a refresh a record is held. -/
theorem record_of_refresh {version : Record}
    (turns : (Visit.refresh version).Turns schema id store held now)
    (legible : CacheAside.decodeEntry version.text = .record version) :
    ∃ cached, CacheLookup.ofHeld now = .record cached := by
  cases turns with
  | kept fills => exact absurd rfl (fills version)
  | filled brings empty => exact brings.elim
  | refreshed notLater => exact ⟨version, legible⟩
  | outrun said later => exact ⟨_, said⟩

/-- Once some version has been refreshed, a record stays held. -/
theorem isHeldOnceRefreshed {earlier : List (Store × Visit)}
    (turns : visit.Turns schema id store held now)
    (legible : ∀ version, visit = .refresh version →
      CacheAside.decodeEntry version.text = .record version)
    (kept : IsHeldOnceRefreshed earlier held) :
    IsHeldOnceRefreshed (earlier ++ [(store, visit)]) now := by
  rintro ⟨other, version, present⟩
  rcases List.mem_append.1 present with past | last
  · obtain ⟨cached, said⟩ := kept ⟨other, version, past⟩
    obtain ⟨next, told, -⟩ := turns.isHeldFrom legible ⟨cached, said, Int.le_refl _⟩
    exact ⟨next, told⟩
  · cases List.mem_singleton.1 last
    exact turns.record_of_refresh (legible version rfl)

end Visit.Turns

namespace Backend

variable {clock : Nat → Nat} {aside : CacheAside} {start : Backend}

/-- A record is cached under a key. -/
def Caches (clock : Nat → Nat) (key : String) (record : Record) (backend : Backend) : Prop :=
  ∃ held, backend.Holds clock key held ∧ CacheLookup.ofHeld held = .record record

/-- Once a record is cached, the revision that is cached does not fall. -/
theorem Caches.visits (enabled : aside.enabled = true) (revisioned : schema.revisioned = true)
    (valid : AreVersions id versions)
    (among : ∀ store version, (store, .refresh version) ∈ schedule → version ∈ versions)
    {cached : Record} (caches : start.Caches clock (Record.cacheKey schema.kind id) cached) :
    ∃ next, (start.visits clock aside schema id schedule).Caches clock
        (Record.cacheKey schema.kind id) next ∧
      cached.revision ≤ next.revision := by
  obtain ⟨held, holds, said⟩ := caches
  obtain ⟨now, reached, next, told, atLeast⟩ := visits_keeps enabled revisioned
    (fun store version there => valid.own version (among store version there))
    (fun _ => IsHeldFrom cached.revision) holds ⟨cached, said, Int.le_refl _⟩
    fun _ store _ _ _ there kept turns => turns.isHeldFrom
      (fun version same => valid.legible version (among store version (same ▸ there))) kept
  exact ⟨next, ⟨now, reached, told⟩, atLeast⟩

/-- After a version was refreshed, some record is cached. -/
theorem exists_caches (enabled : aside.enabled = true) (revisioned : schema.revisioned = true)
    (valid : AreVersions id versions)
    (among : ∀ store version, (store, .refresh version) ∈ schedule → version ∈ versions)
    (holds : start.Holds clock (Record.cacheKey schema.kind id) before)
    (refreshed : ∃ store version, (store, .refresh version) ∈ schedule) :
    ∃ cached, (start.visits clock aside schema id schedule).Caches clock
      (Record.cacheKey schema.kind id) cached := by
  obtain ⟨now, reached, kept⟩ := visits_keeps enabled revisioned
    (fun store version there => valid.own version (among store version there))
    IsHeldOnceRefreshed holds nofun
    fun _ store _ _ _ there kept turns => turns.isHeldOnceRefreshed
      (fun version same => valid.legible version (among store version (same ▸ there))) kept
  obtain ⟨cached, said⟩ := kept refreshed
  exact ⟨cached, now, reached, said⟩

/-- In the end the latest version is held. -/
theorem holds_latest (enabled : aside.enabled = true) (revisioned : schema.revisioned = true)
    (valid : AreVersions id versions) (latest : IsLatest before versions text last)
    (planned : IsSchedule schema id versions schedule)
    (holds : start.Holds clock (Record.cacheKey schema.kind id) before) :
    (start.visits clock aside schema id schedule).Holds clock (Record.cacheKey schema.kind id)
      (some text) := by
  obtain ⟨now, reached, course⟩ := visits_keeps enabled revisioned
    (fun store version there => valid.own version ((planned.refreshes version).1 ⟨store, there⟩))
    (OnCourse before versions text last) holds
    ⟨latest.held_le, fun arrived => arrived.elim And.left fun ⟨_, _, _, there⟩ => nomatch there⟩
    fun _ _ _ _ _ there course turns => course.step valid latest planned there turns
  have arrived : HasArrived before versions text last schedule :=
    latest.among.imp_right fun ⟨member, same⟩ => ⟨member, same, (planned.refreshes last).2 member⟩
  exact course.arrived arrived ▸ reached

/-! ## Refreshes in any order -/

/-- Of a revisioned kind, the refreshes of some versions commute. Whatever the order in which they are
made, and whatever else is filled in between that is no later than all of them, in the end the key holds
one text: that of the latest version, or what it held at first if this is later still. And from the first
refresh on, the revision that is cached does not fall. -/
theorem refreshes_commute (enabled : aside.enabled = true) (revisioned : schema.revisioned = true)
    (valid : AreVersions id versions) (present : versions ≠ []) (before : Option String) :
    ∃ text last, IsLatest before versions text last ∧
      ∀ (clock : Nat → Nat) (start : Backend) (schedule : List (Store × Visit)),
        start.Holds clock (Record.cacheKey schema.kind id) before →
        IsSchedule schema id versions schedule →
        (start.visits clock aside schema id schedule).Holds clock (Record.cacheKey schema.kind id)
            (some text) ∧
          ∀ earlier middle later, schedule = earlier ++ middle ++ later →
            (∃ store version, (store, .refresh version) ∈ earlier) →
            ∃ cached next,
              (start.visits clock aside schema id earlier).Caches clock
                (Record.cacheKey schema.kind id) cached ∧
              (start.visits clock aside schema id (earlier ++ middle)).Caches clock
                (Record.cacheKey schema.kind id) next ∧
              cached.revision ≤ next.revision := by
  obtain ⟨text, last, latest⟩ := exists_isLatest valid present before
  refine ⟨text, last, latest, fun clock start schedule holds planned =>
    ⟨holds_latest enabled revisioned valid latest planned holds, ?_⟩⟩
  rintro earlier middle later rfl refreshed
  have among : ∀ store version, (store, Visit.refresh version) ∈ earlier ++ middle →
      version ∈ versions := fun store version there =>
    (planned.refreshes version).1 ⟨store, List.mem_append_left _ there⟩
  obtain ⟨cached, caches⟩ := exists_caches enabled revisioned valid
    (fun store version there => among store version (List.mem_append_left _ there)) holds refreshed
  obtain ⟨next, reached, atLeast⟩ := caches.visits enabled revisioned valid
    (fun store version there => among store version (List.mem_append_right _ there))
  rw [visits_append]
  exact ⟨cached, next, caches, reached, atLeast⟩

/-! ### A note of which three versions were stored -/

/-- A version of a note. -/
def noteVersion (revision : Int) (title : String) : Record :=
  ⟨"1", none, revision, [("title", .string title)]⟩

/-- A store that holds the first version, beside a cache that holds a tombstone for ten milliseconds. -/
def buriedNote : Backend :=
  ⟨((Store.empty Store.uuid).create .note (noteVersion 0 "a")).2,
    (Cache.empty 10).write 0 "note:1" CacheAside.tombstoneText, 0⟩

/-- The third version is refreshed before the second one, while the first one is fetched and found. -/
def lateSecond : List (Store × Visit) :=
  [(buriedNote.store, .fetch), (.empty Store.uuid, .refresh (noteVersion 3 "c")),
    (.empty Store.uuid, .query ⟨⟨[]⟩, [], none, none, []⟩ [noteVersion 1 "a"]),
    (.empty Store.uuid, .refresh (noteVersion 2 "b"))]

theorem areVersions_note : AreVersions "1" [noteVersion 2 "b", noteVersion 3 "c"] where
  own := by decide
  distinct := by decide
  legible := by
    intro version member
    simp only [List.mem_cons, List.not_mem_nil, or_false] at member
    rcases member with rfl | rfl
    all_goals
      rw [CacheAside.decodeEntry_text]
      rfl

theorem isCanonical_noteVersion : (noteVersion 1 "a").IsCanonical .note where
  named := by decide
  nodup := List.nodup_singleton _
  declared := by decide

theorem isSchedule_lateSecond :
    IsSchedule .note "1" [noteVersion 2 "b", noteVersion 3 "c"] lateSecond where
  refreshes version := by
    simp only [lateSecond, List.mem_cons, Prod.mk.injEq, reduceCtorEq, Visit.refresh.injEq, and_false,
      List.not_mem_nil, or_false, false_or, exists_or, exists_eq_left]
    exact or_comm
  fills store visit row present brings := by
    simp only [lateSecond, List.mem_cons, Prod.mk.injEq, List.not_mem_nil, or_false] at present
    rcases present with ⟨rfl, rfl⟩ | ⟨rfl, rfl⟩ | ⟨rfl, rfl⟩ | ⟨rfl, rfl⟩
    · cases brings
      exact ⟨isCanonical_noteVersion, noteVersion 2 "b", by simp, by decide⟩
    · exact brings.elim
    · obtain rfl := List.mem_singleton.1 brings.2.1
      exact ⟨isCanonical_noteVersion, noteVersion 2 "b", by simp, by decide⟩
    · exact brings.elim

theorem holds_buriedNote :
    buriedNote.Holds (fun _ => 0) (Record.cacheKey Schema.note.kind "1")
      (some CacheAside.tombstoneText) where
  isOpen := rfl
  lasting := by
    rintro lifetime ⟨⟩ - -
    decide
  live _ := rfl

/-- The third version is held in the end. -/
theorem refreshes_commute_note : ∃ text last,
    IsLatest (some CacheAside.tombstoneText) [noteVersion 2 "b", noteVersion 3 "c"] text last ∧
      last = noteVersion 3 "c" ∧
      (buriedNote.visits (fun _ => 0) ⟨true⟩ .note "1" lateSecond).Holds (fun _ => 0) "note:1"
        (some text) := by
  obtain ⟨text, last, latest, commute⟩ := @refreshes_commute .note "1" _ ⟨true⟩ rfl rfl
    areVersions_note (List.cons_ne_nil _ _) (some CacheAside.tombstoneText)
  refine ⟨text, last, latest, ?_, (commute _ _ _ holds_buriedNote isSchedule_lateSecond).1⟩
  rcases latest.among with ⟨same, -⟩ | ⟨member, -⟩
  · cases same
    cases latest.decoded
  · simp only [List.mem_cons, List.not_mem_nil, or_false] at member
    rcases member with rfl | rfl
    · exact absurd (latest.version_le (noteVersion 3 "c") (by simp)) (by decide)
    · rfl

end Backend

end RecordAccess
