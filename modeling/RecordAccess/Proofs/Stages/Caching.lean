import RecordAccess.Proofs.Stages.Parts

/-!
# Stages of the cache beside the store

How far a fetch, a refresh after a write, and the eviction around a delete can have come, and what
each has been told by then.
-/

namespace RecordAccess

open Program (Leads)

/-! ## The cache -/

/-- What a look-up makes of the answer of the cache. -/
def CacheLookup.ofReply : Except CacheError (Option String) → CacheLookup
  | .ok (some text) => CacheAside.decodeEntry text
  | _ => .absent

/-- A look-up that finds something was answered with a text that says so. -/
theorem CacheLookup.exists_of_ofReply {reply : Except CacheError (Option String)}
    {lookup : CacheLookup} (found : ofReply reply = lookup) (present : lookup ≠ .absent) :
    ∃ text, reply = .ok (some text) ∧ CacheAside.decodeEntry text = lookup := by
  match reply with
  | .ok (some text) => exact ⟨text, rfl, found⟩
  | .ok none => exact absurd found.symm present
  | .error _ => exact absurd found.symm present

namespace CacheAside

variable {aside : CacheAside} {schema : Schema} {log : List Exchange}

theorem lookup_eq (enabled : aside.enabled = true) (key : String) :
    aside.lookup key =
      .call (.cache (.get key)) fun reply => .done (CacheLookup.ofReply reply) := by
  simp only [lookup, enabled, ↓reduceIte]
  refine congrArg (Program.call (.cache (.get key))) (funext fun reply => ?_)
  match reply with
  | .ok (some text) => rfl
  | .ok none => rfl
  | .error error => rfl

theorem lookup_eq_of_disabled (disabled : aside.enabled = false) (key : String) :
    aside.lookup key = .done .absent := by
  simp only [lookup, disabled]
  rfl

/-- Leaving a tombstone is one write of the cache, if there is one. -/
theorem bury_eq (aside : CacheAside) (key : String) :
    aside.bury key =
      if aside.enabled then .call (.cache (.set key tombstoneText)) fun _ => .done ()
      else .done () := by
  unfold bury
  split <;> rfl

theorem put_eq (aside : CacheAside) (key : String) (record : Record) :
    aside.put key record =
      if aside.enabled then .call (.cache (.set key record.text)) fun _ => .done ()
      else .done () := by
  unfold put
  split <;> rfl

theorem fill_eq (aside : CacheAside) (key : String) (record : Record) :
    aside.fill key record =
      if aside.enabled then .call (.cache (.setIfAbsent key record.text)) fun _ => .done ()
      else .done () := by
  unfold fill
  split <;> rfl

/-- A single call of the cache is yet to be made or has been made. -/
theorem leads_askCache {call : CacheCall} {rest : Program Unit}
    (leads : Leads (.call (.cache call) fun _ => .done ()) log rest) :
    (log = [] ∧ rest = .call (.cache call) fun _ => .done ()) ∨
    ∃ reply, log = [.cache call reply] ∧ rest = .done () := by
  cases leads with
  | here => exact .inl ⟨rfl, rfl⟩
  | after later =>
    obtain ⟨rfl, rfl⟩ := Program.leads_done.1 later
    exact .inr ⟨_, rfl, rfl⟩

/-- What a single write of the cache leaves in a transcript: the exchange, if there is a cache. -/
def Noted (aside : CacheAside) (call : CacheCall) (log : List Exchange) : Prop :=
  aside.enabled = false ∧ log = [] ∨ aside.enabled = true ∧ ∃ reply, log = [.cache call reply]

theorem Noted.isCache {call : CacheCall} (noted : aside.Noted call log) :
    ∀ exchange ∈ log, exchange.isCache = true := by
  rcases noted with ⟨-, rfl⟩ | ⟨-, reply, rfl⟩
  · exact List.forall_mem_nil _
  · exact List.forall_mem_singleton.2 rfl

/-- A single write of the cache, if there is one, is yet to be made or has been noted. -/
theorem noted_of_leads {call : CacheCall} {program rest : Program Unit}
    (same : program =
      if aside.enabled then .call (.cache call) fun _ => .done () else .done ())
    (leads : Leads program log rest) :
    (log = [] ∧ ∃ resume, rest = .call (.cache call) resume) ∨
      rest = .done () ∧ aside.Noted call log := by
  subst same
  split at leads
  · next enabled =>
    rcases leads_askCache leads with ⟨rfl, rfl⟩ | ⟨reply, rfl, rfl⟩
    · exact .inl ⟨rfl, _, rfl⟩
    · exact .inr ⟨rfl, .inr ⟨enabled, reply, rfl⟩⟩
  · next disabled =>
    obtain ⟨rfl, rfl⟩ := Program.leads_done.1 leads
    exact .inr ⟨rfl, .inl ⟨Bool.eq_false_iff.2 disabled, rfl⟩⟩

theorem leads_put {key : String} {record : Record} {rest : Program Unit}
    (leads : Leads (aside.put key record) log rest) :
    (log = [] ∧ ∃ resume, rest = .call (.cache (.set key record.text)) resume) ∨
      rest = .done () ∧ aside.Noted (.set key record.text) log :=
  noted_of_leads (put_eq aside key record) leads

theorem leads_bury {key : String} {rest : Program Unit}
    (leads : Leads (aside.bury key) log rest) :
    (log = [] ∧ ∃ resume, rest = .call (.cache (.set key tombstoneText)) resume) ∨
      rest = .done () ∧ aside.Noted (.set key tombstoneText) log :=
  noted_of_leads (bury_eq aside key) leads

theorem leads_fill {key : String} {record : Record} {rest : Program Unit}
    (leads : Leads (aside.fill key record) log rest) :
    (log = [] ∧ ∃ resume, rest = .call (.cache (.setIfAbsent key record.text)) resume) ∨
      rest = .done () ∧ aside.Noted (.setIfAbsent key record.text) log :=
  noted_of_leads (fill_eq aside key record) leads

/-- What a refresh knows when it writes: of a revisioned kind, that it has not found a later
revision. -/
def NotLater (schema : Schema) (record : Record) (seen : List Exchange) : Prop :=
  schema.revisioned = false ∧ seen = [] ∨
  schema.revisioned = true ∧ ∃ reply : Except CacheError (Option String),
    seen = [.cache (.get (Record.cacheKey schema.kind record.id)) reply] ∧
    ∀ cached, CacheLookup.ofReply reply = .record cached → cached.revision ≤ record.revision

theorem NotLater.isCache {record : Record} (looked : NotLater schema record log) :
    ∀ exchange ∈ log, exchange.isCache = true := by
  rcases looked with ⟨-, rfl⟩ | ⟨-, reply, rfl, -⟩
  · exact List.forall_mem_nil _
  · exact List.forall_mem_singleton.2 rfl

/-- The stages of a refresh after a write. Of a revisioned kind it looks first and may keep what
it finds. -/
inductive RefreshStage (aside : CacheAside) (schema : Schema) (record : Record) :
    List Exchange → Program Unit → Prop
  | idle (disabled : aside.enabled = false) : RefreshStage aside schema record [] (.done ())
  | looking {resume : _} (enabled : aside.enabled = true)
      (revisioned : schema.revisioned = true) :
      RefreshStage aside schema record []
        (.call (.cache (.get (Record.cacheKey schema.kind record.id))) resume)
  | kept {reply : Except CacheError (Option String)} {cached : Record}
      (enabled : aside.enabled = true) (revisioned : schema.revisioned = true)
      (found : CacheLookup.ofReply reply = .record cached)
      (later : record.revision < cached.revision) :
      RefreshStage aside schema record
        [.cache (.get (Record.cacheKey schema.kind record.id)) reply] (.done ())
  | putting {seen : List Exchange} (enabled : aside.enabled = true)
      (looked : NotLater schema record seen) :
      RefreshStage aside schema record seen
        (.call (.cache (.set (Record.cacheKey schema.kind record.id) record.text))
          fun _ => .done ())
  | put {seen : List Exchange} {reply : Except CacheError Unit}
      (enabled : aside.enabled = true) (looked : NotLater schema record seen) :
      RefreshStage aside schema record
        (seen ++ [.cache (.set (Record.cacheKey schema.kind record.id) record.text) reply])
        (.done ())

/-- A refresh makes no call of the store. -/
theorem RefreshStage.isCache {record : Record} {rest : Program Unit}
    (stage : aside.RefreshStage schema record log rest) :
    ∀ exchange ∈ log, exchange.isCache = true := by
  cases stage with
  | idle | looking => exact List.forall_mem_nil _
  | kept => exact List.forall_mem_singleton.2 rfl
  | putting _ looked => exact looked.isCache
  | put _ looked => exact List.forall_mem_append.2 ⟨looked.isCache, List.forall_mem_singleton.2 rfl⟩

/-- A refresh that has come to its end has found a later revision last, or has written. -/
theorem RefreshStage.last_of_done {record : Record} (enabled : aside.enabled = true)
    (stage : aside.RefreshStage schema record log (.done ())) :
    ∃ front last, log = front ++ [last] ∧
      ((schema.revisioned = true ∧ ∃ reply cached,
          last = .cache (.get (Record.cacheKey schema.kind record.id)) reply ∧
          CacheLookup.ofReply reply = .record cached ∧ record.revision < cached.revision) ∨
        ∃ reply, last = .cache (.set (Record.cacheKey schema.kind record.id) record.text) reply) := by
  cases stage with
  | idle disabled => cases enabled.symm.trans disabled
  | kept _ revisioned found later =>
    exact ⟨[], _, rfl, .inl ⟨revisioned, _, _, rfl, found, later⟩⟩
  | @put seen reply => exact ⟨seen, _, rfl, .inr ⟨reply, rfl⟩⟩

/-- After a look that found no later revision, a refresh writes. -/
theorem stage_of_put {record : Record} {rest : Program Unit}
    {reply : Except CacheError (Option String)} (enabled : aside.enabled = true)
    (revisioned : schema.revisioned = true)
    (notLater : ∀ cached, CacheLookup.ofReply reply = .record cached →
      cached.revision ≤ record.revision)
    (leads : Leads (.call (.cache (.set (Record.cacheKey schema.kind record.id) record.text))
      fun _ => .done ()) log rest) :
    RefreshStage aside schema record
      (.cache (.get (Record.cacheKey schema.kind record.id)) reply :: log) rest := by
  rcases leads_askCache leads with ⟨rfl, rfl⟩ | ⟨written, rfl, rfl⟩
  · exact .putting enabled (.inr ⟨revisioned, reply, rfl, notLater⟩)
  · exact @RefreshStage.put _ _ _ [_] _ enabled (.inr ⟨revisioned, reply, rfl, notLater⟩)

theorem onCreateOrUpdate_of_disabled (disabled : aside.enabled = false) (record : Record) :
    aside.onCreateOrUpdate schema record = .done () := by
  simp only [onCreateOrUpdate, lookup_eq_of_disabled disabled, put_eq, disabled]
  split <;> rfl

/-- Without a cache, a record is only read again before it is deleted. -/
theorem onBeforeDelete_of_disabled (schema : Schema) (id : String) :
    onBeforeDelete ⟨false⟩ schema id = Program.askStore (.findOne schema id) := by
  refine congrArg (Program.call (.store (.findOne schema id))) (funext fun reply => ?_)
  cases reply <;> rfl

/-- Of a revisioned kind, a refresh looks first, and keeps a later revision. -/
theorem onCreateOrUpdate_eq (enabled : aside.enabled = true) (revisioned : schema.revisioned = true)
    (record : Record) :
    aside.onCreateOrUpdate schema record =
      .call (.cache (.get (Record.cacheKey schema.kind record.id))) fun reply =>
        match CacheLookup.ofReply reply with
        | .record cached =>
          if record.revision < cached.revision then .done ()
          else .call (.cache (.set (Record.cacheKey schema.kind record.id) record.text))
            fun _ => .done ()
        | _ => .call (.cache (.set (Record.cacheKey schema.kind record.id) record.text))
            fun _ => .done () := by
  simp only [onCreateOrUpdate, revisioned, lookup_eq enabled, put_eq, enabled, ↓reduceIte]
  rfl

/-- A refresh is at one of its stages. -/
theorem refreshStage_of_leads {record : Record} {rest : Program Unit}
    (leads : Leads (aside.onCreateOrUpdate schema record) log rest) :
    RefreshStage aside schema record log rest := by
  cases enabled : aside.enabled with
  | false =>
    rw [onCreateOrUpdate_of_disabled enabled] at leads
    obtain ⟨rfl, rfl⟩ := Program.leads_done.1 leads
    exact .idle enabled
  | true =>
    cases revisioned : schema.revisioned with
    | false =>
      simp only [onCreateOrUpdate, revisioned, put_eq, enabled, ↓reduceIte, Bool.false_eq_true]
        at leads
      rcases leads_askCache leads with ⟨rfl, rfl⟩ | ⟨reply, rfl, rfl⟩
      · exact .putting enabled (.inl ⟨revisioned, rfl⟩)
      · exact @RefreshStage.put _ _ _ [] _ enabled (.inl ⟨revisioned, rfl⟩)
    | true =>
      rw [onCreateOrUpdate_eq enabled revisioned] at leads
      cases leads with
      | here => exact .looking enabled revisioned
      | @after _ _ reply _ _ later =>
        beta_reduce at later
        split at later
        · next cached found =>
          split at later
          · next newer =>
            obtain ⟨rfl, rfl⟩ := Program.leads_done.1 later
            exact .kept enabled revisioned found newer
          · next notNewer =>
            refine stage_of_put enabled revisioned (fun other same => ?_) later
            rw [found] at same
            cases same
            exact Int.not_lt.1 notNewer
        · next noRecord =>
          exact stage_of_put enabled revisioned (fun cached found => absurd found (noRecord cached))
            later

/-- What a fetch knows when it turns to the store: the answer of the cache, if there is one, which
was no record. -/
def Missed (aside : CacheAside) (key : String) (seen : List Exchange) (cached : CacheLookup) :
    Prop :=
  aside.enabled = false ∧ seen = [] ∧ cached = .absent ∨
  aside.enabled = true ∧ (∀ record, cached ≠ .record record) ∧
    ∃ reply : Except CacheError (Option String),
      seen = [.cache (.get key) reply] ∧ CacheLookup.ofReply reply = cached

theorem Missed.isCache {key : String} {cached : CacheLookup} (missed : Missed aside key log cached) :
    ∀ exchange ∈ log, exchange.isCache = true := by
  rcases missed with ⟨-, rfl, -⟩ | ⟨-, -, reply, rfl, -⟩
  · exact List.forall_mem_nil _
  · exact List.forall_mem_singleton.2 rfl

/-- The stages of a fetch. -/
inductive FetchStage (aside : CacheAside) (schema : Schema) (id : String) :
    List Exchange → Program (Except StoreError Record) → Prop
  | asking {resume : _} (enabled : aside.enabled = true) :
      FetchStage aside schema id [] (.call (.cache (.get (Record.cacheKey schema.kind id))) resume)
  | hit {reply : Except CacheError (Option String)} {record : Record}
      (found : CacheLookup.ofReply reply = .record record) :
      FetchStage aside schema id [.cache (.get (Record.cacheKey schema.kind id)) reply]
        (.done (.ok record))
  | looking {seen : List Exchange} {cached : CacheLookup} {resume : _}
      (missed : Missed aside (Record.cacheKey schema.kind id) seen cached) :
      FetchStage aside schema id seen (.call (.store (.findOne schema id)) resume)
  | missing {seen : List Exchange} {cached : CacheLookup} {error : StoreError}
      (missed : Missed aside (Record.cacheKey schema.kind id) seen cached) :
      FetchStage aside schema id (seen ++ [.store (.findOne schema id) (.error error)])
        (.done (.error error))
  /-- What it saw under the key is no record, and is to be replaced. -/
  | replacing {seen : List Exchange} {record : Record} {resume : _}
      (missed : Missed aside (Record.cacheKey schema.kind id) seen .corrupt) :
      FetchStage aside schema id (seen ++ [.store (.findOne schema id) (.ok record)])
        (.call (.cache (.set (Record.cacheKey schema.kind id) record.text)) resume)
  | filling {seen : List Exchange} {cached : CacheLookup} {record : Record} {resume : _}
      (missed : Missed aside (Record.cacheKey schema.kind id) seen cached) :
      FetchStage aside schema id (seen ++ [.store (.findOne schema id) (.ok record)])
        (.call (.cache (.setIfAbsent (Record.cacheKey schema.kind id) record.text)) resume)
  | fetched {seen after : List Exchange} {cached : CacheLookup} {record : Record}
      (missed : Missed aside (Record.cacheKey schema.kind id) seen cached)
      (noted : ∀ exchange ∈ after, exchange.isCache = true) :
      FetchStage aside schema id (seen ++ .store (.findOne schema id) (.ok record) :: after)
        (.done (.ok record))

/-- The part of a fetch that turns to the store. -/
def fetchStored (aside : CacheAside) (schema : Schema) (id : String) (cached : CacheLookup) :
    Program (Except StoreError Record) :=
  (Program.askStore (.findOne schema id)).bind fun reply =>
    match reply with
    | .error error => .done (.error error)
    | .ok record =>
      (if cached = .corrupt then aside.put (Record.cacheKey schema.kind id) record
        else aside.fill (Record.cacheKey schema.kind id) record).bind
        fun _ => .done (.ok record)

theorem fetchOne_eq (aside : CacheAside) (schema : Schema) (id : String) :
    aside.fetchOne schema id =
      (aside.lookup (Record.cacheKey schema.kind id)).bind fun cached =>
        match cached with
        | .record record => .done (.ok record)
        | cached => aside.fetchStored schema id cached := by
  refine congrArg (Program.bind (aside.lookup _)) (funext fun cached => ?_)
  cases cached <;> rfl

theorem fetchStage_of_missed {id : String} {seen : List Exchange} {cached : CacheLookup}
    {rest : Program (Except StoreError Record)}
    (missed : Missed aside (Record.cacheKey schema.kind id) seen cached)
    (leads : Leads (aside.fetchStored schema id cached) log rest) :
    FetchStage aside schema id (seen ++ log) rest := by
  cases leads with
  | here =>
    rw [List.append_nil]
    exact .looking missed
  | @after _ _ reply _ _ later =>
    cases reply with
    | error error =>
      obtain ⟨rfl, rfl⟩ := Program.leads_done.1 later
      exact .missing missed
    | ok record =>
      obtain ⟨work, leads, rfl⟩ := Program.leads_map later
      split at leads
      · next corrupt =>
        subst corrupt
        rcases leads_put leads with ⟨rfl, resume, rfl⟩ | ⟨rfl, noted⟩
        · exact .replacing missed
        · exact .fetched missed noted.isCache
      · rcases leads_fill leads with ⟨rfl, resume, rfl⟩ | ⟨rfl, noted⟩
        · exact .filling missed
        · exact .fetched missed noted.isCache

/-- A fetch is at one of its stages. -/
theorem fetchStage_of_leads {id : String} {rest : Program (Except StoreError Record)}
    (leads : Leads (aside.fetchOne schema id) log rest) :
    FetchStage aside schema id log rest := by
  rw [fetchOne_eq] at leads
  cases enabled : aside.enabled with
  | false =>
    rw [lookup_eq_of_disabled enabled] at leads
    exact fetchStage_of_missed (.inl ⟨enabled, rfl, rfl⟩) leads
  | true =>
    rw [lookup_eq enabled] at leads
    cases leads with
    | here => exact .asking enabled
    | @after _ _ reply log _ later =>
      change Leads (match CacheLookup.ofReply reply with
        | .record record => .done (.ok record)
        | cached => aside.fetchStored schema id cached) log rest at later
      split at later
      · next record found =>
        obtain ⟨rfl, rfl⟩ := Program.leads_done.1 later
        exact .hit found
      · next noRecord =>
        exact fetchStage_of_missed (.inr ⟨enabled, noRecord, reply, rfl, rfl⟩) later

/-- Before a delete the record is looked at again, and a tombstone is left. -/
theorem leads_onBeforeDelete {id : String} {rest : Program (Except StoreError Record)}
    (leads : Leads (aside.onBeforeDelete schema id) log rest) :
    (log = [] ∧ ∃ resume, rest = .call (.store (.findOne schema id)) resume) ∨
    (∃ error, log = [.store (.findOne schema id) (.error error)] ∧ rest = .done (.error error)) ∨
    ∃ (current : Record) (after : List Exchange),
      log = .store (.findOne schema id) (.ok current) :: after ∧
      ((after = [] ∧ ∃ resume, rest =
          .call (.cache (.set (Record.cacheKey schema.kind current.id) tombstoneText)) resume) ∨
        rest = .done (.ok current) ∧
          aside.Noted (.set (Record.cacheKey schema.kind current.id) tombstoneText) after) := by
  cases leads with
  | here => exact .inl ⟨rfl, _, rfl⟩
  | @after _ _ reply log _ later =>
    cases reply with
    | error error =>
      obtain ⟨rfl, rfl⟩ := Program.leads_done.1 later
      exact .inr (.inl ⟨error, rfl, rfl⟩)
    | ok current =>
      refine .inr (.inr ⟨current, log, rfl, ?_⟩)
      obtain ⟨work, burying, rfl⟩ := Program.leads_map later
      rcases leads_bury burying with ⟨rfl, resume, rfl⟩ | ⟨rfl, noted⟩
      · exact .inl ⟨rfl, _, rfl⟩
      · exact .inr ⟨rfl, noted⟩

theorem fill_of_fillAll {kind : String} {records : List Record} {rest : Program Unit}
    (leads : Leads (aside.fillAll kind records) log rest) :
    (∀ exchange ∈ log, exchange.isCache = true) ∧
      (rest = .done () ∨ ∃ record ∈ records, ∃ resume, rest =
        .call (.cache (.setIfAbsent (Record.cacheKey kind record.id) record.text)) resume) := by
  induction records generalizing log with
  | nil =>
    obtain ⟨rfl, rfl⟩ := Program.leads_done.1 leads
    exact ⟨List.forall_mem_nil _, .inl rfl⟩
  | cons first others ih =>
    have widen : ∀ {log}, Leads (aside.fillAll kind others) log rest →
        (∀ exchange ∈ log, exchange.isCache = true) ∧
          (rest = .done () ∨ ∃ record ∈ first :: others, ∃ resume, rest =
            .call (.cache (.setIfAbsent (Record.cacheKey kind record.id) record.text)) resume) :=
      fun later => (ih later).imp_right (Or.imp_right fun ⟨record, member, found⟩ =>
        ⟨record, List.mem_cons_of_mem first member, found⟩)
    rcases Program.leads_bind leads with ⟨work, one, rfl⟩ | ⟨before, after, _, rfl, one, later⟩
    · rcases leads_fill one with ⟨rfl, resume, rfl⟩ | ⟨rfl, noted⟩
      · exact ⟨List.forall_mem_nil _, .inr ⟨first, List.mem_cons_self, _, rfl⟩⟩
      · exact ⟨noted.isCache, (widen .here).2⟩
    · rcases leads_fill one with ⟨-, resume, impossible⟩ | ⟨-, noted⟩
      · cases impossible
      · refine ⟨fun exchange member => ?_, (widen later).2⟩
        rcases List.mem_append.1 member with early | late
        · exact noted.isCache exchange early
        · exact (widen later).1 exchange late

/-- After a query, the only calls are fills with the records that it found. -/
theorem fill_of_leads {filter : CompiledFilter} {records : List Record} {rest : Program Unit}
    (leads : Leads (aside.onFetched schema filter records) log rest) :
    (∀ exchange ∈ log, exchange.isCache = true) ∧
      (rest = .done () ∨ ∃ record ∈ records, ∃ resume, filter.includes.isEmpty = true ∧
        rest = .call (.cache (.setIfAbsent (Record.cacheKey schema.kind record.id) record.text))
          resume) := by
  unfold onFetched at leads
  split at leads
  · next wanted =>
    obtain ⟨noted, finished | ⟨record, member, resume, same⟩⟩ := fill_of_fillAll leads
    · exact ⟨noted, .inl finished⟩
    · exact ⟨noted, .inr ⟨record, member, resume, (Bool.and_eq_true_iff.1 wanted).2, same⟩⟩
  · obtain ⟨rfl, rfl⟩ := Program.leads_done.1 leads
    exact ⟨List.forall_mem_nil _, .inl rfl⟩

end CacheAside

end RecordAccess
