import RecordAccess.Proofs.Transparency

/-!
# Untrusted caches

A cache that answers as it pleases can deceive reads and nothing else. It may be anything that knows
the store, remembers what it was asked, and answers each call with any value, any text or an error.
Requests that are handled one after another beside such a cache leave the same records as without a
cache, and all but the reads have the same responses; a read has the same response too if the cache
tells it of no record (`UntrustedCache.handle_untrusted`).

The work beside a cache follows the work without one: it makes the same calls of the store with calls
of the cache in between, and whatever these are answered with, it goes on in the same way
(`Program.Follows`).
-/

namespace RecordAccess

namespace Program

variable {α β σ : Type}

/-! ## Following programs -/

/-- A program follows another: it makes the same calls of the store, and calls of the cache in between.
It goes on in the same way whatever these are answered with, as long as it is allowed. -/
inductive Follows (allowed : Exchange → Prop) : Program α → Program α → Prop
  | done {result : α} : Follows allowed (.done result) (.done result)
  | store {call : StoreCall} {resume other : (Call.store call).Reply → Program α}
      (each : ∀ reply, Follows allowed (resume reply) (other reply)) :
      Follows allowed (.call (.store call) resume) (.call (.store call) other)
  | cache {call : CacheCall} {resume : (Call.cache call).Reply → Program α} {other : Program α}
      (each : ∀ reply, allowed (.cache call reply) → Follows allowed (resume reply) other) :
      Follows allowed (.call (.cache call) resume) other

/-- A program makes no call of the store but look-ups of records. -/
inductive OnlyLooks : Program α → Prop
  | done {result : α} : OnlyLooks (.done result)
  | look {schema : Schema} {id : String}
      {resume : (Call.store (.findOne schema id)).Reply → Program α}
      (each : ∀ reply, OnlyLooks (resume reply)) :
      OnlyLooks (.call (.store (.findOne schema id)) resume)
  | cache {call : CacheCall} {resume : (Call.cache call).Reply → Program α}
      (each : ∀ reply, OnlyLooks (resume reply)) : OnlyLooks (.call (.cache call) resume)

/-- The exchanges of a run. -/
def exchanges (answer : (call : Call) → σ → call.Reply × σ) : Program α → σ → List Exchange
  | done _, _ => []
  | call next resume, state =>
    let (reply, state) := answer next state
    ⟨next, reply⟩ :: (resume reply).exchanges answer state

variable {allowed : Exchange → Prop}

theorem Follows.askStore (call : StoreCall) :
    Follows allowed (Program.askStore call) (Program.askStore call) :=
  .store fun _ => .done

theorem Follows.bind {program other : Program α} {f g : α → Program β}
    (first : Follows allowed program other)
    (second : ∀ result, Follows allowed (f result) (g result)) :
    Follows allowed (program.bind f) (other.bind g) := by
  induction first with
  | done => exact second _
  | store _ ih => exact .store ih
  | cache _ ih => exact .cache ih

theorem OnlyLooks.bind {program : Program α} {f : α → Program β} (first : OnlyLooks program)
    (second : ∀ result, OnlyLooks (f result)) : OnlyLooks (program.bind f) := by
  induction first with
  | done => exact second _
  | look _ ih => exact .look ih
  | cache _ ih => exact .cache ih

/-- What only calls the cache makes no call of the store. -/
theorem Follows.onlyLooks {program : Program α} {result : α}
    (follows : Follows (fun _ => True) program (.done result)) : OnlyLooks program := by
  generalize finished : Program.done result = other at follows
  induction follows with
  | done => exact .done
  | store => cases finished
  | cache _ ih => exact .cache fun reply => ih reply trivial finished

end Program

/-! ## The cache aside -/

/-- An exchange is no look-up that has found the text of a record: the cache has failed, holds nothing,
or holds a text that is no record. -/
def Exchange.IsMiss (exchange : Exchange) : Prop :=
  ∀ key text, exchange = .cache (.get key) (.ok (some text)) →
    ∀ record, Record.decode.ofText text ≠ .ok record

/-- What is no record when it is looked up is not taken for one. -/
theorem CacheLookup.ofReply_ne_record {key : String} {reply : Except CacheError (Option String)}
    (missed : (Exchange.cache (.get key) reply).IsMiss) (record : Record) :
    CacheLookup.ofReply reply ≠ .record record := by
  intro found
  match reply with
  | .error error => cases found
  | .ok none => cases found
  | .ok (some text) =>
    change CacheAside.decodeEntry text = .record record at found
    unfold CacheAside.decodeEntry at found
    split at found
    · cases found
    · split at found
      · next decoded => exact missed key text rfl _ decoded
      · cases found

namespace CacheAside

open Program (Follows OnlyLooks)

variable {allowed : Exchange → Prop} {aside : CacheAside} {schema : Schema} {record : Record}
  {key kind id : String}

theorem follows_put : Follows allowed (aside.put key record) (.done ()) := by
  rw [put_eq]
  split
  · exact .cache fun _ _ => .done
  · exact .done

theorem follows_fill : Follows allowed (aside.fill key record) (.done ()) := by
  rw [fill_eq]
  split
  · exact .cache fun _ _ => .done
  · exact .done

theorem follows_bury : Follows allowed (aside.bury key) (.done ()) := by
  rw [bury_eq]
  split
  · exact .cache fun _ _ => .done
  · exact .done

theorem follows_fillAll (records : List Record) :
    Follows allowed (aside.fillAll kind records) (.done ()) := by
  induction records with
  | nil => exact .done
  | cons record rest ih => exact follows_fill.bind fun _ => ih

/-- After a query the cache is filled, whatever it answers. -/
theorem follows_onFetched (filter : CompiledFilter) (records : List Record) :
    Follows allowed (aside.onFetched schema filter records) (.done ()) := by
  unfold onFetched
  split
  · exact follows_fillAll records
  · exact .done

/-- After a write the cache decides only whether it is written to. -/
theorem follows_onCreateOrUpdate :
    Follows allowed (aside.onCreateOrUpdate schema record) (.done ()) := by
  cases enabled : aside.enabled with
  | false =>
    rw [onCreateOrUpdate_of_disabled enabled]
    exact .done
  | true =>
    cases revisioned : schema.revisioned with
    | false =>
      simp only [onCreateOrUpdate, revisioned, Bool.false_eq_true, if_false]
      exact follows_put
    | true =>
      rw [onCreateOrUpdate_eq enabled revisioned]
      refine .cache fun reply _ => ?_
      split
      · split
        · exact .done
        · exact .cache fun _ _ => .done
      · exact .cache fun _ _ => .done

/-- Before a delete the record comes from the store. -/
theorem follows_onBeforeDelete :
    Follows allowed (aside.onBeforeDelete schema id)
      (CacheAside.onBeforeDelete ⟨false⟩ schema id) := by
  refine (Follows.askStore (.findOne schema id)).bind fun reply => ?_
  cases reply with
  | error error => exact .done
  | ok current => exact follows_bury.bind fun _ => .done

theorem follows_fetchStored (cached : CacheLookup) :
    Follows allowed (aside.fetchStored schema id cached) (Program.askStore (.findOne schema id)) := by
  rw [← Program.bind_done (Program.askStore (.findOne schema id))]
  refine (Follows.askStore _).bind fun reply => ?_
  cases reply with
  | error error => exact .done
  | ok record =>
    dsimp only
    split
    · exact follows_put.bind fun _ => .done
    · exact follows_fill.bind fun _ => .done

/-- A fetch comes from the store when the cache tells of no record. -/
theorem follows_fetchOne (misses : ∀ exchange, allowed exchange → exchange.IsMiss) :
    Follows allowed (aside.fetchOne schema id) (CacheAside.fetchOne ⟨false⟩ schema id) := by
  rw [Backend.fetchOne_of_disabled, fetchOne_eq]
  cases enabled : aside.enabled with
  | false =>
    rw [lookup_eq_of_disabled enabled]
    exact follows_fetchStored .absent
  | true =>
    rw [lookup_eq enabled]
    refine .cache fun reply permitted => ?_
    have noRecord := CacheLookup.ofReply_ne_record (misses _ permitted)
    simp only [Program.done_bind]
    cases found : CacheLookup.ofReply reply with
    | record record => exact absurd found (noRecord record)
    | _ => exact follows_fetchStored _

theorem onlyLooks_lookup : OnlyLooks (aside.lookup key) := by
  cases enabled : aside.enabled with
  | false =>
    rw [lookup_eq_of_disabled enabled]
    exact .done
  | true =>
    rw [lookup_eq enabled]
    exact .cache fun _ => .done

theorem onlyLooks_fetchStored (cached : CacheLookup) :
    OnlyLooks (aside.fetchStored schema id cached) := by
  have looked : OnlyLooks (Program.askStore (.findOne schema id)) := .look fun _ => .done
  refine looked.bind fun reply => ?_
  cases reply with
  | error error => exact .done
  | ok record =>
    refine OnlyLooks.bind ?_ fun _ => .done
    split
    · exact follows_put.onlyLooks
    · exact follows_fill.onlyLooks

/-- A fetch only looks, whatever it finds. -/
theorem onlyLooks_fetchOne : OnlyLooks (aside.fetchOne schema id) := by
  rw [fetchOne_eq]
  refine onlyLooks_lookup.bind fun cached => ?_
  cases cached with
  | record record => exact .done
  | _ => exact onlyLooks_fetchStored _

end CacheAside

/-! ## The operations -/

namespace Service

open Program (Follows OnlyLooks)

variable {α β : Type} {allowed : Exchange → Prop} {registry : Registry} {caller : Option Principal}
  {kind id : String}

theorem follows_decided {outcome : Except ServiceError α} {f g : α → Work β}
    (permitted : ∀ value, Follows allowed (f value).run (g value).run) :
    Follows allowed (ExceptT.run (decided outcome >>= f)) (ExceptT.run (decided outcome >>= g)) := by
  cases outcome with
  | ok value => exact permitted value
  | error error => exact .done

theorem follows_storing {program other : Program (Except StoreError α)} {f g : α → Work β}
    (first : Follows allowed program other)
    (succeeded : ∀ value, Follows allowed (f value).run (g value).run) :
    Follows allowed (ExceptT.run (storing program >>= f)) (ExceptT.run (storing other >>= g)) := by
  rw [storing_bind, storing_bind]
  refine first.bind fun reply => ?_
  cases reply with
  | error error => exact .done
  | ok value => exact succeeded value

/-- Work ends with calls of the cache on one side, and at once on the other. -/
theorem follows_caching {program other : Program Unit} {value : β}
    (first : Follows allowed program (.done ())) (idle : other = .done ()) :
    Follows allowed (ExceptT.run (caching program >>= fun _ => pure value))
      (ExceptT.run (caching other >>= fun _ => pure value)) := by
  rw [caching_pure, idle]
  exact first.bind fun _ => .done

theorem follows_map {work other : Work α} (form : α → β)
    (follows : Follows allowed work.run other.run) :
    Follows allowed (ExceptT.run (form <$> work)) (ExceptT.run (form <$> other)) := by
  refine follows.bind fun outcome => ?_
  cases outcome <;> exact .done

theorem follows_read (misses : ∀ exchange, allowed exchange → exchange.IsMiss) :
    Follows allowed (read ⟨registry, ⟨true⟩⟩ caller kind id).run
      (read ⟨registry, ⟨false⟩⟩ caller kind id).run := by
  refine follows_decided fun schema => follows_decided fun _ => ?_
  refine follows_storing (CacheAside.follows_fetchOne misses) fun record => ?_
  exact follows_decided fun _ => .done

theorem onlyLooks_decided {outcome : Except ServiceError α} {f : α → Work β}
    (permitted : ∀ value, OnlyLooks (f value).run) :
    OnlyLooks (ExceptT.run (decided outcome >>= f)) := by
  cases outcome with
  | ok value => exact permitted value
  | error error => exact .done

/-- A read only looks, whatever it finds. -/
theorem onlyLooks_read (service : Service) (caller : Option Principal) (kind id : String) :
    OnlyLooks (service.read caller kind id).run := by
  refine onlyLooks_decided fun schema => onlyLooks_decided fun _ => ?_
  rw [storing_bind]
  refine CacheAside.onlyLooks_fetchOne.bind fun reply => ?_
  cases reply with
  | error error => exact .done
  | ok record => exact onlyLooks_decided fun _ => .done

theorem follows_create {body : Json} :
    Follows allowed (create ⟨registry, ⟨true⟩⟩ caller kind body).run
      (create ⟨registry, ⟨false⟩⟩ caller kind body).run := by
  refine follows_decided fun schema => follows_decided fun payload => follows_decided fun _ => ?_
  refine follows_storing (.askStore _) fun created => ?_
  exact follows_caching CacheAside.follows_onCreateOrUpdate
    (CacheAside.onCreateOrUpdate_of_disabled rfl created)

theorem follows_update {body : Json} :
    Follows allowed (update ⟨registry, ⟨true⟩⟩ caller kind id body).run
      (update ⟨registry, ⟨false⟩⟩ caller kind id body).run := by
  refine follows_decided fun schema => follows_decided fun _ => follows_decided fun payload => ?_
  refine follows_storing (.askStore _) fun current => ?_
  refine follows_decided fun _ => follows_decided fun expected => ?_
  refine follows_storing (.askStore _) fun updated => ?_
  exact follows_caching CacheAside.follows_onCreateOrUpdate
    (CacheAside.onCreateOrUpdate_of_disabled rfl updated)

theorem follows_delete :
    Follows allowed (delete ⟨registry, ⟨true⟩⟩ caller kind id).run
      (delete ⟨registry, ⟨false⟩⟩ caller kind id).run := by
  refine follows_decided fun schema => follows_decided fun _ => ?_
  refine follows_storing (.askStore _) fun found => follows_decided fun _ => ?_
  refine follows_storing CacheAside.follows_onBeforeDelete fun current => ?_
  refine follows_storing (.askStore _) fun _ => ?_
  exact follows_caching CacheAside.follows_bury rfl

theorem follows_query (expression : FilterExpression) :
    Follows allowed (query ⟨registry, ⟨true⟩⟩ caller kind expression).run
      (query ⟨registry, ⟨false⟩⟩ caller kind expression).run := by
  refine follows_decided fun schema => follows_decided fun filter => ?_
  refine follows_storing (.askStore _) fun records => ?_
  exact follows_caching (CacheAside.follows_onFetched filter records) rfl

/-- A request beside a cache follows the request without one; if it is a read, as long as the cache
tells of no record. -/
theorem follows_handle {request : Request}
    (misses : request.operation = .read → ∀ exchange, allowed exchange → exchange.IsMiss) :
    Follows allowed (handle ⟨registry, ⟨true⟩⟩ caller request)
      (handle ⟨registry, ⟨false⟩⟩ caller request) := by
  have dispatched : Follows allowed (dispatch ⟨registry, ⟨true⟩⟩ caller request).run
      (dispatch ⟨registry, ⟨false⟩⟩ caller request).run := by
    unfold dispatch
    cases operation : request.operation with
    | read => exact follows_map _ (follows_read (misses operation))
    | create => exact follows_map _ follows_create
    | update => exact follows_map _ follows_update
    | delete => exact follows_map _ follows_delete
    | query =>
      refine follows_decided fun _ => follows_decided fun expression => ?_
      exact follows_map _ (follows_query expression)
  exact dispatched.bind fun _ => .done

theorem onlyLooks_handle (service : Service) (caller : Option Principal) {request : Request}
    (reads : request.operation = .read) : OnlyLooks (service.handle caller request) := by
  have dispatched : OnlyLooks (service.dispatch caller request).run := by
    unfold dispatch
    rw [reads]
    refine (onlyLooks_read service caller _ _).bind fun outcome => ?_
    cases outcome <;> exact .done
  exact dispatched.bind fun _ => .done

end Service

/-! ## Runs beside an untrusted cache -/

/-- A cache that answers as it pleases: it knows the store, and has a memory of any kind. -/
abbrev UntrustedCache (σ : Type) : Type :=
  (call : CacheCall) → Store → σ → call.Reply × σ

namespace UntrustedCache

variable {α σ : Type} {cache : UntrustedCache σ} {allowed : Exchange → Prop}

/-- Answers a call from the store, or as the cache does. -/
def answer (cache : UntrustedCache σ) : (call : Call) → Store × σ → call.Reply × (Store × σ)
  | .store call, (store, memory) =>
    let (reply, store) := store.answer call
    (reply, store, memory)
  | .cache call, (store, memory) =>
    let (reply, memory) := cache call store memory
    (reply, store, memory)

/-- What a request was answered with, the records that are stored after it, and the exchanges by which
it was handled. -/
structure Answered where
  response : Response
  tables : Keyed (List Record)
  exchanges : List Exchange

/-- Handles requests one after another. -/
def handleAll (cache : UntrustedCache σ) (service : Service) :
    List (Option Principal × Request) → Store × σ → List Answered
  | [], _ => []
  | (caller, request) :: rest, backend =>
    let work := service.handle caller request
    let (response, after) := work.run cache.answer backend
    ⟨response, after.1.tables, work.exchanges cache.answer backend⟩ ::
      handleAll cache service rest after

theorem run_store (call : StoreCall) (resume : (Call.store call).Reply → Program α)
    (backend : Store × σ) :
    (Program.call (.store call) resume).run cache.answer backend =
      (resume (backend.1.answer call).1).run cache.answer
        ((backend.1.answer call).2, backend.2) := rfl

/-- A program that follows another has the same result and leaves a store that agrees, if all its
exchanges are allowed. -/
theorem run_of_follows {program other : Program α} (follows : program.Follows allowed other)
    {backend bare : Store × σ} (agrees : backend.1.Agrees bare.1)
    (each : ∀ exchange ∈ program.exchanges cache.answer backend, allowed exchange) :
    (program.run cache.answer backend).1 = (other.run cache.answer bare).1 ∧
      (program.run cache.answer backend).2.1.Agrees (other.run cache.answer bare).2.1 := by
  induction follows generalizing backend bare with
  | done => exact ⟨rfl, agrees⟩
  | @store call resume other _ ih =>
    obtain ⟨same, agrees⟩ := Store.answer_of_agrees agrees call
    rw [run_store, run_store, ← same]
    exact ih _ agrees fun exchange member => each exchange (List.mem_cons_of_mem _ member)
  | cache _ ih =>
    have first := each _ (List.mem_cons_self ..)
    exact ih _ first agrees fun exchange member => each exchange (List.mem_cons_of_mem _ member)

/-- A program that only looks leaves the records as they are. -/
theorem run_of_onlyLooks (cache : UntrustedCache σ) {program : Program α}
    (looks : program.OnlyLooks) (backend : Store × σ) :
    (program.run cache.answer backend).2.1.Agrees backend.1 := by
  induction looks generalizing backend with
  | done => exact .refl _
  | @look schema id _ _ ih =>
    exact (ih _ (_, _)).trans (backend.1.agrees_findOne schema id).symm
  | cache _ ih => exact ih _ (_, _)

/-- A request leaves the same records beside a cache as without one. It has the same response, unless
it is a read that the cache tells of a record. -/
theorem run_handle (cache : UntrustedCache σ) (registry : Registry) (caller : Option Principal)
    (request : Request) {backend bare : Store × σ} (agrees : backend.1.Agrees bare.1) :
    ((Service.handle ⟨registry, ⟨true⟩⟩ caller request).run cache.answer backend).2.1.Agrees
        ((Service.handle ⟨registry, ⟨false⟩⟩ caller request).run cache.answer bare).2.1 ∧
      (request.operation ≠ .read ∨ (∀ exchange ∈ (Service.handle ⟨registry, ⟨true⟩⟩ caller
          request).exchanges cache.answer backend, exchange.IsMiss) →
        ((Service.handle ⟨registry, ⟨true⟩⟩ caller request).run cache.answer backend).1 =
          ((Service.handle ⟨registry, ⟨false⟩⟩ caller request).run cache.answer bare).1) := by
  by_cases reads : request.operation = .read
  · refine ⟨?_, ?_⟩
    · have beside := run_of_onlyLooks cache
        (Service.onlyLooks_handle ⟨registry, ⟨true⟩⟩ caller reads) backend
      have alone := run_of_onlyLooks cache
        (Service.onlyLooks_handle ⟨registry, ⟨false⟩⟩ caller reads) bare
      exact beside.trans (agrees.trans alone.symm)
    · rintro (other | misses)
      · exact absurd reads other
      · exact (run_of_follows (Service.follows_handle fun _ _ missed => missed) agrees misses).1
  · have follows := @Service.follows_handle (fun _ => True) registry caller request
      fun same => absurd same reads
    obtain ⟨same, agrees⟩ := run_of_follows follows agrees fun _ _ => trivial
    exact ⟨agrees, fun _ => same⟩

/-- Beside a cache that answers as it pleases, requests that are handled one after another leave the
same records as without a cache. All but the reads have the same responses, and a read has the same if
no look-up in the cache finds it a record. -/
theorem handle_untrusted (cache : UntrustedCache σ) (registry : Registry)
    (requests : List (Option Principal × Request)) (store : Store) (memory : σ) {i : Nat}
    {caller : Option Principal} {request : Request}
    (asked : requests[i]? = some (caller, request)) :
    ∃ beside alone,
      (cache.handleAll ⟨registry, ⟨true⟩⟩ requests (store, memory))[i]? = some beside ∧
      (cache.handleAll ⟨registry, ⟨false⟩⟩ requests (store, memory))[i]? = some alone ∧
      beside.tables = alone.tables ∧
      (request.operation ≠ .read ∨ (∀ exchange ∈ beside.exchanges, exchange.IsMiss) →
        beside.response = alone.response) := by
  suffices ∀ backend bare : Store × σ, backend.1.Agrees bare.1 → ∃ beside alone,
      (cache.handleAll ⟨registry, ⟨true⟩⟩ requests backend)[i]? = some beside ∧
      (cache.handleAll ⟨registry, ⟨false⟩⟩ requests bare)[i]? = some alone ∧
      beside.tables = alone.tables ∧
      (request.operation ≠ .read ∨ (∀ exchange ∈ beside.exchanges, exchange.IsMiss) →
        beside.response = alone.response) from this _ _ (.refl store)
  induction requests generalizing i with
  | nil => cases asked
  | cons first rest ih =>
    intro backend bare agrees
    obtain ⟨agrees, same⟩ := run_handle cache registry first.1 first.2 agrees
    cases i with
    | zero =>
      cases asked
      exact ⟨_, _, rfl, rfl, agrees.tables, same⟩
    | succ i => exact ih asked _ _ agrees

/-- A cache that refuses every write, and tells every look-up of the same note. -/
def forgery : UntrustedCache Unit
  | .get _, _, _ => (.ok (some (Record.text ⟨"1", none, 9, [("title", .string "forged")]⟩)), ())
  | .contains _, _, _ => (.error .timeout, ())
  | .set _ _, _, _ => (.error .timeout, ())
  | .setIfAbsent _ _, _, _ => (.error .timeout, ())
  | .delete _, _, _ => (.error .timeout, ())
  | .close, _, _ => (.error .closed, ())

/-- The update of the note is answered beside the forgery as without it, although the look-up of the
refresh finds a later revision. -/
theorem handle_forgery : ∃ beside alone,
    (forgery.handleAll .notes Backend.lifeOfNote (.empty Store.uuid, ()))[2]? = some beside ∧
    (forgery.handleAll ⟨Service.notes.registry, ⟨false⟩⟩ Backend.lifeOfNote (.empty Store.uuid, ()))[2]? =
      some alone ∧
    beside.tables = alone.tables ∧ beside.response = alone.response := by
  obtain ⟨beside, alone, there, bare, stored, same⟩ :=
    @handle_untrusted _ forgery Service.notes.registry Backend.lifeOfNote (.empty Store.uuid) () 2 _ _ rfl
  exact ⟨beside, alone, there, bare, stored, same (.inl (by decide))⟩

/-- The read before it is deceived. -/
example : ((forgery.handleAll .notes Backend.lifeOfNote (.empty Store.uuid, ()))[1]?).map
      (fun answered => answered.response) ≠
    ((forgery.handleAll ⟨Service.notes.registry, ⟨false⟩⟩ Backend.lifeOfNote (.empty Store.uuid, ()))[1]?).map
      fun answered => answered.response := by
  decide +kernel

end UntrustedCache

end RecordAccess
