import RecordAccess.Proofs.Backend
import RecordAccess.Proofs.Stages.Operations

/-!
# Transparency of the cache

Requests that are handled one after another are answered beside a cache as they are without one,
and leave the same records (`Backend.handleAll_of_quiet`). An operation beside the cache and the same
operation without it are coupled: begun on stores that agree, they have the same result and leave
stores that agree, and the cache is coherent before and after.
-/

namespace RecordAccess

namespace Backend

/-- Handles requests one after another. Gives each response, and the records that are stored after
it. -/
def handleAll (clock : Nat → Nat) (service : Service) :
    List (Option Principal × Request) → Backend → List (Response × Keyed (List Record))
  | [], _ => []
  | (caller, request) :: rest, backend =>
    let (response, backend) := (service.handle caller request).run (answer clock) backend
    (response, backend.store.tables) :: handleAll clock service rest backend

/-! ## Coupled programs -/

section Coupling

variable {α β : Type} {clock : Nat → Nat} {before : Backend → Prop}

/-- Begun on stores that agree, two programs have the same result and leave stores that agree. The
conditions are on the backend of the first of them. -/
def Couples (clock : Nat → Nat) (before : Backend → Prop) (program other : Program α)
    (after : α → Backend → Prop) : Prop :=
  ∀ backend bare, before backend → backend.store.Agrees bare.store →
    (program.run (answer clock) backend).1 = (other.run (answer clock) bare).1 ∧
      after (program.run (answer clock) backend).1 (program.run (answer clock) backend).2 ∧
      (program.run (answer clock) backend).2.store.Agrees (other.run (answer clock) bare).2.store

/-- A program does not change the store. -/
def Spares (clock : Nat → Nat) (before : Backend → Prop) (program : Program α)
    (after : α → Backend → Prop) : Prop :=
  ∀ backend, before backend →
    (program.run (answer clock) backend).2.store = backend.store ∧
      after (program.run (answer clock) backend).1 (program.run (answer clock) backend).2

theorem couples_done {value : α} {after : α → Backend → Prop}
    (implies : ∀ backend, before backend → after value backend) :
    Couples clock before (.done value) (.done value) after :=
  fun backend _ holds agrees => ⟨rfl, implies backend holds, agrees⟩

theorem couples_bind {program other : Program α} {f g : α → Program β}
    {between : α → Backend → Prop} {after : β → Backend → Prop}
    (first : Couples clock before program other between)
    (second : ∀ value, Couples clock (between value) (f value) (g value) after) :
    Couples clock before (program.bind f) (other.bind g) after := by
  intro backend bare holds agrees
  obtain ⟨same, reached, agrees⟩ := first backend bare holds agrees
  simp only [Program.run_bind]
  rw [← same]
  exact second _ _ _ reached agrees

/-- Work that spares the store may come first on one side only. -/
theorem couples_of_spares {program : Program α} {f : α → Program β} {other : Program β}
    {between : α → Backend → Prop} {after : β → Backend → Prop}
    (first : Spares clock before program between)
    (second : ∀ value, Couples clock (between value) (f value) other after) :
    Couples clock before (program.bind f) other after := by
  intro backend bare holds agrees
  obtain ⟨same, reached⟩ := first backend holds
  simp only [Program.run_bind]
  exact second _ _ _ reached (same ▸ agrees)

/-- Both sides make the same call of the store. -/
theorem couples_askStore {call : StoreCall} {after : call.Reply → Backend → Prop}
    (implies : ∀ backend, before backend → after (backend.store.answer call).1
      ⟨(backend.store.answer call).2, backend.cache, backend.calls + 1⟩) :
    Couples clock before (Program.askStore call) (Program.askStore call) after := by
  intro backend bare holds agrees
  obtain ⟨same, agrees⟩ := Store.answer_of_agrees agrees call
  exact ⟨same, implies backend holds, agrees⟩

theorem couples_weaken {program other : Program α} {stronger : Backend → Prop}
    {after weaker : α → Backend → Prop} (couples : Couples clock before program other after)
    (implies : ∀ backend, stronger backend → before backend)
    (implied : ∀ value backend, after value backend → weaker value backend) :
    Couples clock stronger program other weaker := by
  intro backend bare holds agrees
  obtain ⟨same, reached, agrees⟩ := couples backend bare (implies backend holds) agrees
  exact ⟨same, implied _ _ reached, agrees⟩

theorem spares_bind {program : Program α} {f : α → Program β} {between : α → Backend → Prop}
    {after : β → Backend → Prop} (first : Spares clock before program between)
    (second : ∀ value, Spares clock (between value) (f value) after) :
    Spares clock before (program.bind f) after := by
  intro backend holds
  obtain ⟨same, reached⟩ := first backend holds
  rw [Program.run_bind, ← same]
  exact second _ _ reached

theorem spares_weaken {program : Program α} {stronger : Backend → Prop}
    {after weaker : α → Backend → Prop} (spares : Spares clock before program after)
    (implies : ∀ backend, stronger backend → before backend)
    (implied : ∀ value backend, after value backend → weaker value backend) :
    Spares clock stronger program weaker :=
  fun backend holds => (spares backend (implies backend holds)).imp_right (implied _ _)

/-- What holds of the store holds after work that spares it. -/
theorem spares_frame {program : Program α} {after : α → Backend → Prop} {stored : Store → Prop}
    (spares : Spares clock before program after) :
    Spares clock (fun backend => before backend ∧ stored backend.store) program
      fun value backend => after value backend ∧ stored backend.store := by
  intro backend ⟨holds, there⟩
  obtain ⟨same, reached⟩ := spares backend holds
  exact ⟨same, reached, same ▸ there⟩

end Coupling

/-! ## Calls of the cache -/

section Caching

variable {clock : Nat → Nat} {schema : Schema} {record : Record} {kind id text : String}
  {pending : Option (String × String)}

/-- No record is being written. -/
def IsQuiet (backend : Backend) : Prop :=
  backend.IsCoherent none

/-- What may be cached is written. -/
theorem spares_set (unmarked : ':' ∉ kind.toList) (own : ∀ record ∈ pending, record = (kind, id)) :
    Spares clock (fun backend => backend.IsCoherent pending ∧ backend.IsCacheable kind id text)
      (.call (.cache (.set (Record.cacheKey kind id) text)) fun _ => .done ()) fun _ => IsQuiet := by
  intro backend ⟨coherent, cacheable⟩
  simp only [Program.run, answer, Cache.answer_of_isOpen coherent.isOpen, Cache.answerOpen]
  exact ⟨trivial, coherent.write own unmarked cacheable _ _⟩

theorem spares_fill (unmarked : ':' ∉ kind.toList) :
    Spares clock
      (fun backend => backend.IsQuiet ∧ backend.store.row? kind record.id = some record)
      (CacheAside.fill ⟨true⟩ (Record.cacheKey kind record.id) record) fun _ => IsQuiet := by
  intro backend ⟨coherent, there⟩
  simp only [CacheAside.fill_eq, if_true, Program.run, answer,
    Cache.answer_of_isOpen coherent.isOpen]
  exact ⟨trivial, coherent.fill unmarked (.inr ⟨record, there, rfl⟩) _ _⟩

/-- A look-up is told what a listed text says, or nothing. -/
theorem spares_lookup {before : Backend → Prop} {key : String}
    {after : CacheLookup → Backend → Prop}
    (isOpen : ∀ backend, before backend → backend.cache.closed = false)
    (implies : ∀ backend found n lookup, before backend →
      (∀ record, lookup = .record record → ∃ text, backend.cache.listed? key = some text ∧
        CacheAside.decodeEntry text = .record record) →
      after lookup ⟨backend.store, backend.cache.countLookup found, n⟩) :
    Spares clock before (CacheAside.lookup ⟨true⟩ key) after := by
  intro backend holds
  rw [CacheAside.lookup_eq rfl]
  simp only [Program.run, answer, Cache.answer_of_isOpen (isOpen backend holds), Cache.answerOpen]
  refine ⟨trivial, implies backend _ _ _ holds fun record said => ?_⟩
  cases alive : backend.cache.live? (clock backend.calls) key with
  | none =>
    rw [alive] at said
    cases said
  | some text =>
    rw [alive] at said
    exact ⟨text, Cache.listed?_of_live? alive, said⟩

/-! ## What reads and writes do beside the cache -/

theorem spares_fillAll (unmarked : ':' ∉ kind.toList) (records : List Record) :
    Spares clock (fun backend => backend.IsQuiet ∧
        ∀ record ∈ records, backend.store.row? kind record.id = some record)
      (CacheAside.fillAll ⟨true⟩ kind records) fun _ => IsQuiet := by
  induction records with
  | nil => exact fun backend holds => ⟨rfl, holds.1⟩
  | cons record rest ih =>
    have filled := @spares_frame _ clock _ _ _
      (fun store => ∀ record ∈ rest, store.row? kind record.id = some record)
      (@spares_fill clock record kind unmarked)
    refine spares_weaken (spares_bind filled fun _ => ih) (fun backend holds => ?_)
      fun _ _ quiet => quiet
    obtain ⟨there, others⟩ := List.forall_mem_cons.1 holds.2
    exact ⟨⟨holds.1, there⟩, others⟩

/-- After a query, its records may be cached. -/
theorem spares_onFetched (unmarked : ':' ∉ schema.kind.toList) (filter : CompiledFilter)
    (records : List Record) :
    Spares clock (fun backend => backend.IsQuiet ∧ (filter.includes.isEmpty = true →
        ∀ record ∈ records, backend.store.row? schema.kind record.id = some record))
      (CacheAside.onFetched ⟨true⟩ schema filter records) fun _ => IsQuiet := by
  unfold CacheAside.onFetched
  split
  · next wanted =>
    exact spares_weaken (spares_fillAll unmarked records)
      (fun backend holds => ⟨holds.1, holds.2 (Bool.and_eq_true_iff.1 wanted).2⟩)
      fun _ _ quiet => quiet
  · exact fun backend holds => ⟨rfl, holds.1⟩

theorem spares_put (unmarked : ':' ∉ schema.kind.toList) :
    Spares clock (fun backend => backend.IsWritten schema record)
      (CacheAside.put ⟨true⟩ (Record.cacheKey schema.kind record.id) record) fun _ => IsQuiet := by
  rw [CacheAside.put_eq, if_pos rfl]
  exact spares_weaken (spares_set unmarked fun _ isPending => (Option.some.inj isPending).symm)
    (fun backend written => ⟨written.coherent, .inr ⟨record, written.stored, rfl⟩⟩)
    fun _ _ quiet => quiet

/-- After a write the record is cached, since what is found in the cache is never of a later
revision. -/
theorem spares_onCreateOrUpdate (unmarked : ':' ∉ schema.kind.toList) :
    Spares clock (fun backend => backend.IsWritten schema record)
      (CacheAside.onCreateOrUpdate ⟨true⟩ schema record) fun _ => IsQuiet := by
  unfold CacheAside.onCreateOrUpdate
  split
  · next revisioned =>
    have looked : Spares clock (fun backend => backend.IsWritten schema record)
        (CacheAside.lookup ⟨true⟩ (Record.cacheKey schema.kind record.id)) fun found backend =>
          backend.IsWritten schema record ∧
            ∀ cached, found = .record cached → cached.revision < record.revision := by
      refine spares_lookup (fun _ written => written.coherent.isOpen)
        fun backend _ _ found written said => ?_
      refine ⟨⟨written.coherent.countLookup _ _, written.stored, written.earlier⟩, ?_⟩
      intro cached same
      obtain ⟨text, listed, decoded⟩ := said cached same
      exact written.earlier revisioned text cached listed decoded
    refine spares_bind looked fun found => ?_
    split
    · next cached =>
      split
      · next later =>
        exact fun backend holds => absurd (holds.2 cached rfl) (Int.lt_asymm later)
      · exact spares_weaken (spares_put unmarked) (fun _ holds => holds.1) fun _ _ quiet => quiet
    · exact spares_weaken (spares_put unmarked) (fun _ holds => holds.1) fun _ _ quiet => quiet
  · exact spares_put unmarked

/-- A tombstone may be left for whatever is being deleted. -/
theorem spares_bury (unmarked : ':' ∉ kind.toList)
    (own : ∀ record ∈ pending, record = (kind, id)) :
    Spares clock (fun backend => backend.IsCoherent pending)
      (CacheAside.bury ⟨true⟩ (Record.cacheKey kind id)) fun _ => IsQuiet := by
  rw [CacheAside.bury_eq, if_pos rfl]
  exact spares_weaken (spares_set unmarked own) (fun _ coherent => ⟨coherent, .inl rfl⟩)
    fun _ _ quiet => quiet

/-- Without a cache, a fetch is a look-up in the store. -/
theorem fetchOne_of_disabled (schema : Schema) (id : String) :
    CacheAside.fetchOne ⟨false⟩ schema id = Program.askStore (.findOne schema id) := by
  rw [CacheAside.fetchOne_eq, CacheAside.lookup_eq_of_disabled rfl]
  refine congrArg (Program.call (.store (.findOne schema id))) (funext fun reply => ?_)
  cases reply <;> rfl

/-- What is looked up in the store is there. -/
theorem couples_findOne : Couples clock IsQuiet (Program.askStore (.findOne schema id))
    (Program.askStore (.findOne schema id)) fun reply backend => backend.IsQuiet ∧
      ∀ record, reply = .ok record → backend.store.row? schema.kind id = some record :=
  couples_askStore fun _ quiet =>
    ⟨@IsCoherent.answer_store _ quiet (.findOne schema id) trivial _,
      fun _ found => Store.findOne_eq_ok.1 found⟩

/-- What is found in the cache is what the store would have answered. -/
theorem couples_hit : Couples clock
    (fun backend => backend.IsQuiet ∧ backend.store.row? schema.kind id = some record)
    (.done (.ok record)) (Program.askStore (.findOne schema id)) fun _ => IsQuiet := by
  intro backend bare ⟨quiet, there⟩ agrees
  obtain ⟨same, agrees⟩ := Store.answer_of_agrees agrees (.findOne schema id)
  have found : backend.store.findOne schema id = .ok record := Store.findOne_eq_ok.2 there
  exact ⟨found.symm.trans same, quiet, (Store.agrees_findOne ..).trans agrees⟩

/-- What the store has answered may be cached. -/
theorem spares_afterFetch (unmarked : ':' ∉ schema.kind.toList) (cached : CacheLookup) :
    Spares clock
      (fun backend => backend.IsQuiet ∧ backend.store.row? schema.kind id = some record)
      (if cached = .corrupt then CacheAside.put ⟨true⟩ (Record.cacheKey schema.kind id) record
        else CacheAside.fill ⟨true⟩ (Record.cacheKey schema.kind id) record) fun _ => IsQuiet := by
  rintro backend ⟨quiet, there⟩
  obtain rfl := Store.id_of_row? there
  split
  · rw [CacheAside.put_eq, if_pos rfl]
    exact @spares_set clock schema.kind record.id record.text none unmarked nofun backend
      ⟨quiet, .inr ⟨record, there, rfl⟩⟩
  · exact spares_fill unmarked backend ⟨quiet, there⟩

theorem couples_fetchStored (unmarked : ':' ∉ schema.kind.toList) (cached : CacheLookup) :
    Couples clock IsQuiet (CacheAside.fetchStored ⟨true⟩ schema id cached)
      (Program.askStore (.findOne schema id)) fun _ => IsQuiet := by
  rw [← Program.bind_done (Program.askStore (.findOne schema id))]
  refine couples_bind couples_findOne fun reply => ?_
  cases reply with
  | error error => exact couples_done fun backend holds => holds.1
  | ok record =>
    exact couples_of_spares
      (spares_weaken (spares_afterFetch unmarked cached)
        (fun _ holds => ⟨holds.1, holds.2 record rfl⟩) fun _ _ quiet => quiet)
      fun _ => couples_done fun _ quiet => quiet

/-- A fetch beside the cache is a look-up in the store. -/
theorem couples_fetchOne (unmarked : ':' ∉ schema.kind.toList) :
    Couples clock IsQuiet (CacheAside.fetchOne ⟨true⟩ schema id)
      (CacheAside.fetchOne ⟨false⟩ schema id) fun _ => IsQuiet := by
  rw [fetchOne_of_disabled, CacheAside.fetchOne_eq]
  have looked : Spares clock IsQuiet
      (CacheAside.lookup ⟨true⟩ (Record.cacheKey schema.kind id)) fun found backend =>
        backend.IsQuiet ∧
          ∀ record, found = .record record → backend.store.row? schema.kind id = some record := by
    refine spares_lookup (fun _ quiet => quiet.isOpen) fun backend _ _ found quiet said => ?_
    refine ⟨quiet.countLookup _ _, fun record same => ?_⟩
    obtain ⟨text, listed, decoded⟩ := said record same
    exact quiet.row?_of_listed? unmarked nofun listed decoded
  refine couples_of_spares looked fun found => ?_
  cases found with
  | record record =>
    exact couples_weaken couples_hit (fun _ holds => ⟨holds.1, holds.2 record rfl⟩)
      fun _ _ quiet => quiet
  | _ =>
    exact couples_weaken (couples_fetchStored unmarked _) (fun _ holds => holds.1)
      fun _ _ quiet => quiet

theorem couples_onBeforeDelete (unmarked : ':' ∉ schema.kind.toList) :
    Couples clock IsQuiet (CacheAside.onBeforeDelete ⟨true⟩ schema id)
      (CacheAside.onBeforeDelete ⟨false⟩ schema id) fun _ => IsQuiet := by
  refine couples_bind couples_findOne fun reply => ?_
  cases reply with
  | error error => exact couples_done fun backend holds => holds.1
  | ok current =>
    have buried := @spares_bury clock schema.kind current.id none unmarked nofun
    exact couples_of_spares
      (spares_weaken buried (fun _ holds => holds.1) fun _ _ quiet => quiet)
      fun _ => couples_done fun _ quiet => quiet

/-- What a create or an update stores is then written, and nothing is pending when it fails. -/
theorem couples_write {call : StoreCall} (plain : call.IsPlain)
    (unmarked : ':' ∉ call.schema.kind.toList) :
    Couples clock IsQuiet (Program.askStore call) (Program.askStore call) fun reply backend =>
      backend.IsCoherent (call.written? reply) ∧
        ∀ record, call.stored? reply = some (call.schema.kind, record) →
          backend.IsWritten call.schema record :=
  couples_askStore fun _ quiet =>
    ⟨quiet.answer_store plain _,
      fun _ stored => isWritten_of_stored? quiet plain unmarked stored _⟩

end Caching

/-! ## The operations -/

section Operations

variable {α β : Type} {clock : Nat → Nat}

/-- Beside a quiet backend, two programs have the same result and leave it quiet. -/
def Keeps (clock : Nat → Nat) (program other : Program α) : Prop :=
  Couples clock IsQuiet program other fun _ => IsQuiet

theorem keeps_decided {outcome : Except ServiceError α} {f g : α → Service.Work β}
    (allowed : ∀ value, outcome = .ok value → Keeps clock (f value).run (g value).run) :
    Keeps clock (ExceptT.run (Service.decided outcome >>= f))
      (ExceptT.run (Service.decided outcome >>= g)) := by
  cases outcome with
  | ok value => exact allowed value rfl
  | error error => exact couples_done fun _ quiet => quiet

theorem couples_storing {program other : Program (Except StoreError α)} {f g : α → Service.Work β}
    {before : Backend → Prop} {between : Except StoreError α → Backend → Prop}
    {after : Except ServiceError β → Backend → Prop}
    (first : Couples clock before program other between)
    (failed : ∀ error backend, between (.error error) backend →
      after (.error (.ofStore error)) backend)
    (succeeded : ∀ value, Couples clock (between (.ok value)) (f value).run (g value).run after) :
    Couples clock before (ExceptT.run (Service.storing program >>= f))
      (ExceptT.run (Service.storing other >>= g)) after := by
  rw [Service.storing_bind, Service.storing_bind]
  refine couples_bind first fun reply => ?_
  cases reply with
  | error error => exact couples_done (failed error)
  | ok value => exact succeeded value

/-- Work ends with calls of the cache on one side, and at once on the other. -/
theorem couples_caching {program other : Program Unit} {value : β} {before : Backend → Prop}
    (spares : Spares clock before program fun _ => IsQuiet) (idle : other = .done ()) :
    Couples clock before (ExceptT.run (Service.caching program >>= fun _ => pure value))
      (ExceptT.run (Service.caching other >>= fun _ => pure value)) fun _ => IsQuiet := by
  rw [Service.caching_pure, idle]
  exact couples_of_spares spares fun _ => couples_done fun _ quiet => quiet

theorem keeps_map {γ : Type} {work other : Service.Work β} (form : β → γ)
    (keeps : Keeps clock work.run other.run) :
    Keeps clock (ExceptT.run (form <$> work)) (ExceptT.run (form <$> other)) := by
  refine couples_bind keeps fun outcome => ?_
  cases outcome <;> exact couples_done fun _ quiet => quiet

variable {registry : Registry} (built : registry.IsBuilt) (colonFree : registry.IsColonFree)
  (plain : registry.HasPlainColumns) (caller : Option Principal) (kind id : String)

include built colonFree

theorem colonFree_of_authorize {operation : Operation} {schema : Schema}
    (granted : registry.authorize kind operation = .ok schema) : ':' ∉ schema.kind.toList :=
  @Service.Serves.colonFree ⟨registry, ⟨true⟩⟩ schema ⟨kind, operation, granted⟩ built colonFree

theorem keeps_read : Keeps clock (Service.read ⟨registry, ⟨true⟩⟩ caller kind id).run
    (Service.read ⟨registry, ⟨false⟩⟩ caller kind id).run := by
  refine keeps_decided fun schema granted => keeps_decided fun _ _ => ?_
  refine couples_storing (couples_fetchOne (colonFree_of_authorize built colonFree kind granted))
    (fun _ _ quiet => quiet) fun record => ?_
  exact keeps_decided fun _ _ => couples_done fun _ quiet => quiet

theorem keeps_query (expression : FilterExpression) :
    Keeps clock (Service.query ⟨registry, ⟨true⟩⟩ caller kind expression).run
      (Service.query ⟨registry, ⟨false⟩⟩ caller kind expression).run := by
  refine keeps_decided fun schema granted => keeps_decided fun filter _ => ?_
  have unmarked := colonFree_of_authorize built colonFree kind granted
  have found : Couples clock IsQuiet (Program.askStore (.findMany schema filter))
      (Program.askStore (.findMany schema filter)) fun reply backend => backend.IsQuiet ∧
        (filter.includes.isEmpty = true → ∀ records : List Record, reply = .ok records →
          ∀ record ∈ records, backend.store.row? schema.kind record.id = some record) :=
    couples_askStore fun _ quiet =>
      ⟨@IsCoherent.answer_store _ quiet (.findMany schema filter) trivial _,
        fun plain _ found _ member => Store.row?_of_findMany quiet.distinct plain found member⟩
  refine couples_storing found (fun _ _ holds => holds.1) fun records => ?_
  exact couples_caching (spares_weaken (spares_onFetched unmarked filter records)
    (fun _ holds => ⟨holds.1, fun plain => holds.2 plain records rfl⟩) fun _ _ quiet => quiet) rfl

theorem keeps_delete : Keeps clock (Service.delete ⟨registry, ⟨true⟩⟩ caller kind id).run
    (Service.delete ⟨registry, ⟨false⟩⟩ caller kind id).run := by
  refine keeps_decided fun schema granted => keeps_decided fun _ _ => ?_
  have unmarked := colonFree_of_authorize built colonFree kind granted
  refine couples_storing couples_findOne (fun _ _ holds => holds.1) fun found => ?_
  refine couples_weaken ?_ (fun _ holds => holds.1) fun _ _ quiet => quiet
  refine keeps_decided fun _ _ => ?_
  refine couples_storing (couples_onBeforeDelete unmarked) (fun _ _ quiet => quiet) fun current => ?_
  have removed := @couples_write clock (.delete schema current.id) trivial unmarked
  refine couples_storing removed (fun _ _ holds => holds.1) fun _ => ?_
  have buried := @spares_bury clock schema.kind current.id (some (schema.kind, current.id)) unmarked
    fun _ isPending => (Option.some.inj isPending).symm
  exact couples_caching (spares_weaken buried (fun _ holds => holds.1) fun _ _ quiet => quiet) rfl

include plain

theorem keeps_create {body : Json} (faithful : body.IsFaithful) :
    Keeps clock (Service.create ⟨registry, ⟨true⟩⟩ caller kind body).run
      (Service.create ⟨registry, ⟨false⟩⟩ caller kind body).run := by
  refine keeps_decided fun schema granted => keeps_decided fun payload decoded =>
    keeps_decided fun _ _ => ?_
  have unmarked := colonFree_of_authorize built colonFree kind granted
  have storable : (StoreCall.create schema payload).IsPlain :=
    ⟨plain.of_authorize granted, Service.stable_of_decodePayload faithful decoded⟩
  refine couples_storing (couples_write storable unmarked) (fun _ _ holds => holds.1)
    fun created => ?_
  exact couples_caching (spares_weaken (spares_onCreateOrUpdate unmarked)
    (fun _ holds => holds.2 created rfl) fun _ _ quiet => quiet)
    (CacheAside.onCreateOrUpdate_of_disabled rfl created)

theorem keeps_update {body : Json} (faithful : body.IsFaithful) :
    Keeps clock (Service.update ⟨registry, ⟨true⟩⟩ caller kind id body).run
      (Service.update ⟨registry, ⟨false⟩⟩ caller kind id body).run := by
  refine keeps_decided fun schema granted => keeps_decided fun _ _ =>
    keeps_decided fun payload decoded => ?_
  have unmarked := colonFree_of_authorize built colonFree kind granted
  refine couples_storing couples_findOne (fun _ _ holds => holds.1) fun current => ?_
  refine couples_weaken ?_ (fun _ holds => holds.1) fun _ _ quiet => quiet
  refine keeps_decided fun _ _ => keeps_decided fun expected _ => ?_
  have stable : payload.HasStableFields := Service.stable_of_decodePayload faithful decoded
  have storable : (StoreCall.update schema { payload with id := id } expected).IsPlain :=
    ⟨plain.of_authorize granted, stable⟩
  refine couples_storing (couples_write storable unmarked) (fun _ _ holds => holds.1)
    fun updated => ?_
  exact couples_caching (spares_weaken (spares_onCreateOrUpdate unmarked)
    (fun _ holds => holds.2 updated rfl) fun _ _ quiet => quiet)
    (CacheAside.onCreateOrUpdate_of_disabled rfl updated)

/-- A request has the same response with a cache and without. -/
theorem keeps_handle {request : Request}
    (faithful : ∀ body, request.body = some body → body.IsFaithful) :
    Keeps clock (Service.handle ⟨registry, ⟨true⟩⟩ caller request)
      (Service.handle ⟨registry, ⟨false⟩⟩ caller request) := by
  have body_faithful : (request.body.getD .null).IsFaithful := by
    cases there : request.body with
    | none => exact List.forall_mem_nil _
    | some body => exact faithful body there
  have dispatched : Keeps clock (Service.dispatch ⟨registry, ⟨true⟩⟩ caller request).run
      (Service.dispatch ⟨registry, ⟨false⟩⟩ caller request).run := by
    unfold Service.dispatch
    cases request.operation with
    | read => exact keeps_map _ (keeps_read built colonFree caller _ _)
    | create => exact keeps_map _ (keeps_create built colonFree plain caller _ body_faithful)
    | update => exact keeps_map _ (keeps_update built colonFree plain caller _ _ body_faithful)
    | delete => exact keeps_map _ (keeps_delete built colonFree caller _ _)
    | query =>
      refine keeps_decided fun _ _ => keeps_decided fun expression _ => ?_
      exact keeps_map _ (keeps_query built colonFree caller _ expression)
  exact couples_bind dispatched fun _ => couples_done fun _ quiet => quiet

/-- From a quiet backend on, requests are answered as without a cache. -/
theorem handleAll_of_quiet {requests : List (Option Principal × Request)}
    (faithful : ∀ asked ∈ requests, ∀ body, asked.2.body = some body → body.IsFaithful)
    {backend bare : Backend} (quiet : backend.IsQuiet) (agrees : backend.store.Agrees bare.store) :
    handleAll clock ⟨registry, ⟨true⟩⟩ requests backend =
      handleAll clock ⟨registry, ⟨false⟩⟩ requests bare := by
  induction requests generalizing backend bare with
  | nil => rfl
  | cons asked rest ih =>
    obtain ⟨first_faithful, rest_faithful⟩ := List.forall_mem_cons.1 faithful
    obtain ⟨same, quiet, agrees⟩ :=
      @keeps_handle clock _ built colonFree plain asked.1 _ first_faithful backend bare quiet agrees
    simp only [handleAll, same, agrees.tables, ih rest_faithful quiet agrees]

end Operations

/-- Requests that are handled one after another, from the beginning on, have the same responses
with a cache as without one, and leave the same records each. Which ids are made, how long entries
live and how time passes does not matter. -/
theorem handleAll_transparent {registry : Registry} (built : registry.IsBuilt)
    (colonFree : registry.IsColonFree) (plain : registry.HasPlainColumns)
    {requests : List (Option Principal × Request)}
    (faithful : ∀ asked ∈ requests, ∀ body, asked.2.body = some body → body.IsFaithful)
    (newId : Nat → String) (clock : Nat → Nat) (lifetime : Nat) :
    handleAll clock ⟨registry, ⟨true⟩⟩ requests ⟨.empty newId, .empty lifetime, 0⟩ =
      handleAll clock ⟨registry, ⟨false⟩⟩ requests ⟨.empty newId, .empty lifetime, 0⟩ :=
  handleAll_of_quiet built colonFree plain faithful (isCoherent_empty newId lifetime 0) (.refl _)

/-- The life of a note: it is created, updated and deleted, and each time read. -/
def lifeOfNote : List (Option Principal × Request) :=
  [(none, .create "note" (.object [("id", .string "1"), ("title", .string "a")])),
    (none, .read "note" "1"),
    (none, .update "note" "1" (.object [("revision", .integer 1), ("title", .string "b")])),
    (none, .read "note" "1"), (none, .delete "note" "1"), (none, .read "note" "1")]

/-- Beside a cache whose entries live for two calls, the reads find the note until it is deleted. -/
theorem handleAll_lifeOfNote :
    (handleAll id .notes lifeOfNote ⟨.empty Store.uuid, .empty 2, 0⟩).map (fun answered =>
      answered.1.status) = [200, 200, 200, 200, 200, 404] := by
  have numbers : ∀ asked ∈ lifeOfNote, ∀ body ∈ asked.2.body, ∀ n ∈ body.numbers,
      n = .integer 1 := by decide
  have faithful : ∀ asked ∈ lifeOfNote, ∀ body, asked.2.body = some body → body.IsFaithful := by
    intro asked member body there n among
    rw [numbers asked member body there n among]
    exact Number.isFaithful_integer (by decide) (by decide)
  have same := handleAll_transparent Service.isBuilt_notes Service.isColonFree_notes
    Service.hasPlainColumns_notes faithful Store.uuid id 2
  change handleAll id .notes lifeOfNote _ = _ at same
  rw [same]
  rfl

end Backend

end RecordAccess
