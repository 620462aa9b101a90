import RecordAccess.Proofs.SecretRecords
import RecordAccess.Proofs.Transparency

/-!
# Noninterference

Without a cache, what a caller is answered does not depend on the data of records that it may neither
read nor write, nor on their revisions: however many requests it makes, two stores that are the same
to it answer all of them alike and are the same to it afterwards (`Backend.noninterference`).

An operation is run twice, on two such stores (`Backend.Hides`). The one place where the two runs may
see different records is between a fetch and the check of the permission, and there the check fails on
both sides (`Backend.hides_checked`); and a query looks at secret records only to drop them
(`Backend.hides_query`). That holds for a query of everything: a page cut out of the sorted records
shows how many secret ones stand before the others, and loaded relations show them. So queries are
without a page and without relations here, and sort by columns whose values compare.
-/

namespace RecordAccess

/-! ## Queries in scope -/

/-- What a request asks the store for, if it is a query that gets as far as that. -/
def Registry.queried? (registry : Registry) (request : Request) :
    Option (Schema × CompiledFilter) :=
  if request.operation = .query then do
    let schema ← (registry.authorize request.kind .query).toOption
    let expression ← (Service.decodeFilter request.body).toOption
    let filter ← (expression.compile schema.columns).toOption
    return (schema, filter)
  else none

/-- A filter asks for everything that it selects and nothing else, sorted by columns of which each has
values of one sort in the records that are stored. -/
structure CompiledFilter.IsSorted (filter : CompiledFilter) (schema : Schema) (store : Store) :
    Prop where
  limit : filter.limit = none
  skip : filter.skip = none
  includes : filter.includes = []
  uniform : ∀ key ∈ filter.order,
    IsUniform (columnValues schema (store.rows schema.kind) key.column)

instance (filter : CompiledFilter) (schema : Schema) (store : Store) :
    Decidable (filter.IsSorted schema store) :=
  decidable_of_iff
    (filter.limit = none ∧ filter.skip = none ∧ filter.includes = [] ∧ ∀ key ∈ filter.order,
      IsUniform (columnValues schema (store.rows schema.kind) key.column))
    ⟨fun ⟨limit, skip, includes, uniform⟩ => ⟨limit, skip, includes, uniform⟩,
      fun sorted => ⟨sorted.limit, sorted.skip, sorted.includes, sorted.uniform⟩⟩

/-- If a request is a query, then for everything that it selects, sorted by such columns. -/
def Registry.IsInScope (registry : Registry) (request : Request) (store : Store) : Prop :=
  ∀ asked ∈ registry.queried? request, asked.2.IsSorted asked.1 store

instance (registry : Registry) (request : Request) (store : Store) :
    Decidable (registry.IsInScope request store) :=
  inferInstanceAs (Decidable (∀ asked ∈ registry.queried? request, asked.2.IsSorted asked.1 store))

theorem Registry.queried?_eq {registry : Registry} {request : Request} {schema : Schema}
    {expression : FilterExpression} {filter : CompiledFilter}
    (isQuery : request.operation = .query)
    (granted : registry.authorize request.kind .query = .ok schema)
    (decoded : Service.decodeFilter request.body = .ok expression)
    (compiled : expression.compile schema.columns = .ok filter) :
    registry.queried? request = some (schema, filter) := by
  rw [queried?, if_pos isQuery, granted, decoded]
  change Option.bind (expression.compile schema.columns).toOption _ = _
  rw [compiled]
  rfl

namespace Backend

/-! ## Programs that hide secret records -/

section Hiding

variable {α β : Type} {clock : Nat → Nat} {registry : Registry} {caller : Option Principal}
  {known : Store → Prop}

/-- Begun on two stores that are the same to a caller, and of which something is known, a program has
the same result on both, and leaves stores that are the same to the caller. -/
def Hides (clock : Nat → Nat) (registry : Registry) (caller : Option Principal)
    (known : Store → Prop) (program : Program α) : Prop :=
  ∀ one two : Backend, known one.store → known two.store →
    one.store.LooksLike registry caller two.store →
    (program.run (answer clock) one).1 = (program.run (answer clock) two).1 ∧
      (program.run (answer clock) one).2.store.LooksLike registry caller
        (program.run (answer clock) two).2.store

theorem hides_done (value : α) : Hides clock registry caller known (.done value) :=
  fun _ _ _ _ alike => ⟨rfl, alike⟩

theorem hides_weaken {stronger : Store → Prop} {program : Program α}
    (hides : Hides clock registry caller known program)
    (implies : ∀ store, stronger store → known store) :
    Hides clock registry caller stronger program :=
  fun one two first second => hides one two (implies _ first) (implies _ second)

theorem hides_bind {program : Program α} {f : α → Program β}
    (first : Hides clock registry caller known program)
    (second : ∀ value, Hides clock registry caller (fun _ => True) (f value)) :
    Hides clock registry caller known (program.bind f) := by
  intro one two here there alike
  obtain ⟨same, alike⟩ := first one two here there alike
  rw [Program.run_bind, Program.run_bind, ← same]
  exact second _ _ _ trivial trivial alike

/-- A call of the store that is answered alike. -/
theorem hides_askStore {call : StoreCall}
    (alike : ∀ one two : Store, known one → known two → one.LooksLike registry caller two →
      (one.answer call).1 = (two.answer call).1 ∧
        (one.answer call).2.LooksLike registry caller (two.answer call).2) :
    Hides clock registry caller known (Program.askStore call) :=
  fun one two => alike one.store two.store

theorem hides_decided {outcome : Except ServiceError α} {f : α → Service.Work β}
    (allowed : ∀ value, outcome = .ok value → Hides clock registry caller known (f value).run) :
    Hides clock registry caller known (ExceptT.run (Service.decided outcome >>= f)) := by
  cases outcome with
  | ok value => exact allowed value rfl
  | error error => exact hides_done _

theorem hides_storing {program : Program (Except StoreError α)} {f : α → Service.Work β}
    (first : Hides clock registry caller known program)
    (succeeded : ∀ value, Hides clock registry caller (fun _ => True) (f value).run) :
    Hides clock registry caller known (ExceptT.run (Service.storing program >>= f)) := by
  rw [Service.storing_bind]
  refine hides_bind first fun reply => ?_
  cases reply with
  | error error => exact hides_done _
  | ok value => exact succeeded value

/-- Without a cache nothing is done about it. -/
theorem hides_caching {program : Program Unit} {value : β} (idle : program = .done ()) :
    Hides clock registry caller known
      (ExceptT.run (Service.caching program >>= fun _ => pure value)) := by
  subst idle
  exact hides_done _

theorem hides_map {γ : Type} {work : Service.Work β} (form : β → γ)
    (hides : Hides clock registry caller known work.run) :
    Hides clock registry caller known (ExceptT.run (form <$> work)) := by
  refine hides_bind hides fun outcome => ?_
  cases outcome <;> exact hides_done _

/-! ## Calls of the store -/

variable {kind id : String} {schema : Schema} {operation : Operation}

/-- A record that is fetched and then checked is the same in both runs when the check succeeds. -/
theorem hides_checked (granted : registry.authorize kind operation = .ok schema)
    (built : registry.IsBuilt) {access : Access} {f : Record → Service.Work β}
    (allowed : ∀ record, Hides clock registry caller
      (fun store => store.row? schema.kind id = some record) (f record).run) :
    Hides clock registry caller known (ExceptT.run (do
      let record ← Service.storing (Program.askStore (.findOne schema id))
      Service.decided (Service.checkAccess schema caller access record)
      f record)) := by
  intro one two _ _ alike
  -- Either both look-ups fail, or they find records that look the same.
  have related := alike.row? schema.kind id
  rw [Service.storing_bind, Program.run_bind, Program.run_bind, run_findOne, run_findOne]
  cases here : one.store.row? schema.kind id <;> cases there : two.store.row? schema.kind id <;>
    rw [here, there] at related <;> cases related
  · rw [Store.findOne_of_row?_eq_none here, Store.findOne_of_row?_eq_none there]
    exact ⟨rfl, alike.withStats _ _⟩
  · next record other related =>
    rw [Store.findOne_eq_ok.2 here, Store.findOne_eq_ok.2 there]
    dsimp only
    by_cases permitted : schema.Permits caller access record
    · obtain rfl := related.eq_of_permits (built.kind_eq granted ▸
        (Registry.permits_of_authorize granted).2 permitted)
      rw [Schema.checkAccess_eq_ok.2 permitted]
      exact allowed record _ _ here there (alike.withStats _ _)
    · -- A refusal does not tell the two records apart.
      have refused := mt (Schema.permits_congr related.permission_eq).2 permitted
      rw [Schema.checkAccess_of_not_permits permitted, Schema.checkAccess_of_not_permits refused]
      exact ⟨rfl, alike.withStats _ _⟩

/-- A record that both stores hold is fetched from both. -/
theorem hides_findOne (record : Record) : Hides clock registry caller
    (fun store => store.row? schema.kind id = some record)
    (Program.askStore (.findOne schema id)) :=
  hides_askStore fun _ _ first second alike =>
    ⟨(Store.findOne_eq_ok.2 first).trans (Store.findOne_eq_ok.2 second).symm,
      alike.withStats _ _⟩

/-- What is found by a query that is in scope is dropped or is the same. -/
theorem hides_query (granted : registry.authorize kind operation = .ok schema)
    (built : registry.IsBuilt) {filter : CompiledFilter} :
    Hides clock registry caller (filter.IsSorted schema) (ExceptT.run (do
      let records ← Service.storing (Program.askStore (.findMany schema filter))
      Service.caching (CacheAside.onFetched ⟨false⟩ schema filter records)
      return records.filter (Service.isReadable schema caller))) := by
  intro one two first second alike
  -- Without a page and without relations, the answer is a function of the rows.
  have answered : ∀ backend : Backend, filter.IsSorted schema backend.store →
      Program.run (answer clock) (ExceptT.run (do
        let records ← Service.storing (Program.askStore (.findMany schema filter))
        Service.caching (CacheAside.onFetched ⟨false⟩ schema filter records)
        return records.filter (Service.isReadable schema caller))) backend =
        (.ok ((backend.store.select schema filter).filter (Service.isReadable schema caller)),
          (answer clock (.store (.findMany schema filter)) backend).2) := by
    intro backend sorted
    have found : backend.store.findMany schema filter =
        .ok (backend.store.select schema filter) := by
      rw [Store.findMany, sorted.includes]
      exact congrArg Except.ok (List.map_id' _)
    rw [Service.storing_bind, Program.run_bind, run_findMany, found]
    rfl
  rw [answered one first, answered two second]
  refine ⟨congrArg Except.ok ?_, alike.withStats _ _⟩
  refine alike.filter_select built granted first.limit first.skip ?_
  intro store among
  rcases List.mem_pair.1 among with rfl | rfl
  · exact first.uniform
  · exact second.uniform

/-! ## The operations -/

section Operations

theorem hides_create (kind : String) (body : Json) :
    Hides clock registry caller known (Service.create ⟨registry, ⟨false⟩⟩ caller kind body).run := by
  refine hides_decided fun schema _ => hides_decided fun payload _ => hides_decided fun _ _ => ?_
  refine hides_storing (hides_askStore fun _ _ _ _ alike => alike.create schema payload)
    fun created => ?_
  exact hides_caching (CacheAside.onCreateOrUpdate_of_disabled rfl created)

variable (built : registry.IsBuilt)

include built

theorem hides_read (kind id : String) :
    Hides clock registry caller known (Service.read ⟨registry, ⟨false⟩⟩ caller kind id).run := by
  refine hides_decided fun schema granted => hides_decided fun _ _ => ?_
  dsimp only
  rw [fetchOne_of_disabled]
  exact hides_checked granted built fun _ => hides_done _

theorem hides_update (kind id : String) (body : Json) :
    Hides clock registry caller known
      (Service.update ⟨registry, ⟨false⟩⟩ caller kind id body).run := by
  refine hides_decided fun schema granted => hides_decided fun _ _ => hides_decided fun payload _ => ?_
  refine hides_checked granted built fun current => hides_decided fun expected _ => ?_
  refine hides_storing (hides_askStore fun _ _ first second alike =>
    alike.update first second expected) fun updated => ?_
  exact hides_caching (CacheAside.onCreateOrUpdate_of_disabled rfl updated)

theorem hides_delete (kind id : String) :
    Hides clock registry caller known (Service.delete ⟨registry, ⟨false⟩⟩ caller kind id).run := by
  refine hides_decided fun schema granted => hides_decided fun _ _ => ?_
  refine hides_checked granted built fun found => ?_
  dsimp only
  rw [CacheAside.onBeforeDelete_of_disabled]
  refine hides_storing (hides_weaken (hides_findOne found) fun store there => ?_) fun current => ?_
  · rw [Store.id_of_row? there]
    exact there
  · refine hides_storing (hides_askStore fun _ _ _ _ alike => alike.delete schema current.id)
      fun _ => ?_
    exact hides_caching (CacheAside.bury_eq _ _)

/-- A request is answered alike on stores that are the same to its caller. -/
theorem hides_handle (request : Request) :
    Hides clock registry caller (registry.IsInScope request)
      (Service.handle ⟨registry, ⟨false⟩⟩ caller request) := by
  refine hides_bind ?_ fun _ => hides_done _
  unfold Service.dispatch
  cases asks : request.operation with
  | read => exact hides_map _ (hides_read built _ _)
  | create => exact hides_map _ (hides_create _ _)
  | update => exact hides_map _ (hides_update built _ _ _)
  | delete => exact hides_map _ (hides_delete built _ _)
  | query =>
    refine hides_decided fun _ _ => hides_decided fun expression decoded => hides_map _ ?_
    refine hides_decided fun schema granted => ?_
    refine hides_decided fun filter compiled => ?_
    refine hides_weaken (hides_query granted built) fun store inScope => ?_
    exact inScope (schema, filter)
      (Registry.queried?_eq asks granted decoded (ok_of_mapError compiled))

end Operations

end Hiding

/-! ## Runs -/

/-- Handles the requests of a caller one after another. Gives each response, and what is left. -/
def handleFor (clock : Nat → Nat) (service : Service) (caller : Option Principal) :
    List Request → Backend → List Response × Backend
  | [], backend => ([], backend)
  | request :: rest, backend =>
    let (response, backend) := (service.handle caller request).run (answer clock) backend
    let (responses, last) := handleFor clock service caller rest backend
    (response :: responses, last)

/-- Each request is in scope when it is handled. -/
def InScope (clock : Nat → Nat) (service : Service) (caller : Option Principal) :
    List Request → Backend → Prop
  | [], _ => True
  | request :: rest, backend =>
    service.registry.IsInScope request backend.store ∧
      InScope clock service caller rest
        ((service.handle caller request).run (answer clock) backend).2

instance decidableInScope (clock : Nat → Nat) (service : Service) (caller : Option Principal) :
    (requests : List Request) → (backend : Backend) →
      Decidable (InScope clock service caller requests backend)
  | [], _ => isTrue trivial
  | _ :: rest, _ =>
    @instDecidableAnd _ _ _ (decidableInScope clock service caller rest _)

/-- Without a cache, requests that are in scope have the same responses on two stores that differ
only in the data and the revisions of records that their caller may neither read nor write, and the
stores differ only in those afterwards. -/
theorem noninterference {registry : Registry} (built : registry.IsBuilt) {caller : Option Principal}
    {clock : Nat → Nat} {requests : List Request} {one two : Backend}
    (alike : one.store.LooksLike registry caller two.store)
    (inScope : InScope clock ⟨registry, ⟨false⟩⟩ caller requests one)
    (alsoInScope : InScope clock ⟨registry, ⟨false⟩⟩ caller requests two) :
    (handleFor clock ⟨registry, ⟨false⟩⟩ caller requests one).1 =
        (handleFor clock ⟨registry, ⟨false⟩⟩ caller requests two).1 ∧
      (handleFor clock ⟨registry, ⟨false⟩⟩ caller requests one).2.store.LooksLike registry caller
        (handleFor clock ⟨registry, ⟨false⟩⟩ caller requests two).2.store := by
  induction requests generalizing one two with
  | nil => exact ⟨rfl, alike⟩
  | cons request rest ih =>
    obtain ⟨same, alike⟩ :=
      @hides_handle clock registry caller built request one two inScope.1 alsoInScope.1 alike
    obtain ⟨others, last⟩ := ih alike inScope.2 alsoInScope.2
    exact ⟨congrArg₂ List.cons same others, last⟩

/-- A note for admins, with a title and a revision, between two notes for anyone. -/
def guardedNote (title : String) (revision : Int) : Backend :=
  ⟨⟨[("note", [⟨"1", none, 1, [("title", .string "c")]⟩,
      ⟨"2", some (.restrictedTo ["admin"]), revision, [("title", .string title)]⟩,
      ⟨"3", none, 1, [("title", .string "b")]⟩])], ⟨0, 0, 0⟩, 0, Store.uuid⟩, .empty 0, 0⟩

/-- Whatever a stranger may try in order to learn of the note for admins. -/
def probes : List Request :=
  [.query "note" (.object [("order", .object [("title", .bool false)])]),
    .query "note" (.object [("order", .object [("revision desc", .bool false)])]),
    .query "note" (.object [("where", .array [.object [("key", .string "title"),
      ("op", .string "="), ("val", .string "a")]])]),
    .read "note" "2",
    .update "note" "2" (.object [("revision", .integer 1), ("title", .string "d")]),
    .delete "note" "2", .create "note" (.object [("id", .string "2")]),
    .update "note" "1" (.object [("revision", .integer 1), ("title", .string "d")]),
    .create "note" (.object [("title", .string "e")]), .delete "note" "3"]

/-- A stranger is answered alike whatever the title and the revision of that note are. -/
theorem noninterference_guardedNote :
    (handleFor id ⟨Service.notes.registry, ⟨false⟩⟩ none probes (guardedNote "a" 1)).1.map
        Response.status = [200, 200, 200, 403, 403, 403, 409, 200, 200, 200] ∧
      (handleFor id ⟨Service.notes.registry, ⟨false⟩⟩ none probes (guardedNote "a" 1)).1 =
        (handleFor id ⟨Service.notes.registry, ⟨false⟩⟩ none probes (guardedNote "d" 7)).1 := by
  have alike : (guardedNote "a" 1).store.LooksLike Service.notes.registry none
      (guardedNote "d" 7).store := by
    refine ⟨rfl, rfl, fun kind => ?_⟩
    by_cases note : "note" = kind
    · subst note
      refine .cons (.inl rfl) (.cons (.inr ⟨rfl, rfl, fun access => ?_⟩) (.cons (.inl rfl) .nil))
      cases access <;> exact fun allowed => nomatch allowed
    · have none : ∀ title revision, (guardedNote title revision).store.rows kind = [] := by
        intro title revision
        simp [guardedNote, Store.rows, Keyed.find?, note]
      rw [none, none]
      exact .nil
  refine ⟨by decide +kernel, ?_⟩
  exact (noninterference Service.isBuilt_notes alike (by decide +kernel) (by decide +kernel)).1

end Backend

end RecordAccess
