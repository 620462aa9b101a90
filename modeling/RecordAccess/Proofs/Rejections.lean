import RecordAccess.Proofs.Reads
import RecordAccess.Proofs.UntrustedCache

/-!
# Rejections

A request is rejected when it is at fault in itself: when its kind is unknown, its operation disabled,
its filter refused, its id missing or its payload no record, and when it would create what its caller
may not. Each of these is found before the first call of the store or the cache, so a rejected request
makes no call at all (`Service.rejected_untouched`). What an operation can end with after a call is
listed by `ServiceError.IsLate`, and none of it is a rejection.
-/

namespace RecordAccess

/-! ## Errors after a call -/

/-- The errors that an operation can end with after it has made a call. -/
inductive ServiceError.IsLate (operation : Operation) : ServiceError → Prop
  | stored (error : StoreError) : IsLate operation (.ofStore error)
  | forbidden (checked : operation ≠ .create) : IsLate operation .permissionDenied
  | revisionRequired : IsLate operation .revisionRequired
  | revisionConflict (current : Record) : IsLate operation (.revisionConflict current)

/-- The code of an error after a call is one that no rejection has, or it is a refusal of access that
is not one of a create, or an unknown relation. -/
theorem ServiceError.IsLate.code_cases {operation : Operation} {error : ServiceError}
    (late : error.IsLate operation) :
    error.code ∈ ["NOT_FOUND", "DUPLICATE", "REVISION_CONFLICT", "REVISION_REQUIRED",
        "STORAGE_ERROR"] ∨
      (operation ≠ .create ∧ error.code = "FORBIDDEN") ∨
      ∃ name, error.code = "BAD_REQUEST" ∧
        error.message = "Bad request: " ++ (RequestFault.unknownRelation name).message := by
  cases late with
  | stored failure =>
    cases failure with
    | unknownRelation name => exact .inr (.inr ⟨name, rfl, rfl⟩)
    | _ => exact .inl (by simp [ofStore, code])
  | forbidden checked => exact .inr (.inl ⟨checked, rfl⟩)
  | revisionRequired => exact .inl (by simp [code])
  | revisionConflict current => exact .inl (by simp [code])

namespace Service

variable {service : Service} {caller : Option Principal} {kind id : String} {body : Json}
  {expression : FilterExpression} {log : List Exchange} {error : ServiceError}

/-- Work is done only if each of its parts is. -/
theorem exists_of_bind_eq_done {α β : Type} {work : Program α} {f : α → β} {result : β}
    (finished : .done result = work.bind fun value => .done (f value)) :
    ∃ value, work = .done value ∧ result = f value := by
  cases work with
  | done value =>
    cases finished
    exact ⟨value, rfl, rfl⟩
  | call next resume => cases finished

theorem ReadStage.isLate {rest : _} (stage : service.ReadStage caller kind id log rest)
    (finished : .done (.error error) = rest) (called : log ≠ []) : error.IsLate .read := by
  cases stage with
  | refused => exact absurd rfl called
  | @fetching schema _ _ granted named stage =>
    obtain ⟨reply, -, answered⟩ := exists_of_bind_eq_done finished
    cases reply with
    | error failure =>
      cases answered
      exact .stored failure
    | ok record =>
      simp only [readAnswer] at answered
      cases decided : checkAccess schema caller .read record with
      | ok _ =>
        rw [decided] at answered
        cases answered
      | error refusal =>
        rw [decided] at answered
        cases answered
        rw [eq_permissionDenied decided]
        exact .forbidden (by decide)

theorem QueryStage.isLate {rest : _} (stage : service.QueryStage caller kind expression log rest)
    (finished : .done (.error error) = rest) (called : log ≠ []) : error.IsLate .query := by
  cases stage with
  | refused => exact absurd rfl called
  | looking => cases finished
  | failed granted =>
    cases finished
    exact .stored _
  | found granted filling =>
    obtain ⟨_, -, impossible⟩ := exists_of_bind_eq_done finished
    cases impossible

theorem CreateStage.isLate {rest : _} (stage : service.CreateStage caller kind body log rest)
    (finished : .done (.error error) = rest) (called : log ≠ []) : error.IsLate .create := by
  cases stage with
  | refused => exact absurd rfl called
  | storing => cases finished
  | failed granted =>
    cases finished
    exact .stored _
  | written granted decoded stage =>
    obtain ⟨_, -, impossible⟩ := exists_of_bind_eq_done finished
    cases impossible

theorem UpdateStage.isLate {rest : _} (stage : service.UpdateStage caller kind id body log rest)
    (finished : .done (.error error) = rest) (called : log ≠ []) : error.IsLate .update := by
  cases stage with
  | refused => exact absurd rfl called
  | looking => cases finished
  | missing | failed =>
    cases finished
    exact .stored _
  | @stopped schema payload current refusal granted decoded refused =>
    cases finished
    rcases refused with forbidden | ⟨-, stale⟩
    · rw [eq_permissionDenied forbidden]
      exact .forbidden (by decide)
    · rcases eq_of_unexpected stale with rfl | rfl
      · exact .revisionConflict current
      · exact .revisionRequired
  | writing => cases finished
  | written granted named stage =>
    obtain ⟨_, -, impossible⟩ := exists_of_bind_eq_done finished
    cases impossible

theorem DeleteStage.isLate {rest : _} (stage : service.DeleteStage caller kind id log rest)
    (finished : .done (.error error) = rest) (called : log ≠ []) : error.IsLate .delete := by
  cases stage with
  | refused => exact absurd rfl called
  | looking | reloading | burying | removing => cases finished
  | missing | vanished | failed =>
    cases finished
    exact .stored _
  | forbidden granted refusal =>
    cases finished
    rw [eq_permissionDenied refusal]
    exact .forbidden (by decide)
  | removed granted named noted burying =>
    obtain ⟨_, -, impossible⟩ := exists_of_bind_eq_done finished
    cases impossible

end Service

/-! ## Rejections -/

namespace Response

/-- A text in the body of a response. -/
def text? (response : Response) (name : String) : Option String :=
  match response.body with
  | .object members =>
    match Keyed.find? members name with
    | some (.string text) => some text
    | _ => none
  | _ => none

/-- The code of a response that is no success. -/
def code? (response : Response) : Option String :=
  if response.isSuccess then none else response.text? "code"

/-- A response says that the request is at fault in itself, or that its caller may not create what it
would create. -/
inductive Rejects (operation : Operation) (response : Response) : Prop
  | unknownKind (coded : response.code? = some "UNKNOWN_KIND")
  | operationNotAllowed (coded : response.code? = some "OPERATION_NOT_ALLOWED")
  | filter (error : FilterError) (coded : response.code? = some error.code)
  /-- A query of a relation that is not declared is answered in the same way, but by the store. -/
  | badRequest (coded : response.code? = some "BAD_REQUEST")
      (other : ∀ name, response.text? "message" ≠
        some ("Bad request: " ++ (RequestFault.unknownRelation name).message))
  | forbidden (creates : operation = .create) (coded : response.code? = some "FORBIDDEN")

theorem code?_ofError (error : ServiceError) : (ofError error).code? = some error.code := by
  cases error <;> rfl

theorem text?_message_ofError (error : ServiceError) :
    (ofError error).text? "message" = some error.message := rfl

/-- What comes after a call is no rejection. -/
theorem not_rejects_of_isLate {operation : Operation} {error : ServiceError}
    (late : error.IsLate operation) : ¬(ofError error).Rejects operation := by
  intro rejects
  rcases late.code_cases with other | ⟨checked, forbidden⟩ | ⟨name, coded, worded⟩
  · -- No rejection has one of these codes.
    cases rejects with
    | filter refusal coded =>
      rw [code?_ofError, Option.some.injEq] at coded
      rw [coded] at other
      cases refusal <;> simp [FilterError.code] at other
    | _ =>
      rename _ = some _ => coded
      rw [code?_ofError, Option.some.injEq] at coded
      rw [coded] at other
      revert other
      decide
  · cases rejects with
    | filter refusal coded =>
      rw [code?_ofError, forbidden, Option.some.injEq] at coded
      cases refusal <;> simp [FilterError.code] at coded
    | forbidden creates => exact checked creates
    | _ =>
      rename _ = some _ => coded
      rw [code?_ofError, forbidden] at coded
      revert coded
      decide
  · cases rejects with
    | filter refusal coded' =>
      rw [code?_ofError, coded, Option.some.injEq] at coded'
      cases refusal <;> simp [FilterError.code] at coded'
    | badRequest _ other => exact other name (worded ▸ text?_message_ofError error)
    | _ =>
      rename _ = some _ => coded'
      rw [code?_ofError, coded] at coded'
      revert coded'
      decide

/-- A success is no rejection. -/
theorem not_rejects_ok {operation : Operation} (body : Json) : ¬(ok body).Rejects operation := by
  intro rejects
  cases rejects <;> contradiction

end Response

/-! ## Requests that make no call -/

namespace Program

variable {α σ : Type} {answer : (call : Call) → σ → call.Reply × σ}

/-- The exchanges of a run lead to its result. -/
theorem leads_exchanges (answer : (call : Call) → σ → call.Reply × σ) (program : Program α)
    (state : σ) :
    Leads program (program.exchanges answer state) (.done (program.run answer state).1) := by
  induction program generalizing state with
  | done result => exact .here
  | call next resume ih => exact .after (ih _ _)

/-- A run without exchanges leaves everything as it is. -/
theorem run_of_exchanges_eq_nil {program : Program α} {state : σ}
    (silent : program.exchanges answer state = []) : (program.run answer state).2 = state := by
  cases program with
  | done result => rfl
  | call next resume => cases silent

end Program

namespace Service

open Program (Leads)

variable {σ : Type} {service : Service} {caller : Option Principal} {request : Request}
  {answer : (call : Call) → σ → call.Reply × σ} {state : σ}

/-- A request that the registry refuses is answered so at once. -/
theorem handle_of_refused {error : ServiceError}
    (refused : service.registry.authorize request.kind request.operation = .error error) :
    service.handle caller request = .done (.ofError error) := by
  obtain ⟨operation, kind, id, body⟩ := request
  unfold handle dispatch
  cases operation with
  | read => simp only [read, refused]; rfl
  | create => simp only [create, refused]; rfl
  | update => simp only [update, refused]; rfl
  | delete => simp only [delete, refused]; rfl
  | query => simp only [refused]; rfl

/-- A rejected request makes no call if, of the operation that it asks for, every error after a call
is one of those that can come then. -/
theorem exchanges_eq_nil_of_rejects {α : Type} {work : Work α} {form : α → Json}
    (does : service.dispatch caller request = form <$> work)
    (late : ∀ log error, Leads work.run log (.done (.error error)) → log ≠ [] →
      error.IsLate request.operation)
    (rejects : ((service.handle caller request).run answer state).1.Rejects request.operation) :
    (service.handle caller request).exchanges answer state = [] := by
  have leads := Program.leads_exchanges answer (service.handle caller request) state
  generalize (service.handle caller request).exchanges answer state = log at leads ⊢
  generalize ((service.handle caller request).run answer state).1 = response at leads rejects
  rw [handle_eq_of_map does] at leads
  obtain ⟨first, led, finished⟩ := Program.leads_map leads
  obtain ⟨outcome, rfl, rfl⟩ := exists_of_bind_eq_done finished
  cases outcome with
  | ok value => exact absurd rejects (Response.not_rejects_ok _)
  | error error =>
    by_contra called
    exact Response.not_rejects_of_isLate (late log error led called) rejects

/-- A rejected request makes no call. -/
theorem exchanges_of_rejects
    (rejects : ((service.handle caller request).run answer state).1.Rejects request.operation) :
    (service.handle caller request).exchanges answer state = [] := by
  obtain ⟨operation, kind, id, body⟩ := request
  cases operation with
  | read =>
    exact exchanges_eq_nil_of_rejects rfl
      (fun log error led called => (readStage_of_leads led).isLate rfl called) rejects
  | create =>
    exact exchanges_eq_nil_of_rejects rfl
      (fun log error led called => (createStage_of_leads led).isLate rfl called) rejects
  | update =>
    exact exchanges_eq_nil_of_rejects rfl
      (fun log error led called => (updateStage_of_leads led).isLate rfl called) rejects
  | delete =>
    exact exchanges_eq_nil_of_rejects rfl
      (fun log error led called => (deleteStage_of_leads led).isLate rfl called) rejects
  | query =>
    cases granted : service.registry.authorize kind .query with
    | error error =>
      rw [handle_of_refused granted]
      rfl
    | ok schema =>
      cases decoded : decodeFilter body with
      | error error =>
        unfold handle
        simp only [dispatch, granted, decoded]
        rfl
      | ok expression =>
        have does : service.dispatch caller ⟨.query, kind, id, body⟩ =
            recordsToJson <$> service.query caller kind expression := by
          simp only [dispatch, granted, decoded]
          rfl
        exact exchanges_eq_nil_of_rejects does
          (fun log error led called => (queryStage_of_leads led).isLate rfl called) rejects

/-- A rejected request makes no call, and so leaves everything as it is, whatever answers the calls. An
unknown kind is answered so whatever else is asked, and a disabled operation whatever id and body there
are. -/
theorem rejected_untouched (service : Service) (caller : Option Principal) (request : Request)
    (answer : (call : Call) → σ → call.Reply × σ) (state : σ) :
    (((service.handle caller request).run answer state).1.Rejects request.operation →
      (service.handle caller request).exchanges answer state = [] ∧
        ((service.handle caller request).run answer state).2 = state) ∧
    (service.registry.get? request.kind = none →
      service.handle caller request = .done (.ofError (.unknownKind request.kind))) ∧
    ∀ descriptor, service.registry.get? request.kind = some descriptor →
      descriptor.policy.allows request.operation = false →
      service.handle caller request =
        .done (.ofError (.operationNotAllowed request.operation descriptor.schema.kind)) := by
  refine ⟨fun rejects => ?_, fun unknown => ?_, fun descriptor known disabled => ?_⟩
  · have silent := exchanges_of_rejects rejects
    exact ⟨silent, Program.run_of_exchanges_eq_nil silent⟩
  · refine handle_of_refused ?_
    rw [Registry.authorize_eq, unknown]
  · refine handle_of_refused ?_
    rw [Registry.authorize_eq, known]
    simp only [disabled, Bool.false_eq_true, ↓reduceIte]

/-- A query of notes by a column that is not declared. -/
def faultyQuery : Request :=
  .query "note" (.object [("where", .array [.object
    [("key", .string "author"), ("op", .string "="), ("val", .string "a")]])])

/-- A store with one note, beside an empty cache. -/
def oneNote : Backend := ⟨⟨[("note", [⟨"1", none, 1, []⟩])], ⟨0, 0, 0⟩, 0, Store.uuid⟩, .empty 0, 0⟩

/-- A query of notes by a column that is not declared is rejected, and leaves a note as it is. -/
theorem untouched_faultyQuery :
    ((notes.handle none faultyQuery).run (Backend.answer fun _ => 0) oneNote).1.Rejects .query ∧
      ((notes.handle none faultyQuery).run (Backend.answer fun _ => 0) oneNote).2 = oneNote := by
  have rejects :
      ((notes.handle none faultyQuery).run (Backend.answer fun _ => 0) oneNote).1.Rejects .query :=
    .filter (.unknownColumn "author") (by decide +kernel)
  obtain ⟨untouched, -, -⟩ :=
    rejected_untouched notes none faultyQuery (Backend.answer fun _ => 0) oneNote
  exact ⟨rejects, (untouched rejects).2⟩

end Service

end RecordAccess
