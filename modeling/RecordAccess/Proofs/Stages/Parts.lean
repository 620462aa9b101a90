import RecordAccess.Proofs.Outcomes
import RecordAccess.Proofs.Registration
import RecordAccess.Proofs.Transcript

/-!
# Parts of an operation

An operation is put together from decisions that need no call, calls of the store that can fail,
and calls of the cache that cannot. For each kind of part there is one statement on how far the
work can have come when it begins with such a part. A refusal that is decided without a look at a
stored record carries no record.
-/

namespace RecordAccess

open Program (Leads)

namespace Service

variable {α β : Type}

/-! ## Parts of an operation -/

/-- What was decided without a call either ends the work or lets it go on. -/
theorem leads_decided {outcome : Except ServiceError α} {f : α → Work β} {log : List Exchange}
    {rest : Program (Except ServiceError β)}
    (leads : Leads (ExceptT.run (decided outcome >>= f)) log rest) :
    (∃ error, outcome = .error error ∧ log = [] ∧ rest = .done (.error error)) ∨
    ∃ value, outcome = .ok value ∧ Leads (f value).run log rest := by
  cases outcome with
  | ok value => exact .inr ⟨value, rfl, leads⟩
  | error error =>
    obtain ⟨rfl, rfl⟩ := Program.leads_done.1 leads
    exact .inl ⟨error, rfl, rfl, rfl⟩

theorem storing_bind (program : Program (Except StoreError α)) (f : α → Work β) :
    ExceptT.run (storing program >>= f) = program.bind fun reply =>
      match reply with
      | .ok value => (f value).run
      | .error error => .done (.error (.ofStore error)) := by
  refine (Program.bind_assoc _ _ _).trans (congrArg program.bind (funext fun reply => ?_))
  cases reply with
  | ok value => rfl
  | error error => rfl

theorem caching_pure (program : Program Unit) (value : β) :
    ExceptT.run (caching program >>= fun _ => pure value) =
      program.bind fun _ => .done (.ok value) :=
  Program.bind_assoc _ _ _

theorem run_map (form : α → β) (work : Work α) :
    ExceptT.run (form <$> work) = work.run.bind fun outcome => .done (outcome.map form) := by
  refine congrArg work.run.bind (funext fun outcome => ?_)
  cases outcome <;> rfl

/-- Work that answers like a store call is at it, has failed by it, or goes on with its result. -/
theorem leads_storing {program : Program (Except StoreError α)} {f : α → Work β}
    {log : List Exchange} {rest : Program (Except ServiceError β)}
    (leads : Leads (ExceptT.run (storing program >>= f)) log rest) :
    (∃ first, Leads program log first ∧ rest = first.bind fun reply =>
      match reply with
      | .ok value => (f value).run
      | .error error => .done (.error (.ofStore error))) ∨
    (∃ error, Leads program log (.done (.error error)) ∧
      rest = .done (.error (.ofStore error))) ∨
    ∃ before after value, log = before ++ after ∧ Leads program before (.done (.ok value)) ∧
      Leads (f value).run after rest := by
  rw [storing_bind] at leads
  rcases Program.leads_bind leads with ⟨first, one, rfl⟩ | ⟨before, after, reply, rfl, one, two⟩
  · exact .inl ⟨first, one, rfl⟩
  · cases reply with
    | ok value => exact .inr (.inr ⟨before, after, value, rfl, one, two⟩)
    | error error =>
      obtain ⟨rfl, rfl⟩ := Program.leads_done.1 two
      exact .inr (.inl ⟨error, by simpa using one, rfl⟩)

/-- One call of the store is yet to be made, has failed, or has a result that the work goes on
with. -/
theorem leads_askStore {call : StoreCall} {f : call.Result → Work β} {log : List Exchange}
    {rest : Program (Except ServiceError β)}
    (leads : Leads (ExceptT.run (storing (Program.askStore call) >>= f)) log rest) :
    (log = [] ∧ ∃ resume, rest = .call (.store call) resume) ∨
    (∃ error, log = [.store call (.error error)] ∧ rest = .done (.error (.ofStore error))) ∨
    ∃ value after, log = .store call (.ok value) :: after ∧ Leads (f value).run after rest := by
  rcases leads_storing leads with ⟨first, one, rfl⟩ | ⟨error, one, rfl⟩ |
    ⟨before, after, value, rfl, one, two⟩
  · cases one with
    | here => exact .inl ⟨rfl, _, rfl⟩
    | @after _ _ reply _ _ later =>
      obtain ⟨rfl, rfl⟩ := Program.leads_done.1 later
      cases reply with
      | error error => exact .inr (.inl ⟨error, rfl, rfl⟩)
      | ok value => exact .inr (.inr ⟨value, [], rfl, .here⟩)
  · cases one with
    | @after _ _ reply _ _ later =>
      obtain ⟨rfl, same⟩ := Program.leads_done.1 later
      obtain rfl := Program.done.inj same
      exact .inr (.inl ⟨error, rfl, rfl⟩)
  · cases one with
    | @after _ _ reply _ _ later =>
      obtain ⟨rfl, same⟩ := Program.leads_done.1 later
      obtain rfl := Program.done.inj same
      exact .inr (.inr ⟨value, after, rfl, two⟩)

/-- Work that ends with calls that cannot fail is at them, or done. -/
theorem leads_caching {program : Program Unit} {value : β} {log : List Exchange}
    {rest : Program (Except ServiceError β)}
    (leads : Leads (ExceptT.run (caching program >>= fun _ => pure value)) log rest) :
    ∃ first, Leads program log first ∧ rest = first.bind fun _ => .done (.ok value) := by
  rw [caching_pure] at leads
  exact Program.leads_map leads

/-! ## Refusals -/

/-- A refusal by the registry carries no record. -/
theorem data?_of_authorize {registry : Registry} {kind : String} {operation : Operation}
    {error : ServiceError} (refused : registry.authorize kind operation = .error error) :
    error.data? = none := by
  rw [Registry.authorize_eq] at refused
  split at refused
  · cases refused
    rfl
  · split at refused <;> cases refused
    rfl

theorem data?_of_requireId {id : String} {error : ServiceError}
    (refused : requireId id = .error error) : error.data? = none := by
  unfold requireId at refused
  split at refused <;> cases refused
  rfl

theorem data?_of_decodePayload {body : Json} {error : ServiceError}
    (refused : decodePayload body = .error error) : error.data? = none := by
  unfold decodePayload at refused
  split at refused
  · cases decoded : Record.decode.ofJson _ <;> rw [decoded] at refused <;> cases refused
    rfl
  · cases refused
    rfl

/-- Access is refused in one way only, and without the record. -/
theorem eq_permissionDenied {permission : Option Permission} {caller : Option Principal}
    {access : Access} {record : Record} {error : ServiceError}
    (refused : ((canPerform permission caller access).mapError fun error =>
      ServiceError.ofAccess error record) = .error error) : error = .permissionDenied := by
  unfold canPerform at refused
  split at refused
  · cases refused
  · simp only at refused
    split at refused
    · cases refused
    · split at refused <;> cases refused
      rfl

/-- The revision check refuses with the record looked at, or with none. -/
theorem eq_of_unexpected {schema : Schema} {current proposed : Record} {error : ServiceError}
    (refused : expectedRevision schema current proposed = .error error) :
    error = .revisionConflict current ∨ error = .revisionRequired := by
  unfold expectedRevision checkRevision at refused
  split at refused
  · split at refused
    · cases refused
    · next fault =>
      cases refused
      split at fault
      · cases fault
        exact .inr rfl
      · split at fault
        · cases fault
        · cases fault
          exact .inl rfl
  · cases refused

end Service

end RecordAccess
