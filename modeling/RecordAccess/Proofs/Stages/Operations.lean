import RecordAccess.Proofs.Stages.Caching

/-!
# Stages of the operations

How far each operation can have come, and what it has been told by then. Each operation has its
stages as an inductive predicate on a transcript and the work left after it, and one theorem which
says that there are no others. Whatever is proved about interleaved requests goes by these cases
and never by the text of an operation.
-/

namespace RecordAccess

open Program (Leads)

namespace Service

/-! ## Read -/

/-- What a read answers, by what the fetch of the record answered. -/
def readAnswer (schema : Schema) (caller : Option Principal) :
    Except StoreError Record → Except ServiceError Record
  | .ok record => (checkAccess schema caller .read record).map fun _ => record
  | .error error => .error (.ofStore error)

/-- The stages of a read. -/
inductive ReadStage (service : Service) (caller : Option Principal) (kind id : String) :
    List Exchange → Program (Except ServiceError Record) → Prop
  | refused {error : ServiceError}
      (refusal : service.registry.authorize kind .read = .error error ∨
        (∃ schema, service.registry.authorize kind .read = .ok schema) ∧
          requireId id = .error error) :
      ReadStage service caller kind id [] (.done (.error error))
  | fetching {schema : Schema} {log : List Exchange} {work : Program (Except StoreError Record)}
      (granted : service.registry.authorize kind .read = .ok schema)
      (named : requireId id = .ok ())
      (stage : service.aside.FetchStage schema id log work) :
      ReadStage service caller kind id log
        (work.bind fun reply => .done (readAnswer schema caller reply))

/-- A read that is not refused at once fetches the record and then decides. -/
theorem read_eq {service : Service} {caller : Option Principal} {kind id : String}
    {schema : Schema} (granted : service.registry.authorize kind .read = .ok schema)
    (named : requireId id = .ok ()) :
    (service.read caller kind id).run = (service.aside.fetchOne schema id).bind fun reply =>
      .done (readAnswer schema caller reply) := by
  have begun : (service.read caller kind id).run = ExceptT.run (do
      let schema ← decided (service.registry.authorize kind .read)
      decided (requireId id)
      let record ← storing (service.aside.fetchOne schema id)
      decided (checkAccess schema caller .read record)
      return record) := rfl
  rw [begun, granted, named]
  refine (storing_bind _ _).trans (congrArg (Program.bind _) (funext fun reply => ?_))
  cases reply with
  | error error => rfl
  | ok record =>
    simp only [readAnswer]
    cases checkAccess schema caller .read record <;> rfl

/-- A read is at one of its stages. -/
theorem readStage_of_leads {service : Service} {caller : Option Principal} {kind id : String}
    {log : List Exchange} {rest : Program (Except ServiceError Record)}
    (leads : Leads (service.read caller kind id).run log rest) :
    ReadStage service caller kind id log rest := by
  rcases leads_decided leads with ⟨error, refused, rfl, rfl⟩ | ⟨schema, granted, known⟩
  · exact .refused (.inl refused)
  rcases leads_decided known with ⟨error, refused, rfl, rfl⟩ | ⟨_, named, -⟩
  · exact .refused (.inr ⟨⟨schema, granted⟩, refused⟩)
  rw [read_eq granted named] at leads
  obtain ⟨work, fetching, rfl⟩ := Program.leads_map leads
  exact .fetching granted named (CacheAside.fetchStage_of_leads fetching)

/-! ## Query -/

/-- The stages of a query. -/
inductive QueryStage (service : Service) (caller : Option Principal) (kind : String)
    (expression : FilterExpression) :
    List Exchange → Program (Except ServiceError (List Record)) → Prop
  | refused {error : ServiceError} (plain : error.data? = none) :
      QueryStage service caller kind expression [] (.done (.error error))
  | looking {schema : Schema} {filter : CompiledFilter} {resume : _}
      (granted : service.registry.authorize kind .query = .ok schema) :
      QueryStage service caller kind expression [] (.call (.store (.findMany schema filter)) resume)
  | failed {schema : Schema} {filter : CompiledFilter} {error : StoreError}
      (granted : service.registry.authorize kind .query = .ok schema) :
      QueryStage service caller kind expression [.store (.findMany schema filter) (.error error)]
        (.done (.error (.ofStore error)))
  | found {schema : Schema} {filter : CompiledFilter} {records : List Record}
      {log : List Exchange} {work : Program Unit}
      (granted : service.registry.authorize kind .query = .ok schema)
      (filling : Leads (service.aside.onFetched schema filter records) log work) :
      QueryStage service caller kind expression
        (.store (.findMany schema filter) (.ok records) :: log)
        (work.bind fun _ => .done (.ok (records.filter (isReadable schema caller))))

/-- A query is at one of its stages. -/
theorem queryStage_of_leads {service : Service} {caller : Option Principal} {kind : String}
    {expression : FilterExpression} {log : List Exchange}
    {rest : Program (Except ServiceError (List Record))}
    (leads : Leads (service.query caller kind expression).run log rest) :
    QueryStage service caller kind expression log rest := by
  rcases leads_decided leads with ⟨error, refused, rfl, rfl⟩ | ⟨schema, granted, known⟩
  · exact .refused (data?_of_authorize refused)
  rcases leads_decided known with ⟨error, refused, rfl, rfl⟩ | ⟨filter, compiled, ready⟩
  · cases compiled : expression.compile schema.columns <;> rw [compiled] at refused
    · cases refused
      exact .refused rfl
    · cases refused
  rcases leads_askStore ready with ⟨rfl, resume, rfl⟩ | ⟨error, rfl, rfl⟩ |
    ⟨records, log, rfl, found⟩
  · exact .looking granted
  · exact .failed granted
  obtain ⟨work, filling, rfl⟩ := leads_caching found
  exact .found granted filling

/-! ## Create -/

/-- The stages of a create. -/
inductive CreateStage (service : Service) (caller : Option Principal) (kind : String)
    (body : Json) : List Exchange → Program (Except ServiceError Record) → Prop
  | refused {error : ServiceError} (plain : error.data? = none) :
      CreateStage service caller kind body [] (.done (.error error))
  | storing {schema : Schema} {payload : Record} {resume : _}
      (granted : service.registry.authorize kind .create = .ok schema)
      (decoded : decodePayload body = .ok payload) :
      CreateStage service caller kind body [] (.call (.store (.create schema payload)) resume)
  | failed {schema : Schema} {payload : Record} {error : StoreError}
      (granted : service.registry.authorize kind .create = .ok schema) :
      CreateStage service caller kind body [.store (.create schema payload) (.error error)]
        (.done (.error (.ofStore error)))
  /-- It has stored the record, and the cache is yet to be told or has been told. -/
  | written {schema : Schema} {payload created : Record} {log : List Exchange}
      {work : Program Unit} (granted : service.registry.authorize kind .create = .ok schema)
      (decoded : decodePayload body = .ok payload)
      (stage : service.aside.RefreshStage schema created log work) :
      CreateStage service caller kind body (.store (.create schema payload) (.ok created) :: log)
        (work.bind fun _ => .done (.ok created))

/-- A create is at one of its stages. -/
theorem createStage_of_leads {service : Service} {caller : Option Principal} {kind : String}
    {body : Json} {log : List Exchange} {rest : Program (Except ServiceError Record)}
    (leads : Leads (service.create caller kind body).run log rest) :
    CreateStage service caller kind body log rest := by
  rcases leads_decided leads with ⟨error, refused, rfl, rfl⟩ | ⟨schema, granted, known⟩
  · exact .refused (data?_of_authorize refused)
  rcases leads_decided known with ⟨error, refused, rfl, rfl⟩ | ⟨payload, decoded, read⟩
  · exact .refused (data?_of_decodePayload refused)
  rcases leads_decided read with ⟨error, refused, rfl, rfl⟩ | ⟨_, allowed, permitted⟩
  · exact .refused (eq_permissionDenied refused ▸ rfl)
  rcases leads_askStore permitted with ⟨rfl, resume, rfl⟩ | ⟨error, rfl, rfl⟩ |
    ⟨created, log, rfl, stored⟩
  · exact .storing granted decoded
  · exact .failed granted
  obtain ⟨work, refreshing, rfl⟩ := leads_caching stored
  exact .written granted decoded (CacheAside.refreshStage_of_leads refreshing)

/-! ## Delete -/

/-- The stages of a delete. -/
inductive DeleteStage (service : Service) (caller : Option Principal) (kind id : String) :
    List Exchange → Program (Except ServiceError Record) → Prop
  | refused {error : ServiceError} (plain : error.data? = none) :
      DeleteStage service caller kind id [] (.done (.error error))
  | looking {schema : Schema} {resume : _}
      (granted : service.registry.authorize kind .delete = .ok schema)
      (named : requireId id = .ok ()) :
      DeleteStage service caller kind id [] (.call (.store (.findOne schema id)) resume)
  | missing {schema : Schema} {error : StoreError}
      (granted : service.registry.authorize kind .delete = .ok schema) :
      DeleteStage service caller kind id [.store (.findOne schema id) (.error error)]
        (.done (.error (.ofStore error)))
  | forbidden {schema : Schema} {found : Record} {error : ServiceError}
      (granted : service.registry.authorize kind .delete = .ok schema)
      (refusal : checkAccess schema caller .write found = .error error) :
      DeleteStage service caller kind id [.store (.findOne schema id) (.ok found)]
        (.done (.error error))
  /-- It has seen a record that may be written, and is about to look again. -/
  | reloading {schema : Schema} {found : Record} {resume : _}
      (granted : service.registry.authorize kind .delete = .ok schema)
      (allowed : checkAccess schema caller .write found = .ok ()) :
      DeleteStage service caller kind id [.store (.findOne schema id) (.ok found)]
        (.call (.store (.findOne schema found.id)) resume)
  | vanished {schema : Schema} {found : Record} {error : StoreError}
      (granted : service.registry.authorize kind .delete = .ok schema) :
      DeleteStage service caller kind id
        [.store (.findOne schema id) (.ok found), .store (.findOne schema found.id) (.error error)]
        (.done (.error (.ofStore error)))
  /-- It is about to leave the first tombstone. -/
  | burying {schema : Schema} {found current : Record} {resume : _}
      (granted : service.registry.authorize kind .delete = .ok schema) :
      DeleteStage service caller kind id
        [.store (.findOne schema id) (.ok found), .store (.findOne schema found.id) (.ok current)]
        (.call (.cache (.set (Record.cacheKey schema.kind current.id) CacheAside.tombstoneText))
          resume)
  | removing {schema : Schema} {found current : Record} {buried : List Exchange} {resume : _}
      (granted : service.registry.authorize kind .delete = .ok schema)
      (named : requireId id = .ok ())
      (allowed : checkAccess schema caller .write found = .ok ())
      (noted : service.aside.Noted
        (.set (Record.cacheKey schema.kind current.id) CacheAside.tombstoneText) buried) :
      DeleteStage service caller kind id
        (.store (.findOne schema id) (.ok found) ::
          .store (.findOne schema found.id) (.ok current) :: buried)
        (.call (.store (.delete schema current.id)) resume)
  | failed {schema : Schema} {found current : Record} {buried : List Exchange}
      {error : StoreError} (granted : service.registry.authorize kind .delete = .ok schema)
      (noted : service.aside.Noted
        (.set (Record.cacheKey schema.kind current.id) CacheAside.tombstoneText) buried) :
      DeleteStage service caller kind id
        (.store (.findOne schema id) (.ok found) ::
          .store (.findOne schema found.id) (.ok current) ::
            (buried ++ [.store (.delete schema current.id) (.error error)]))
        (.done (.error (.ofStore error)))
  /-- It has removed the record, and the second tombstone is yet to be left or has been left. -/
  | removed {schema : Schema} {found current : Record} {buried log : List Exchange}
      {work : Program Unit} (granted : service.registry.authorize kind .delete = .ok schema)
      (named : requireId id = .ok ())
      (noted : service.aside.Noted
        (.set (Record.cacheKey schema.kind current.id) CacheAside.tombstoneText) buried)
      (burying : Leads (service.aside.bury (Record.cacheKey schema.kind current.id)) log work) :
      DeleteStage service caller kind id
        (.store (.findOne schema id) (.ok found) ::
          .store (.findOne schema found.id) (.ok current) ::
            (buried ++ .store (.delete schema current.id) (.ok ()) :: log))
        (work.bind fun _ => .done (.ok current))

theorem deleteStage_of_reloaded {service : Service} {caller : Option Principal}
    {kind id : String} {schema : Schema} {found current : Record} {buried log : List Exchange}
    {rest : Program (Except ServiceError Record)}
    (granted : service.registry.authorize kind .delete = .ok schema)
    (named : requireId id = .ok ())
    (allowed : checkAccess schema caller .write found = .ok ())
    (noted : service.aside.Noted
      (.set (Record.cacheKey schema.kind current.id) CacheAside.tombstoneText) buried)
    (leads : Leads (ExceptT.run (do
      storing (Program.askStore (.delete schema current.id))
      caching (service.aside.onAfterDelete schema current.id)
      return current)) log rest) :
    DeleteStage service caller kind id
      (.store (.findOne schema id) (.ok found) ::
        .store (.findOne schema found.id) (.ok current) :: (buried ++ log)) rest := by
  rcases leads_askStore leads with ⟨rfl, resume, rfl⟩ | ⟨error, rfl, rfl⟩ | ⟨_, log, rfl, after⟩
  · rw [List.append_nil]
    exact .removing granted named allowed noted
  · exact .failed granted noted
  · obtain ⟨work, burying, rfl⟩ := leads_caching after
    exact .removed granted named noted burying

/-- A delete is at one of its stages. -/
theorem deleteStage_of_leads {service : Service} {caller : Option Principal} {kind id : String}
    {log : List Exchange} {rest : Program (Except ServiceError Record)}
    (leads : Leads (service.delete caller kind id).run log rest) :
    DeleteStage service caller kind id log rest := by
  rcases leads_decided leads with ⟨error, refused, rfl, rfl⟩ | ⟨schema, granted, known⟩
  · exact .refused (data?_of_authorize refused)
  rcases leads_decided known with ⟨error, refused, rfl, rfl⟩ | ⟨_, named, identified⟩
  · exact .refused (data?_of_requireId refused)
  rcases leads_askStore identified with ⟨rfl, resume, rfl⟩ | ⟨error, rfl, rfl⟩ |
    ⟨found, log, rfl, seen⟩
  · exact .looking granted named
  · exact .missing granted
  rcases leads_decided seen with ⟨error, refused, rfl, rfl⟩ | ⟨_, allowed, permitted⟩
  · exact .forbidden granted refused
  rcases leads_storing permitted with ⟨work, before, rfl⟩ | ⟨error, before, rfl⟩ |
    ⟨before, after, current, rfl, reloaded, ready⟩
  · rcases CacheAside.leads_onBeforeDelete before with ⟨rfl, resume, rfl⟩ | ⟨error, rfl, rfl⟩ |
      ⟨current, after, rfl, ⟨rfl, resume, rfl⟩ | ⟨rfl, noted⟩⟩
    · exact .reloading granted allowed
    · exact .vanished granted
    · exact .burying granted
    · exact List.append_nil after ▸ deleteStage_of_reloaded granted named allowed noted .here
  · rcases CacheAside.leads_onBeforeDelete before with ⟨-, _, impossible⟩ | ⟨error, rfl, same⟩ |
      ⟨current, after, rfl, ⟨-, _, impossible⟩ | ⟨impossible, -⟩⟩
    · cases impossible
    · cases same
      exact .vanished granted
    · cases impossible
    · cases impossible
  · rcases CacheAside.leads_onBeforeDelete reloaded with ⟨-, _, impossible⟩ | ⟨_, -, impossible⟩ |
      ⟨_, buried, rfl, ⟨-, _, impossible⟩ | ⟨same, noted⟩⟩
    · cases impossible
    · cases impossible
    · cases impossible
    · cases same
      exact deleteStage_of_reloaded granted named allowed noted ready

/-! ## Update -/

/-- The stages of an update. -/
inductive UpdateStage (service : Service) (caller : Option Principal) (kind id : String)
    (body : Json) : List Exchange → Program (Except ServiceError Record) → Prop
  /-- It was refused before any call. -/
  | refused {error : ServiceError} (plain : error.data? = none) :
      UpdateStage service caller kind id body [] (.done (.error error))
  /-- It is about to look at the stored record. -/
  | looking {schema : Schema} {resume : _}
      (granted : service.registry.authorize kind .update = .ok schema)
      (named : requireId id = .ok ()) :
      UpdateStage service caller kind id body [] (.call (.store (.findOne schema id)) resume)
  /-- There was no record to look at. -/
  | missing {schema : Schema} {error : StoreError}
      (granted : service.registry.authorize kind .update = .ok schema) :
      UpdateStage service caller kind id body [.store (.findOne schema id) (.error error)]
        (.done (.error (.ofStore error)))
  /-- The record that it saw may not be written, or has another revision. -/
  | stopped {schema : Schema} {payload current : Record} {error : ServiceError}
      (granted : service.registry.authorize kind .update = .ok schema)
      (decoded : decodePayload body = .ok payload)
      (refusal : checkAccess schema caller .write current = .error error ∨
        checkAccess schema caller .write current = .ok () ∧
          expectedRevision schema current { payload with id := id } = .error error) :
      UpdateStage service caller kind id body [.store (.findOne schema id) (.ok current)]
        (.done (.error error))
  /-- It is about to write. -/
  | writing {schema : Schema} {payload current : Record} {expected : Option Int} {resume : _}
      (granted : service.registry.authorize kind .update = .ok schema)
      (decoded : decodePayload body = .ok payload)
      (allowed : checkAccess schema caller .write current = .ok ())
      (revision : expectedRevision schema current { payload with id := id } = .ok expected) :
      UpdateStage service caller kind id body [.store (.findOne schema id) (.ok current)]
        (.call (.store (.update schema { payload with id := id } expected)) resume)
  /-- The store refused to write. -/
  | failed {schema : Schema} {payload current : Record} {expected : Option Int}
      {error : StoreError} (granted : service.registry.authorize kind .update = .ok schema) :
      UpdateStage service caller kind id body
        [.store (.findOne schema id) (.ok current),
          .store (.update schema { payload with id := id } expected) (.error error)]
        (.done (.error (.ofStore error)))
  /-- It has written, and the cache is yet to be told or has been told. -/
  | written {schema : Schema} {payload current updated : Record} {expected : Option Int}
      {log : List Exchange} {work : Program Unit}
      (granted : service.registry.authorize kind .update = .ok schema)
      (named : requireId id = .ok ())
      (stage : service.aside.RefreshStage schema updated log work) :
      UpdateStage service caller kind id body
        (.store (.findOne schema id) (.ok current) ::
          .store (.update schema { payload with id := id } expected) (.ok updated) :: log)
        (work.bind fun _ => .done (.ok updated))

/-- An update is at one of its stages. -/
theorem updateStage_of_leads {service : Service} {caller : Option Principal} {kind id : String}
    {body : Json} {log : List Exchange} {rest : Program (Except ServiceError Record)}
    (leads : Leads (service.update caller kind id body).run log rest) :
    UpdateStage service caller kind id body log rest := by
  rcases leads_decided leads with ⟨error, refused, rfl, rfl⟩ | ⟨schema, granted, known⟩
  · exact .refused (data?_of_authorize refused)
  rcases leads_decided known with ⟨error, refused, rfl, rfl⟩ | ⟨_, named, identified⟩
  · exact .refused (data?_of_requireId refused)
  rcases leads_decided identified with ⟨error, refused, rfl, rfl⟩ | ⟨payload, decoded, read⟩
  · exact .refused (data?_of_decodePayload refused)
  rcases leads_askStore read with ⟨rfl, resume, rfl⟩ | ⟨error, rfl, rfl⟩ |
    ⟨current, log, rfl, seen⟩
  · exact .looking granted named
  · exact .missing granted
  rcases leads_decided seen with ⟨error, refused, rfl, rfl⟩ | ⟨_, allowed, permitted⟩
  · exact .stopped granted decoded (.inl refused)
  rcases leads_decided permitted with ⟨error, refused, rfl, rfl⟩ | ⟨expected, revision, checked⟩
  · exact .stopped granted decoded (.inr ⟨allowed, refused⟩)
  rcases leads_askStore checked with ⟨rfl, resume, rfl⟩ | ⟨error, rfl, rfl⟩ |
    ⟨updated, log, rfl, stored⟩
  · exact .writing granted decoded allowed revision
  · exact .failed granted
  obtain ⟨work, refreshing, rfl⟩ := leads_caching stored
  exact .written granted named (CacheAside.refreshStage_of_leads refreshing)

end Service

end RecordAccess
