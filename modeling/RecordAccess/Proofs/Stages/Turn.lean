import RecordAccess.Proofs.Stages.Task

/-!
# Turns

Which calls a task can make next, with what it has been told by then. Every call of every operation
is one of the cases of `Pending` (`pending_of_next?`), so that whatever holds after each of them
holds after each move of a run. A `Turn` is the same call with only that of what the task was told
which most statements need.

A task that has written a record returns with a call that closes the write: it tells the cache, or
has found a later revision there (`closing_of_done`).
-/

namespace RecordAccess

open Service

/-- An exchange shows a record as it is stored under an id. -/
inductive Shows (schema : Schema) : String → Record → Exchange → Prop
  | one {id : String} {record : Record} :
      Shows schema id record (.store (.findOne schema id) (.ok record))
  | many {filter : CompiledFilter} {records : List Record} {record : Record}
      (plain : filter.includes.isEmpty = true) (member : record ∈ records) :
      Shows schema record.id record (.store (.findMany schema filter) (.ok records))

/-! ## Pending calls -/

/-- The call that a task makes next, with its transcript by then. -/
inductive Pending (service : Service) (task : Task) : List Exchange → Call → Prop
  | look {schema : Schema} {id : String} {log : List Exchange} :
      Pending service task log (.store (.findOne schema id))
  | list {schema : Schema} {filter : CompiledFilter} {log : List Exchange} :
      Pending service task log (.store (.findMany schema filter))
  | create {kind : String} {body : Json} {schema : Schema} {payload : Record}
      (asked : task.ask = .create kind body)
      (granted : service.registry.authorize kind .create = .ok schema)
      (decoded : decodePayload body = .ok payload) :
      Pending service task [] (.store (.create schema payload))
  | update {kind id : String} {body : Json} {schema : Schema} {payload current : Record}
      {expected : Option Int} (asked : task.ask = .update kind id body)
      (granted : service.registry.authorize kind .update = .ok schema)
      (decoded : decodePayload body = .ok payload)
      (allowed : checkAccess schema task.caller .write current = .ok ())
      (revision : expectedRevision schema current { payload with id := id } = .ok expected) :
      Pending service task [.store (.findOne schema id) (.ok current)]
        (.store (.update schema { payload with id := id } expected))
  | delete {kind id : String} {schema : Schema} {found current : Record}
      {buried : List Exchange} (asked : task.ask = .delete kind id)
      (granted : service.registry.authorize kind .delete = .ok schema)
      (allowed : checkAccess schema task.caller .write found = .ok ()) :
      Pending service task
        (.store (.findOne schema id) (.ok found) ::
          .store (.findOne schema found.id) (.ok current) :: buried)
        (.store (.delete schema current.id))
  | peek {key : String} {log : List Exchange} : Pending service task log (.cache (.get key))
  /-- A read replaces a text that is no record by what it has found in the store. -/
  | replace {schema : Schema} {id : String} {record : Record}
      {reply : Except CacheError (Option String)} (served : service.Serves schema)
      (corrupt : CacheLookup.ofReply reply = .corrupt) :
      Pending service task
        [.cache (.get (Record.cacheKey schema.kind id)) reply,
          .store (.findOne schema id) (.ok record)]
        (.cache (.set (Record.cacheKey schema.kind id) record.text))
  /-- A read or a query fills a key with what it was shown last of the store. -/
  | fill {schema : Schema} {id : String} {record : Record} {exchange : Exchange}
      {before after : List Exchange} (served : service.Serves schema)
      (shows : Shows schema id record exchange)
      (cached : ∀ later ∈ after, later.isCache = true) :
      Pending service task (before ++ exchange :: after)
        (.cache (.setIfAbsent (Record.cacheKey schema.kind id) record.text))
  /-- A create or an update tells the cache what it has written, after a look at the entry if the
  kind is revisioned. -/
  | refresh {kind : String} {operation : Operation} {schema : Schema} {record : Record}
      {call : StoreCall} {reply : call.Reply} {before seen : List Exchange}
      (granted : service.registry.authorize kind operation = .ok schema)
      (stored : call.stored? reply = some (schema.kind, record))
      (looked : CacheAside.NotLater schema record seen) :
      Pending service task (before ++ .store call reply :: seen)
        (.cache (.set (Record.cacheKey schema.kind record.id) record.text))
  /-- A delete leaves a tombstone, after it has looked twice. -/
  | bury {kind id : String} {schema : Schema} {found current : Record} {log : List Exchange}
      (asked : task.ask = .delete kind id)
      (granted : service.registry.authorize kind .delete = .ok schema) :
      Pending service task
        (.store (.findOne schema id) (.ok found) ::
          .store (.findOne schema found.id) (.ok current) :: log)
        (.cache (.set (Record.cacheKey schema.kind current.id) CacheAside.tombstoneText))

section Stages

variable {service : Service} {caller : Option Principal} {kind id : String} {log : List Exchange}
  {next : Call}

theorem pending_of_fetch {schema : Schema} {work : Program (Except StoreError Record)} {task : Task}
    (served : service.Serves schema) (stage : service.aside.FetchStage schema id log work)
    {resume : next.Reply → Program (Except StoreError Record)} (asked : work = .call next resume) :
    Pending service task log next := by
  cases stage with
  | asking =>
    cases asked
    exact .peek
  | looking =>
    cases asked
    exact .look
  | replacing missed =>
    cases asked
    rcases missed with ⟨-, -, impossible⟩ | ⟨-, -, reply, rfl, corrupt⟩
    · cases impossible
    · exact .replace served corrupt
  | filling =>
    cases asked
    exact .fill served .one (List.forall_mem_nil _)
  | _ => cases asked

/-- A refresh goes on after the call that has written the record. -/
theorem pending_of_refresh {schema : Schema} {record : Record} {operation : Operation}
    {call : StoreCall} {reply : call.Reply} {work : Program Unit} {task : Task}
    (before : List Exchange) (granted : service.registry.authorize kind operation = .ok schema)
    (stored : call.stored? reply = some (schema.kind, record))
    (stage : service.aside.RefreshStage schema record log work)
    {resume : next.Reply → Program Unit} (asked : work = .call next resume) :
    Pending service task (before ++ .store call reply :: log) next := by
  cases stage with
  | looking =>
    cases asked
    exact .peek
  | putting _ looked =>
    cases asked
    exact .refresh granted stored looked
  | _ => cases asked

theorem pending_of_read {rest : Program (Except ServiceError Record)}
    (stage : service.ReadStage caller kind id log rest)
    (asked : Task.next? ⟨caller, .read kind id, rest.deliver .one⟩ = some next) :
    Pending service ⟨caller, .read kind id, rest.deliver .one⟩ log next := by
  cases stage with
  | refused => cases asked
  | @fetching _ _ work granted named stage =>
    cases work with
    | done => cases asked
    | call =>
      cases asked
      exact pending_of_fetch ⟨_, _, granted⟩ stage rfl

theorem pending_of_query {expression : FilterExpression}
    {rest : Program (Except ServiceError (List Record))}
    (stage : service.QueryStage caller kind expression log rest)
    (asked : Task.next? ⟨caller, .query kind expression, rest.deliver .many⟩ = some next) :
    Pending service ⟨caller, .query kind expression, rest.deliver .many⟩ log next := by
  cases stage with
  | looking =>
    cases asked
    exact .list
  | found granted filling =>
    obtain ⟨cached, rfl | ⟨record, member, resume, plain, rfl⟩⟩ := CacheAside.fill_of_leads filling
    · cases asked
    · cases asked
      exact @Pending.fill _ _ _ _ _ _ [] _ ⟨_, _, granted⟩ (.many plain member) cached
  | _ => cases asked

theorem pending_of_create {body : Json} {rest : Program (Except ServiceError Record)}
    (stage : service.CreateStage caller kind body log rest)
    (asked : Task.next? ⟨caller, .create kind body, rest.deliver .one⟩ = some next) :
    Pending service ⟨caller, .create kind body, rest.deliver .one⟩ log next := by
  cases stage with
  | storing granted decoded =>
    cases asked
    exact .create rfl granted decoded
  | @written _ _ _ _ work granted decoded stage =>
    cases work with
    | done => cases asked
    | call =>
      cases asked
      exact pending_of_refresh [] granted rfl stage rfl
  | _ => cases asked

theorem pending_of_update {body : Json} {rest : Program (Except ServiceError Record)}
    (stage : service.UpdateStage caller kind id body log rest)
    (asked : Task.next? ⟨caller, .update kind id body, rest.deliver .one⟩ = some next) :
    Pending service ⟨caller, .update kind id body, rest.deliver .one⟩ log next := by
  cases stage with
  | looking =>
    cases asked
    exact .look
  | writing granted decoded allowed revision =>
    cases asked
    exact .update rfl granted decoded allowed revision
  | @written _ _ _ _ _ _ work granted named stage =>
    cases work with
    | done => cases asked
    | call =>
      cases asked
      exact pending_of_refresh [_] granted rfl stage rfl
  | _ => cases asked

theorem pending_of_delete {rest : Program (Except ServiceError Record)}
    (stage : service.DeleteStage caller kind id log rest)
    (asked : Task.next? ⟨caller, .delete kind id, rest.deliver .one⟩ = some next) :
    Pending service ⟨caller, .delete kind id, rest.deliver .one⟩ log next := by
  cases stage with
  | looking | reloading =>
    cases asked
    exact .look
  | burying granted =>
    cases asked
    exact .bury rfl granted
  | removing granted named allowed =>
    cases asked
    exact .delete rfl granted allowed
  | removed granted named noted burying =>
    rcases CacheAside.leads_bury burying with ⟨-, resume, rfl⟩ | ⟨rfl, -⟩
    · cases asked
      exact .bury rfl granted
    · cases asked
  | _ => cases asked

/-- The call that a task makes next is one that is pending. -/
theorem pending_of_next? {task : Task} (stage : TaskStage service task log)
    (asked : task.next? = some next) : Pending service task log next := by
  cases stage with
  | read stage => exact pending_of_read stage asked
  | query stage => exact pending_of_query stage asked
  | create stage => exact pending_of_create stage asked
  | update stage => exact pending_of_update stage asked
  | delete stage => exact pending_of_delete stage asked

end Stages

/-! ## Turns -/

/-- The call that a task makes next, with what it has been told by then. -/
inductive Turn (service : Service) (task : Task) : List Exchange → Call → Prop
  | look {schema : Schema} {id : String} {log : List Exchange} :
      Turn service task log (.store (.findOne schema id))
  | list {schema : Schema} {filter : CompiledFilter} {log : List Exchange} :
      Turn service task log (.store (.findMany schema filter))
  | create {kind : String} {body : Json} {schema : Schema} {payload : Record}
      (asked : task.ask = .create kind body)
      (granted : service.registry.authorize kind .create = .ok schema)
      (decoded : decodePayload body = .ok payload) :
      Turn service task [] (.store (.create schema payload))
  | update {kind id : String} {body : Json} {schema : Schema} {payload current : Record}
      {expected : Option Int} (asked : task.ask = .update kind id body)
      (granted : service.registry.authorize kind .update = .ok schema)
      (decoded : decodePayload body = .ok payload)
      (allowed : checkAccess schema task.caller .write current = .ok ())
      (revision : expectedRevision schema current { payload with id := id } = .ok expected) :
      Turn service task [.store (.findOne schema id) (.ok current)]
        (.store (.update schema { payload with id := id } expected))
  | delete {kind id : String} {schema : Schema} {found current : Record}
      {buried : List Exchange} (asked : task.ask = .delete kind id)
      (granted : service.registry.authorize kind .delete = .ok schema) :
      Turn service task
        (.store (.findOne schema id) (.ok found) ::
          .store (.findOne schema found.id) (.ok current) :: buried)
        (.store (.delete schema current.id))
  | peek {key : String} {log : List Exchange} : Turn service task log (.cache (.get key))
  /-- It replaces a text that is no record by what is stored. -/
  | replace {schema : Schema} {id : String} {record : Record} {log : List Exchange}
      {reply : Except CacheError (Option String)} (served : service.Serves schema)
      (seen : .cache (.get (Record.cacheKey schema.kind id)) reply ∈ log)
      (corrupt : CacheLookup.ofReply reply = .corrupt) :
      Turn service task log (.cache (.set (Record.cacheKey schema.kind id) record.text))
  | fill {schema : Schema} {id : String} {record : Record} {log : List Exchange}
      {exchange : Exchange} (served : service.Serves schema) (seen : exchange ∈ log)
      (shows : Shows schema id record exchange) :
      Turn service task log (.cache (.setIfAbsent (Record.cacheKey schema.kind id) record.text))
  /-- It tells the cache what it has written. -/
  | refresh {schema : Schema} {record : Record} {log : List Exchange} {call : StoreCall}
      {reply : call.Reply} (served : service.Serves schema) (wrote : .store call reply ∈ log)
      (stored : call.stored? reply = some (schema.kind, record)) :
      Turn service task log
        (.cache (.set (Record.cacheKey schema.kind record.id) record.text))
  | bury {schema : Schema} {id : String} {log : List Exchange}
      (served : service.Serves schema) :
      Turn service task log
        (.cache (.set (Record.cacheKey schema.kind id) CacheAside.tombstoneText))

/-- The call that a task makes next is one of its turns. -/
theorem turn_of_next? {service : Service} {task : Task} {log : List Exchange} {next : Call}
    (stage : TaskStage service task log) (asked : task.next? = some next) :
    Turn service task log next := by
  cases pending_of_next? stage asked with
  | look => exact .look
  | list => exact .list
  | create ask granted decoded => exact .create ask granted decoded
  | update ask granted decoded allowed revision =>
    exact .update ask granted decoded allowed revision
  | delete ask granted => exact .delete ask granted
  | peek => exact .peek
  | replace served corrupt => exact .replace served (List.mem_cons_self ..) corrupt
  | fill served shows => exact .fill served (by simp) shows
  | refresh granted stored => exact .refresh ⟨_, _, granted⟩ (by simp) stored
  | bury ask granted => exact .bury ⟨_, _, granted⟩

/-! ## The end of a write -/

/-- The last exchange of a task that has written a record: it left a tombstone, wrote the record to
the cache, or found a later revision there and kept it. -/
inductive Closing (call : StoreCall) (reply : call.Reply) : Exchange → Prop
  | bury {kind id : String} {noted : Except CacheError Unit}
      (written : call.written? reply = some (kind, id)) :
      Closing call reply (.cache (.set (Record.cacheKey kind id) CacheAside.tombstoneText) noted)
  | refresh {kind : String} {record : Record} {noted : Except CacheError Unit}
      (stored : call.stored? reply = some (kind, record)) :
      Closing call reply (.cache (.set (Record.cacheKey kind record.id) record.text) noted)
  | keep {kind : String} {record cached : Record}
      {found : Except CacheError (Option String)}
      (stored : call.stored? reply = some (kind, record))
      (revisioned : call.schema.revisioned = true)
      (seen : CacheLookup.ofReply found = .record cached)
      (later : record.revision < cached.revision) :
      Closing call reply (.cache (.get (Record.cacheKey kind record.id)) found)

/-- The kind and the id of the record that a task has written, by one of its exchanges. -/
def Exchange.written? : Exchange → Option (String × String)
  | ⟨.store call, reply⟩ => call.written? reply
  | ⟨.cache _, _⟩ => none

theorem unwritten_of_isCache {log : List Exchange}
    (cached : ∀ exchange ∈ log, exchange.isCache = true) :
    ∀ exchange ∈ log, exchange.written? = none := by
  intro exchange member
  have told := cached exchange member
  obtain ⟨_ | _, _⟩ := exchange
  · cases told
  · rfl

section Closing

variable {call : StoreCall} {reply : call.Reply} {record : String × String}
  {before after log : List Exchange} {exchange : Exchange}

theorem not_mem_of_unwritten (written : call.written? reply = some record)
    (silent : ∀ exchange ∈ log, exchange.written? = none) : .store call reply ∉ log :=
  fun wrote => nomatch written.symm.trans (silent _ wrote)

/-- Where only one exchange can have written a record, it is the one that has. -/
theorem eq_of_written (written : call.written? reply = some record)
    (wrote : .store call reply ∈ before ++ exchange :: after)
    (first : ∀ exchange ∈ before, exchange.written? = none)
    (last : ∀ exchange ∈ after, exchange.written? = none) : exchange = .store call reply := by
  rcases List.mem_append.1 wrote with early | late
  · exact absurd early (not_mem_of_unwritten written first)
  · rcases List.mem_cons.1 late with same | later
    · exact same.symm
    · exact absurd later (not_mem_of_unwritten written last)

/-- A transcript that holds a write ends with the exchange that closes it. -/
def IsClosedWrite (call : StoreCall) (reply : call.Reply) (log : List Exchange) : Prop :=
  ∃ front last, log = front ++ [last] ∧ .store call reply ∈ front ∧ Closing call reply last

/-- A refresh that has come to its end has closed the write before it. -/
theorem isClosedWrite_of_refresh {aside : CacheAside} {stored : Record}
    (enabled : aside.enabled = true) (before : List Exchange)
    (named : call.stored? reply = some (call.schema.kind, stored))
    (stage : aside.RefreshStage call.schema stored log (.done ())) :
    IsClosedWrite call reply (before ++ .store call reply :: log) := by
  obtain ⟨front, last, rfl, told⟩ := stage.last_of_done enabled
  refine ⟨before ++ .store call reply :: front, last, by simp, by simp, ?_⟩
  rcases told with ⟨revisioned, found, cached, rfl, seen, later⟩ | ⟨noted, rfl⟩
  · exact .keep named revisioned seen later
  · exact .refresh named

section Stages

variable {service : Service} {caller : Option Principal} {kind id : String} {body : Json}
  {rest : Program (Except ServiceError Record)}

/-- A fetch writes nothing in the store. -/
theorem unwritten_of_fetch {aside : CacheAside} {schema : Schema}
    {work : Program (Except StoreError Record)} (stage : aside.FetchStage schema id log work) :
    ∀ exchange ∈ log, exchange.written? = none := by
  cases stage with
  | asking => exact List.forall_mem_nil _
  | hit => exact List.forall_mem_singleton.2 rfl
  | looking missed => exact unwritten_of_isCache missed.isCache
  | missing missed | replacing missed | filling missed =>
    exact List.forall_mem_append.2
      ⟨unwritten_of_isCache missed.isCache, List.forall_mem_singleton.2 rfl⟩
  | fetched missed noted =>
    exact List.forall_mem_append.2 ⟨unwritten_of_isCache missed.isCache,
      List.forall_mem_cons.2 ⟨rfl, unwritten_of_isCache noted⟩⟩

theorem unwritten_of_read (stage : service.ReadStage caller kind id log rest) :
    ∀ exchange ∈ log, exchange.written? = none := by
  cases stage with
  | refused => exact List.forall_mem_nil _
  | fetching granted named stage => exact unwritten_of_fetch stage

theorem unwritten_of_query {expression : FilterExpression}
    {rest : Program (Except ServiceError (List Record))}
    (stage : service.QueryStage caller kind expression log rest) :
    ∀ exchange ∈ log, exchange.written? = none := by
  cases stage with
  | refused | looking => exact List.forall_mem_nil _
  | failed => exact List.forall_mem_singleton.2 rfl
  | found granted filling =>
    exact List.forall_mem_cons.2 ⟨rfl, unwritten_of_isCache (CacheAside.fill_of_leads filling).1⟩

variable (enabled : service.aside.enabled = true) {outcome : Except ServiceError Delivery}
  (finished : rest.deliver .one = .done outcome) (written : call.written? reply = some record)
  (wrote : .store call reply ∈ log)

include enabled finished written wrote

theorem isClosedWrite_of_create (stage : service.CreateStage caller kind body log rest) :
    IsClosedWrite call reply log := by
  cases stage with
  | refused | storing => cases wrote
  | failed => exact absurd wrote (not_mem_of_unwritten written (List.forall_mem_singleton.2 rfl))
  | @written _ _ _ _ work granted decoded stage =>
    cases work with
    | call => cases finished
    | done =>
      cases @eq_of_written _ _ _ [] _ _ written wrote (List.forall_mem_nil _)
        (unwritten_of_isCache stage.isCache)
      exact isClosedWrite_of_refresh enabled [] rfl stage

theorem isClosedWrite_of_update (stage : service.UpdateStage caller kind id body log rest) :
    IsClosedWrite call reply log := by
  cases stage with
  | refused | looking => cases wrote
  | missing | stopped | writing =>
    exact absurd wrote (not_mem_of_unwritten written (List.forall_mem_singleton.2 rfl))
  | failed =>
    exact absurd wrote (not_mem_of_unwritten written
      (List.forall_mem_cons.2 ⟨rfl, List.forall_mem_singleton.2 rfl⟩))
  | @written _ _ _ _ _ _ work granted named stage =>
    cases work with
    | call => cases finished
    | done =>
      cases @eq_of_written _ _ _ [_] _ _ written wrote (List.forall_mem_singleton.2 rfl)
        (unwritten_of_isCache stage.isCache)
      exact isClosedWrite_of_refresh enabled [_] rfl stage

theorem isClosedWrite_of_delete (stage : service.DeleteStage caller kind id log rest) :
    IsClosedWrite call reply log := by
  -- The two looks and the first tombstone come before the record is removed.
  have silent : ∀ {schema : Schema} {found current : Record} {buried : List Exchange} {key : String},
      service.aside.Noted (.set key CacheAside.tombstoneText) buried →
      ∀ exchange ∈ Exchange.store (.findOne schema id) (.ok found) ::
        .store (.findOne schema found.id) (.ok current) :: buried, exchange.written? = none :=
    fun noted => List.forall_mem_cons.2 ⟨rfl, List.forall_mem_cons.2
      ⟨rfl, unwritten_of_isCache noted.isCache⟩⟩
  cases stage with
  | refused | looking => cases wrote
  | missing | forbidden | reloading =>
    exact absurd wrote (not_mem_of_unwritten written (List.forall_mem_singleton.2 rfl))
  | vanished | burying =>
    exact absurd wrote (not_mem_of_unwritten written
      (List.forall_mem_cons.2 ⟨rfl, List.forall_mem_singleton.2 rfl⟩))
  | removing => cases finished
  | failed granted noted =>
    cases eq_of_written written wrote (silent noted) (List.forall_mem_nil _)
    cases written
  | @removed schema found current buried _ work granted named noted burying =>
    cases work with
    | call => cases finished
    | done =>
      rcases CacheAside.leads_bury burying with ⟨-, _, impossible⟩ |
        ⟨-, ⟨disabled, -⟩ | ⟨-, reply, rfl⟩⟩
      · cases impossible
      · cases enabled.symm.trans disabled
      cases eq_of_written written wrote (silent noted) (List.forall_mem_singleton.2 rfl)
      exact ⟨.store (.findOne schema id) (.ok found) ::
        .store (.findOne schema found.id) (.ok current) ::
          (buried ++ [.store (.delete schema current.id) (.ok ())]),
        .cache (.set (Record.cacheKey schema.kind current.id) CacheAside.tombstoneText) reply,
        by simp, by simp, .bury rfl⟩

end Stages

/-- The last exchange of a task that has written a record closes the write. -/
theorem closing_of_done {service : Service} {task : Task} (stage : TaskStage service task log)
    (enabled : service.aside.enabled = true) {outcome : Except ServiceError Delivery}
    (finished : task.rest = .done outcome) (wrote : .store call reply ∈ log)
    (written : call.written? reply = some record) :
    ∃ front last, log = front ++ [last] ∧ .store call reply ∈ front ∧ Closing call reply last := by
  cases stage with
  | read stage => exact absurd wrote (not_mem_of_unwritten written (unwritten_of_read stage))
  | query stage => exact absurd wrote (not_mem_of_unwritten written (unwritten_of_query stage))
  | create stage => exact isClosedWrite_of_create enabled finished written wrote stage
  | update stage => exact isClosedWrite_of_update enabled finished written wrote stage
  | delete stage => exact isClosedWrite_of_delete enabled finished written wrote stage

end Closing

end RecordAccess
