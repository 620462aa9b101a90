import RecordAccess.Proofs.Stages.Turn

/-!
# Where cached texts come from

There are five places at which a text is written to the cache: a fetch fills a key or replaces a text
that is no record, a query fills keys, a create or an update refreshes a key, and a delete buries
one. At each of them the text is a tombstone, or that of a record which the store has delivered to
the same task, and since then the task has called only the cache (`source_of_next?`).
-/

namespace RecordAccess

open Service

/-- An exchange with the store delivers a record that is stored under an id after it: a look-up, a
query without relations, a create or an update. -/
inductive Delivers (schema : Schema) : String → Record → Exchange → Prop
  | shown {id : String} {record : Record} {exchange : Exchange}
      (shows : Shows schema id record exchange) : Delivers schema id record exchange
  | stored {record : Record} {call : StoreCall} {reply : call.Reply}
      (stored : call.stored? reply = some (schema.kind, record)) :
      Delivers schema record.id record (.store call reply)

/-- What a text is that a task writes under the key of an id: a tombstone, or the text of a record
that the store has delivered last. -/
inductive Source (schema : Schema) (id : String) : String → List Exchange → Prop
  | tombstone {log : List Exchange} : Source schema id CacheAside.tombstoneText log
  | delivered {record : Record} {exchange : Exchange} {before after : List Exchange}
      (delivers : Delivers schema id record exchange)
      (cached : ∀ later ∈ after, later.isCache = true) :
      Source schema id record.text (before ++ exchange :: after)

/-- The key and the text that a call writes in the cache, if it does. -/
def Call.cached? : Call → Option (String × String)
  | .cache (.set key text) | .cache (.setIfAbsent key text) => some (key, text)
  | _ => none

/-- What a task writes in the cache next has a source in what it has been told. -/
theorem source_of_next? {service : Service} {task : Task} {log : List Exchange} {next : Call}
    {key text : String} (stage : TaskStage service task log) (asked : task.next? = some next)
    (writes : next.cached? = some (key, text)) :
    ∃ schema id, service.Serves schema ∧ key = Record.cacheKey schema.kind id ∧
      Source schema id text log := by
  cases pending_of_next? stage asked with
  | replace served =>
    cases writes
    exact ⟨_, _, served, rfl,
      @Source.delivered _ _ _ _ [_] [] (.shown .one) (List.forall_mem_nil _)⟩
  | fill served shows cached =>
    cases writes
    exact ⟨_, _, served, rfl, .delivered (.shown shows) cached⟩
  | refresh granted stored looked =>
    cases writes
    exact ⟨_, _, ⟨_, _, granted⟩, rfl, .delivered (.stored stored) looked.isCache⟩
  | bury ask granted =>
    cases writes
    exact ⟨_, _, ⟨_, _, granted⟩, rfl, .tombstone⟩
  | _ => cases writes

end RecordAccess
