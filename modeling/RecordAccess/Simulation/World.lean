import RecordAccess.Service.Config
import RecordAccess.Service.Dispatch

/-!
# A simulated world

A store and a cache that answer the calls of a program under conditions that can be set: calls may
be slow, they may fail, and once another client may come in between. Time is virtual, in
milliseconds, and passes only where a call is waited for.

A cache call that would take longer than its limit is cut off at the limit and counts as failed.
A program with a deadline is given up when it would have to wait beyond the deadline; what it did
until then stays done. A wait that ends exactly at a limit or a deadline is in time.
-/

namespace RecordAccess

/-- How the calls of one side fare: which of them fail, by name, and how long each takes. The name
`*` stands for all of them. -/
structure Fault where
  failing : List String
  delay : Nat
deriving DecidableEq, Repr

/-- What another client does right after the next look-up of a record. -/
inductive Race where
  | delete
  | update (record : Record)
deriving DecidableEq, Repr

/-- The store and the cache, the time, and the conditions. -/
structure World where
  now : Nat
  store : Store
  cache : Option Cache
  storeFault : Fault
  cacheFault : Fault
  race : Option Race
  cacheLimit : Option Nat

/-- The name of a store call. -/
def StoreCall.name : StoreCall → String
  | findMany _ _ => "find_many"
  | findOne _ _ => "find_one"
  | create _ _ => "create"
  | update _ _ _ => "update"
  | delete _ _ => "delete"

/-- The name of a cache call. -/
def CacheCall.name : CacheCall → String
  | get _ => "get"
  | set _ _ => "set"
  | setIfAbsent _ _ => "set_if_absent"
  | delete _ => "delete"
  | contains _ => "exists"
  | close => "close"

namespace Fault

/-- Calls that take no time and do not fail. -/
def none : Fault := ⟨[], 0⟩

/-- Whether a call of some name fails. -/
def hits (fault : Fault) (name : String) : Bool :=
  fault.failing.contains "*" || fault.failing.contains name

end Fault

namespace World

/-- The ids that the generator of a simulated world makes. -/
def numberedId (n : Nat) : String :=
  "$auto" ++ toString n

/-- A world with an empty store, at time zero. -/
def initial (cache : Option Cache) (cacheLimit : Option Nat) : World :=
  ⟨0, .empty numberedId, cache, .none, .none, none, cacheLimit⟩

/-- Lets time pass. -/
def advance (world : World) (duration : Nat) : World :=
  { world with now := world.now + duration }

/-- Waits, and tells whether the wait ended by the deadline. A wait that would go on beyond the
deadline is broken off there. No wait is in time at any time. -/
def wait (world : World) (deadline : Option Nat) (duration : Nat) : Bool × World :=
  match deadline with
  | some time =>
    if duration = 0 ∨ world.now + duration ≤ time then (true, world.advance duration)
    else (false, { world with now := max world.now time })
  | none => (true, world.advance duration)

/-- Lets the other client come in, if it is waiting for this call. -/
def runRace (world : World) (call : StoreCall) : World :=
  match call, world.race with
  | .findOne schema id, some .delete =>
    { world with store := (world.store.delete schema id).2, race := none }
  | .findOne schema _, some (.update record) =>
    { world with store := (world.store.update schema record none).2, race := none }
  | _, _ => world

/-- Makes a store call; none when the deadline passes first. -/
def askStore (deadline : Option Nat) (call : StoreCall) (world : World) :
    Option call.Reply × World :=
  match world.wait deadline world.storeFault.delay with
  | (false, world) => (none, world)
  | (true, world) =>
    if world.storeFault.hits call.name then
      (some (.error (.backend (call.name ++ " failed"))), world)
    else
      let (reply, store) := world.store.answer call
      (some reply, World.runRace { world with store := store } call)

/-- The limit on the duration of a cache call. Closing has none. -/
def limitOf (world : World) (call : CacheCall) : Option Nat :=
  if call = .close then none else world.cacheLimit

/-- Makes a cache call; none when the deadline passes first. -/
def askCache (deadline : Option Nat) (call : CacheCall) (world : World) :
    Option call.Reply × World :=
  let delay := world.cacheFault.delay
  let cutOff := (world.limitOf call).filter fun limit => limit < delay
  match world.wait deadline (cutOff.getD delay) with
  | (false, world) => (none, world)
  | (true, world) =>
    if cutOff.isSome then (some (.error .timeout), world)
    else if world.cacheFault.hits call.name then
      (some (.error (.backend (call.name ++ " failed"))), world)
    else
      match world.cache with
      | some cache =>
        let (reply, cache) := cache.answer world.now call
        (some reply, { world with cache := some cache })
      | none => (some (.error .closed), world)

/-- Makes a call; none when the deadline passes first. -/
def ask (deadline : Option Nat) : (call : Call) → World → Option call.Reply × World
  | .store call => askStore deadline call
  | .cache call => askCache deadline call

/-- Runs a program under a deadline; no result means that it was given up. -/
def runUntil {α : Type} (deadline : Option Nat) : Program α → World → Option α × World
  | .done result, world => (some result, world)
  | .call next resume, world =>
    match ask deadline next world with
    | (some reply, world) => runUntil deadline (resume reply) world
    | (none, world) => (none, world)

/-- The time at which a request that comes in now has to be done: within its own limit, else
within that of the configuration. -/
def deadline? (world : World) (config : Config) (timeout : Option Nat) : Option Nat :=
  (timeout <|> config.requestLimit?).map (world.now + ·)

/-- Does the work of an operation under a deadline. -/
def work {α : Type} (world : World) (deadline : Option Nat) (work : Service.Work α) :
    Except ServiceError α × World :=
  match runUntil deadline work.run world with
  | (some outcome, world) => (outcome, world)
  | (none, world) => (.error .deadlineExceeded, world)

/-- Answers a request under a deadline. A request that is given up is answered with that. -/
def handle (world : World) (service : Service) (caller : Option Principal)
    (deadline : Option Nat) (request : Request) : Response × World :=
  match runUntil deadline (service.handle caller request) world with
  | (some response, world) => (response, world)
  | (none, world) => (.ofError .deadlineExceeded, world)

end World

end RecordAccess
