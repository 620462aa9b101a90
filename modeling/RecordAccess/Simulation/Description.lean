import RecordAccess.Simulation.World

/-!
# Descriptions

How the parts of a running service describe themselves: the type, and the fields that matter, by
name. A duration is given in seconds, or below one second in milliseconds.
-/

namespace RecordAccess.Description

/-- A described structure: its type and its fields. -/
def structText (name : String) (fields : List (String × String)) : String :=
  name ++ " \x7b " ++ ", ".intercalate (fields.map fun field => field.1 ++ ": " ++ field.2) ++
    " \x7d"

/-- A value that may be missing. -/
def optionText (value : Option String) : String :=
  match value with
  | some text => "Some(" ++ text ++ ")"
  | none => "None"

/-- The digits of a fraction without the zeros at its end. -/
def fractionDigits (thousandths : Nat) : List Char :=
  let digits := Nat.toDigits 10 thousandths
  let padded := List.replicate (3 - digits.length) '0' ++ digits
  (padded.reverse.dropWhile (· == '0')).reverse

/-- A duration in milliseconds. -/
def durationText (milliseconds : Nat) : String :=
  if milliseconds = 0 then "0ns"
  else if milliseconds < 1000 then toString milliseconds ++ "ms"
  else
    let whole := toString (milliseconds / 1000)
    if milliseconds % 1000 = 0 then whole ++ "s"
    else whole ++ "." ++ String.ofList (fractionDigits (milliseconds % 1000)) ++ "s"

/-- A duration that may be unlimited. -/
def limitText (limit : Option Nat) : String :=
  optionText (limit.map durationText)

/-- The description of a store: how often it was asked. -/
def ofStore (store : Store) : String :=
  structText "MemoryStore" [("stats", structText "StoreStats"
    [("find_one_calls", toString store.stats.findOneCalls),
      ("find_many_calls", toString store.stats.findManyCalls),
      ("writes", toString store.stats.writes)])]

/-- The description of a cache: how long entries live, and whether it is closed. -/
def ofCache (cache : Cache) : String :=
  structText "MemoryCache" [("ttl", limitText cache.lifetime), ("closed", toString cache.closed)]

/-- The description of the coordination of cache and store. -/
def ofAside (aside : CacheAside) (config : Config) : String :=
  structText "CacheAside" [("enabled", toString aside.enabled),
    ("timeout", limitText config.cacheLimit?)]

/-- The description of a configuration. -/
def ofConfig (config : Config) : String :=
  structText "LayerConfig" [("request_timeout_ms", toString config.requestTimeout),
    ("cache_timeout_ms", toString config.cacheTimeout),
    ("cache_url", optionText (config.cacheUrl.map Text.quoted))]

/-- The description of a service. -/
def ofService (service : Service) (config : Config) : String :=
  structText "LayerContext" [("cache", ofAside service.aside config),
    ("kinds", "[" ++ ", ".intercalate (service.registry.kinds.map Text.quoted) ++ "]"),
    ("config", ofConfig config)]

/-- The description of who asks, without a deadline. -/
def ofCaller (caller : Option Principal) : String :=
  structText "RequestContext" [("authenticated", toString caller.isSome), ("deadline", "None")]

end RecordAccess.Description
