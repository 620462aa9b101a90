import RecordAccess.Json.Decode
import RecordAccess.Text.Blank

/-!
# Configuration

How long a request and a single cache call may take, in milliseconds, and where a shared cache is.
A time of zero sets no limit. A setting of the environment that does not parse counts as not set.
-/

namespace RecordAccess

/-- The configuration of the service. -/
structure Config where
  requestTimeout : Nat
  cacheTimeout : Nat
  cacheUrl : Option String
deriving DecidableEq, Repr

/-- A setting that cannot be. -/
inductive ConfigError where
  /-- The location of the cache names no scheme. -/
  | missingScheme (url : String)
deriving DecidableEq, Repr

/-- The wording of a configuration error. -/
def ConfigError.message : ConfigError → String
  | missingScheme url =>
    "Invalid configuration value for RESOURCE_CACHE_URL: missing scheme in " ++ url

namespace Config

/-- Thirty seconds for a request, a quarter of a second for a cache call, and no shared cache. -/
def default : Config := ⟨30000, 250, none⟩

/-- A limit in milliseconds; zero is none. -/
def limit? (milliseconds : Nat) : Option Nat :=
  if milliseconds = 0 then none else some milliseconds

/-- How long a request may take. -/
def requestLimit? (config : Config) : Option Nat := limit? config.requestTimeout

/-- How long a cache call may take. -/
def cacheLimit? (config : Config) : Option Nat := limit? config.cacheTimeout

/-- A number of 64 bits in decimal digits, with an optional plus sign. -/
def natural? (text : String) : Option Nat :=
  let digits :=
    match text.toList with
    | '+' :: rest => rest
    | cs => cs
  if digits.isEmpty || !digits.all Char.isDigit then none
  else
    let value := digits.foldl (fun value c => value * 10 + (c.toNat - '0'.toNat)) 0
    if value < Nat.pow 2 64 then some value else none

/-- The configuration that the settings of an environment give. -/
def ofEnvironment (setting? : String → Option String) : Config where
  requestTimeout :=
    ((setting? "RESOURCE_REQUEST_TIMEOUT_MS").bind natural?).getD default.requestTimeout
  cacheTimeout :=
    ((setting? "RESOURCE_CACHE_TIMEOUT_MS").bind natural?).getD default.cacheTimeout
  cacheUrl := (setting? "RESOURCE_CACHE_URL").filter fun url => !Text.isAllBlank url

/-- Whether a text has a part that looks like the end of a scheme. -/
def hasScheme : List Char → Bool
  | ':' :: '/' :: '/' :: _ => true
  | _ :: rest => hasScheme rest
  | [] => false

/-- Checks a configuration: the location of the cache must name a scheme. -/
def validate (config : Config) : Except ConfigError Unit :=
  match config.cacheUrl with
  | some url => if hasScheme url.toList then .ok () else .error (.missingScheme url)
  | none => .ok ()

/-- The written form. -/
def toJson (config : Config) : Json :=
  .object [("request_timeout_ms", .integer config.requestTimeout),
    ("cache_timeout_ms", .integer config.cacheTimeout),
    ("cache_url", (config.cacheUrl.map Json.string).getD .null)]

/-- Decodes a configuration. -/
def decode : Decoder Config :=
  Decoder.struct "LayerConfig"
    [.required "request_timeout_ms" Decoder.natural fun config n =>
        { config with requestTimeout := n },
      .required "cache_timeout_ms" Decoder.natural fun config n =>
        { config with cacheTimeout := n },
      .optional "cache_url" Decoder.text fun config url => { config with cacheUrl := url }]
    default

end Config

end RecordAccess
