import Masking.Startup
import Masking.Text.Address
import Masking.Unicode.Classes

/-! Settings of the service, the rules they have to keep, and what the store, the engine and the
server make of them. -/

namespace Masking

/-- How the service is reached over HTTP. -/
structure ServerSettings where
  host : String
  port : Nat
  /-- The seconds that the store calls of one request may take. -/
  requestTimeoutSecs : Nat
deriving DecidableEq, Inhabited

/-- Everything that can be set on the service. -/
structure Settings where
  storeBackend : Store.BackendConfig.Kind
  redisAddr : String
  redisPassword : String
  redisDb : Int
  /-- The lifetime of entries in seconds; zero keeps them for ever. -/
  tokenTtl : Int
  /-- The greatest number of entries of a store in the process. -/
  memoryCapacity : Nat
  fieldsToMask : List String
  patterns : List PatternConfig
  server : ServerSettings
deriving DecidableEq

/-- The server settings when nothing is set. -/
def ServerSettings.standard : ServerSettings := ⟨"0.0.0.0", 8890, 5⟩

namespace Settings

/-- The settings when nothing is set. -/
def standard : Settings where
  storeBackend := .redis
  redisAddr := Store.defaultRedisAddress
  redisPassword := ""
  redisDb := 0
  tokenTtl := 0
  memoryCapacity := Store.defaultMemoryCapacity
  fieldsToMask := []
  patterns := defaultPatterns
  server := .standard

instance : Inhabited Settings := ⟨standard⟩

/-- The settings with the default in place of a blank address. -/
def fill (settings : Settings) : Settings :=
  if Unicode.isBlank settings.redisAddr then
    { settings with redisAddr := Store.defaultRedisAddress }
  else settings

/-- The first thing wrong with the names of patterns: none may be blank, or be used before. -/
def checkNames (seen : List String) : List PatternConfig → Except SetupError Unit
  | [] => .ok ()
  | pattern :: rest =>
      if Unicode.isBlank pattern.name then
        .error (.invalidConfig "patterns" "pattern name must not be empty")
      else if seen.contains pattern.name then
        .error (.invalidConfig "patterns"
          ("duplicate pattern name '" ++ pattern.name ++ "'"))
      else checkNames (pattern.name :: seen) rest

/-- The first rule that the settings break. -/
def check (settings : Settings) : Except SetupError Unit :=
  if settings.tokenTtl < 0 then .error (.invalidConfig "token_ttl" "must be non-negative")
  else if settings.redisDb < 0 then .error (.invalidConfig "redis_db" "must be non-negative")
  else checkNames [] settings.patterns

/-- The settings after validation, and what it found. A blank address is replaced even when a rule
is broken. -/
def validate (settings : Settings) : Settings × Except SetupError Unit :=
  (settings.fill, settings.check)

/-- The settings after validation, if no rule is broken. -/
def validated (settings : Settings) : Except SetupError Settings :=
  match settings.validate with
  | (settings, .ok ()) => .ok settings
  | (_, .error error) => .error error

/-- What is set on a store configuration. An empty password is no password. -/
def storeSettings (settings : Settings) : List Store.Setting :=
  let ttl := Store.Setting.tokenTtl settings.tokenTtl.toNat
  match settings.storeBackend with
  | .memory => [.memory settings.memoryCapacity, ttl]
  | .redis =>
      let password :=
        if settings.redisPassword = "" then []
        else [Store.Setting.password settings.redisPassword]
      [.redis settings.redisAddr, .database settings.redisDb] ++ password ++ [ttl]

/-- The store configuration. -/
def storeConfig (settings : Settings) : Store.Config :=
  Store.Builder.ofSettings settings.storeSettings

/-- The configuration of the engine. -/
def engineConfig (settings : Settings) : EngineConfig :=
  ⟨settings.fieldsToMask, settings.patterns, settings.storeConfig⟩

/-- The address on which the service listens. -/
def listenAddress (settings : Settings) : Except SetupError String :=
  let written := settings.server.host.toList ++ ':' :: Text.decimal settings.server.port
  match Text.normalizeSocketAddress written with
  | some address => .ok (String.ofList address)
  | none => .error (.invalidConfig "server" "invalid address: invalid socket address syntax")

/-- The time that the store calls of one request may take. -/
def requestTimeout (settings : Settings) : Store.Duration :=
  settings.server.requestTimeoutSecs * 1000

end Settings

/-- Why there are no settings. -/
inductive SettingsError where
  /-- A source cannot be read, or does not fit together. -/
  | load
  /-- A text is not YAML, or has another shape. -/
  | yaml
  /-- A rule is broken. -/
  | invalid (error : SetupError)
deriving DecidableEq, Inhabited

/-- The settings after validation, if they could be read. -/
def Settings.finish (error : SettingsError) (settings : Option Settings) :
    Except SettingsError Settings :=
  match settings with
  | none => .error error
  | some settings =>
      match settings.validated with
      | .ok settings => .ok settings
      | .error error => .error (.invalid error)

end Masking
