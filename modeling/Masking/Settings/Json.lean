import Masking.Settings.Basic

/-! Settings as JSON values. Any setting may be missing, and a missing one has its default. -/

namespace Masking

/-- The name of a kind of store. -/
def kindName : Store.BackendConfig.Kind → String
  | .redis => "redis"
  | .memory => "memory"

/-- The kind of store with a name. -/
def kindOfName (name : String) : Option Store.BackendConfig.Kind :=
  if name = "redis" then some .redis else if name = "memory" then some .memory else none

/-- Reads the end of an object. -/
def readObjectEnd (text : List Char) : Except Json.Fault (List Char) :=
  match Json.skipBlanks text with
  | [] => .error .truncated
  | '\x7d' :: rest => .ok rest
  | _ => .error .malformed

/-- Reads `null`. -/
def readNull (text : List Char) : Except Json.Fault (List Char) :=
  match Json.skipBlanks text with
  | 'n' :: rest => Json.scanWord ['u', 'l', 'l'] rest
  | rest => .error (Json.wrongType rest)

/-- Reads a kind of store: its name, or an object with the name as its only member and nothing in
it. -/
def readStoreKind : Json.Reader Store.BackendConfig.Kind :=
  fun depth text =>
    match Json.skipBlanks text with
    | [] => .error .truncated
    | '"' :: rest => Store.BackendConfig.readKind depth ('"' :: rest)
    | '\x7b' :: rest =>
        match depth with
        | 0 => .error .malformed
        | depth + 1 => do
            let (kind, rest) ← Store.BackendConfig.readKind depth rest
            let rest ← readNull (← Json.scanColon rest)
            .ok (kind, ← readObjectEnd rest)
    | _ => .error .malformed

namespace ServerSettings

/-- The fields of the server settings as they are read. -/
structure Draft where
  host : Option String
  port : Option Nat
  requestTimeoutSecs : Option Nat

/-- The settings whose missing fields have their defaults. -/
def ofDraft (draft : Draft) : ServerSettings where
  host := draft.host.getD standard.host
  port := draft.port.getD standard.port
  requestTimeoutSecs := draft.requestTimeoutSecs.getD standard.requestTimeoutSecs

/-- Reads the server settings. Any field may be missing. -/
def read : Json.Reader ServerSettings :=
  Json.readStructure
    [Json.field "host" Draft.host (fun draft value => { draft with host := some value })
      Json.readString,
     Json.field "port" Draft.port (fun draft value => { draft with port := some value })
      (Json.readUnsigned 65535),
     Json.field "request_timeout_secs" Draft.requestTimeoutSecs
      (fun draft value => { draft with requestTimeoutSecs := some value })
      (Json.readUnsigned Json.maxUnsigned)]
    ⟨none, none, none⟩
    fun draft => some (ofDraft draft)

/-- The JSON value of the server settings. -/
def toJson (settings : ServerSettings) : Json :=
  .obj [("host", .str settings.host), ("port", .nat settings.port),
    ("request_timeout_secs", .nat settings.requestTimeoutSecs)]

end ServerSettings

namespace Settings

/-- The fields of the settings as they are read. -/
structure Draft where
  storeBackend : Option Store.BackendConfig.Kind
  redisAddr : Option String
  redisPassword : Option String
  redisDb : Option Int
  tokenTtl : Option Int
  memoryCapacity : Option Nat
  fieldsToMask : Option (List String)
  patterns : Option (List PatternConfig)
  server : Option ServerSettings

namespace Draft

/-- Nothing has been read. -/
def empty : Draft := ⟨none, none, none, none, none, none, none, none, none⟩

/-- The settings whose missing fields have their defaults. -/
def finish (draft : Draft) : Settings where
  storeBackend := draft.storeBackend.getD standard.storeBackend
  redisAddr := draft.redisAddr.getD standard.redisAddr
  redisPassword := draft.redisPassword.getD standard.redisPassword
  redisDb := draft.redisDb.getD standard.redisDb
  tokenTtl := draft.tokenTtl.getD standard.tokenTtl
  memoryCapacity := draft.memoryCapacity.getD standard.memoryCapacity
  fieldsToMask := draft.fieldsToMask.getD standard.fieldsToMask
  patterns := draft.patterns.getD standard.patterns
  server := draft.server.getD standard.server

end Draft

/-- Reads the settings. Any field may be missing. -/
def read : Json.Reader Settings :=
  Json.readStructure
    [Json.field "store_backend" Draft.storeBackend
      (fun draft value => { draft with storeBackend := some value }) readStoreKind,
     Json.field "redis_addr" Draft.redisAddr
      (fun draft value => { draft with redisAddr := some value }) Json.readString,
     Json.field "redis_password" Draft.redisPassword
      (fun draft value => { draft with redisPassword := some value }) Json.readString,
     Json.field "redis_db" Draft.redisDb
      (fun draft value => { draft with redisDb := some value }) Json.readSigned,
     Json.field "token_ttl" Draft.tokenTtl
      (fun draft value => { draft with tokenTtl := some value }) Json.readSigned,
     Json.field "memory_capacity" Draft.memoryCapacity
      (fun draft value => { draft with memoryCapacity := some value })
      (Json.readUnsigned Json.maxUnsigned),
     Json.field "fields_to_mask" Draft.fieldsToMask
      (fun draft value => { draft with fieldsToMask := some value })
      (Json.readList Json.readString),
     Json.field "patterns" Draft.patterns
      (fun draft value => { draft with patterns := some value })
      (Json.readList PatternConfig.read),
     Json.field "server" Draft.server
      (fun draft value => { draft with server := some value }) ServerSettings.read]
    .empty
    fun draft => some draft.finish

/-- The JSON value of the settings. -/
def toJson (settings : Settings) : Json :=
  .obj [("store_backend", .str (kindName settings.storeBackend)),
    ("redis_addr", .str settings.redisAddr), ("redis_password", .str settings.redisPassword),
    ("redis_db", .int settings.redisDb), ("token_ttl", .int settings.tokenTtl),
    ("memory_capacity", .nat settings.memoryCapacity),
    ("fields_to_mask", .arr (settings.fieldsToMask.map Json.str)),
    ("patterns", .arr (settings.patterns.map PatternConfig.toJson)),
    ("server", settings.server.toJson)]

end Settings

end Masking
