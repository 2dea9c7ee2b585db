import Masking.Json.Reader

/-! The configuration of the token store: how it is read, how it is written, and how it is put
together from single settings. -/

namespace Masking.Store

/-- The address of the Redis server when none is given. -/
def defaultRedisAddress : String := "localhost:6379"

/-- The capacity of the in-process store when none is given. -/
def defaultMemoryCapacity : Nat := 100000

/-- Which backend holds the entries. -/
inductive BackendConfig where
  /-- A Redis server, with a password if it wants one, and the index of a database. -/
  | redis (address : String) (password : Option String) (database : Int)
  /-- A cache in the process, with the greatest number of entries. -/
  | memory (capacity : Nat)
deriving DecidableEq

namespace BackendConfig

/-- The backend that is used when none is chosen. -/
def standard : BackendConfig := .redis defaultRedisAddress none 0

instance : Inhabited BackendConfig := ⟨standard⟩

/-- The address shown in logs and errors. It never has the password in it. -/
def address : BackendConfig → String
  | .redis address _ _ => address
  | .memory _ => "in-process"

/-- The JSON value of a backend, whose kind is a member of its own. An absent password has no
member. -/
def toJson : BackendConfig → Json
  | .redis address password database =>
      let secret :=
        match password with
        | some password => [("password", .str password)]
        | none => []
      .obj ([("kind", .str "redis"), ("addr", .str address)] ++ secret ++ [("db", .int database)])
  | .memory capacity => .obj [("kind", .str "memory"), ("max_capacity", .nat capacity)]

/-- The kind of a backend, without its settings. -/
inductive Kind where
  | redis
  | memory
deriving DecidableEq

/-- Reads the kind of a backend. -/
def readKind : Json.Reader Kind :=
  fun depth text => do
    let (name, rest) ← Json.readString depth text
    if name = "redis" then .ok (.redis, rest)
    else if name = "memory" then .ok (.memory, rest)
    else .error .mismatch

/-- The only value of a name among members; a name that comes twice is refused. -/
def single (name : String) (members : List (String × Json)) : Except Json.Fault (Option Json) :=
  match members.filter fun member => member.1 = name with
  | [] => .ok none
  | [(_, value)] => .ok (some value)
  | _ => .error .mismatch

/-- The text of a value that has to be there. -/
def wantText : Option Json → Except Json.Fault String
  | some (.str value) => .ok value
  | _ => .error .mismatch

/-- The text of a value that may be missing or `null`. -/
def wantOptionalText : Option Json → Except Json.Fault (Option String)
  | none => .ok none
  | some .null => .ok none
  | some (.str value) => .ok (some value)
  | some _ => .error .mismatch

/-- An integer of 64 signed bits, zero when it is missing. -/
def wantSigned : Option Json → Except Json.Fault Int
  | none => .ok 0
  | some (.int value) => if (Json.maxSigned : Int) < value then .error .mismatch else .ok value
  | some _ => .error .mismatch

/-- An integer of 64 unsigned bits that has to be there. -/
def wantUnsigned : Option Json → Except Json.Fault Nat
  | some (.int value) => if value < 0 then .error .mismatch else .ok value.natAbs
  | _ => .error .mismatch

/-- The backend of a kind with settings given by name. Other names are ignored. -/
def ofMembers (kind : Kind) (members : List (String × Json)) : Except Json.Fault BackendConfig :=
  match kind with
  | .redis => do
      let address ← single "addr" members
      let password ← single "password" members
      let database ← single "db" members
      .ok (.redis (← wantText address) (← wantOptionalText password) (← wantSigned database))
  | .memory => do
      .ok (.memory (← wantUnsigned (← single "max_capacity" members)))

/-- The backend of a kind with settings given in order. There may not be more values than
settings. -/
def ofItems (kind : Kind) (items : List Json) : Except Json.Fault BackendConfig :=
  match kind with
  | .redis =>
      if 3 < items.length then .error .mismatch
      else do
        .ok (.redis (← wantText items[0]?) (← wantOptionalText items[1]?) (← wantSigned items[2]?))
  | .memory =>
      if 1 < items.length then .error .mismatch
      else do .ok (.memory (← wantUnsigned items[0]?))

/-- The members of a backend written as an object that is not empty: its kind if it was found, and
everything else as it is written. -/
def readTagged (depth : Nat) :
    Nat → Option Kind → List Char →
      Except Json.Fault ((Option Kind × List (String × Json)) × List Char)
  | 0, _, _ => .error .truncated
  | fuel + 1, kind, text => do
      let (name, rest) ← Json.scanName text
      if name = "kind" then
        if kind.isSome then .error .mismatch
        else
          let (kind, rest) ← readKind depth (← Json.scanColon rest)
          match ← Json.scanSeparator '\x7d' rest with
          | (true, rest) => .ok ((some kind, []), rest)
          | (false, rest) => readTagged depth fuel (some kind) rest
      else
        let (value, rest) ← Json.readValue depth (← Json.scanColon rest)
        match ← Json.scanSeparator '\x7d' rest with
        | (true, rest) => .ok ((kind, [(name, value)]), rest)
        | (false, rest) =>
            let ((kind, members), rest) ← readTagged depth fuel kind rest
            .ok ((kind, (name, value) :: members), rest)

/-- Reads a backend: an object with a member for its kind, or an array that begins with it. The
settings are looked at only after the whole object or array has been read. -/
def read : Json.Reader BackendConfig :=
  fun depth text =>
    match Json.skipBlanks text with
    | '\x7b' :: rest =>
        match depth with
        | 0 => .error .malformed
        | depth + 1 =>
            match Json.skipBlanks rest with
            | [] => .error .truncated
            | '\x7d' :: _ => .error .mismatch
            | rest => do
                let ((kind, members), rest) ← readTagged depth (Json.fuelFor rest) none rest
                match kind with
                | none => .error .mismatch
                | some kind => .ok (← ofMembers kind members, rest)
    | '[' :: rest =>
        match depth with
        | 0 => .error .malformed
        | depth + 1 =>
            match Json.skipBlanks rest with
            | [] => .error .truncated
            | ']' :: _ => .error .mismatch
            | rest => do
                let (kind, rest) ← readKind depth rest
                match ← Json.scanSeparator ']' rest with
                | (true, rest) => .ok (← ofItems kind [], rest)
                | (false, rest) =>
                    let (items, rest) ← Json.readItems Json.readValue depth (Json.fuelFor rest) rest
                    .ok (← ofItems kind items, rest)
    | rest => .error (Json.wrongType rest)

end BackendConfig

/-- The configuration of the token store: its backend, and the lifetime of entries in seconds, zero
for entries that never expire. -/
structure Config where
  backend : BackendConfig
  tokenTtl : Nat
deriving DecidableEq, Inhabited

namespace Config

/-- The configuration that is used when nothing is chosen. -/
def standard : Config := ⟨.standard, 0⟩

/-- The lifetime of entries in milliseconds; `none` when they never expire. -/
def expiry (config : Config) : Option Nat :=
  if config.tokenTtl = 0 then none else some (config.tokenTtl * 1000)

/-- The JSON value of a configuration. -/
def toJson (config : Config) : Json :=
  .obj [("backend", config.backend.toJson), ("token_ttl", .nat config.tokenTtl)]

/-- The fields of a configuration as it is read. -/
structure Draft where
  backend : Option BackendConfig
  tokenTtl : Option Nat

/-- Reads a configuration. Both fields may be missing. -/
def read : Json.Reader Config :=
  Json.readStructure
    [Json.field "backend" Draft.backend (fun draft value => { draft with backend := some value })
      BackendConfig.read,
     Json.field "token_ttl" Draft.tokenTtl (fun draft value => { draft with tokenTtl := some value })
      (Json.readUnsigned Json.maxUnsigned)]
    ⟨none, none⟩
    fun draft => some ⟨draft.backend.getD .standard, draft.tokenTtl.getD 0⟩

end Config

/-- A configuration being put together. -/
structure Builder where
  backend : Option BackendConfig
  tokenTtl : Nat
deriving DecidableEq, Inhabited

/-- One setting made on a builder. -/
inductive Setting where
  | redis (address : String)
  | password (password : String)
  | database (index : Int)
  | memory (capacity : Nat)
  | tokenTtl (seconds : Nat)
deriving DecidableEq, Inhabited

namespace Builder

/-- The builder on which nothing has been set. -/
def empty : Builder := ⟨none, 0⟩

/-- The builder after one more setting. A password or a database index changes a Redis backend
that has been chosen, and nothing else. -/
def set (builder : Builder) : Setting → Builder
  | .redis address => { builder with backend := some (.redis address none 0) }
  | .password password =>
      match builder.backend with
      | some (.redis address _ database) =>
          { builder with backend := some (.redis address (some password) database) }
      | _ => builder
  | .database index =>
      match builder.backend with
      | some (.redis address password _) =>
          { builder with backend := some (.redis address password index) }
      | _ => builder
  | .memory capacity => { builder with backend := some (.memory capacity) }
  | .tokenTtl seconds => { builder with tokenTtl := seconds }

/-- The configuration as it has been set. -/
def build (builder : Builder) : Config :=
  ⟨builder.backend.getD .standard, builder.tokenTtl⟩

/-- The configuration after a sequence of settings. -/
def ofSettings (settings : List Setting) : Config :=
  (settings.foldl set empty).build

end Builder

end Masking.Store
