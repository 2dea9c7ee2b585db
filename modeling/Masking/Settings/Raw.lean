import Masking.Number.Reading
import Masking.Number.Shortest
import Masking.Settings.Json

/-! Settings gathered from several sources. Sources know less about types than the settings do, so
values are converted with good will once all sources have been laid over each other. -/

namespace Masking

/-- A value that has not been given its final type. -/
inductive Raw where
  | nothing
  | bool (value : Bool)
  | int (value : Int)
  | float (value : Binary64)
  | text (value : String)
  | list (items : List Raw)
  | table (members : List (String × Raw))
deriving Inhabited

namespace Raw

/-- A table with the value of a key changed; a new key has nothing before. -/
def update (key : String) (change : Raw → Raw) : List (String × Raw) → List (String × Raw)
  | [] => [(key, change .nothing)]
  | (other, value) :: rest =>
      if other = key then (other, change value) :: rest
      else (other, value) :: update key change rest

/-- The members of a table; any other value has none. -/
def members : Raw → List (String × Raw)
  | .table members => members
  | _ => []

/-- The items of a list; any other value has none. -/
def items : Raw → List Raw
  | .list items => items
  | _ => []

mutual

/-- A value laid over another one. Tables are joined key by key, and any other value takes the place
of what was there. -/
def cover : (upper lower : Raw) → Raw
  | .table members, lower => .table (coverAll members lower.members)
  | upper, _ => upper

/-- Members laid over those of a table. -/
def coverAll : (upper lower : List (String × Raw)) → List (String × Raw)
  | [], lower => lower
  | (key, value) :: rest, lower => coverAll rest (update key (cover value) lower)

end

/-- A step into a value. -/
inductive Step where
  /-- To the value of a key. -/
  | name (key : String)
  /-- To an item of a list; a negative number counts from its end. -/
  | item (place : Int)
deriving DecidableEq, Inhabited

/-- A list with one of its items changed. It grows as far as that is needed, at the end for a place
that lies after it and at the front for one that lies before it. -/
def updateItem (place : Int) (change : Raw → Raw) (items : List Raw) : List Raw :=
  let wanted := if place < 0 then (items.length : Int) + place else place
  if wanted < 0 then
    change .nothing :: (List.replicate (wanted.natAbs - 1) .nothing ++ items)
  else
    let grown := items ++ List.replicate (wanted.natAbs + 1 - items.length) .nothing
    grown.modify wanted.natAbs change

/-- A value with something changed that is some steps inside it. What is in the way makes room. -/
def change (steps : List Step) (f : Raw → Raw) (value : Raw) : Raw :=
  match steps with
  | [] => f value
  | .name key :: rest => .table (update key (change rest f) value.members)
  | .item place :: rest => .list (updateItem place (change rest f) value.items)

/-- Whether a character may stand in a key within a path. -/
def isKeyChar (c : Char) : Bool :=
  c.isAlphanum || c = '_' || c = '-'

/-- The key at the front of a text. -/
def takeKey (text : List Char) : Option (String × List Char) :=
  let key := text.takeWhile isKeyChar
  if key.isEmpty then none else some (String.ofList key, text.drop key.length)

/-- The number of an item, after its opening bracket. -/
def takeItem (text : List Char) : Option (Int × List Char) := do
  let (inside, after) := Text.cutAt ']' text
  let trimmed := ((inside.dropWhile fun c => c = ' ').reverse.dropWhile fun c => c = ' ').reverse
  if trimmed.head? = some '+' then none
  else some (← Text.readSigned64 10 trimmed, ← after)

/-- The steps that follow the first one of a path. The fuel is spent one for each step. -/
def readSteps : Nat → List Char → Option (List Step)
  | 0, _ => none
  | _ + 1, [] => some []
  | fuel + 1, '.' :: rest => do
      let (key, rest) ← takeKey rest
      some (.name key :: (← readSteps fuel rest))
  | fuel + 1, '[' :: rest => do
      let (place, rest) ← takeItem rest
      some (.item place :: (← readSteps fuel rest))
  | _, _ => none

/-- The path that a key stands for: keys with points between them and items in brackets. What is no
path is a key as it stands. -/
def readPath (key : String) : List Step :=
  let path : Option (List Step) := do
    let (first, rest) ← takeKey key.toList
    some (.name first :: (← readSteps (rest.length + 1) rest))
  path.getD [.name key]

/-- The members of a source laid over a table. Their keys are paths. -/
def layer (lower : Raw) (source : List (String × Raw)) : Raw :=
  source.foldl (fun lower (key, value) => change (readPath key) (cover value) lower) lower

/-- A value as a text. -/
def toText : Raw → Option String
  | .text value => some value
  | .bool value => some (if value then "true" else "false")
  | .int value => some (String.ofList (Text.signedDecimal value))
  | .float value => some (String.ofList value.plainText)
  | _ => none

/-- A truth value that a word stands for. -/
def wordValue (text : String) : Option Bool :=
  let word := String.ofList (text.toList.map Text.lowerAscii)
  if ["true", "on", "yes"].contains word then some true
  else if ["false", "off", "no"].contains word then some false
  else none

/-- A truth value as a number. -/
def bit (value : Bool) : Nat := if value then 1 else 0

/-- A value as an integer of 64 signed bits. Numbers are rounded and kept within bounds. -/
def toSigned : Raw → Option Int
  | .int value => some value
  | .bool value => some (bit value)
  | .float value => some (value.clamp (-(Text.maxSigned64 : Int) - 1) Text.maxSigned64)
  | .text value =>
      match wordValue value with
      | some word => some (bit word)
      | none => Text.readSigned64 10 value.toList
  | _ => none

/-- A value as an integer of 64 unsigned bits. Numbers with a fraction are rounded and kept within
bounds. -/
def toUnsigned : Raw → Option Nat
  | .int value => if value < 0 then none else some value.toNat
  | .bool value => some (bit value)
  | .float value => some (value.clamp 0 Text.maxUnsigned64).toNat
  | .text value =>
      match wordValue value with
      | some word => some (bit word)
      | none => Text.readUnsigned64 10 value.toList
  | _ => none

/-- A value as an integer up to a bound. -/
def toBounded (bound : Nat) (value : Raw) : Option Nat :=
  value.toUnsigned.bind fun n => if n ≤ bound then some n else none

/-- A value as a kind of store: its name, or a table with the name as its only key. -/
def toStoreKind : Raw → Option Store.BackendConfig.Kind
  | .text name => kindOfName name
  | .table [(name, _)] => kindOfName name
  | _ => none

/-- A value as a list. -/
def toList {α : Type} (decode : Raw → Option α) : Raw → Option (List α)
  | .list items => items.mapM decode
  | _ => none

/-- The fields of a structure by their names: a table, or a list of them in order. -/
def toFields (names : List String) : Raw → Option (String → Option Raw)
  | .table members => some fun name => members.lookup name
  | .list items => some fun name => (names.idxOf? name).bind fun place => items[place]?
  | _ => none

/-- A field that may be missing. -/
def optional {α : Type} (decode : Raw → Option α) (value : Option Raw) : Option (Option α) :=
  match value with
  | none => some none
  | some value => (decode value).map some

/-- A value as a pattern. -/
def toPatternConfig (value : Raw) : Option PatternConfig := do
  let fields ← value.toFields ["name", "regex", "masked_prefix"]
  let lead ← optional toText (fields "masked_prefix")
  some ⟨← (← fields "name").toText, ← (← fields "regex").toText, lead.getD ""⟩

/-- A value as server settings. -/
def toServerSettings (value : Raw) : Option ServerSettings := do
  let fields ← value.toFields ["host", "port", "request_timeout_secs"]
  some (.ofDraft
    { host := ← optional toText (fields "host")
      port := ← optional (toBounded 65535) (fields "port")
      requestTimeoutSecs := ← optional toUnsigned (fields "request_timeout_secs") })

/-- A table as settings. -/
def toSettings (value : Raw) : Option Settings := do
  let field (name : String) : Option Raw := value.members.lookup name
  let draft : Settings.Draft :=
    { storeBackend := ← optional toStoreKind (field "store_backend")
      redisAddr := ← optional toText (field "redis_addr")
      redisPassword := ← optional toText (field "redis_password")
      redisDb := ← optional toSigned (field "redis_db")
      tokenTtl := ← optional toSigned (field "token_ttl")
      memoryCapacity := ← optional toUnsigned (field "memory_capacity")
      fieldsToMask := ← optional (toList toText) (field "fields_to_mask")
      patterns := ← optional (toList toPatternConfig) (field "patterns")
      server := ← optional toServerSettings (field "server") }
  some draft.finish

end Raw

end Masking
