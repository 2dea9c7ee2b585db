import Masking.Number.Reading
import Masking.Settings.Json
import Masking.Yaml.Parse

/-! Settings from the text of a YAML document. Nothing is converted here: a number has to be written
as a number, and only texts may be written in any way. -/

namespace Masking.Yaml

/-- Whether a scalar may stand for a value of a core type: it is plain, or a block that says so. -/
def mayBe (type : String) (tag : Option String) (style : Style) : Bool :=
  style = .plain || (style = .literal && tag = some (coreTag ++ type))

/-- Whether digits begin with a zero that does not count. -/
def hasIdleZero (text : List Char) : Bool :=
  let digits :=
    match text with
    | '+' :: rest => rest
    | '-' :: rest => rest
    | rest => rest
  match digits with
  | '0' :: c :: rest => (c :: rest).all Text.isDigit
  | _ => false

/-- The base that the first two characters of a number name. -/
def baseOf : List Char → Option (Nat × List Char)
  | '0' :: 'x' :: digits => some (16, digits)
  | '0' :: 'o' :: digits => some (8, digits)
  | '0' :: 'b' :: digits => some (2, digits)
  | _ => none

/-- An integer without sign: digits, or digits in a base that is named. -/
def readMagnitude (text : List Char) : Option Nat :=
  match baseOf text with
  | some (base, digits) => Text.readInBase base digits
  | none => if hasIdleZero text then none else Text.readInBase 10 text

/-- An integer of 64 signed bits. -/
def readSigned (text : List Char) : Option Int :=
  let number :=
    match text with
    | '-' :: rest => (readMagnitude rest).map fun n => -(n : Int)
    | '+' :: rest => (readMagnitude rest).map fun n => (n : Int)
    | rest => (readMagnitude rest).map fun n => (n : Int)
  number.bind fun n => if Text.isSigned64 n then some n else none

/-- An integer up to a bound, without sign or with a plus sign. -/
def readUnsigned (bound : Nat) (text : List Char) : Option Nat :=
  let number :=
    match text with
    | '+' :: rest => readMagnitude rest
    | rest => readMagnitude rest
  number.bind fun n => if n ≤ bound then some n else none

/-- The integer of 64 signed bits that a node stands for. -/
def signed : Node → Option Int
  | .scalar tag style text => if mayBe "int" tag style then readSigned text.toList else none
  | _ => none

/-- The integer up to a bound that a node stands for. -/
def unsigned (bound : Nat) : Node → Option Nat
  | .scalar tag style text =>
      if mayBe "int" tag style then readUnsigned bound text.toList else none
  | _ => none

/-- Whether a node stands for nothing. -/
def isNothing : Node → Bool
  | .scalar tag style text =>
      mayBe "null" tag style && ["", "~", "null", "Null", "NULL"].contains text
  | _ => false

/-- The kind of store that a node names: by its text, or by its tag with nothing after it. -/
def storeKind (node : Node) : Option Store.BackendConfig.Kind :=
  match node with
  | .scalar (some tag) _ text =>
      match tag.toList with
      | '!' :: name => if isNothing node then kindOfName (String.ofList name) else none
      | _ => kindOfName text
  | .scalar none _ text => kindOfName text
  | _ => none

/-- Whether nothing is written where a collection is wanted. -/
def isMissing : Node → Bool
  | .scalar _ .plain "" => true
  | _ => false

/-- The items of a sequence. -/
def list {α : Type} (decode : Node → Option α) (node : Node) : Option (List α) :=
  match node with
  | .sequence _ items => items.mapM decode
  | other => if isMissing other then some [] else none

/-- The members of a mapping whose keys are texts. -/
def members (node : Node) : Option (List (String × Node)) :=
  match node with
  | .mapping _ members => members.mapM fun (key, value) => do some (← key.text?, value)
  | other => if isMissing other then some [] else none

/-- The value of a key, decoded; a key that comes twice is refused. -/
def optional {α : Type} (decode : Node → Option α) (name : String)
    (members : List (String × Node)) : Option (Option α) :=
  match members.filter fun member => member.1 = name with
  | [] => some none
  | [(_, value)] => (decode value).map some
  | _ => none

/-- The value of a key that has to be there. -/
def required {α : Type} (decode : Node → Option α) (name : String)
    (members : List (String × Node)) : Option α := do
  (← optional decode name members)

/-- A pattern. -/
def patternConfig (node : Node) : Option PatternConfig := do
  let members ← members node
  let lead ← optional Node.text? "masked_prefix" members
  some ⟨← required Node.text? "name" members, ← required Node.text? "regex" members, lead.getD ""⟩

/-- The server settings. -/
def serverSettings (node : Node) : Option ServerSettings := do
  let members ← members node
  some (.ofDraft
    { host := ← optional Node.text? "host" members
      port := ← optional (unsigned 65535) "port" members
      requestTimeoutSecs :=
        ← optional (unsigned Text.maxUnsigned64) "request_timeout_secs" members })

/-- The settings. -/
def settings (node : Node) : Option Settings := do
  let members ← members node
  let draft : Settings.Draft :=
    { storeBackend := ← optional storeKind "store_backend" members
      redisAddr := ← optional Node.text? "redis_addr" members
      redisPassword := ← optional Node.text? "redis_password" members
      redisDb := ← optional signed "redis_db" members
      tokenTtl := ← optional signed "token_ttl" members
      memoryCapacity := ← optional (unsigned Text.maxUnsigned64) "memory_capacity" members
      fieldsToMask := ← optional (list Node.text?) "fields_to_mask" members
      patterns := ← optional (list patternConfig) "patterns" members
      server := ← optional serverSettings "server" members }
  some draft.finish

/-- Whether a character may stand in a YAML text. -/
def isPrintable (c : Char) : Bool :=
  let n := c.toNat
  n = 9 || n = 10 || n = 13 || (32 ≤ n && n ≤ 126) || n = 0x85 || (0xA0 ≤ n && n ≤ 0xD7FF)
    || (0xE000 ≤ n && n ≤ 0xFFFD) || 0x10000 ≤ n

end Masking.Yaml

namespace Masking

/-- The settings that a YAML text gives, before they are validated. There may be no more than one
document, and an empty text sets nothing. -/
def Settings.readYaml (text : String) : Option Settings :=
  if text.toList.all Yaml.isPrintable then
    match Yaml.parse text with
    | some [] => some .standard
    | some [document] => Yaml.settings document
    | _ => none
  else none

/-- The settings that a YAML text gives. -/
def Settings.fromYaml (text : String) : Except SettingsError Settings :=
  Settings.finish .yaml (Settings.readYaml text)

end Masking
