import Masking.Store.Execution
import Masking.Text.Digits
import Masking.Text.Search

/-! A backend that does as it is told: rules make chosen operations fail, wait, hang, or answer what
is not there. -/

namespace Masking.Store.Scripted

/-- The operations of a backend. -/
inductive Operation where
  | get
  | set
  | ping
  | close
deriving DecidableEq, Inhabited

/-- The name of an operation. -/
def Operation.name : Operation → String
  | .get => "get"
  | .set => "set"
  | .ping => "ping"
  | .close => "close"

/-- A rule by which a scripted backend misbehaves. -/
structure Rule where
  operation : Operation
  /-- A text that has to occur in the key; connections are checked and closed under the empty
  key. -/
  key : Option String
  /-- How often the rule still applies; always, when there is no number. -/
  times : Option Nat
  /-- A token that is cancelled as soon as the operation runs. -/
  cancels : Option TokenId
  delay : Duration
  /-- Whether the operation never ends. -/
  hangs : Bool
  /-- The message with which the operation fails. -/
  failure : Option String
  /-- Whether a read finds nothing, whatever is stored. -/
  misses : Bool
  /-- What a read finds, whatever is stored. -/
  value : Option String
deriving DecidableEq, Inhabited

/-- A map from keys to values that never expire, the rules still in force, and the calls received
since they were last asked for, the latest first. -/
structure State where
  entries : List (String × String)
  rules : List Rule
  calls : List String
deriving DecidableEq, Inhabited

/-- Whether a rule applies to an operation on a key. -/
def Rule.applies (rule : Rule) (operation : Operation) (key : String) : Bool :=
  rule.operation = operation
    && (match rule.times with
        | some times => 0 < times
        | none => true)
    && (match rule.key with
        | some part => Text.contains key part
        | none => true)

/-- The first rule that applies, and the rules after it has been used. -/
def take (operation : Operation) (key : String) : List Rule → Option Rule × List Rule
  | [] => (none, [])
  | rule :: rest =>
      if rule.applies operation key then
        (some rule, { rule with times := rule.times.map fun times => times - 1 } :: rest)
      else
        let (found, rest) := take operation key rest
        (found, rule :: rest)

/-- The store after a call has been noted and its rule used, with that rule. -/
def receive (operation : Operation) (key call : String) (state : State) : Option Rule × State :=
  let (rule, rules) := take operation key state.rules
  (rule, { state with rules := rules, calls := call :: state.calls })

/-- An operation under a rule. `finish` is what it does when the rule does not make it fail. -/
def attempt {β : Type} (name : String) (operation : Operation) (key call : String)
    (finish : Option Rule → State → β × State) (state : State) : Attempt State β :=
  let (rule, state) := receive operation key call state
  match rule with
  | none =>
      let (value, after) := finish none state
      ⟨state, [], some 0, (.ok value, after)⟩
  | some rule =>
      let outcome :=
        match rule.failure with
        | some message => (.error (.transport name operation.name message), state)
        | none =>
            let (value, after) := finish (some rule) state
            (.ok value, after)
      ⟨state, rule.cancels.toList, if rule.hangs then none else some rule.delay, outcome⟩

/-- What a read finds under a rule. -/
def find (key : String) (rule : Option Rule) (state : State) : Option String :=
  match rule with
  | some rule =>
      if rule.misses then none
      else
        match rule.value with
        | some value => some value
        | none => state.entries.lookup key
  | none => state.entries.lookup key

/-- The entries after a write. -/
def store (key value : String) (state : State) : State :=
  { state with entries := (key, value) :: state.entries.filter fun entry => entry.1 ≠ key }

/-- The text of a lifetime in the note of a call. -/
def ttlText : Option Duration → String
  | some duration => String.ofList (Text.decimal duration) ++ "ms"
  | none => "none"

/-- The scripted backend of a name. -/
def backend (name : String) : Backend State where
  name := name
  get _ state key :=
    attempt name .get key ("get " ++ key) (fun rule state => (find key rule state, state)) state
  set _ state key value ttl :=
    attempt name .set key ("set " ++ key ++ " = " ++ value ++ " ttl " ++ ttlText ttl)
      (fun _ state => ((), store key value state)) state
  ping _ state := attempt name .ping "" "ping" (fun _ state => ((), state)) state
  close _ state := attempt name .close "" "close" (fun _ state => ((), state)) state

/-- The calls received since they were last asked for, in order, and the store that has forgotten
them. -/
def takeCalls (state : State) : List String × State :=
  (state.calls.reverse, { state with calls := [] })

end Masking.Store.Scripted
