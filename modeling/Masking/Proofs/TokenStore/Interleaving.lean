import Masking.TokenStore
import Masking.Proofs.Store.Execution

/-! Token stores that share a backend. Every call is the program of its store; the calls take turns
in any order, one operation at a time, and between turns entries may be lost and failed writes may
still arrive. -/

namespace Masking.Sharing

open Store (Action Duration Error Program)

/-- How an operation on the shared backend ends. An operation that is cut off fails. -/
inductive Fate where
  | succeeds
  | fails (error : Error)

def Fate.answer {β : Type} (fate : Fate) (value : β) : Except Error β :=
  match fate with
  | .succeeds => .ok value
  | .fails error => .error error

/-- The state of the shared backend: its entries, and the writes that have failed for their callers.
Each of these may or may not take effect, at any later moment. -/
structure Backing where
  entries : String → Option String
  unsettled : List (String × String)

namespace Backing

def put (backing : Backing) (key value : String) : Backing :=
  { backing with entries := fun other => if other = key then some value else backing.entries other }

def settle (backing : Backing) : Option (String × String) → Backing
  | some (key, value) => backing.put key value
  | none => backing

def send (backing : Backing) (key value : String) : Backing :=
  { backing with unsettled := backing.unsettled ++ [(key, value)] }

def write (backing : Backing) (key value : String) : Fate → Backing
  | .succeeds => backing.put key value
  | .fails _ => backing.send key value

/-- The backend after entries have expired or been evicted. -/
def drop (backing : Backing) (lost : String → Bool) : Backing :=
  { backing with entries := fun key => if lost key then none else backing.entries key }

end Backing

/-- One operation of a program, or one event that it tells. A finished program does nothing. -/
def turn {α : Type} (fate : Fate) (backing : Backing) :
    Program α → Option (Action × Backing × Program α)
  | .done _ => none
  | .get key next =>
      let answer := fate.answer (backing.entries key)
      some (.get key answer, backing, next answer)
  | .set key value _ next =>
      let answer := fate.answer ()
      some (.set key value answer, backing.write key value fate, next answer)
  | .ping next => some (.ping (fate.answer ()), backing, next (fate.answer ()))
  | .close next => some (.close (fate.answer ()), backing, next (fate.answer ()))
  | .emit event next => some (.emit event, backing, next)

/-- The write that takes effect when a program has its turn. -/
def landing {α : Type} : Fate → Program α → Option (String × String)
  | .succeeds, .set key value _ _ => some (key, value)
  | _, _ => none

/-- What a token store is called for: the token of a value, the value behind a token, whether the
backend can be reached, or the end of the connection. -/
inductive Request where
  | token (value : String) (category : Category)
  | lookup (masked : String) (category : Category)
  | check
  | release
deriving DecidableEq

inductive Reply where
  | token (result : Except Error String)
  | lookup (result : Except Error (Option String))
  | done (result : Except Error Unit)

/-- The program of a store for a request. -/
def Request.program (store : TokenStore) : Request → Program Reply
  | .token value category => do pure (.token (← store.getOrCreate value category))
  | .lookup masked category => do pure (.lookup (← TokenStore.lookupValue masked category))
  | .check => do pure (.done (← Program.check))
  | .release => do pure (.done (← Program.release))

structure Call where
  request : Request
  rest : Program Reply

def Call.answer (call : Call) : Option Reply :=
  match call.rest with
  | .done reply => some reply
  | _ => none

/-- The shared backend, all calls that were ever made, and all that their programs have done. -/
structure System where
  backing : Backing
  calls : List Call
  history : List Action

/-- What happens next: a store of a name and a lifetime is called, a call has its turn and its
operation ends in some way, or the backend changes by itself. -/
inductive Choice where
  | start (backend : String) (ttl : Option Duration) (request : Request)
  | act (index : Nat) (fate : Fate)
  /-- A write that has failed takes effect all the same. -/
  | arrive (index : Nat)
  /-- Entries expire or are evicted. -/
  | lose (lost : String → Bool)

namespace System

def empty : System := ⟨⟨fun _ => none, []⟩, [], []⟩

def requests (system : System) : List Request :=
  system.calls.map Call.request

def start (system : System) (store : TokenStore) (request : Request) : System :=
  { system with calls := system.calls ++ [⟨request, request.program store⟩] }

def advance (system : System) (index : Nat) (call : Call) (action : Action) (backing : Backing)
    (rest : Program Reply) : System :=
  ⟨backing, system.calls.set index { call with rest := rest }, system.history ++ [action]⟩

/-- The system after one step. All stores have the same synthesizer. -/
def step (synthesizer : Synthesizer) (system : System) : Choice → Option System
  | .start backend ttl request => some (system.start ⟨backend, synthesizer, ttl⟩ request)
  | .act index fate => do
      let call ← system.calls[index]?
      let (action, backing, rest) ← turn fate system.backing call.rest
      some (system.advance index call action backing rest)
  | .arrive index => do
      let (key, value) ← system.backing.unsettled[index]?
      some { system with backing := system.backing.put key value }
  | .lose lost => some { system with backing := system.backing.drop lost }

def run (synthesizer : Synthesizer) : List Choice → System → Option System
  | [], system => some system
  | choice :: rest, system => do
      let next ← system.step synthesizer choice
      run synthesizer rest next

/-- The write that takes effect in a step. -/
def effect (system : System) : Choice → Option (String × String)
  | .act index fate => do
      let call ← system.calls[index]?
      landing fate call.rest
  | .arrive index => system.backing.unsettled[index]?
  | _ => none

end System

end Masking.Sharing
