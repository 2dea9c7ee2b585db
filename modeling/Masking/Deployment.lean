import Masking.Metrics
import Masking.Startup
import Masking.Store.Memory
import Masking.Store.Redis
import Masking.Store.Scripted

/-! Token stores and engines as they live side by side: one clock, cancellation tokens and backend
for all, and for each member the counts of its own calls. Members act one program at a time. -/

namespace Masking

open Store (Backend CallContext Event Program World)

/-- A backend of one of the kinds that live in the process, with its state. -/
inductive LocalStore where
  | memory (state : Store.Memory.State)
  | scripted (name : String) (state : Store.Scripted.State)
deriving Inhabited

namespace LocalStore

/-- The name of the backend. -/
def name : LocalStore → String
  | .memory _ => Store.Memory.backend.name
  | .scripted name _ => name

/-- An attempt on states that are part of larger ones. -/
def lift {σ τ β : Type} (wrap : σ → τ) (attempt : Store.Attempt σ β) : Store.Attempt τ β :=
  ⟨wrap attempt.started, attempt.cancels, attempt.delay, (attempt.finish.1, wrap attempt.finish.2)⟩

/-- An operation on a store, done as its kind does it. -/
def dispatch {β : Type}
    (memory : Store.Memory.State → Store.Attempt Store.Memory.State β)
    (scripted : Backend Store.Scripted.State → Store.Scripted.State →
      Store.Attempt Store.Scripted.State β) : LocalStore → Store.Attempt LocalStore β
  | .memory state => lift .memory (memory state)
  | .scripted name state =>
      lift (.scripted name) (scripted (Store.Scripted.backend name) state)

/-- The backend over stores of either kind, under the name of one of them. -/
def backend (name : String) : Backend LocalStore where
  name := name
  get now store key :=
    dispatch (fun state => Store.Memory.backend.get now state key)
      (fun backend state => backend.get now state key) store
  set now store key value ttl :=
    dispatch (fun state => Store.Memory.backend.set now state key value ttl)
      (fun backend state => backend.set now state key value ttl) store
  ping now store :=
    dispatch (fun state => Store.Memory.backend.ping now state)
      (fun backend state => backend.ping now state) store
  close now store :=
    dispatch (fun state => Store.Memory.backend.close now state)
      (fun backend state => backend.close now state) store

/-- The calls a scripted store has received since it was last asked, and the store that has
forgotten them. -/
def takeCalls : LocalStore → Option (List String) × LocalStore
  | .memory state => (none, .memory state)
  | .scripted name state =>
      let (calls, state) := Store.Scripted.takeCalls state
      (some calls, .scripted name state)

end LocalStore

/-- A token store in use, with its counts and the number of times its synthesizer ran. -/
structure StoreMember where
  store : TokenStore
  metrics : StoreMetrics
  synthesized : Nat

/-- An engine in use, with the counts of its token store. It may have a backend of its own. -/
structure EngineMember where
  engine : MaskingEngine
  metrics : StoreMetrics
  own : Option LocalStore

/-- Token stores and engines that share a backend, a clock and cancellation tokens, and contexts by
name. -/
structure Deployment where
  world : World LocalStore
  contexts : List (String × CallContext)
  stores : List StoreMember
  engines : List EngineMember

/-- Whose calls a program makes. -/
inductive Caller where
  | nobody
  | store (index : Nat)
  | engine (index : Nat)
deriving DecidableEq, Inhabited

namespace Deployment

/-- The number of times the synthesizer ran. -/
def countSynthesized (events : List Event) : Nat :=
  (events.filter fun event => event = .synthesized).length

/-- The deployment after the counts of a caller have taken in some events. -/
def record (deployment : Deployment) (caller : Caller) (events : List Event) : Deployment :=
  match caller with
  | .nobody => deployment
  | .store index =>
      { deployment with
        stores := deployment.stores.modify index fun member =>
          { member with
            metrics := member.metrics.absorbAll events
            synthesized := member.synthesized + countSynthesized events } }
  | .engine index =>
      { deployment with
        engines := deployment.engines.modify index fun member =>
          { member with metrics := member.metrics.absorbAll events } }

/-- The backend that a caller has for itself. -/
def ownStore (deployment : Deployment) : Caller → Option LocalStore
  | .engine index => deployment.engines[index]?.bind EngineMember.own
  | _ => none

/-- Execute a program of a caller in a context. It is `none` when the program never ends. -/
def perform {α : Type} (deployment : Deployment) (caller : Caller) (context : CallContext)
    (program : Program α) : Option (α × List Event × Deployment) :=
  let world := deployment.world
  let own := deployment.ownStore caller
  let store := own.getD world.store
  match Store.execute (LocalStore.backend store.name) context program { world with store } with
  | none => none
  | some (value, events, after) =>
      let deployment :=
        match caller, own with
        | .engine index, some _ =>
            { deployment with
              world := { after with store := world.store }
              engines := deployment.engines.modify index fun member =>
                { member with own := some after.store } }
        | _, _ => { deployment with world := after }
      some (value, events, deployment.record caller events)

/-- Open a backend for an engine of its own. A Redis server has to be found in the network. -/
def openStore (network : Store.Redis.Network LocalStore) (config : Store.BackendConfig) :
    Except Store.Error LocalStore :=
  match config with
  | .memory capacity => .ok (.memory (Store.Memory.empty capacity))
  | .redis address password database =>
      (Store.Redis.connect network address password database).map fun link => link.server

/-- Start an engine with a backend that is opened for it, after its patterns have been compiled. The
network has no server for a deployment to reach. -/
def start (deployment : Deployment) (unreachable : String) (config : EngineConfig) :
    Option (Except StartupError EngineMember × List Event × Deployment) :=
  match PatternSet.compile config.patterns with
  | .error error => some (.error (.setup error), [], deployment)
  | .ok patterns =>
      match openStore (.unreachable unreachable) config.store.backend with
      | .error error => some (.error (.store error), [], deployment)
      | .ok store =>
          match Store.execute (LocalStore.backend store.name) .unbounded
              (MaskingEngine.launch config patterns store.name) { deployment.world with store } with
          | none => none
          | some (.error error, events, _) => some (.error error, events, deployment)
          | some (.ok engine, events, after) =>
              some (.ok ⟨engine, .zero, some after.store⟩, events, deployment)

/-- Start an engine over the shared backend. -/
def startShared (deployment : Deployment) (config : EngineConfig) :
    Option (Except StartupError EngineMember × List Event × Deployment) :=
  match deployment.perform .nobody .unbounded
      (MaskingEngine.startWithBackend config deployment.world.store.name) with
  | none => none
  | some (.error error, events, deployment) => some (.error error, events, deployment)
  | some (.ok engine, events, deployment) =>
      some (.ok ⟨engine, .zero, none⟩, events, deployment)

/-- A new context with a token of its own, which may be the child of another context's, and a
deadline counted from now. -/
def makeContext (deployment : Deployment) (name : String) (parent : Option CallContext)
    (timeout : Option Store.Duration) : Deployment :=
  let (token, tokens) := deployment.world.tokens.make (parent.bind CallContext.token)
  let deadline := timeout.bind fun timeout => Store.Instant.after deployment.world.now timeout
  { deployment with
    world := { deployment.world with tokens }
    contexts := (name, ⟨some token, deadline⟩) :: deployment.contexts }

end Deployment

end Masking
