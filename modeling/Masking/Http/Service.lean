import Masking.Http.Handler
import Masking.Http.RequestId
import Masking.Http.Routing
import Masking.Recorder
import Masking.Store.Execution

/-! Requests answered from end to end: named, routed, handled in a context of their own, logged and
counted. -/

namespace Masking.Http

open Store (Backend CallContext Duration Event Instant Program TokenId Tokens World)

/-- What all requests share: the engine, the token that is cancelled when the service shuts down,
and the time that the store calls of one request may take. -/
structure Service where
  engine : MaskingEngine
  shutdown : TokenId
  requestTimeout : Duration

/-- What changes while requests are answered. -/
structure Live (σ : Type) where
  world : World σ
  recorder : Recorder

/-- What is left to do for a request. -/
inductive Task where
  /-- Give an answer that is known already. -/
  | ready (response : Response)
  /-- Run a program that talks to the store. -/
  | program (program : Program Response)

namespace Service

/-- The context for the store calls of one request: cancelled on shutdown, and expiring when the
time for a request has passed. There is none when the clock cannot hold that instant; the request is
then given up without an answer. -/
def callContext (service : Service) (now : Instant) (tokens : Tokens) :
    Option (CallContext × Tokens) :=
  match Instant.after now service.requestTimeout with
  | none => none
  | some deadline =>
      let (token, tokens) := tokens.make (some service.shutdown)
      some (⟨some token, some deadline⟩, tokens)

/-- What to do for a request whose route accepts its method. -/
def handle (service : Service) (recorder : Recorder) (request : Request) : Route → Task
  | .health => .program checkHealth
  | .metrics => .ready (.plain 200 recorder.render)
  | .mask =>
      match readBatch request with
      | .ok batch => .program (mask service.engine batch)
      | .error failure => .ready failure.respond
  | .unmask category masked =>
      match decodePart "category" category, decodePart "masked" masked with
      | .ok category, .ok masked => .program (unmask category masked)
      | .error response, _ => .ready response
      | _, .error response => .ready response

/-- Do what is left to do for a request. Only a program needs a context. It is `none` when there is
no context, or the program never ends. -/
def perform {σ : Type} (service : Service) (backend : Backend σ) (task : Task) (world : World σ) :
    Option (Response × List Event × World σ) :=
  match task with
  | .ready response => some (response, [], world)
  | .program program =>
      match service.callContext world.now world.tokens with
      | none => none
      | some (context, tokens) =>
          Store.execute backend context program { world with tokens }

/-- What to do for a request: paths that lead nowhere are not found, and methods that a route does
not accept are refused. -/
def plan (service : Service) (recorder : Recorder) (request : Request) : Task :=
  match findRoute request.path with
  | none => .ready (.bare 404)
  | some route =>
      if route.accepts request.method then service.handle recorder request route
      else .ready ⟨405, [("allow", route.allowed)], ""⟩

/-- An answer as it is sent: without its body when only its head was asked for. -/
def sent (method : String) (response : Response) : Response :=
  if method = "HEAD" then { response with body := "" } else response

/-- Answer a request and count it. It is counted after it has been answered. -/
def measured {σ : Type} (service : Service) (backend : Backend σ) (request : Request)
    (live : Live σ) : Option (Response × List Event × Live σ) :=
  match service.perform backend (service.plan live.recorder request) live.world with
  | none => none
  | some (response, events, world) =>
      let recorder := (live.recorder.absorbAll events).countRequest request.method
        (pathLabel request.path) response.status
      some (sent request.method response, events, ⟨world, recorder⟩)

/-- The log line that closes a request: a warning when the service is at fault. -/
def closing (path : String) (status : Nat) : Event :=
  let fields := [("status", String.ofList (Text.decimal status))]
  if 500 ≤ status ∧ status < 600 then .log ⟨.warn, "Request failed", fields, none⟩
  else if isQuiet path then .log ⟨.debug, "Request completed", fields, none⟩
  else .log ⟨.info, "Request completed", fields, none⟩

/-- The span of a request. It shows neither the query nor the body, and of the paths of reverse
lookups only their form. -/
def spanOf (request : Request) : Span :=
  ⟨"http_request",
    [("request_id", (request.headers.find requestIdHeader).getD "unknown"),
     ("method", request.method), ("path", loggedPath request.path)]⟩

/-- Answer a request and log it: all log lines belong to its span. -/
def logged {σ : Type} (service : Service) (backend : Backend σ) (request : Request)
    (live : Live σ) : Option (Response × List Event × Live σ) :=
  match service.measured backend request live with
  | none => none
  | some (response, events, live) =>
      let opening : Event := .log ⟨.debug, "Request started", [], none⟩
      let lines := opening :: events ++ [closing request.path response.status]
      some (response, lines.map (Event.within (spanOf request)), live)

/-- Answer a request: it is named first, and the answer carries the same name. -/
def respond {σ : Type} (service : Service) (backend : Backend σ) (entropy : Nat)
    (request : Request) (live : Live σ) : Option (Response × List Event × Live σ) :=
  let id := RequestId.choose entropy request.headers
  let named := { request with headers := request.headers.put requestIdHeader id }
  match service.logged backend named live with
  | none => none
  | some (response, events, live) =>
      some ({ response with headers := response.headers.put requestIdHeader id }, events, live)

end Service

/-- Why an address cannot be listened on. -/
inductive ListenError where
  | addressInUse
deriving DecidableEq, Inhabited

/-- The name of the kind of an error. -/
def ListenError.kind : ListenError → String
  | .addressInUse => "AddrInUse"

/-- Run the service on an address until it is told to stop at some instant, by a signal or by its
token. The token is cancelled by then, so that the store calls of open requests end too. When the
address cannot be listened on the service does not run at all. -/
def Service.run (service : Service) (listening : Except ListenError Unit) (stop : Instant)
    (tokens : Tokens) : Except ListenError Unit × Tokens :=
  match listening with
  | .error error => (.error error, tokens)
  | .ok () => (.ok (), tokens.cancel service.shutdown stop)

end Masking.Http
