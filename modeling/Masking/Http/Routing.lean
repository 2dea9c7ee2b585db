import Masking.Http.Request

/-! The routes of the service. Logs and metrics know a path by its route alone, because what stands
in a path may be one of the values that are to stay hidden. -/

namespace Masking.Http

/-- What a path leads to. -/
inductive Route where
  | health
  | metrics
  | mask
  /-- The value behind a token. Both parts are as they were sent, percent signs included. -/
  | unmask (category masked : String)
deriving DecidableEq, Inhabited

namespace Route

/-- The form of the paths that lead to a route, as logs and metrics show it. -/
def template : Route → String
  | .health => "/health"
  | .metrics => "/metrics"
  | .mask => "/v1/logs/mask"
  | .unmask _ _ => "/v1/unmask/\x7bcategory\x7d/\x7bmasked\x7d"

/-- Whether a route answers a method. What can be read can also be asked for without its body. -/
def accepts (route : Route) (method : String) : Bool :=
  match route with
  | .mask => method = "POST"
  | _ => method = "GET" || method = "HEAD"

/-- The methods that a route answers, as a refusal names them. -/
def allowed : Route → String
  | .mask => "POST"
  | _ => "GET,HEAD"

end Route

/-- The route of a path. Parts are compared before percent signs are decoded, and none of them may
be empty. -/
def findRoute (path : String) : Option Route :=
  match (Text.splitOn '/' path.toList).map String.ofList with
  | ["", "health"] => some .health
  | ["", "metrics"] => some .metrics
  | ["", "v1", "logs", "mask"] => some .mask
  | ["", "v1", "unmask", category, masked] =>
      if category = "" ∨ masked = "" then none else some (.unmask category masked)
  | _ => none

/-- The label under which requests for a path are counted. It never shows the path itself, which may
carry values that are to stay hidden. -/
def pathLabel (path : String) : String :=
  match findRoute path with
  | some route => route.template
  | none => "unmatched"

/-- The path that log lines show. Paths of reverse lookups carry tokens, and only their form is
shown. -/
def loggedPath (path : String) : String :=
  match Text.stripLead "/v1/unmask/".toList path.toList with
  | some _ => (Route.unmask "" "").template
  | none => path

/-- Whether requests for a path are too frequent and too dull to be logged as news. -/
def isQuiet (path : String) : Bool :=
  path = "/health" || path = "/metrics"

end Masking.Http
