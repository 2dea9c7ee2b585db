import Masking.Json.Value
import Masking.Store.Error

/-! Answers to requests, and the answers that failures lead to. -/

namespace Masking.Http

/-- Headers in the order in which they were added; names are in lower case. -/
abbrev Headers := List (String × String)

/-- The first value of a header. -/
def Headers.find (headers : Headers) (name : String) : Option String :=
  headers.lookup name

/-- The headers with exactly one value for a name. -/
def Headers.put (headers : Headers) (name value : String) : Headers :=
  headers.filter (fun header => header.1 ≠ name) ++ [(name, value)]

/-- An answer to a request. -/
structure Response where
  status : Nat
  headers : Headers
  body : String
deriving DecidableEq, Inhabited

namespace Response

/-- An answer without body. -/
def bare (status : Nat) : Response := ⟨status, [], ""⟩

/-- An answer whose body is a JSON value. -/
def json (status : Nat) (value : Json) : Response :=
  ⟨status, [("content-type", "application/json")], value.text⟩

/-- An answer whose body is a plain text. -/
def plain (status : Nat) (body : String) : Response :=
  ⟨status, [("content-type", "text/plain; charset=utf-8")], body⟩

end Response

/-- A failure that a request is answered with. -/
inductive Failure where
  /-- No value is recorded behind a token. -/
  | notFound (category masked : String)
  /-- The request is not acceptable. -/
  | badRequest (message : String)
  /-- The store failed. -/
  | store (error : Store.Error)
deriving DecidableEq, Inhabited

/-- The answer for a failure. A call that was interrupted is a timeout, any other failure of the
store makes the service unavailable. -/
def Failure.respond (failure : Failure) : Response :=
  let answer (status : Nat) (error message : String) : Response :=
    .json status (.obj [("error", .str error), ("message", .str message)])
  match failure with
  | .notFound category masked =>
      answer 404 "Not Found" ("No original value recorded for " ++ category ++ "/" ++ masked)
  | .badRequest message => answer 400 "Bad Request" message
  | .store error =>
      if error.isInterrupted then answer 504 "Gateway Timeout" error.text
      else answer 503 "Service Unavailable" error.text

end Masking.Http
