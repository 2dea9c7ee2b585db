import Masking.Http.Service

/-! The layers around the routes of the service. The outer one names a request, in its headers and
in a note on it; the inner one logs it under the name that it finds in the note. -/

namespace Masking.Http

open Store (Backend Event)

/-- A request on its way through the layers, and the name that has been noted on it. -/
structure Carried where
  request : Request
  name : Option String

/-- What stands behind a layer: it answers requests, or gives them up without an answer. -/
abbrev Inner (σ : Type) := Carried → Live σ → Option (Response × List Event × Live σ)

/-- Whether a text can be the value of a header: of the control characters only the tab may be in
it. Each character stands for one byte. -/
def isHeaderValue (text : String) : Bool :=
  text.toList.all fun c => c = '\t' || (32 ≤ c.toNat && c.toNat ≠ 127)

/-- The value of a header as a text. There is none unless all bytes are visible ASCII, blanks or
tabs. -/
def headerText (value : String) : Option String :=
  if value.toList.all fun c => c = '\t' || (32 ≤ c.toNat && c.toNat < 127) then some value
  else none

/-- The name for a request with these headers. -/
def RequestId.ofHeaders (entropy : Nat) (headers : Headers) : String :=
  (((headers.find requestIdHeader).bind headerText).filter isAcceptable).getD (generate entropy)

/-- The layer that names requests: the name goes into the headers, onto the request, and into the
headers of the answer. -/
def naming {σ : Type} (entropy : Nat) (inner : Inner σ) : Inner σ :=
  fun carried live =>
    let id := RequestId.ofHeaders entropy carried.request.headers
    let stamp (headers : Headers) : Headers :=
      if isHeaderValue id then headers.put requestIdHeader id else headers
    let named := { carried.request with headers := stamp carried.request.headers }
    match inner ⟨named, some id⟩ live with
    | none => none
    | some (response, events, live) =>
        some ({ response with headers := stamp response.headers }, events, live)

/-- The layer that logs requests. One on which no name has been noted is unknown. -/
def logging {σ : Type} (inner : Inner σ) : Inner σ :=
  fun carried live =>
    let span : Span := ⟨"http_request",
      [("request_id", carried.name.getD "unknown"), ("method", carried.request.method),
        ("path", loggedPath carried.request.path)]⟩
    match inner carried live with
    | none => none
    | some (response, events, live) =>
        let opening : Event := .log ⟨.debug, "Request started", [], none⟩
        let lines := opening :: events ++ [Service.closing carried.request.path response.status]
        some (response, lines.map (Event.within span), live)

/-- The service as its layers make it up. -/
def Service.layered {σ : Type} (service : Service) (backend : Backend σ) (entropy : Nat) :
    Inner σ :=
  naming entropy (logging fun carried => service.measured backend carried.request)

end Masking.Http
