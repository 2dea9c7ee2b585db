import Masking.Engine
import Masking.Http.MediaType
import Masking.Http.Request
import Masking.Text.Percent

/-! What the service does on each of its routes, as programs that talk to the store and end in an
answer. -/

namespace Masking.Http

open Store (Program)

/-- The answer about the service being up or down. -/
def healthAnswer (status : Nat) (state : String) : Response :=
  .json status (.obj [("status", .str state)])

/-- The service is up as long as the store answers. -/
def checkHealth : Program Response := do
  match ← MaskingEngine.healthCheck with
  | .ok () => pure (healthAnswer 200 "UP")
  | .error error =>
      Program.log .warn "Store health check failed" [("error", error.text)]
      pure (healthAnswer 503 "DOWN")

/-- The value behind a token, as an answer. -/
def unmaskAnswer (category masked value : String) : Response :=
  .json 200 (.obj [("category", .str category), ("masked", .str masked),
    ("original", .str value)])

/-- The value behind a token. There is none when it was never recorded, or has been lost or has
expired since. -/
def unmask (category masked : String) : Program Response := do
  match ← TokenStore.lookupValue masked ⟨category⟩ with
  | .ok (some value) => pure (unmaskAnswer category masked value)
  | .ok none => pure (Failure.notFound category masked).respond
  | .error error => pure (Failure.store error).respond

/-- A masked batch with its totals, as an answer. -/
def maskAnswer (batch : LogBatch) (summary : BatchSummary) : Response :=
  .json 200 (.obj [("records", .arr (batch.records.map LogRecord.toJson)),
    ("summary", summary.toJson)])

/-- A batch masked. What could not be masked is left as it was and counted in the totals. -/
def mask (engine : MaskingEngine) (batch : LogBatch) : Program Response := do
  let (batch, summary) ← engine.processBatch batch
  Program.log .info "Batch masked" (MaskingEngine.summaryFields summary)
  pure (maskAnswer batch summary)

/-- The greatest number of bytes of a body that is read. -/
def maxBodySize : Nat := 2097152

/-- The batch in the body of a request. The type of the body is looked at before its length, and its
length before what it says. -/
def readBatch (request : Request) : Except Failure LogBatch :=
  if (request.headers.find "content-type").any namesJson then
    if maxBodySize < request.body.utf8ByteSize then
      .error (.badRequest "Failed to buffer the request body: length limit exceeded")
    else
      match Json.readAll LogBatch.read request.body.toList with
      | .ok batch => .ok batch
      | .error .mismatch =>
          .error (.badRequest "Failed to deserialize the JSON body into the target type")
      | .error _ => .error (.badRequest "Failed to parse the request body as JSON")
  else .error (.badRequest "Expected request with \x60Content-Type: application/json\x60")

/-- A part of a path with its percent signs decoded, or the answer that refuses it. -/
def decodePart (name part : String) : Except Response String :=
  match Text.fromUtf8 (Text.percentDecode (Text.utf8 part)) with
  | some text => .ok text
  | none => .error (.plain 400 ("Invalid URL: Invalid UTF-8 in \x60" ++ name ++ "\x60"))

end Masking.Http
