import Masking.Pattern
import Masking.Record
import Masking.TokenStore

/-! Masking of records. Attributes on a list are replaced as a whole, whatever their type; in bodies
that are texts, every match of every pattern is replaced, one pattern after the other, so that a
later pattern sees what the earlier ones have left. A unit that cannot be masked stays as it was and
is counted. -/

namespace Masking

open Store (Error Program)

/-- Replaces sensitive values by tokens: the values of listed attributes, and what its patterns find
in bodies. Units are masked one at a time, and one that fails does not stop the others. -/
structure MaskingEngine where
  /-- The names of the attributes whose values are masked. -/
  fields : List String
  patterns : PatternSet
  store : TokenStore

namespace MaskingEngine

/-- Whether an attribute is to be masked. -/
def shouldMask (engine : MaskingEngine) (name : String) : Bool :=
  engine.fields.contains name

/-- The token of an attribute's value, or why there is none. -/
def tryMaskField (engine : MaskingEngine) (value name : String) :
    Program (Except Error String) := do
  let result ← engine.store.getOrCreate value (.ofField name)
  Program.tell (.unit .field result.toBool)
  pure result

/-- The token of an attribute's value. A failure is logged and leaves the value as it is. -/
def maskField (engine : MaskingEngine) (value name : String) : Program String := do
  match ← engine.tryMaskField value name with
  | .ok masked => pure masked
  | .error error =>
      Program.log .warn "Failed to mask attribute" [("field", name), ("error", error.text)]
      pure value

/-- A text in which every occurrence of each matched text is replaced by its token, one match after
the other. A match whose token cannot be had is left in place. -/
def maskMatches (engine : MaskingEngine) (pattern : Pattern) :
    List String → String → Program String
  | [], text => pure text
  | found :: rest, text => do
      match ← engine.store.getOrCreate found pattern.category with
      | .ok masked =>
          Program.tell (.unit .found true)
          maskMatches engine pattern rest (Text.replace text found masked)
      | .error error =>
          Program.tell (.unit .found false)
          Program.log .warn "Failed to mask value"
            [("pattern", pattern.name), ("error", error.text)]
          maskMatches engine pattern rest text

/-- A text masked by patterns in order, each one over what those before it have left. -/
def maskPatterns (engine : MaskingEngine) : List Pattern → String → Program String
  | [], text => pure text
  | pattern :: rest, text => do
      let text ← engine.maskMatches pattern (pattern.findAll text) text
      maskPatterns engine rest text

/-- A body masked by all patterns of the engine. -/
def maskBody (engine : MaskingEngine) (text : String) : Program String :=
  engine.maskPatterns engine.patterns.patterns text

/-- What became of the attributes of a record. -/
structure MaskedAttributes where
  attributes : List (String × Json)
  /-- How many were replaced by a token. -/
  masked : Nat
  /-- How many could not be replaced. -/
  failed : Nat

/-- Attributes with the listed ones masked. One that fails keeps its value and type. -/
def maskAttributes (engine : MaskingEngine) :
    List (String × Json) → Program MaskedAttributes
  | [] => pure ⟨[], 0, 0⟩
  | (name, value) :: rest => do
      if engine.shouldMask name then
        match ← engine.tryMaskField (attributeText value) name with
        | .ok masked =>
            let rest ← maskAttributes engine rest
            pure ⟨(name, .str masked) :: rest.attributes, rest.masked + 1, rest.failed⟩
        | .error error =>
            Program.log .warn "Failed to mask attribute" [("key", name), ("error", error.text)]
            let rest ← maskAttributes engine rest
            pure ⟨(name, value) :: rest.attributes, rest.masked, rest.failed + 1⟩
      else
        let rest ← maskAttributes engine rest
        pure ⟨(name, value) :: rest.attributes, rest.masked, rest.failed⟩

/-- A body masked when it is a text, and whether it has changed. -/
def maskBodyValue (engine : MaskingEngine) (body : Option Json) :
    Program (Option Json × Bool) := do
  match body with
  | some (.str text) =>
      let masked ← engine.maskBody text
      pure (some (.str masked), masked != text)
  | other => pure (other, false)

/-- A record masked, attributes first, and what was done to it. -/
def maskRecord (engine : MaskingEngine) (record : LogRecord) :
    Program (LogRecord × RecordOutcome) := do
  let done ← engine.maskAttributes record.attributes
  let (body, bodyMasked) ← engine.maskBodyValue record.body
  pure (⟨done.attributes, body⟩, ⟨done.masked, done.failed, bodyMasked⟩)

/-- Records masked one after the other, and the totals added to those so far. -/
def maskRecords (engine : MaskingEngine) (summary : BatchSummary) :
    List LogRecord → Program (List LogRecord × BatchSummary)
  | [] => pure ([], summary)
  | record :: rest => do
      let (record, outcome) ← engine.maskRecord record
      let (rest, summary) ← maskRecords engine (summary.absorb outcome) rest
      pure (record :: rest, summary)

/-- The totals of a batch as fields of a log line. -/
def summaryFields (summary : BatchSummary) : List (String × String) :=
  let number (n : Nat) : String := String.ofList (Text.decimal n)
  [("records", number summary.records), ("fields_masked", number summary.fieldsMasked),
   ("fields_failed", number summary.fieldsFailed), ("bodies_masked", number summary.bodiesMasked)]

/-- A batch masked record by record, and its totals. -/
def processBatch (engine : MaskingEngine) (batch : LogBatch) :
    Program (LogBatch × BatchSummary) := do
  let (records, summary) ← engine.maskRecords .empty batch.records
  Program.log .debug "Batch processed" (summaryFields summary)
  pure (⟨records⟩, summary)

/-- Ask whether the store can still be reached. -/
def healthCheck : Program (Except Error Unit) := Program.check

/-- Give up the connection to the store. -/
def shutdown (engine : MaskingEngine) : Program (Except Error Unit) := do
  Program.log .info "Shutting down masking engine" [("backend", engine.store.backend)]
  Program.release

end MaskingEngine

/-- A length of time: whole seconds with a fraction, or milliseconds below a second. -/
def describeDuration (milliseconds : Nat) : String :=
  if milliseconds = 0 then "0ns"
  else if milliseconds < 1000 then String.ofList (Text.decimal milliseconds) ++ "ms"
  else
    let rest := milliseconds % 1000
    let digits := [rest / 100, rest / 10 % 10, rest % 10].map fun d => Char.ofNat (48 + d)
    let fraction := (digits.reverse.dropWhile fun c => c = '0').reverse
    String.ofList (Text.decimal (milliseconds / 1000)
      ++ (if fraction.isEmpty then [] else '.' :: fraction) ++ ['s'])

/-- What a token store shows of itself. -/
def TokenStore.describe (store : TokenStore) : String :=
  let ttl :=
    match store.ttl with
    | some ttl => "Some(" ++ describeDuration ttl ++ ")"
    | none => "None"
  "TokenStore \x7b backend: " ++ Text.quoted store.backend ++ ", ttl: " ++ ttl ++ " \x7d"

/-- What an engine shows of itself. -/
def MaskingEngine.describe (engine : MaskingEngine) : String :=
  "MaskingEngine \x7b fields_to_mask: \x7b"
    ++ String.ofList (Text.join [',', ' '] (engine.fields.eraseDups.map fun name =>
      (Text.quoted name).toList))
    ++ "\x7d, patterns: " ++ String.ofList (Text.decimal engine.patterns.size) ++ ", store: "
    ++ engine.store.describe ++ " \x7d"

end Masking
