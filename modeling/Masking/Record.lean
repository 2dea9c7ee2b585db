import Masking.Json.Reader

/-! Log records, batches of them, and the counts that masking gives back, with their JSON forms.
Attributes keep the order in which they were added, and a name occurs once among them. -/

namespace Masking

/-- A log record: named attributes in the order they were added, and a body that may be absent. -/
structure LogRecord where
  attributes : List (String × Json)
  body : Option Json
deriving Inhabited

/-- The log records that are masked in one call. -/
structure LogBatch where
  records : List LogRecord
deriving Inhabited

/-- What masking did to one record. -/
structure RecordOutcome where
  /-- Attributes replaced by a token. -/
  fieldsMasked : Nat
  /-- Attributes left as they were because the store call failed. -/
  fieldsFailed : Nat
  /-- Whether the text of the body changed. -/
  bodyMasked : Bool
deriving DecidableEq, Inhabited

/-- Totals over a batch. -/
structure BatchSummary where
  records : Nat
  fieldsMasked : Nat
  fieldsFailed : Nat
  bodiesMasked : Nat
deriving DecidableEq, Inhabited

namespace LogRecord

/-- The record without attributes and body. -/
def empty : LogRecord := ⟨[], none⟩

/-- The record with a text body and no attributes. -/
def withBody (body : String) : LogRecord := ⟨[], some (.str body)⟩

/-- An attribute put in place: a new name goes to the end, a known one keeps its position and takes
the new value. -/
def insertAttribute (name : String) (value : Json) :
    List (String × Json) → List (String × Json)
  | [] => [(name, value)]
  | (other, old) :: rest =>
      if name = other then (other, value) :: rest
      else (other, old) :: insertAttribute name value rest

/-- The record with one more attribute. -/
def withAttribute (record : LogRecord) (name : String) (value : Json) : LogRecord :=
  { record with attributes := insertAttribute name value record.attributes }

/-- Attributes as they are written, repeated names being brought together. -/
def collectAttributes (members : List (String × Json)) : List (String × Json) :=
  members.foldl (fun attributes member => insertAttribute member.1 member.2 attributes) []

/-- The body when it is a text. -/
def bodyText (record : LogRecord) : Option String :=
  record.body.bind Json.str?

/-- The value of an attribute when it is a text. -/
def attributeStr (record : LogRecord) (name : String) : Option String :=
  (record.attributes.lookup name).bind Json.str?

/-- The fields of a record as it is read. -/
structure Draft where
  attributes : Option (List (String × Json))
  body : Option (Option Json)

/-- Reads a record. Both fields may be missing. -/
def read : Json.Reader LogRecord :=
  Json.readStructure
    [Json.field "attributes" Draft.attributes
      (fun draft value => { draft with attributes := some value }) (Json.readMap Json.readValue),
     Json.field "body" Draft.body (fun draft value => { draft with body := some value })
      (Json.readOption Json.readValue)]
    ⟨none, none⟩
    fun draft => some ⟨collectAttributes (draft.attributes.getD []), draft.body.getD none⟩

/-- The JSON value of a record. An absent body has no member. -/
def toJson (record : LogRecord) : Json :=
  let body :=
    match record.body with
    | some value => [("body", value)]
    | none => []
  .obj (("attributes", .obj record.attributes) :: body)

end LogRecord

namespace LogBatch

/-- Reads a batch. The list of records may be missing. -/
def read : Json.Reader LogBatch :=
  Json.readStructure
    [Json.field "records" (fun draft : Option (List LogRecord) => draft) (fun _ value => some value)
      (Json.readList LogRecord.read)]
    none
    fun draft => some ⟨draft.getD []⟩

/-- The JSON value of a batch. -/
def toJson (batch : LogBatch) : Json :=
  .obj [("records", .arr (batch.records.map LogRecord.toJson))]

end LogBatch

namespace RecordOutcome

/-- The outcome of a record in which nothing was to be masked. -/
def nothing : RecordOutcome := ⟨0, 0, false⟩

/-- The fields of an outcome as it is read. -/
structure Draft where
  fieldsMasked : Option Nat
  fieldsFailed : Option Nat
  bodyMasked : Option Bool

/-- Reads an outcome. No field may be missing. -/
def read : Json.Reader RecordOutcome :=
  Json.readStructure
    [Json.field "fields_masked" Draft.fieldsMasked
      (fun draft value => { draft with fieldsMasked := some value })
      (Json.readUnsigned Json.maxUnsigned),
     Json.field "fields_failed" Draft.fieldsFailed
      (fun draft value => { draft with fieldsFailed := some value })
      (Json.readUnsigned Json.maxUnsigned),
     Json.field "body_masked" Draft.bodyMasked
      (fun draft value => { draft with bodyMasked := some value }) Json.readBool]
    ⟨none, none, none⟩
    fun draft => do
      some ⟨← draft.fieldsMasked, ← draft.fieldsFailed, ← draft.bodyMasked⟩

/-- The JSON value of an outcome. -/
def toJson (outcome : RecordOutcome) : Json :=
  .obj [("fields_masked", .nat outcome.fieldsMasked), ("fields_failed", .nat outcome.fieldsFailed),
    ("body_masked", .bool outcome.bodyMasked)]

end RecordOutcome

namespace BatchSummary

/-- The summary of an empty batch. -/
def empty : BatchSummary := ⟨0, 0, 0, 0⟩

/-- The totals with one more record. -/
def absorb (summary : BatchSummary) (outcome : RecordOutcome) : BatchSummary where
  records := summary.records + 1
  fieldsMasked := summary.fieldsMasked + outcome.fieldsMasked
  fieldsFailed := summary.fieldsFailed + outcome.fieldsFailed
  bodiesMasked := summary.bodiesMasked + (if outcome.bodyMasked then 1 else 0)

/-- The JSON value of a summary. -/
def toJson (summary : BatchSummary) : Json :=
  .obj [("records", .nat summary.records), ("fields_masked", .nat summary.fieldsMasked),
    ("fields_failed", .nat summary.fieldsFailed), ("bodies_masked", .nat summary.bodiesMasked)]

end BatchSummary

/-- The text of an attribute value, as it is masked: texts stand for themselves, `null` is empty,
and every other value is its JSON text. -/
def attributeText : Json → String
  | .str value => value
  | .null => ""
  | value => value.text

end Masking
