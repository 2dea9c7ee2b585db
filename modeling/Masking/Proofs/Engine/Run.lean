import Masking.Engine
import Masking.Proofs.TokenStore.Calls

/-! Runs of the engine as chains of token calls. What becomes of attributes, bodies and records is
told from the calls that were made for them, one relation for each function of the engine; nothing
else in a run depends on the backend. -/

namespace Masking

open Store (Action Backend CallContext Ends Error Event Program World)

namespace MaskingEngine

section Relations

variable {σ : Type} (engine : MaskingEngine)

/-- What becomes of attributes: an unlisted one stays as it is, and each listed one has a call of
its own, which either gives its token or leaves it as it is. -/
inductive AttributesMasked :
    List (String × Json) → List (TokenCall σ) → MaskedAttributes → Prop
  | nil : AttributesMasked [] [] ⟨[], 0, 0⟩
  | unlisted {name value rest calls done}
      (unlisted : engine.shouldMask name = false) (later : AttributesMasked rest calls done) :
      AttributesMasked ((name, value) :: rest) calls
        ⟨(name, value) :: done.attributes, done.masked, done.failed⟩
  | masked {name value rest call calls token done}
      (listed : engine.shouldMask name = true)
      (asks : TokenCall.Asks call (attributeText value) (.ofField name))
      (result : call.result = .ok token) (later : AttributesMasked rest calls done) :
      AttributesMasked ((name, value) :: rest) (call :: calls)
        ⟨(name, .str token) :: done.attributes, done.masked + 1, done.failed⟩
  | kept {name value rest call calls error done}
      (listed : engine.shouldMask name = true)
      (asks : TokenCall.Asks call (attributeText value) (.ofField name))
      (result : call.result = .error error) (later : AttributesMasked rest calls done) :
      AttributesMasked ((name, value) :: rest) (call :: calls)
        ⟨(name, value) :: done.attributes, done.masked, done.failed + 1⟩

/-- What becomes of a text in which a pattern has found matches: each match has a call of its own,
which either gives the token that takes its place or leaves the text as it is. -/
inductive MatchesMasked (pattern : Pattern) :
    List String → String → List (TokenCall σ) → String → Prop
  | nil (text : String) : MatchesMasked pattern [] text [] text
  | replaced {found rest text call calls token final}
      (asks : TokenCall.Asks call found pattern.category) (result : call.result = .ok token)
      (later : MatchesMasked pattern rest (Text.replace text found token) calls final) :
      MatchesMasked pattern (found :: rest) text (call :: calls) final
  | kept {found rest text call calls error final}
      (asks : TokenCall.Asks call found pattern.category) (result : call.result = .error error)
      (later : MatchesMasked pattern rest text calls final) :
      MatchesMasked pattern (found :: rest) text (call :: calls) final

/-- What becomes of a text under patterns in order. -/
inductive PatternsMasked : List Pattern → String → List (TokenCall σ) → String → Prop
  | nil (text : String) : PatternsMasked [] text [] text
  | cons {pattern rest text calls middle more final}
      (first : MatchesMasked pattern (pattern.findAll text) text calls middle)
      (later : PatternsMasked rest middle more final) :
      PatternsMasked (pattern :: rest) text (calls ++ more) final

/-- What becomes of a body, and whether it has changed: a text is masked by the patterns of the
engine, and any other body stays as it is. -/
inductive BodyMasked : Option Json → List (TokenCall σ) → Option Json × Bool → Prop
  | text {text calls masked}
      (patterns : PatternsMasked engine.patterns.patterns text calls masked) :
      BodyMasked (some (.str text)) calls (some (.str masked), masked != text)
  | other {body} (noText : ∀ text, body ≠ some (.str text)) : BodyMasked body [] (body, false)

end Relations

/-- The part of a run that deals with one record: the calls for its attributes and for the matches
in its body, and what was done to it. -/
structure RecordRun (σ : Type) where
  attributeCalls : List (TokenCall σ)
  bodyCalls : List (TokenCall σ)
  outcome : RecordOutcome

def RecordRun.calls {σ : Type} (run : RecordRun σ) : List (TokenCall σ) :=
  run.attributeCalls ++ run.bodyCalls

section Records

variable {σ : Type} (engine : MaskingEngine)

/-- What becomes of a record. -/
structure RecordMasked (record : LogRecord) (run : RecordRun σ) (masked : LogRecord) : Prop where
  attributes : engine.AttributesMasked record.attributes run.attributeCalls
    ⟨masked.attributes, run.outcome.fieldsMasked, run.outcome.fieldsFailed⟩
  body : engine.BodyMasked record.body run.bodyCalls (masked.body, run.outcome.bodyMasked)

/-- What becomes of records, each in a run of its own. -/
inductive RecordsMasked : List LogRecord → List (RecordRun σ) → List LogRecord → Prop
  | nil : RecordsMasked [] [] []
  | cons {record run masked records runs others}
      (first : engine.RecordMasked record run masked) (later : RecordsMasked records runs others) :
      RecordsMasked (record :: records) (run :: runs) (masked :: others)

end Records

section Runs

variable {σ : Type} {backend : Backend σ} {context : CallContext} {allows : Action → Prop}
  (engine : MaskingEngine)

theorem yields_tryMaskField (value name : String) :
    Yields backend context allows engine.store (engine.tryMaskField value name)
      fun result calls => ∃ call : TokenCall σ,
        calls = [call] ∧ call.Asks value (.ofField name) ∧ call.result = result := by
  refine Yields.bind (Yields.getOrCreate value (.ofField name)) fun result calls hCall => ?_
  refine Yields.tell rfl (Yields.done ?_)
  rw [List.append_nil]
  exact hCall

theorem yields_maskAttributes (attributes : List (String × Json)) :
    Yields backend context allows engine.store (engine.maskAttributes attributes)
      fun done calls => engine.AttributesMasked attributes calls done := by
  induction attributes with
  | nil => exact Yields.done .nil
  | cons head rest ih =>
      obtain ⟨name, value⟩ := head
      rw [maskAttributes]
      cases hListed : engine.shouldMask name with
      | false =>
          refine Yields.bind ih fun done calls hDone => Yields.done ?_
          rw [List.append_nil]
          exact .unlisted hListed hDone
      | true =>
          refine Yields.bind (engine.yields_tryMaskField (attributeText value) name) ?_
          rintro result _ ⟨call, rfl, hAsks, hResult⟩
          cases result with
          | ok token =>
              refine Yields.bind ih fun done calls hDone => Yields.done ?_
              rw [List.append_nil]
              exact .masked hListed hAsks hResult hDone
          | error error =>
              refine Yields.tell rfl (Yields.bind ih fun done calls hDone => Yields.done ?_)
              rw [List.append_nil]
              exact .kept hListed hAsks hResult hDone

theorem yields_maskMatches (pattern : Pattern) (found : List String) (text : String) :
    Yields backend context allows engine.store (engine.maskMatches pattern found text)
      fun final calls => MatchesMasked pattern found text calls final := by
  induction found generalizing text with
  | nil => exact Yields.done (.nil text)
  | cons found rest ih =>
      rw [maskMatches]
      refine Yields.bind (Yields.getOrCreate found pattern.category) ?_
      rintro result _ ⟨call, rfl, hAsks, hResult⟩
      cases result with
      | ok token =>
          refine Yields.tell rfl ?_
          exact (ih _).imp fun final calls hLater => .replaced hAsks hResult hLater
      | error error =>
          refine Yields.tell rfl (Yields.tell rfl ?_)
          exact (ih _).imp fun final calls hLater => .kept hAsks hResult hLater

theorem yields_maskPatterns (patterns : List Pattern) (text : String) :
    Yields backend context allows engine.store (engine.maskPatterns patterns text)
      fun final calls => PatternsMasked patterns text calls final := by
  induction patterns generalizing text with
  | nil => exact Yields.done (.nil text)
  | cons pattern rest ih =>
      refine Yields.bind (engine.yields_maskMatches pattern (pattern.findAll text) text) ?_
      intro middle calls hFirst
      exact (ih middle).imp fun final more hLater => .cons hFirst hLater

theorem yields_maskBodyValue (body : Option Json) :
    Yields backend context allows engine.store (engine.maskBodyValue body)
      fun done calls => engine.BodyMasked body calls done := by
  by_cases hText : ∃ text, body = some (.str text)
  · obtain ⟨text, rfl⟩ := hText
    refine Yields.bind (engine.yields_maskPatterns engine.patterns.patterns text) ?_
    intro masked calls hPatterns
    refine Yields.done ?_
    rw [List.append_nil]
    exact .text hPatterns
  · have noText : ∀ text, body ≠ some (.str text) := fun text same => hText ⟨text, same⟩
    have hSame : engine.maskBodyValue body = .done (body, false) := by
      rw [maskBodyValue]
      · rfl
      · exact noText
    rw [hSame]
    exact Yields.done (.other noText)

theorem yields_maskRecord (record : LogRecord) :
    Yields backend context allows engine.store (engine.maskRecord record)
      fun done calls => ∃ run : RecordRun σ, calls = run.calls ∧ done.2 = run.outcome ∧
        engine.RecordMasked record run done.1 := by
  refine Yields.bind (engine.yields_maskAttributes record.attributes) ?_
  intro done calls hAttributes
  refine Yields.bind (engine.yields_maskBodyValue record.body) ?_
  rintro ⟨body, changed⟩ more hBody
  refine Yields.done ⟨⟨calls, more, done.masked, done.failed, changed⟩, ?_, rfl, hAttributes, hBody⟩
  rw [List.append_nil]
  rfl

theorem yields_maskRecords (summary : BatchSummary) (records : List LogRecord) :
    Yields backend context allows engine.store (engine.maskRecords summary records)
      fun done calls => ∃ runs : List (RecordRun σ), calls = runs.flatMap RecordRun.calls ∧
        done.2 = (runs.map RecordRun.outcome).foldl BatchSummary.absorb summary ∧
        engine.RecordsMasked records runs done.1 := by
  induction records generalizing summary with
  | nil => exact Yields.done ⟨[], rfl, rfl, .nil⟩
  | cons record rest ih =>
      refine Yields.bind (engine.yields_maskRecord record) ?_
      rintro ⟨masked, outcome⟩ _ ⟨run, rfl, rfl, hRecord⟩
      refine Yields.bind (ih (summary.absorb run.outcome)) ?_
      rintro ⟨others, total⟩ _ ⟨runs, rfl, rfl, hRecords⟩
      refine Yields.done ⟨run :: runs, ?_, rfl, .cons hRecord hRecords⟩
      rw [List.append_nil, List.flatMap_cons]

/-- A batch is masked by runs for its records, one after the other, and their outcomes add up to its
summary. -/
theorem yields_processBatch (batch : LogBatch) :
    Yields backend context allows engine.store (engine.processBatch batch)
      fun done calls => ∃ runs : List (RecordRun σ), calls = runs.flatMap RecordRun.calls ∧
        done.2 = (runs.map RecordRun.outcome).foldl BatchSummary.absorb .empty ∧
        engine.RecordsMasked batch.records runs done.1.records := by
  refine Yields.bind (engine.yields_maskRecords .empty batch.records) ?_
  rintro ⟨records, summary⟩ calls ⟨runs, rfl, rfl, hRecords⟩
  refine Yields.tell rfl (Yields.done ⟨runs, ?_, rfl, hRecords⟩)
  rw [List.append_nil]

end Runs

section EntriesOnly

variable (engine : MaskingEngine)

theorem tryMaskField_entriesOnly (value name : String) :
    (engine.tryMaskField value name).EntriesOnly :=
  (engine.store.getOrCreate_entriesOnly value (.ofField name)).bind fun _ => trivial

theorem maskAttributes_entriesOnly (attributes : List (String × Json)) :
    (engine.maskAttributes attributes).EntriesOnly := by
  induction attributes with
  | nil => trivial
  | cons head rest ih =>
      obtain ⟨name, value⟩ := head
      rw [maskAttributes]
      cases engine.shouldMask name with
      | false => exact ih.bind fun _ => trivial
      | true =>
          refine (engine.tryMaskField_entriesOnly (attributeText value) name).bind fun result => ?_
          cases result with
          | ok token => exact ih.bind fun _ => trivial
          | error error => exact ih.bind fun _ => trivial

theorem maskMatches_entriesOnly (pattern : Pattern) (found : List String) (text : String) :
    (engine.maskMatches pattern found text).EntriesOnly := by
  induction found generalizing text with
  | nil => trivial
  | cons found rest ih =>
      rw [maskMatches]
      refine (engine.store.getOrCreate_entriesOnly found pattern.category).bind fun result => ?_
      cases result with
      | ok token => exact ih _
      | error error => exact ih _

theorem maskPatterns_entriesOnly (patterns : List Pattern) (text : String) :
    (engine.maskPatterns patterns text).EntriesOnly := by
  induction patterns generalizing text with
  | nil => trivial
  | cons pattern rest ih =>
      refine (engine.maskMatches_entriesOnly pattern (pattern.findAll text) text).bind ?_
      exact fun middle => ih middle

theorem maskBodyValue_entriesOnly (body : Option Json) :
    (engine.maskBodyValue body).EntriesOnly := by
  rw [maskBodyValue.eq_def]
  split
  · exact (engine.maskPatterns_entriesOnly engine.patterns.patterns _).bind fun _ => trivial
  · trivial

theorem maskRecord_entriesOnly (record : LogRecord) : (engine.maskRecord record).EntriesOnly :=
  (engine.maskAttributes_entriesOnly record.attributes).bind fun _ =>
    (engine.maskBodyValue_entriesOnly record.body).bind fun _ => trivial

theorem maskRecords_entriesOnly (summary : BatchSummary) (records : List LogRecord) :
    (engine.maskRecords summary records).EntriesOnly := by
  induction records generalizing summary with
  | nil => trivial
  | cons record rest ih =>
      refine (engine.maskRecord_entriesOnly record).bind fun done => ?_
      exact (ih (summary.absorb done.2)).bind fun _ => trivial

theorem processBatch_entriesOnly (batch : LogBatch) : (engine.processBatch batch).EntriesOnly :=
  (engine.maskRecords_entriesOnly .empty batch.records).bind fun _ => trivial

end EntriesOnly

/-- An engine that masks the attribute `user` and all runs of digits in bodies, with tokens that
show what they stand for. -/
def sampleEngine : MaskingEngine where
  fields := ["user"]
  patterns :=
    match PatternSet.compile [⟨"digits", "[0-9]+", "N-"⟩] with
    | .ok patterns => patterns
    | .error _ => .empty
  store := ⟨"scripted", fun value category => category.tag ++ "-" ++ value, none⟩

def sampleBatch : LogBatch where
  records :=
    [⟨[("user", .str "alice"), ("host", .str "a")], some (.str "port 80")⟩,
     ⟨[("user", .str "bob")], none⟩,
     ⟨[("user", .nat 7)], some (.str "port 443")⟩]

end MaskingEngine

end Masking
