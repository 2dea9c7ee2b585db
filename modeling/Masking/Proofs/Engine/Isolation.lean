import Masking.Store.Scripted
import Masking.Proofs.Engine.Run
import Masking.Proofs.Store.Interruption

/-! Isolation of failures in a batch. A unit that fails stays exactly as it was, everything that is
not masked stays too, and the summary counts each unit once, whatever the backend does. -/

namespace Masking

open Store (Action Backend CallContext Ends Error Event Responds World execute)

namespace MaskingEngine

def listed (engine : MaskingEngine) (attributes : List (String × Json)) : List (String × Json) :=
  attributes.filter fun entry => engine.shouldMask entry.1

/-- What the attribute with a value holds after its call: the token as a text, or the value it had
before. -/
def held (value : Json) : Except Error String → Json
  | .ok token => .str token
  | .error _ => value

section Records

variable {σ : Type} {engine : MaskingEngine}

namespace AttributesMasked

variable {attributes : List (String × Json)} {calls : List (TokenCall σ)} {done : MaskedAttributes}

theorem names (h : engine.AttributesMasked attributes calls done) :
    done.attributes.map Prod.fst = attributes.map Prod.fst := by
  induction h with
  | nil => rfl
  | unlisted _ _ ih => simp [ih]
  | masked _ _ _ _ ih => simp [ih]
  | kept _ _ _ _ ih => simp [ih]

theorem asked (h : engine.AttributesMasked attributes calls done) :
    calls.map (fun call => (call.value, call.category)) =
      (engine.listed attributes).map fun entry =>
        (attributeText entry.2, (⟨"attribute_" ++ entry.1⟩ : Category)) := by
  induction h with
  | nil => rfl
  | unlisted unlisted _ ih => simpa [listed, unlisted] using ih
  | masked listed asks _ _ ih =>
      simpa [MaskingEngine.listed, listed, asks.1, asks.2, Category.ofField_eq] using ih
  | kept listed asks _ _ ih =>
      simpa [MaskingEngine.listed, listed, asks.1, asks.2, Category.ofField_eq] using ih

theorem unlisted_same (h : engine.AttributesMasked attributes calls done) {index : Nat}
    {name : String} {value : Json} (hAt : attributes[index]? = some (name, value))
    (hName : engine.shouldMask name = false) : done.attributes[index]? = some (name, value) := by
  induction h generalizing index with
  | nil => exact hAt
  | unlisted _ _ ih =>
      cases index with
      | zero => exact hAt
      | succ index => exact ih hAt
  | masked listed _ _ _ ih =>
      cases index with
      | zero =>
          cases hAt
          exact absurd (hName.symm.trans listed) Bool.false_ne_true
      | succ index => exact ih hAt
  | kept _ _ _ _ ih =>
      cases index with
      | zero => exact hAt
      | succ index => exact ih hAt

theorem listed_held (h : engine.AttributesMasked attributes calls done) :
    engine.listed done.attributes =
      List.zipWith (fun entry call => (entry.1, held entry.2 call.result))
        (engine.listed attributes) calls := by
  induction h with
  | nil => rfl
  | unlisted unlisted _ ih => simpa [listed, unlisted] using ih
  | masked listed _ result _ ih => simpa [MaskingEngine.listed, listed, result, held] using ih
  | kept listed _ result _ ih => simpa [MaskingEngine.listed, listed, result, held] using ih

theorem masked_count (h : engine.AttributesMasked attributes calls done) :
    done.masked = calls.countP fun call => call.result.toBool := by
  induction h with
  | nil => rfl
  | unlisted _ _ ih => exact ih
  | masked _ _ result _ ih => simp [result, Except.toBool, ih]
  | kept _ _ result _ ih => simp [result, Except.toBool, ih]

theorem failed_count (h : engine.AttributesMasked attributes calls done) :
    done.failed = calls.countP fun call => !call.result.toBool := by
  induction h with
  | nil => rfl
  | unlisted _ _ ih => exact ih
  | masked _ _ result _ ih => simp [result, Except.toBool, ih]
  | kept _ _ result _ ih => simp [result, Except.toBool, ih]

end AttributesMasked

namespace BodyMasked

variable {body : Option Json} {calls : List (TokenCall σ)} {done : Option Json × Bool}

theorem no_text_same (h : engine.BodyMasked body calls done) (noText : body.bind Json.str? = none) :
    done.1 = body ∧ calls = [] := by
  cases h with
  | text => simp [Json.str?] at noText
  | other => exact ⟨rfl, rfl⟩

theorem text_kept (h : engine.BodyMasked body calls done)
    (text : (body.bind Json.str?).isSome = true) : (done.1.bind Json.str?).isSome = true := by
  cases h with
  | text => rfl
  | other => exact text

theorem changed_iff (h : engine.BodyMasked body calls done) :
    done.2 = (done.1.bind Json.str? != body.bind Json.str?) := by
  cases h with
  | text => simp [Json.str?, bne]
  | other => simp

end BodyMasked

/-- A record is masked unit by unit: `run` holds the calls that were made for it and what was
counted, and every unit is as its own calls say. -/
structure RecordIsolated (engine : MaskingEngine) (record : LogRecord) (run : RecordRun σ)
    (masked : LogRecord) : Prop where
  names : masked.attributes.map Prod.fst = record.attributes.map Prod.fst
  unlisted : ∀ (index : Nat) (name : String) (value : Json),
    record.attributes[index]? = some (name, value) → engine.shouldMask name = false →
      masked.attributes[index]? = some (name, value)
  /-- Each listed attribute has one call, in order, for its text in the category that is named after
  it. -/
  asked : run.attributeCalls.map (fun call => (call.value, call.category)) =
    (engine.listed record.attributes).map fun entry =>
      (attributeText entry.2, (⟨"attribute_" ++ entry.1⟩ : Category))
  /-- Each listed attribute holds what its call answered, or else the value it had. -/
  listed : engine.listed masked.attributes =
    List.zipWith (fun entry call => (entry.1, held entry.2 call.result))
      (engine.listed record.attributes) run.attributeCalls
  noText : record.bodyText = none → masked.body = record.body ∧ run.bodyCalls = []
  text : record.bodyText.isSome = true → masked.bodyText.isSome = true
  fieldsMasked : run.outcome.fieldsMasked = run.attributeCalls.countP fun call => call.result.toBool
  fieldsFailed : run.outcome.fieldsFailed =
    run.attributeCalls.countP fun call => !call.result.toBool
  bodyMasked : run.outcome.bodyMasked = (masked.bodyText != record.bodyText)

theorem RecordMasked.isolated {record masked : LogRecord} {run : RecordRun σ}
    (h : engine.RecordMasked record run masked) : RecordIsolated engine record run masked where
  names := h.attributes.names
  unlisted _ _ _ := h.attributes.unlisted_same
  asked := h.attributes.asked
  listed := h.attributes.listed_held
  noText := h.body.no_text_same
  text := h.body.text_kept
  fieldsMasked := h.attributes.masked_count
  fieldsFailed := h.attributes.failed_count
  bodyMasked := h.body.changed_iff

namespace RecordsMasked

variable {records masked : List LogRecord} {runs : List (RecordRun σ)}

theorem length_eq (h : engine.RecordsMasked records runs masked) :
    masked.length = records.length ∧ runs.length = records.length := by
  induction h with
  | nil => exact ⟨rfl, rfl⟩
  | cons _ _ ih => exact ⟨congrArg (· + 1) ih.1, congrArg (· + 1) ih.2⟩

theorem at_index (h : engine.RecordsMasked records runs masked) {index : Nat} {record : LogRecord}
    (hAt : records[index]? = some record) :
    ∃ run done, runs[index]? = some run ∧ masked[index]? = some done ∧
      engine.RecordMasked record run done := by
  induction h generalizing index with
  | nil => cases hAt
  | cons first _ ih =>
      cases index with
      | zero =>
          cases hAt
          exact ⟨_, _, rfl, rfl, first⟩
      | succ index => exact ih hAt

theorem calls_length (h : engine.RecordsMasked records runs masked) :
    (runs.flatMap RecordRun.attributeCalls).length =
      (records.flatMap fun record => engine.listed record.attributes).length := by
  induction h with
  | nil => rfl
  | cons first _ ih =>
      have hAsked := congrArg List.length first.isolated.asked
      simp only [List.length_map] at hAsked
      simp only [List.flatMap_cons, List.length_append, ih, hAsked]

/-- The totals after the records are those before them and the counts over all their calls and
bodies. -/
theorem totals (h : engine.RecordsMasked records runs masked) (summary : BatchSummary) :
    (runs.map RecordRun.outcome).foldl BatchSummary.absorb summary =
      ⟨summary.records + records.length,
        summary.fieldsMasked +
          (runs.flatMap RecordRun.attributeCalls).countP (fun call => call.result.toBool),
        summary.fieldsFailed +
          (runs.flatMap RecordRun.attributeCalls).countP (fun call => !call.result.toBool),
        summary.bodiesMasked +
          (records.zip masked).countP fun pair => pair.2.bodyText != pair.1.bodyText⟩ := by
  induction h generalizing summary with
  | nil => rfl
  | cons first _ ih =>
      have hIsolated := first.isolated
      rw [List.map_cons, List.foldl_cons, ih]
      simp only [BatchSummary.absorb, hIsolated.fieldsMasked, hIsolated.fieldsFailed,
        hIsolated.bodyMasked, List.length_cons, List.flatMap_cons, List.countP_append,
        List.zip_cons_cons, List.countP_cons, BatchSummary.mk.injEq]
      refine ⟨?_, ?_, ?_, ?_⟩ <;> omega

end RecordsMasked

/-- A batch is masked record by record, and its summary counts every call for an attribute once and
every body whose text has changed. -/
structure BatchIsolated (engine : MaskingEngine) (batch : LogBatch) (runs : List (RecordRun σ))
    (out : LogBatch) (summary : BatchSummary) : Prop where
  lengths : out.records.length = batch.records.length ∧ runs.length = batch.records.length
  each : ∀ (index : Nat) (record : LogRecord), batch.records[index]? = some record →
    ∃ run masked, runs[index]? = some run ∧ out.records[index]? = some masked ∧
      RecordIsolated engine record run masked
  records : summary.records = batch.records.length
  fieldsMasked : summary.fieldsMasked =
    (runs.flatMap RecordRun.attributeCalls).countP fun call => call.result.toBool
  fieldsFailed : summary.fieldsFailed =
    (runs.flatMap RecordRun.attributeCalls).countP fun call => !call.result.toBool
  fields : summary.fieldsMasked + summary.fieldsFailed =
    (batch.records.flatMap fun record => engine.listed record.attributes).length
  bodiesMasked : summary.bodiesMasked =
    (batch.records.zip out.records).countP fun pair => pair.2.bodyText != pair.1.bodyText

theorem RecordsMasked.isolated {batch out : LogBatch} {runs : List (RecordRun σ)}
    {summary : BatchSummary} (h : engine.RecordsMasked batch.records runs out.records)
    (hSummary : summary = (runs.map RecordRun.outcome).foldl BatchSummary.absorb .empty) :
    BatchIsolated engine batch runs out summary := by
  rw [h.totals] at hSummary
  simp only [BatchSummary.empty, Nat.zero_add] at hSummary
  subst hSummary
  refine ⟨h.length_eq, ?_, rfl, rfl, rfl, ?_, rfl⟩
  · intro index record hAt
    obtain ⟨run, masked, hRunAt, hMaskedAt, hRecord⟩ := h.at_index hAt
    exact ⟨run, masked, hRunAt, hMaskedAt, hRecord.isolated⟩
  · have hSplit : (runs.flatMap RecordRun.attributeCalls).length = _ :=
      List.length_eq_countP_add_countP fun call : TokenCall σ => call.result.toBool
    simp only [Bool.not_eq_true, Bool.decide_eq_false] at hSplit
    rw [← h.calls_length]
    exact hSplit.symm

end Records

section Batches

variable {σ : Type} {backend : Backend σ} {context : CallContext} {engine : MaskingEngine}
  {batch : LogBatch} {world : World σ}

/-- Failures are isolated from each other. When every operation of a run ends, in whatever way, the
run makes no calls but those for its units, one after the other, and each unit of the batch is as
its own calls say. -/
theorem processBatch_isolated
    (ends : Ends backend context (fun _ => True) (engine.processBatch batch) world) :
    ∃ out summary events after, ∃ runs : List (RecordRun σ),
      execute backend context (engine.processBatch batch) world =
          some ((out, summary), events, after) ∧
        CallChain backend context (fun _ => True) engine.store world
          (runs.flatMap RecordRun.calls) after ∧
        events.countP Event.isLookup = (runs.flatMap RecordRun.calls).length ∧
        BatchIsolated engine batch runs out summary := by
  obtain ⟨⟨out, summary⟩, events, after, _, hRun, hChain, hCount, runs, rfl, hSummary, hRecords⟩ :=
    engine.yields_processBatch batch world ends
  exact ⟨out, summary, events, after, runs, hRun, hChain, hCount, hRecords.isolated hSummary⟩

/-- A rule by which looking for the token of `bob` is refused. -/
def refusal : Store.Scripted.Rule :=
  ⟨.get, some "bob", none, none, 0, false, some "refused", false, none⟩

theorem processBatch_isolated_refusal :
    Ends (Store.Scripted.backend "scripted") ⟨none, some 1000⟩ (fun _ => True)
        (sampleEngine.processBatch sampleBatch) ⟨0, .none, [], [refusal], []⟩ ∧
      ∃ out summary events after, ∃ runs : List (RecordRun Store.Scripted.State),
        execute (Store.Scripted.backend "scripted") ⟨none, some 1000⟩
            (sampleEngine.processBatch sampleBatch) ⟨0, .none, [], [refusal], []⟩ =
          some ((out, summary), events, after) ∧
        CallChain (Store.Scripted.backend "scripted") ⟨none, some 1000⟩ (fun _ => True)
          sampleEngine.store ⟨0, .none, [], [refusal], []⟩ (runs.flatMap RecordRun.calls) after ∧
        events.countP Event.isLookup = (runs.flatMap RecordRun.calls).length ∧
        BatchIsolated sampleEngine sampleBatch runs out summary :=
  have responds : Responds (Store.Scripted.backend "scripted") ⟨none, some 1000⟩ := Or.inl rfl
  have ends := responds.ends (sampleEngine.processBatch_entriesOnly sampleBatch) _
  ⟨ends, processBatch_isolated ends⟩

example :
    (execute (Store.Scripted.backend "scripted") .unbounded (sampleEngine.processBatch sampleBatch)
      ⟨0, .none, [], [refusal], []⟩).map (fun done => done.1.2) = some ⟨3, 2, 1, 2⟩ := by
  decide +kernel

end Batches

end MaskingEngine

end Masking
