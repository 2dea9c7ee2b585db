import Masking.Proofs.Engine.Isolation
import Masking.Proofs.TokenStore.Lawful

/-! Masking without a store. The reference asks the synthesizer for every token; a run over lawful
entries gives exactly what it gives, so a store never shows in the output. -/

namespace Masking

open Store (Action Backend CallContext Ends Entries Error Event Key Within World execute)

namespace MaskingEngine

section Reference

variable (engine : MaskingEngine)

/-- Attributes with the listed ones replaced by synthesized tokens. -/
def directAttributes (attributes : List (String × Json)) : List (String × Json) :=
  attributes.map fun entry =>
    if engine.shouldMask entry.1 then
      (entry.1, .str (engine.store.synthesizer (attributeText entry.2) ⟨"attribute_" ++ entry.1⟩))
    else entry

/-- A text in which every matched text is replaced by its synthesized token, one after the other. -/
def directMatches (pattern : Pattern) (found : List String) (text : String) : String :=
  found.foldl (fun text found => Text.replace text found
    (engine.store.synthesizer found pattern.category)) text

def directPatterns (patterns : List Pattern) (text : String) : String :=
  patterns.foldl (fun text pattern => engine.directMatches pattern (pattern.findAll text) text) text

def directBody : Option Json → Option Json
  | some (.str text) => some (.str (engine.directPatterns engine.patterns.patterns text))
  | body => body

def directRecord (record : LogRecord) : LogRecord :=
  ⟨engine.directAttributes record.attributes, engine.directBody record.body⟩

/-- What is done to a record: all listed attributes are replaced. -/
def directOutcome (record : LogRecord) : RecordOutcome :=
  ⟨(engine.listed record.attributes).length, 0,
    (engine.directRecord record).bodyText != record.bodyText⟩

def directBatch (batch : LogBatch) : LogBatch :=
  ⟨batch.records.map engine.directRecord⟩

def directSummary (batch : LogBatch) : BatchSummary :=
  (batch.records.map engine.directOutcome).foldl BatchSummary.absorb .empty

/-- No colon stands in the name of a listed attribute or of a pattern. -/
structure NoColons : Prop where
  fields : ∀ name ∈ engine.fields, ':' ∉ name.toList
  patterns : ∀ pattern ∈ engine.patterns.patterns, ':' ∉ pattern.name.toList

end Reference

section Calls

variable {σ : Type} {engine : MaskingEngine} {calls : List (TokenCall σ)}

theorem AttributesMasked.plain {attributes : List (String × Json)} {done : MaskedAttributes}
    (h : engine.AttributesMasked attributes calls done) (names : engine.NoColons) :
    ∀ call ∈ calls, call.category.Plain := by
  have listed_plain : ∀ {name call value}, engine.shouldMask name = true →
      TokenCall.Asks (σ := σ) call value (.ofField name) → call.category.Plain := by
    intro name call value listed asks
    rw [asks.2]
    exact Category.plain_ofField (names.fields name (List.contains_iff_mem.mp listed))
  induction h with
  | nil => exact fun call member => absurd member List.not_mem_nil
  | unlisted _ _ ih => exact ih
  | masked listed asks _ _ ih => exact List.forall_mem_cons.mpr ⟨listed_plain listed asks, ih⟩
  | kept listed asks _ _ ih => exact List.forall_mem_cons.mpr ⟨listed_plain listed asks, ih⟩

theorem MatchesMasked.plain {pattern : Pattern} {found : List String} {text final : String}
    (h : MatchesMasked pattern found text calls final) (name : ':' ∉ pattern.name.toList) :
    ∀ call ∈ calls, call.category.Plain := by
  induction h with
  | nil => exact fun call member => absurd member List.not_mem_nil
  | replaced asks _ _ ih => exact List.forall_mem_cons.mpr ⟨asks.2 ▸ name, ih⟩
  | kept asks _ _ ih => exact List.forall_mem_cons.mpr ⟨asks.2 ▸ name, ih⟩

theorem PatternsMasked.plain {patterns : List Pattern} {text final : String}
    (h : PatternsMasked patterns text calls final)
    (names : ∀ pattern ∈ patterns, ':' ∉ pattern.name.toList) :
    ∀ call ∈ calls, call.category.Plain := by
  induction h with
  | nil => exact fun call member => absurd member List.not_mem_nil
  | cons first _ ih =>
      obtain ⟨hName, hNames⟩ := List.forall_mem_cons.mp names
      exact List.forall_mem_append.mpr ⟨first.plain hName, ih hNames⟩

theorem BodyMasked.plain {body : Option Json} {done : Option Json × Bool}
    (h : engine.BodyMasked body calls done) (names : engine.NoColons) :
    ∀ call ∈ calls, call.category.Plain := by
  cases h with
  | text patterns => exact patterns.plain names.patterns
  | other => exact fun call member => absurd member List.not_mem_nil

theorem RecordsMasked.plain {records masked : List LogRecord} {runs : List (RecordRun σ)}
    (h : engine.RecordsMasked records runs masked) (names : engine.NoColons) :
    ∀ call ∈ runs.flatMap RecordRun.calls, call.category.Plain := by
  induction h with
  | nil => exact fun call member => absurd member List.not_mem_nil
  | cons first _ ih =>
      rw [List.flatMap_cons, RecordRun.calls]
      exact List.forall_mem_append.mpr
        ⟨List.forall_mem_append.mpr ⟨first.attributes.plain names, first.body.plain names⟩, ih⟩

def TokenDirect (engine : MaskingEngine) (call : TokenCall σ) : Prop :=
  call.result = .ok (engine.store.synthesizer call.value call.category)

theorem AttributesMasked.direct {attributes : List (String × Json)} {done : MaskedAttributes}
    (h : engine.AttributesMasked attributes calls done)
    (answers : ∀ call ∈ calls, engine.TokenDirect call) :
    done = ⟨engine.directAttributes attributes, (engine.listed attributes).length, 0⟩ := by
  induction h with
  | nil => rfl
  | unlisted unlisted _ ih =>
      rw [ih answers]
      simp [directAttributes, listed, unlisted]
  | masked listed asks result _ ih =>
      obtain ⟨hCall, hRest⟩ := List.forall_mem_cons.mp answers
      rw [TokenDirect, result, asks.1, asks.2] at hCall
      cases hCall
      rw [ih hRest]
      simp [directAttributes, MaskingEngine.listed, listed, Category.ofField_eq]
  | kept _ _ result _ _ =>
      have hCall := (List.forall_mem_cons.mp answers).1
      rw [TokenDirect, result] at hCall
      cases hCall

theorem MatchesMasked.direct {pattern : Pattern} {found : List String} {text final : String}
    (h : MatchesMasked pattern found text calls final)
    (answers : ∀ call ∈ calls, engine.TokenDirect call) :
    final = engine.directMatches pattern found text := by
  induction h with
  | nil => rfl
  | replaced asks result _ ih =>
      obtain ⟨hCall, hRest⟩ := List.forall_mem_cons.mp answers
      rw [TokenDirect, result, asks.1, asks.2] at hCall
      cases hCall
      exact ih hRest
  | kept _ result _ _ =>
      have hCall := (List.forall_mem_cons.mp answers).1
      rw [TokenDirect, result] at hCall
      cases hCall

theorem PatternsMasked.direct {patterns : List Pattern} {text final : String}
    (h : PatternsMasked patterns text calls final)
    (answers : ∀ call ∈ calls, engine.TokenDirect call) :
    final = engine.directPatterns patterns text := by
  induction h with
  | nil => rfl
  | cons first _ ih =>
      obtain ⟨hFirst, hLater⟩ := List.forall_mem_append.mp answers
      rw [ih hLater, first.direct hFirst]
      rfl

theorem BodyMasked.direct {body : Option Json} {done : Option Json × Bool}
    (h : engine.BodyMasked body calls done) (answers : ∀ call ∈ calls, engine.TokenDirect call) :
    done.1 = engine.directBody body := by
  cases h with
  | text patterns => exact congrArg (fun text => some (Json.str text)) (patterns.direct answers)
  | other noText =>
      rw [directBody]
      exact noText

theorem RecordMasked.direct {record masked : LogRecord} {run : RecordRun σ}
    (h : engine.RecordMasked record run masked)
    (answers : ∀ call ∈ run.calls, engine.TokenDirect call) :
    masked = engine.directRecord record ∧ run.outcome = engine.directOutcome record := by
  obtain ⟨hAttributes, hBody⟩ := List.forall_mem_append.mp answers
  have hDone := MaskedAttributes.mk.inj (h.attributes.direct hAttributes)
  have hMasked : masked = engine.directRecord record := by
    cases masked
    exact LogRecord.mk.injEq .. ▸ ⟨hDone.1, h.body.direct hBody⟩
  have hChanged := h.isolated.bodyMasked
  rw [hMasked] at hChanged
  refine ⟨hMasked, ?_⟩
  cases hOutcome : run.outcome
  simp only [hOutcome] at hDone hChanged
  rw [directOutcome, hDone.2.1, hDone.2.2, hChanged]

theorem RecordsMasked.direct {records masked : List LogRecord} {runs : List (RecordRun σ)}
    (h : engine.RecordsMasked records runs masked)
    (answers : ∀ call ∈ runs.flatMap RecordRun.calls, engine.TokenDirect call) :
    masked = records.map engine.directRecord ∧
      runs.map RecordRun.outcome = records.map engine.directOutcome := by
  induction h with
  | nil => exact ⟨rfl, rfl⟩
  | cons first _ ih =>
      rw [List.flatMap_cons] at answers
      obtain ⟨hFirst, hLater⟩ := List.forall_mem_append.mp answers
      obtain ⟨hRecord, hOutcome⟩ := first.direct hFirst
      obtain ⟨hRecords, hOutcomes⟩ := ih hLater
      simp only [List.map_cons, hRecord, hOutcome, hRecords, hOutcomes, and_self]

end Calls

theorem directSummary_perm (engine : MaskingEngine) {batch shuffled : LogBatch}
    (h : shuffled.records.Perm batch.records) :
    engine.directSummary shuffled = engine.directSummary batch := by
  refine (h.map engine.directOutcome).foldl_eq' ?_ BatchSummary.empty
  intro first _ second _ summary
  simp only [BatchSummary.absorb, BatchSummary.mk.injEq, true_and]
  exact ⟨Nat.add_right_comm _ _ _, Nat.add_right_comm _ _ _, Nat.add_right_comm _ _ _⟩

section Batches

variable {σ : Type} {backend : Backend σ} {context : CallContext} {entries : Entries σ}
  {engine : MaskingEngine} {batch : LogBatch} {world : World σ}

theorem execute_processBatch_direct (names : engine.NoColons)
    (holds : backend.Holds entries (Lawful engine.store.synthesizer))
    (within : Within entries (Lawful engine.store.synthesizer) world)
    (ends : Ends backend context Action.ReadsSucceed (engine.processBatch batch) world) :
    ∃ events after, execute backend context (engine.processBatch batch) world =
      some ((engine.directBatch batch, engine.directSummary batch), events, after) := by
  obtain ⟨⟨out, summary⟩, events, after, _, hRun, hChain, _, runs, rfl, hSummary, hRecords⟩ :=
    engine.yields_processBatch batch world ends
  have hAnswers := hChain.lawful holds within (hRecords.plain names)
  obtain ⟨hOut, hOutcomes⟩ := hRecords.direct hAnswers
  refine ⟨events, after, ?_⟩
  rw [hRun, directBatch, directSummary, ← hOut, ← hOutcomes, ← hSummary]

/-- A store never shows in the output. Over every backend whose entries are lawful, whatever else
it holds, loses or refuses to write, a run whose reads do not fail gives exactly the batch and the
totals of the reference. So every record is masked by itself; when the records come in another
order, their masked forms come in that order too, and the totals are the same. -/
theorem processBatch_storeless (names : engine.NoColons)
    (holds : backend.Holds entries (Lawful engine.store.synthesizer))
    (within : Within entries (Lawful engine.store.synthesizer) world)
    (ends : Ends backend context Action.ReadsSucceed (engine.processBatch batch) world) :
    (∃ events after, execute backend context (engine.processBatch batch) world =
        some ((engine.directBatch batch, engine.directSummary batch), events, after)) ∧
      (∀ index : Nat, (engine.directBatch batch).records[index]? =
        batch.records[index]?.map engine.directRecord) ∧
      ∀ (shuffled : LogBatch) (start : World σ), shuffled.records.Perm batch.records →
        Within entries (Lawful engine.store.synthesizer) start →
        Ends backend context Action.ReadsSucceed (engine.processBatch shuffled) start →
          ∃ out events after,
            execute backend context (engine.processBatch shuffled) start =
                some ((out, engine.directSummary batch), events, after) ∧
              (shuffled.records.zip out.records).Perm
                (batch.records.zip (engine.directBatch batch).records) := by
  refine ⟨execute_processBatch_direct names holds within ends, fun _ => List.getElem?_map, ?_⟩
  intro shuffled start hPerm hStart hEnds
  obtain ⟨events, after, hRun⟩ := execute_processBatch_direct names holds hStart hEnds
  rw [engine.directSummary_perm hPerm] at hRun
  refine ⟨engine.directBatch shuffled, events, after, hRun, ?_⟩
  simp only [directBatch, ← List.map_prod_left_eq_zip]
  exact hPerm.map fun record => (record, engine.directRecord record)

/-- A store in the process in which the token of `alice` is found. -/
def warmStore : Store.Memory.State :=
  Store.Memory.insert 0 (Store.Memory.empty 10)
    (Key.ofValue (.ofField "user") "alice").text "attribute_user-alice" none

theorem processBatch_storeless_warm :
    sampleEngine.NoColons ∧
      Store.Memory.backend.Holds Store.Memory.lookup (Lawful sampleEngine.store.synthesizer) ∧
      Within Store.Memory.lookup (Lawful sampleEngine.store.synthesizer) ⟨0, .none, warmStore⟩ ∧
      Ends Store.Memory.backend .unbounded Action.ReadsSucceed
        (sampleEngine.processBatch sampleBatch) ⟨0, .none, warmStore⟩ ∧
      ∃ events after, execute Store.Memory.backend .unbounded
          (sampleEngine.processBatch sampleBatch) ⟨0, .none, warmStore⟩ =
        some ((sampleEngine.directBatch sampleBatch, sampleEngine.directSummary sampleBatch),
          events, after) := by
  have names : sampleEngine.NoColons := ⟨by decide, by decide +kernel⟩
  have holds := Store.Memory.backend_holds (Lawful sampleEngine.store.synthesizer)
  have within : Within Store.Memory.lookup (Lawful sampleEngine.store.synthesizer)
      ⟨0, .none, warmStore⟩ := by
    intro key found h
    rcases Store.Memory.lookup_insert_of_some h with hEmpty | ⟨rfl, rfl⟩
    · cases hEmpty
    · have plain : (Category.ofField "user").Plain := Category.plain_ofField (by decide)
      exact lawful_forward sampleEngine.store.synthesizer plain
  have ends : Ends Store.Memory.backend .unbounded Action.ReadsSucceed
      (sampleEngine.processBatch sampleBatch) ⟨0, .none, warmStore⟩ :=
    Store.Memory.ends_unbounded (sampleEngine.processBatch_entriesOnly sampleBatch) _
  exact ⟨names, holds, within, ends, (processBatch_storeless names holds within ends).1⟩

end Batches

end MaskingEngine

end Masking
