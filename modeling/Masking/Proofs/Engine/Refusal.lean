import Masking.Proofs.Engine.Interruption

/-! Batches that come too late. When the context is interrupted before the batch begins every call
is refused, so the batch is given back as it was and each listed attribute is counted as failed. -/

namespace Masking

open Store (Action Backend CallContext Responds World execute)

section Calls

variable {σ : Type} {backend : Backend σ} {context : CallContext} {allows : Action → Prop}
  {store : TokenStore}

/-- The call has given no token. -/
def TokenCall.Refused (call : TokenCall σ) : Prop :=
  ∃ error, call.result = .error error

theorem TokenCall.Made.refused {call : TokenCall σ}
    (made : call.Made backend context allows store)
    (interrupted : context.Interrupted call.before.tokens call.before.now) :
    call.Refused ∧ call.after = call.before := by
  have incomplete : ¬ call.ReadCompletes backend context := fun completes => completes.1 interrupted
  obtain ⟨error, hResult, _⟩ := made.settled.interrupted incomplete
  obtain ⟨events, run⟩ := made.run
  have only := store.getOrCreate_entriesOnly call.value call.category
  exact ⟨⟨error, hResult⟩, Store.execute_of_interrupted only run interrupted⟩

theorem CallChain.refused {world after : World σ} {calls : List (TokenCall σ)}
    (h : CallChain backend context allows store world calls after)
    (interrupted : context.Interrupted world.tokens world.now) :
    (∀ call ∈ calls, call.Refused) ∧ after = world := by
  induction h with
  | nil world => exact ⟨fun call member => absurd member List.not_mem_nil, rfl⟩
  | cons made _ ih =>
      obtain ⟨hRefused, hSame⟩ := made.refused interrupted
      rw [hSame] at ih
      obtain ⟨hRest, hAfter⟩ := ih interrupted
      exact ⟨List.forall_mem_cons.mpr ⟨hRefused, hRest⟩, hAfter⟩

end Calls

namespace MaskingEngine

section Relations

variable {σ : Type} {engine : MaskingEngine} {calls : List (TokenCall σ)}

theorem AttributesMasked.untouched {attributes : List (String × Json)} {done : MaskedAttributes}
    (h : engine.AttributesMasked attributes calls done)
    (refused : ∀ call ∈ calls, call.Refused) :
    done = ⟨attributes, 0, (engine.listed attributes).length⟩ := by
  induction h with
  | nil => rfl
  | unlisted unlisted _ ih =>
      rw [ih refused]
      simp [listed, unlisted]
  | masked _ _ result _ _ =>
      obtain ⟨error, hError⟩ := (List.forall_mem_cons.mp refused).1
      cases result.symm.trans hError
  | kept listed _ _ _ ih =>
      rw [ih (List.forall_mem_cons.mp refused).2]
      simp [MaskingEngine.listed, listed]

theorem MatchesMasked.untouched {pattern : Pattern} {found : List String} {text final : String}
    (h : MatchesMasked pattern found text calls final)
    (refused : ∀ call ∈ calls, call.Refused) : final = text := by
  induction h with
  | nil => rfl
  | replaced _ result _ _ =>
      obtain ⟨error, hError⟩ := (List.forall_mem_cons.mp refused).1
      cases result.symm.trans hError
  | kept _ _ _ ih => exact ih (List.forall_mem_cons.mp refused).2

theorem PatternsMasked.untouched {patterns : List Pattern} {text final : String}
    (h : PatternsMasked patterns text calls final)
    (refused : ∀ call ∈ calls, call.Refused) : final = text := by
  induction h with
  | nil => rfl
  | cons first _ ih =>
      obtain ⟨hFirst, hLater⟩ := List.forall_mem_append.mp refused
      exact (ih hLater).trans (first.untouched hFirst)

theorem BodyMasked.untouched {body : Option Json} {done : Option Json × Bool}
    (h : engine.BodyMasked body calls done) (refused : ∀ call ∈ calls, call.Refused) :
    done = (body, false) := by
  cases h with
  | text patterns =>
      rw [patterns.untouched refused]
      simp
  | other => rfl

theorem RecordMasked.untouched {record masked : LogRecord} {run : RecordRun σ}
    (h : engine.RecordMasked record run masked) (refused : ∀ call ∈ run.calls, call.Refused) :
    masked = record ∧ run.outcome = ⟨0, (engine.listed record.attributes).length, false⟩ := by
  obtain ⟨hAttributes, hBody⟩ := List.forall_mem_append.mp refused
  have hDone := h.attributes.untouched hAttributes
  have hSame := h.body.untouched hBody
  obtain ⟨attributes, body⟩ := masked
  obtain ⟨_, _, fieldsMasked, fieldsFailed, bodyMasked⟩ := run
  cases hDone
  cases hSame
  exact ⟨rfl, rfl⟩

theorem RecordsMasked.untouched {records masked : List LogRecord} {runs : List (RecordRun σ)}
    (h : engine.RecordsMasked records runs masked)
    (refused : ∀ call ∈ runs.flatMap RecordRun.calls, call.Refused) (summary : BatchSummary) :
    masked = records ∧ (runs.map RecordRun.outcome).foldl BatchSummary.absorb summary =
      ⟨summary.records + records.length, summary.fieldsMasked,
        summary.fieldsFailed +
          (records.flatMap fun record => engine.listed record.attributes).length,
        summary.bodiesMasked⟩ := by
  induction h generalizing summary with
  | nil => exact ⟨rfl, rfl⟩
  | cons first _ ih =>
      rw [List.flatMap_cons] at refused
      obtain ⟨hFirst, hLater⟩ := List.forall_mem_append.mp refused
      obtain ⟨rfl, hOutcome⟩ := first.untouched hFirst
      obtain ⟨rfl, hTotal⟩ := ih hLater (summary.absorb ⟨0, _, false⟩)
      refine ⟨rfl, ?_⟩
      rw [List.map_cons, List.foldl_cons, hOutcome, hTotal]
      simp only [BatchSummary.absorb, List.length_cons, List.flatMap_cons, List.length_append,
        BatchSummary.mk.injEq]
      refine ⟨?_, rfl, ?_, rfl⟩ <;> omega

end Relations

/-- What a refused batch counts: all its records, and each listed attribute as failed. -/
def refusedSummary (engine : MaskingEngine) (batch : LogBatch) : BatchSummary :=
  ⟨batch.records.length, 0,
    (batch.records.flatMap fun record => engine.listed record.attributes).length, 0⟩

/-- A batch that comes too late is left as it was, and so is the world. -/
theorem execute_processBatch_refused {σ : Type} {backend : Backend σ} {context : CallContext}
    {world : World σ} (engine : MaskingEngine) (batch : LogBatch)
    (responds : Responds backend context)
    (interrupted : context.Interrupted world.tokens world.now) :
    ∃ events, execute backend context (engine.processBatch batch) world =
      some ((batch, engine.refusedSummary batch), events, world) := by
  have ends := responds.ends (engine.processBatch_entriesOnly batch) world
  obtain ⟨⟨out, summary⟩, events, after, _, hRun, hChain, _, runs, rfl, hSummary, hRecords⟩ :=
    engine.yields_processBatch batch world ends
  obtain ⟨hRefused, rfl⟩ := hChain.refused interrupted
  obtain ⟨hSame, hTotal⟩ := hRecords.untouched hRefused .empty
  obtain ⟨records⟩ := batch
  obtain ⟨others⟩ := out
  cases hSame
  cases hSummary.trans hTotal
  refine ⟨events, ?_⟩
  rw [hRun]
  simp [refusedSummary, BatchSummary.empty]

end MaskingEngine

end Masking
