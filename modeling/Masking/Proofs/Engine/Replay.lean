import Masking.Proofs.Engine.Run
import Masking.Proofs.TokenStore.Recall

/-! A batch masked again. The tokens that a run has used are left behind in the backend, so another
run over the same batch finds every one of them, in the same order, and only reads. -/

namespace Masking

open Store (Action Backend CallContext Ends Error Held Key Memory.State Memory.Permanent
  Memory.backend Memory.empty Memory.held Memory.insert OnlyReads Program World execute)

section Calls

variable {table : String → Option String}

theorem TokenStore.replays_getOrCreate (store : TokenStore) {value token : String}
    {category : Category} (there : table (Key.ofValue category value).text = some token) :
    Program.Replays table (store.getOrCreate value category) (.ok token) := by
  refine .get there ?_
  refine .tell (by simp) ?_
  refine .tell (by simp) ?_
  exact .tell (by simp) (.done _)

theorem TokenCall.Stands.there {σ : Type} {call : TokenCall σ} {value token : String}
    {category : Category} (stands : call.Stands table) (asks : call.Asks value category)
    (result : call.result = .ok token) : table (Key.ofValue category value).text = some token := by
  obtain ⟨found, hResult, hFound⟩ := stands
  rw [asks.1, asks.2] at hFound
  cases result.symm.trans hResult
  exact hFound

theorem TokenCall.Stands.ne_error {σ : Type} {call : TokenCall σ} {error : Error}
    (stands : call.Stands table) : call.result ≠ .error error := by
  intro hError
  obtain ⟨token, hResult, _⟩ := stands
  cases hResult.symm.trans hError

end Calls

namespace MaskingEngine

/-- The two engines mask the same attributes, and have the same patterns. Their stores may have
different synthesizers and lifetimes. -/
structure SameRules (engine other : MaskingEngine) : Prop where
  fields : ∀ name, name ∈ other.fields ↔ name ∈ engine.fields
  patterns : other.patterns = engine.patterns

section Replays

variable {σ : Type} {engine other : MaskingEngine} {calls : List (TokenCall σ)}
  {table : String → Option String}

theorem SameRules.shouldMask (same : engine.SameRules other) (name : String) :
    other.shouldMask name = engine.shouldMask name := by
  rw [Bool.eq_iff_iff]
  simp only [MaskingEngine.shouldMask, List.contains_iff_mem]
  exact same.fields name

theorem replays_tryMaskField {value name token : String} (engine : MaskingEngine)
    (there : table (Key.ofValue (.ofField name) value).text = some token) :
    Program.Replays table (engine.tryMaskField value name) (.ok token) :=
  (engine.store.replays_getOrCreate there).bind (.tell (by simp) (.done _))

theorem AttributesMasked.replays {attributes : List (String × Json)} {done : MaskedAttributes}
    (h : engine.AttributesMasked attributes calls done) (same : engine.SameRules other)
    (stand : ∀ call ∈ calls, call.Stands table) :
    Program.Replays table (other.maskAttributes attributes) done := by
  induction h with
  | nil => exact .done _
  | unlisted unlisted _ ih =>
      rw [maskAttributes, same.shouldMask, unlisted]
      exact (ih stand).bind (.done _)
  | masked listed asks result _ ih =>
      obtain ⟨hCall, hLater⟩ := List.forall_mem_cons.mp stand
      rw [maskAttributes, same.shouldMask, listed]
      refine (other.replays_tryMaskField (hCall.there asks result)).bind ?_
      exact (ih hLater).bind (.done _)
  | kept _ _ result _ _ => exact absurd result (List.forall_mem_cons.mp stand).1.ne_error

theorem MatchesMasked.replays {pattern : Pattern} {found : List String} {text final : String}
    (h : MatchesMasked pattern found text calls final) (other : MaskingEngine)
    (stand : ∀ call ∈ calls, call.Stands table) :
    Program.Replays table (other.maskMatches pattern found text) final := by
  induction h with
  | nil => exact .done _
  | replaced asks result _ ih =>
      obtain ⟨hCall, hLater⟩ := List.forall_mem_cons.mp stand
      rw [maskMatches]
      refine (other.store.replays_getOrCreate (hCall.there asks result)).bind ?_
      exact .tell (by simp) (ih hLater)
  | kept _ result _ _ => exact absurd result (List.forall_mem_cons.mp stand).1.ne_error

theorem PatternsMasked.replays {patterns : List Pattern} {text final : String}
    (h : PatternsMasked patterns text calls final) (other : MaskingEngine)
    (stand : ∀ call ∈ calls, call.Stands table) :
    Program.Replays table (other.maskPatterns patterns text) final := by
  induction h with
  | nil => exact .done _
  | cons first _ ih =>
      obtain ⟨hFirst, hLater⟩ := List.forall_mem_append.mp stand
      rw [maskPatterns]
      exact (first.replays other hFirst).bind (ih hLater)

theorem BodyMasked.replays {body : Option Json} {done : Option Json × Bool}
    (h : engine.BodyMasked body calls done) (same : engine.SameRules other)
    (stand : ∀ call ∈ calls, call.Stands table) :
    Program.Replays table (other.maskBodyValue body) done := by
  cases h with
  | text patterns =>
      rw [← same.patterns] at patterns
      exact (patterns.replays other stand).bind (.done _)
  | other noText =>
      rw [maskBodyValue]
      · exact .done _
      · exact noText

theorem RecordMasked.replays {record masked : LogRecord} {run : RecordRun σ}
    (h : engine.RecordMasked record run masked) (same : engine.SameRules other)
    (stand : ∀ call ∈ run.calls, call.Stands table) :
    Program.Replays table (other.maskRecord record) (masked, run.outcome) := by
  obtain ⟨hAttributes, hBody⟩ := List.forall_mem_append.mp stand
  refine (h.attributes.replays same hAttributes).bind ?_
  exact (h.body.replays same hBody).bind (.done _)

theorem RecordsMasked.replays {records masked : List LogRecord} {runs : List (RecordRun σ)}
    (h : engine.RecordsMasked records runs masked) (same : engine.SameRules other)
    (stand : ∀ call ∈ runs.flatMap RecordRun.calls, call.Stands table) (summary : BatchSummary) :
    Program.Replays table (other.maskRecords summary records)
      (masked, (runs.map RecordRun.outcome).foldl BatchSummary.absorb summary) := by
  induction h generalizing summary with
  | nil => exact .done _
  | @cons record run masked records runs others first _ ih =>
      rw [List.flatMap_cons] at stand
      obtain ⟨hFirst, hLater⟩ := List.forall_mem_append.mp stand
      refine (first.replays same hFirst).bind ?_
      exact (ih hLater (summary.absorb run.outcome)).bind (.done _)

end Replays

section Batches

variable {σ : Type} {backend : Backend σ} {steady : σ → Prop} {held : Held σ}
  {context : CallContext} {engine : MaskingEngine} {batch : LogBatch} {world : World σ}

/-- A batch that has been masked is masked the same again, by every engine with the same rules,
whatever its synthesizer. Over a backend that keeps what is written, and whatever it held at first,
the first run leaves all the tokens that it has used, and where they are held a second run only
reads. -/
theorem processBatch_replayed (keeps : backend.Keeps engine.store.ttl steady held)
    (hSteady : steady world.store)
    (ends : Ends backend context Action.Succeeds (engine.processBatch batch) world) :
    ∃ out summary events after,
      execute backend context (engine.processBatch batch) world =
          some ((out, summary), events, after) ∧
        steady after.store ∧
        ∀ (other : MaskingEngine) (later : World σ), engine.SameRules other →
          steady later.store → held later.store = held after.store →
            OnlyReads backend steady held (other.processBatch batch) later (out, summary) := by
  obtain ⟨⟨⟨records⟩, summary⟩, events, after, _, hRun, hChain, _, runs, rfl, rfl, hRecords⟩ :=
    engine.yields_processBatch batch world ends
  -- Answers stand in the entries that the whole run leaves, not only in those of their own moment.
  obtain ⟨hAfter, _, stand⟩ := hChain.kept keeps hSteady
  refine ⟨_, _, events, after, hRun, hAfter, fun other later same hLater hHeld => ?_⟩
  refine Program.Replays.onlyReads ?_ keeps hLater hHeld
  exact (hRecords.replays same stand .empty).bind (.tell (by simp) (.done _))

/-- A store in the process with a token of `alice` that no synthesizer in sight would make. -/
def foreignStore : Memory.State :=
  Memory.insert 0 (Memory.empty 10) (Key.ofValue (.ofField "user") "alice").text "someone" none

/-- An engine with the rules of the sample, whose store is another one. -/
def otherEngine : MaskingEngine :=
  { sampleEngine with store := ⟨"memory", fun _ _ => "nobody", some 1⟩ }

theorem processBatch_replayed_foreign :
    Memory.backend.Keeps sampleEngine.store.ttl Memory.Permanent Memory.held ∧
      Memory.Permanent foreignStore ∧
      Ends Memory.backend .unbounded Action.Succeeds (sampleEngine.processBatch sampleBatch)
        ⟨0, .none, foreignStore⟩ ∧
      sampleEngine.SameRules otherEngine ∧
      ∃ out summary events after,
        execute Memory.backend .unbounded (sampleEngine.processBatch sampleBatch)
            ⟨0, .none, foreignStore⟩ = some ((out, summary), events, after) ∧
          OnlyReads Memory.backend Memory.Permanent Memory.held
            (otherEngine.processBatch sampleBatch) ⟨1000, .none, after.store⟩ (out, summary) := by
  have keeps : Memory.backend.Keeps sampleEngine.store.ttl Memory.Permanent Memory.held :=
    Store.Memory.backend_keeps
  have hEmpty : Memory.Permanent (Memory.empty 10) :=
    fun entry member => absurd member List.not_mem_nil
  have hSteady : Memory.Permanent foreignStore := hEmpty.insert 0 _ "someone"
  have ends : Ends Memory.backend .unbounded Action.Succeeds
      (sampleEngine.processBatch sampleBatch) ⟨0, .none, foreignStore⟩ :=
    Store.Memory.ends_succeeding (sampleEngine.processBatch_entriesOnly sampleBatch) _
  have same : sampleEngine.SameRules otherEngine := ⟨fun _ => Iff.rfl, rfl⟩
  obtain ⟨out, summary, events, after, hRun, hAfter, again⟩ :=
    processBatch_replayed keeps hSteady ends
  exact ⟨keeps, hSteady, ends, same, out, summary, events, after, hRun,
    again otherEngine ⟨1000, .none, after.store⟩ same hAfter rfl⟩

end Batches

end MaskingEngine

end Masking
