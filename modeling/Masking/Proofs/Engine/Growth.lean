import Masking.Proofs.Engine.Bodies
import Masking.Proofs.Text.Growth

/-! How long a masked body may be. A pass makes a text longer by one token for each character and
each gap at most, as long as it replaces a single match, or nothing but what has a character in it
that the pass has not put in itself. Each other replacement of a pass may do so once more: tokens
are searched for later matches too, and the empty match is found in all of them. -/

namespace Masking

open Store (Action Backend CallContext Ends World)
open Text (Replacement growthOf length_rewrite_le stale_eq_zero unmarked)

namespace MaskingEngine

section Passes

variable {σ : Type} {patterns : List Pattern} {text final : String} {passes : List (Pass σ)}
  {pass : Pass σ} {limit : Nat}

/-- How often a pass may multiply the length of its text. -/
def Pass.growth (pass : Pass σ) : Nat :=
  growthOf (replacements pass.calls) pass.scanned.toList

/-- A pass grows its text once at most when each value that it replaces has a character which none
of its tokens has. -/
theorem Pass.growth_le_one
    (foreign : ∀ step ∈ replacements pass.calls, ∃ c ∈ step.value,
      ∀ other ∈ replacements pass.calls, c ∉ other.token) : pass.growth ≤ 1 := by
  have hStale : Text.stale (replacements pass.calls) (unmarked pass.scanned.toList) = 0 := by
    apply @stale_eq_zero _ _ (fun c => ∃ other ∈ replacements pass.calls, c ∈ other.token)
    · simp [unmarked]
    · exact fun step hStep c hMember => ⟨step, hStep, hMember⟩
    · intro step hStep
      obtain ⟨c, hMember, hForeign⟩ := foreign step hStep
      refine ⟨c, hMember, ?_⟩
      rintro ⟨other, hOther, hIn⟩
      exact hForeign other hOther hIn
  rw [growth, growthOf, hStale]
  exact Nat.min_le_right _ _

theorem Pass.Masks.length_le (h : pass.Masks) (positive : 1 ≤ limit)
    (short : ∀ step ∈ replacements pass.calls, step.token.length ≤ limit) :
    pass.left.toList.length + 1 ≤
      (pass.scanned.toList.length + 1) * (limit + 1) ^ pass.growth := by
  rw [h.left_eq]
  exact length_rewrite_le positive short pass.scanned.toList

/-- What the passes make a text grow adds up. -/
theorem PassChain.length_le (h : PassChain patterns text passes final) (positive : 1 ≤ limit)
    (short : ∀ step ∈ replacements (passes.flatMap Pass.calls), step.token.length ≤ limit) :
    final.toList.length + 1 ≤
      (text.toList.length + 1) * (limit + 1) ^ (passes.map Pass.growth).sum := by
  induction h with
  | nil text => simp
  | @cons pass patterns passes final first _ ih =>
      rw [List.flatMap_cons, replacements_append] at short
      obtain ⟨hFirst, hLater⟩ := List.forall_mem_append.mp short
      calc final.toList.length + 1
          ≤ (pass.left.toList.length + 1) * (limit + 1) ^ (passes.map Pass.growth).sum := ih hLater
        _ ≤ (pass.scanned.toList.length + 1) * (limit + 1) ^ pass.growth *
              (limit + 1) ^ (passes.map Pass.growth).sum :=
            Nat.mul_le_mul_right _ (first.length_le positive hFirst)
        _ = (pass.scanned.toList.length + 1) *
              (limit + 1) ^ ((pass :: passes).map Pass.growth).sum := by
            rw [List.map_cons, List.sum_cons, Nat.pow_add, Nat.mul_assoc]

theorem PassChain.length_passes (h : PassChain patterns text passes final) :
    passes.length = patterns.length := by
  induction h with
  | nil => rfl
  | cons _ _ ih => rw [List.length_cons, List.length_cons, ih]

theorem sum_growth_le (once : ∀ pass ∈ passes, pass.growth ≤ 1) :
    (passes.map Pass.growth).sum ≤ passes.length := by
  induction passes with
  | nil => exact Nat.le_refl 0
  | cons pass passes ih =>
      obtain ⟨hPass, hRest⟩ := List.forall_mem_cons.mp once
      have hSum := ih hRest
      rw [List.map_cons, List.sum_cons, List.length_cons]
      omega

end Passes

section Bodies

variable {σ : Type} {backend : Backend σ} {context : CallContext} {allows : Action → Prop}
  {engine : MaskingEngine} {text : String} {world : World σ} {limit : Nat}

/-- How much longer a run makes a body. -/
structure BodyRun.Grows (run : BodyRun backend context allows engine text world)
    (limit : Nat) : Prop where
  /-- Each pass multiplies the length as often as it may. -/
  passes : run.final.length + 1 ≤
    (text.length + 1) * (limit + 1) ^ (run.passes.map Pass.growth).sum
  /-- When no pass may do so more than once, the length is multiplied once for each pattern. -/
  once : (∀ pass ∈ run.passes, pass.growth ≤ 1) →
    run.final.length + 1 ≤ (text.length + 1) * (limit + 1) ^ engine.patterns.patterns.length

/-- A body grows by no more than its passes allow when no token is longer than the limit. -/
theorem maskBody_grows (positive : 1 ≤ limit)
    (ends : Ends backend context allows (engine.maskBody text) world) :
    Nonempty (BodyRun backend context allows engine text world) ∧
      ∀ run : BodyRun backend context allows engine text world,
        (∀ step ∈ run.steps, step.token.length ≤ limit) → run.Grows limit := by
  refine ⟨BodyRun.exists_run ends, fun run short => ?_⟩
  have hLength := run.masked.length_le positive short
  rw [String.length_toList, String.length_toList] at hLength
  refine ⟨hLength, fun once => ?_⟩
  have hSum := sum_growth_le once
  rw [run.masked.length_passes] at hSum
  have hPower := Nat.pow_le_pow_right (Nat.succ_pos limit) hSum
  exact Nat.le_trans hLength (Nat.mul_le_mul_left _ hPower)

theorem maskBody_grows_letters :
    1 ≤ 3 ∧ Ends Store.Memory.backend .unbounded Action.ReadsSucceed
        (letterEngine.maskBody "80 and 443, then 80") ⟨0, .none, Store.Memory.empty 10⟩ ∧
      ∃ run : BodyRun Store.Memory.backend .unbounded Action.ReadsSucceed letterEngine
        "80 and 443, then 80" ⟨0, .none, Store.Memory.empty 10⟩,
        (∀ step ∈ run.steps, step.token.length ≤ 3) ∧ run.steps.length = 3 ∧
          (∀ pass ∈ run.passes, pass.growth ≤ 1) ∧ run.Grows 3 := by
  have hEngine : letterEngine.patterns.patterns.length = 1 ∧
      (∀ name ∈ letterEngine.fields, ':' ∉ name.toList) ∧
      ∀ pattern ∈ letterEngine.patterns.patterns, ':' ∉ pattern.name.toList ∧
        ((pattern.findAll "80 and 443, then 80").map fun found =>
          ⟨found.toList, (letterEngine.store.synthesizer found pattern.category).toList⟩) =
            ([⟨"80".toList, "ia".toList⟩, ⟨"443".toList, "eed".toList⟩,
              ⟨"80".toList, "ia".toList⟩] : List Replacement) := by
    decide +kernel
  generalize letterEngine = engine at hEngine ⊢
  obtain ⟨sole, fields, row⟩ := hEngine
  have ends := maskBody_ends engine "80 and 443, then 80"
    ⟨0, .none, Store.Memory.empty 10⟩ fun _ => Action.Succeeds.readsSucceed
  obtain ⟨⟨run⟩, hGrows⟩ := maskBody_grows (by decide : 1 ≤ 3) ends
  obtain ⟨hSteps, pattern, calls, hPasses, hOwn⟩ := run.steps_of_sole sole fields row
  have hShort : ∀ step ∈ run.steps, step.token.length ≤ 3 := by
    rw [hSteps]
    decide +kernel
  refine ⟨by decide, ends, run, hShort, by rw [hSteps]; rfl, ?_, hGrows run hShort⟩
  rw [hPasses, List.forall_mem_singleton]
  apply Pass.growth_le_one
  show ∀ step ∈ replacements calls, ∃ c ∈ step.value, ∀ other ∈ replacements calls, c ∉ other.token
  rw [hOwn]
  intro step hStep
  simp only [List.mem_cons, List.not_mem_nil, or_false] at hStep
  rcases hStep with rfl | rfl | rfl
  · exact ⟨'8', by decide, by decide⟩
  · exact ⟨'4', by decide, by decide⟩
  · exact ⟨'8', by decide, by decide⟩

/-- An engine whose pattern matches the empty text. -/
def padEngine : MaskingEngine where
  fields := []
  patterns :=
    match PatternSet.compile [⟨"pad", "x*", ""⟩] with
    | .ok patterns => patterns
    | .error _ => .empty
  store := ⟨"memory", Synthesizer.sha256 [("pad", "")], none⟩

/-- One character with an empty match on either side of it. The second replacement goes into the
tokens of the first one, and the text becomes as long as two passes could make it. -/
theorem maskBody_outgrows :
    Ends Store.Memory.backend .unbounded Action.ReadsSucceed (padEngine.maskBody "a")
        ⟨0, .none, Store.Memory.empty 10⟩ ∧
      ∃ run : BodyRun Store.Memory.backend .unbounded Action.ReadsSucceed padEngine "a"
        ⟨0, .none, Store.Memory.empty 10⟩,
        (∀ step ∈ run.steps, step.token.length ≤ 12) ∧
          ("a".length + 1) * (12 + 1) ^ padEngine.patterns.patterns.length <
            run.final.length + 1 ∧
          run.final.length + 1 = ("a".length + 1) * (12 + 1) ^ 2 := by
  have hEngine : padEngine.patterns.patterns.length = 1 ∧
      (∀ name ∈ padEngine.fields, ':' ∉ name.toList) ∧
      ∀ pattern ∈ padEngine.patterns.patterns, ':' ∉ pattern.name.toList ∧
        ((pattern.findAll "a").map fun found =>
          ⟨found.toList, (padEngine.store.synthesizer found pattern.category).toList⟩) =
            ([⟨[], "f563fcd3fb85".toList⟩, ⟨[], "f563fcd3fb85".toList⟩] : List Replacement) := by
    decide +kernel
  generalize padEngine = engine at hEngine ⊢
  obtain ⟨sole, fields, row⟩ := hEngine
  have ends := maskBody_ends engine "a"
    ⟨0, .none, Store.Memory.empty 10⟩ fun _ => Action.Succeeds.readsSucceed
  obtain ⟨run⟩ := BodyRun.exists_run ends
  obtain ⟨hSteps, _⟩ := run.steps_of_sole sole fields row
  have hFinal : run.final.length = 337 := by
    rw [← String.length_toList, run.final_eq, hSteps]
    decide +kernel
  refine ⟨ends, run, ?_, ?_, ?_⟩
  · rw [hSteps]
    decide +kernel
  · rw [sole, hFinal]
    decide
  · rw [hFinal]
    decide

end Bodies

end MaskingEngine

end Masking
