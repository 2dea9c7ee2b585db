import Masking.Proofs.Engine.Passes
import Masking.Proofs.Engine.Storeless
import Masking.Proofs.Regex.Segments

/-! Masking of a body as a row of replacements, one for each match whose call has given a token.
What may still be found in the end, and which tokens are there, is told from the row alone: a masked
value comes back only through a token that overlaps it, and a token is lost only to a value that
overlaps it or the value it stands for. -/

namespace Masking

open Store (Action Backend CallContext Ends Entries Event Within World execute)
open Text (LeftAlone Overlaps Replacement exists_overlaps_of_replaced infix_replaceAll_own
  infix_rewrite infix_rewrite_token replaceAll rewrite rewrite_append rewrite_cons)

section Calls

variable {σ : Type}

/-- What a call replaces in the text. One that failed replaces nothing. -/
def TokenCall.replacement (call : TokenCall σ) : Option Replacement :=
  match call.result with
  | .ok token => some ⟨call.value.toList, token.toList⟩
  | .error _ => none

/-- The replacements that calls make in a text, in order. -/
def replacements (calls : List (TokenCall σ)) : List Replacement :=
  calls.filterMap TokenCall.replacement

theorem mem_replacements {calls : List (TokenCall σ)} {step : Replacement} :
    step ∈ replacements calls ↔ ∃ call ∈ calls, ∃ token,
      call.result = .ok token ∧ (⟨call.value.toList, token.toList⟩ : Replacement) = step := by
  rw [replacements, List.mem_filterMap]
  refine exists_congr fun call => and_congr_right fun _ => ?_
  rw [TokenCall.replacement]
  cases call.result <;> simp

theorem replacements_append (calls more : List (TokenCall σ)) :
    replacements (calls ++ more) = replacements calls ++ replacements more :=
  List.filterMap_append

theorem replacements_cons {call : TokenCall σ} {token : String} (result : call.result = .ok token)
    (calls : List (TokenCall σ)) :
    replacements (call :: calls) = ⟨call.value.toList, token.toList⟩ :: replacements calls :=
  List.filterMap_cons_some (by rw [TokenCall.replacement, result])

theorem replacements_cons_failed {call : TokenCall σ} {error : Store.Error}
    (result : call.result = .error error) (calls : List (TokenCall σ)) :
    replacements (call :: calls) = replacements calls :=
  List.filterMap_cons_none (by rw [TokenCall.replacement, result])

theorem toList_applied (calls : List (TokenCall σ)) (text : String) :
    (calls.foldl TokenCall.applied text).toList = rewrite (replacements calls) text.toList := by
  induction calls generalizing text with
  | nil => rfl
  | cons call rest ih =>
      rw [List.foldl_cons, ih]
      cases hResult : call.result with
      | error error => simp only [replacements_cons_failed hResult, TokenCall.applied, hResult]
      | ok token =>
          simp only [replacements_cons hResult, rewrite_cons, TokenCall.applied, hResult,
            Text.replace, String.toList_ofList]

theorem TokenCall.Made.exists_token {backend : Backend σ} {context : CallContext}
    {store : TokenStore} {call : TokenCall σ}
    (made : call.Made backend context Action.ReadsSucceed store) :
    ∃ token, call.result = .ok token := by
  obtain ⟨events, hRun⟩ := made.run
  obtain ⟨found, middle, hEnds, hAllowed, _⟩ := made.ends
  have hAnswers := (TokenStore.answers_of_execute hRun).1
  generalize call.result = result at hAnswers ⊢
  generalize call.after = after at hAnswers
  cases hAnswers with
  | failed read =>
      cases hEnds.symm.trans read
      exact False.elim hAllowed
  | hit read => exact ⟨_, rfl⟩
  | miss read first second => exact ⟨_, rfl⟩

theorem map_value_replacements {calls : List (TokenCall σ)}
    (answered : ∀ call ∈ calls, ∃ token, call.result = .ok token) :
    (replacements calls).map Replacement.value = calls.map fun call => call.value.toList := by
  induction calls with
  | nil => rfl
  | cons call rest ih =>
      obtain ⟨⟨token, hToken⟩, hRest⟩ := List.forall_mem_cons.mp answered
      rw [replacements_cons hToken, List.map_cons, List.map_cons, ih hRest]

end Calls

namespace MaskingEngine

/-- A pass over a body: a pattern, the text that it searches, the calls for its matches, and what
they leave of the text. -/
structure Pass (σ : Type) where
  pattern : Pattern
  scanned : String
  calls : List (TokenCall σ)
  left : String

section Passes

variable {σ : Type}

/-- The calls of the pass are those for the matches of its pattern. -/
def Pass.Masks (pass : Pass σ) : Prop :=
  MatchesMasked pass.pattern (pass.pattern.findAll pass.scanned) pass.scanned pass.calls pass.left

/-- Passes of patterns in order, each over the text that the one before it has left. -/
inductive PassChain : List Pattern → String → List (Pass σ) → String → Prop
  | nil (text : String) : PassChain [] text [] text
  | cons {pass : Pass σ} {patterns : List Pattern} {passes : List (Pass σ)} {final : String}
      (first : pass.Masks) (later : PassChain patterns pass.left passes final) :
      PassChain (pass.pattern :: patterns) pass.scanned (pass :: passes) final

variable {patterns : List Pattern} {text final : String} {calls : List (TokenCall σ)}
  {passes : List (Pass σ)} {pass : Pass σ}

theorem PatternsMasked.exists_passes (h : PatternsMasked patterns text calls final) :
    ∃ passes : List (Pass σ), calls = passes.flatMap Pass.calls ∧
      PassChain patterns text passes final := by
  induction h with
  | nil text => exact ⟨[], rfl, .nil text⟩
  | @cons pattern rest text calls middle more final first _ ih =>
      obtain ⟨passes, rfl, hChain⟩ := ih
      let pass : Pass σ := ⟨pattern, text, calls, middle⟩
      have hMasks : pass.Masks := first
      exact ⟨pass :: passes, rfl, .cons hMasks hChain⟩

theorem MatchesMasked.values {pattern : Pattern} {found : List String}
    (h : MatchesMasked pattern found text calls final) : calls.map TokenCall.value = found := by
  have hAsked := congrArg (List.map Prod.fst) h.asked
  simpa [passAsks, Function.comp_def] using hAsked

theorem MatchesMasked.replacements_eq {engine : MaskingEngine} {pattern : Pattern}
    {found : List String} (h : MatchesMasked pattern found text calls final)
    (answers : ∀ call ∈ calls, engine.TokenDirect call) :
    replacements calls = found.map fun found =>
      ⟨found.toList, (engine.store.synthesizer found pattern.category).toList⟩ := by
  induction h with
  | nil => rfl
  | replaced asks result _ ih =>
      obtain ⟨hCall, hRest⟩ := List.forall_mem_cons.mp answers
      rw [TokenDirect, result, asks.1, asks.2] at hCall
      cases hCall
      rw [replacements_cons result, ih hRest, asks.1, List.map_cons]
  | kept _ result _ _ =>
      have hCall := (List.forall_mem_cons.mp answers).1
      rw [TokenDirect, result] at hCall
      cases hCall

theorem Pass.Masks.left_eq (h : pass.Masks) :
    pass.left.toList = rewrite (replacements pass.calls) pass.scanned.toList := by
  rw [← toList_applied, ← MatchesMasked.applied h]

theorem PassChain.masks (h : PassChain patterns text passes final) :
    ∀ pass ∈ passes, pass.Masks := by
  induction h with
  | nil => exact fun pass member => absurd member List.not_mem_nil
  | cons first _ ih => exact List.forall_mem_cons.mpr ⟨first, ih⟩

theorem PassChain.patternsMasked (h : PassChain patterns text passes final) :
    PatternsMasked patterns text (passes.flatMap Pass.calls) final := by
  induction h with
  | nil text => exact .nil text
  | cons first _ ih =>
      rw [List.flatMap_cons]
      exact .cons first ih

end Passes

theorem maskBody_entriesOnly (engine : MaskingEngine) (text : String) :
    (engine.maskBody text).EntriesOnly :=
  engine.maskPatterns_entriesOnly engine.patterns.patterns text

theorem maskBody_ends {allows : Action → Prop} (engine : MaskingEngine) (text : String)
    (world : World Store.Memory.State)
    (larger : ∀ action : Action, action.Succeeds → allows action) :
    Ends Store.Memory.backend .unbounded allows (engine.maskBody text) world :=
  (Store.Memory.ends_succeeding (engine.maskBody_entriesOnly text) world).mono larger

/-- An execution of an engine over a body, with the passes that it has made. -/
structure BodyRun {σ : Type} (backend : Backend σ) (context : CallContext)
    (allows : Action → Prop) (engine : MaskingEngine) (text : String) (world : World σ) where
  final : String
  events : List Event
  after : World σ
  passes : List (Pass σ)
  executed : execute backend context (engine.maskBody text) world = some (final, events, after)
  chain : CallChain backend context allows engine.store world (passes.flatMap Pass.calls) after
  masked : PassChain engine.patterns.patterns text passes final

namespace BodyRun

variable {σ : Type} {backend : Backend σ} {context : CallContext} {allows : Action → Prop}
  {engine : MaskingEngine} {text : String} {world : World σ}

/-- The replacements of all passes, in the order in which they were made. -/
def steps (run : BodyRun backend context allows engine text world) : List Replacement :=
  replacements (run.passes.flatMap Pass.calls)

/-- When every operation ends there is a run, and it returns a text. -/
theorem exists_run (ends : Ends backend context allows (engine.maskBody text) world) :
    Nonempty (BodyRun backend context allows engine text world) := by
  obtain ⟨final, events, after, calls, hRun, hChain, _, hMasked⟩ :=
    engine.yields_maskPatterns engine.patterns.patterns text world ends
  obtain ⟨passes, rfl, hPasses⟩ := hMasked.exists_passes
  exact ⟨⟨final, events, after, passes, hRun, hChain, hPasses⟩⟩

theorem final_eq (run : BodyRun backend context allows engine text world) :
    run.final.toList = rewrite run.steps text.toList := by
  rw [run.masked.patternsMasked.applied, toList_applied, steps]

/-- A single pattern makes a single pass. -/
theorem exists_calls {pattern : Pattern} (sole : engine.patterns.patterns = [pattern])
    (run : BodyRun backend context allows engine text world) :
    ∃ calls, run.passes = [⟨pattern, text, calls, run.final⟩] ∧ run.steps = replacements calls ∧
      MatchesMasked pattern (pattern.findAll text) text calls run.final := by
  have hMasked := run.masked
  rw [steps]
  generalize run.passes = passes, run.final = final at hMasked ⊢
  rw [sole] at hMasked
  obtain _ | ⟨first, later⟩ := hMasked
  cases later
  exact ⟨_, rfl, by rw [List.flatMap_singleton], first⟩

/-- What a single pattern replaces when the store in the process holds nothing. -/
theorem steps_of_empty {pattern : Pattern} {instant : Store.Instant} {tokens : Store.Tokens}
    {capacity : Nat} (sole : engine.patterns.patterns = [pattern]) (names : engine.NoColons)
    (run : BodyRun Store.Memory.backend context Action.ReadsSucceed engine text
      ⟨instant, tokens, Store.Memory.empty capacity⟩) :
    run.steps = (pattern.findAll text).map fun found =>
      ⟨found.toList, (engine.store.synthesizer found pattern.category).toList⟩ := by
  have within : Within Store.Memory.lookup (Lawful engine.store.synthesizer)
      ⟨instant, tokens, Store.Memory.empty capacity⟩ := fun key found h => by cases h
  have answers := run.chain.lawful (Store.Memory.backend_holds _) within
    (run.masked.patternsMasked.plain names.patterns)
  obtain ⟨calls, hPasses, hSteps, hMasked⟩ := run.exists_calls sole
  rw [hPasses, List.flatMap_singleton] at answers
  rw [hSteps, hMasked.replacements_eq answers]

/-- The same with what is asked of the engine as facts that can be computed. -/
theorem steps_of_sole {steps : List Replacement} {instant : Store.Instant} {tokens : Store.Tokens}
    {capacity : Nat} (sole : engine.patterns.patterns.length = 1)
    (fields : ∀ name ∈ engine.fields, ':' ∉ name.toList)
    (row : ∀ pattern ∈ engine.patterns.patterns, ':' ∉ pattern.name.toList ∧
      ((pattern.findAll text).map fun found =>
        ⟨found.toList, (engine.store.synthesizer found pattern.category).toList⟩) = steps)
    (run : BodyRun Store.Memory.backend context Action.ReadsSucceed engine text
      ⟨instant, tokens, Store.Memory.empty capacity⟩) :
    run.steps = steps ∧
      ∃ pattern calls, run.passes = [⟨pattern, text, calls, run.final⟩] ∧
        replacements calls = steps := by
  obtain ⟨pattern, hSole⟩ := List.length_eq_one_iff.mp sole
  obtain ⟨hName, hRow⟩ := row pattern (hSole ▸ List.mem_singleton_self _)
  have names : engine.NoColons := ⟨fields, by simpa [hSole] using hName⟩
  have hSteps := (run.steps_of_empty hSole names).trans hRow
  obtain ⟨calls, hPasses, hOwn, _⟩ := run.exists_calls hSole
  exact ⟨hSteps, pattern, calls, hPasses, hOwn.symm.trans hSteps⟩

end BodyRun

section Survival

variable {σ : Type} {backend : Backend σ} {context : CallContext} {engine : MaskingEngine}
  {text : String} {world : World σ}

/-- What may still be found of the values that were replaced in a run. -/
structure BodyRun.Survives {allows : Action → Prop}
    (run : BodyRun backend context allows engine text world) : Prop where
  /-- A value is found only when a token that overlaps it was put in, by its own replacement or by
  a later one. -/
  through : ∀ {earlier step later}, run.steps = earlier ++ step :: later →
    step.value <:+: run.final.toList →
    ∃ before inserted after, run.steps = before ++ inserted :: after ∧
      earlier.length ≤ before.length ∧ inserted.value <:+: rewrite before text.toList ∧
      Overlaps inserted.token step.value
  /-- A value that no token overlaps is gone. -/
  gone : ∀ step ∈ run.steps, (∀ inserted ∈ run.steps, ¬ Overlaps inserted.token step.value) →
    ¬ step.value <:+: run.final.toList

theorem BodyRun.exists_inserted {allows : Action → Prop}
    (run : BodyRun backend context allows engine text world) {earlier later : List Replacement}
    {step : Replacement} (steps : run.steps = earlier ++ step :: later)
    (survives : step.value <:+: run.final.toList) :
    ∃ before inserted after, run.steps = before ++ inserted :: after ∧
      earlier.length ≤ before.length ∧ inserted.value <:+: rewrite before text.toList ∧
      Overlaps inserted.token step.value := by
  rw [run.final_eq, steps] at survives
  obtain ⟨before, inserted, after, hRow, hLater, hValue, hToken⟩ :=
    exists_overlaps_of_replaced survives
  exact ⟨before, inserted, after, steps.trans hRow, hLater, hValue, hToken⟩

/-- A masked value comes back only through a token that overlaps it, whatever the patterns find and
whichever calls fail. -/
theorem maskBody_survivors
    (ends : Ends backend context (fun _ => True) (engine.maskBody text) world) :
    ∃ run : BodyRun backend context (fun _ => True) engine text world, run.Survives := by
  obtain ⟨run⟩ := BodyRun.exists_run ends
  refine ⟨run, fun hSteps survives => run.exists_inserted hSteps survives, ?_⟩
  intro step hStep apart survives
  obtain ⟨earlier, later, hSteps⟩ := List.append_of_mem hStep
  obtain ⟨before, inserted, after, hRow, _, _, hToken⟩ := run.exists_inserted hSteps survives
  have hInserted : inserted ∈ run.steps := hRow ▸ List.mem_append_right before List.mem_cons_self
  exact apart inserted hInserted hToken

theorem maskBody_survivors_port :
    Ends Store.Memory.backend .unbounded (fun _ => True) (sampleEngine.maskBody "port 80")
        ⟨0, .none, Store.Memory.empty 10⟩ ∧
      ∃ run : BodyRun Store.Memory.backend .unbounded (fun _ => True) sampleEngine "port 80"
        ⟨0, .none, Store.Memory.empty 10⟩, run.Survives := by
  -- What the engine is plays no part, and its patterns are not to be compiled at every step.
  generalize sampleEngine = engine
  have ends := maskBody_ends engine "port 80" ⟨0, .none, Store.Memory.empty 10⟩
    (fun _ _ => trivial : ∀ action : Action, action.Succeeds → True)
  exact ⟨ends, maskBody_survivors ends⟩

end Survival

section Tokens

/-- The matches of a pass have tokens. A token stands in what the pass leaves if its value, or the
token itself, is there when its turn comes and no later turn disturbs the token; so it does in any
case when no other matched text of the pass overlaps the value or the token. -/
structure Pass.TokensKept {σ : Type} (pass : Pass σ) : Prop where
  asked : pass.calls.map TokenCall.value = pass.pattern.findAll pass.scanned
  answered : ∀ call ∈ pass.calls, ∃ token, call.result = .ok token
  kept : ∀ {earlier call later token}, pass.calls = earlier ++ call :: later →
    call.result = .ok token →
    (call.value.toList <:+: rewrite (replacements earlier) pass.scanned.toList ∨
      token.toList <:+: rewrite (replacements earlier) pass.scanned.toList) →
    LeftAlone token.toList (replacements later)
      (rewrite (replacements (earlier ++ [call])) pass.scanned.toList) →
    token.toList <:+: pass.left.toList
  apart : ∀ {call token}, call ∈ pass.calls → call.result = .ok token →
    (∀ other ∈ pass.calls, other.value = call.value ∧ other.result = .ok token ∨
      ¬ Overlaps other.value.toList call.value.toList ∧
        ¬ Overlaps other.value.toList token.toList) →
    token.toList <:+: pass.left.toList

variable {σ : Type} {backend : Backend σ} {context : CallContext} {engine : MaskingEngine}
  {text : String} {world : World σ} {pass : Pass σ}

theorem Pass.Masks.tokensKept (h : pass.Masks)
    (answered : ∀ call ∈ pass.calls, ∃ token, call.result = .ok token) : pass.TokensKept where
  asked := MatchesMasked.values h
  answered := answered
  kept := by
    intro earlier call later token hCalls hResult hStands alone
    have hTurn : rewrite (replacements (earlier ++ [call])) pass.scanned.toList =
        replaceAll call.value.toList token.toList
          (rewrite (replacements earlier) pass.scanned.toList) := by
      rw [replacements_append, rewrite_append, replacements_cons hResult]
      rfl
    rw [h.left_eq, hCalls, List.append_cons, replacements_append, rewrite_append]
    refine infix_rewrite ?_ alone
    rw [hTurn]
    exact infix_replaceAll_own hStands
  apart := by
    intro call token hMember hResult hApart
    rw [h.left_eq]
    have hScanned : call.value.toList <:+: pass.scanned.toList :=
      Regex.infix_of_mem_findAll (MatchesMasked.values h ▸ List.mem_map_of_mem hMember)
    refine infix_rewrite_token (mem_replacements.mpr ⟨call, hMember, token, hResult, rfl⟩)
      hScanned fun step hStep => ?_
    obtain ⟨other, hOther, last, hLast, rfl⟩ := mem_replacements.mp hStep
    refine (hApart other hOther).imp_left fun ⟨hValue, hToken⟩ => ?_
    cases hLast.symm.trans hToken
    rw [hValue]

/-- Over a store whose reads succeed, tokens are lost to other matched texts only. -/
theorem maskBody_tokens
    (ends : Ends backend context Action.ReadsSucceed (engine.maskBody text) world) :
    ∃ run : BodyRun backend context Action.ReadsSucceed engine text world,
      ∀ pass ∈ run.passes, pass.TokensKept := by
  obtain ⟨run⟩ := BodyRun.exists_run ends
  refine ⟨run, fun pass hPass => (run.masked.masks pass hPass).tokensKept fun call hCall => ?_⟩
  exact (run.chain.made call (List.mem_flatMap_of_mem hPass hCall)).exists_token

/-- An engine that masks numbers with dots between them as addresses, and nothing else. -/
def addressEngine : MaskingEngine where
  fields := []
  patterns :=
    match PatternSet.compile [⟨"ipv4", "[0-9]+(?:[.][0-9]+)+", "IP-"⟩] with
    | .ok patterns => patterns
    | .error _ => .empty
  store := ⟨"memory", Synthesizer.sha256 [("ipv4", "IP-")], none⟩

theorem maskBody_tokens_addresses :
    Ends Store.Memory.backend .unbounded Action.ReadsSucceed
        (addressEngine.maskBody "1.1.1.11 1.1.1.1") ⟨0, .none, Store.Memory.empty 10⟩ ∧
      ∃ run : BodyRun Store.Memory.backend .unbounded Action.ReadsSucceed addressEngine
        "1.1.1.11 1.1.1.1" ⟨0, .none, Store.Memory.empty 10⟩,
        ∀ pass ∈ run.passes, pass.TokensKept := by
  generalize addressEngine = engine
  have ends := maskBody_ends engine "1.1.1.11 1.1.1.1" ⟨0, .none, Store.Memory.empty 10⟩
    fun _ => Action.Succeeds.readsSucceed
  exact ⟨ends, maskBody_tokens ends⟩

/-- The first of two addresses is a part of the second one, which is therefore gone when its turn
comes. Its token is not in the masked text. -/
theorem maskBody_loses_token :
    Ends Store.Memory.backend .unbounded Action.Succeeds
        (addressEngine.maskBody "1.1.1.1 1.1.1.11") ⟨0, .none, Store.Memory.empty 10⟩ ∧
      ∃ run : BodyRun Store.Memory.backend .unbounded Action.ReadsSucceed addressEngine
        "1.1.1.1 1.1.1.11" ⟨0, .none, Store.Memory.empty 10⟩,
        ∃ pass ∈ run.passes, ∃ call ∈ pass.calls, ∃ token, call.value = "1.1.1.11" ∧
          call.result = .ok token ∧ ¬ token.toList <:+: pass.left.toList := by
  have hPatterns : addressEngine.patterns.patterns.length = 1 ∧
      ∀ pattern ∈ addressEngine.patterns.patterns, ':' ∉ pattern.name.toList ∧
        pattern.findAll "1.1.1.1 1.1.1.11" = ["1.1.1.1", "1.1.1.11"] ∧
        addressEngine.store.synthesizer "1.1.1.1" pattern.category = "10.174.102.120" ∧
        addressEngine.store.synthesizer "1.1.1.11" pattern.category = "10.4.60.47" := by
    decide +kernel
  have hFields : ∀ name ∈ addressEngine.fields, ':' ∉ name.toList := by decide +kernel
  generalize addressEngine = engine at hPatterns hFields ⊢
  obtain ⟨hSole, hPattern⟩ := hPatterns
  obtain ⟨pattern, hSole⟩ := List.length_eq_one_iff.mp hSole
  obtain ⟨hName, hFound, hFirst, hSecond⟩ := hPattern pattern (hSole ▸ List.mem_singleton_self _)
  have names : engine.NoColons := ⟨hFields, by simpa [hSole] using hName⟩
  obtain ⟨run⟩ := BodyRun.exists_run (maskBody_ends engine "1.1.1.1 1.1.1.11"
    ⟨0, .none, Store.Memory.empty 10⟩ fun _ => Action.Succeeds.readsSucceed)
  obtain ⟨calls, hPasses, hOwn, _⟩ := run.exists_calls hSole
  have hSteps := run.steps_of_empty hSole names
  rw [hFound, List.map_cons, List.map_cons, List.map_nil, hFirst, hSecond] at hSteps
  have hFinal : run.final.toList = "10.174.102.120 10.174.102.1201".toList := by
    rw [run.final_eq, hSteps]
    decide +kernel
  have hLost : (⟨"1.1.1.11".toList, "10.4.60.47".toList⟩ : Replacement) ∈ replacements calls := by
    rw [← hOwn, hSteps]
    exact List.mem_cons_of_mem _ List.mem_cons_self
  obtain ⟨call, hCall, token, hResult, hSame⟩ := mem_replacements.mp hLost
  obtain ⟨hValue, hToken⟩ := Replacement.mk.inj hSame
  refine ⟨maskBody_ends engine _ _ fun _ => id, run, _, hPasses ▸ List.mem_singleton_self _, call,
    hCall, token, String.toList_inj.mp hValue, hResult, ?_⟩
  rw [hToken, hFinal]
  decide +kernel

end Tokens

section Spans

open Regex (Segment firstToken rewrite_eq_splice)

variable {σ : Type} {backend : Backend σ} {context : CallContext} {engine : MaskingEngine}
  {text : String} {world : World σ}

/-- Replacing in the whole text comes to replacing the matches alone, when nothing overlaps. Each
match of a single pattern has a token; when every occurrence of a matched text is a match and no
token overlaps a matched text, each match gives way to the token that its text was given first, and
all between the matches is as it was. -/
theorem maskBody_splices {pattern : Pattern} (sole : engine.patterns.patterns = [pattern])
    (literal : pattern.regex.MatchesLiterally text.toList)
    (ends : Ends backend context Action.ReadsSucceed (engine.maskBody text) world) :
    ∃ run : BodyRun backend context Action.ReadsSucceed engine text world,
      run.steps.map Replacement.value =
          (pattern.regex.segments text.toList).1.map Segment.found ∧
        ((∀ step ∈ run.steps, ∀ segment ∈ (pattern.regex.segments text.toList).1,
            ¬ Overlaps step.token segment.found) →
          run.final.toList = pattern.regex.splice (firstToken run.steps) text.toList) := by
  obtain ⟨run⟩ := BodyRun.exists_run ends
  obtain ⟨calls, hPasses, hSteps, hMasked⟩ := run.exists_calls sole
  have hAnswered : ∀ call ∈ calls, ∃ token, call.result = .ok token := by
    intro call hCall
    have hMember : call ∈ run.passes.flatMap Pass.calls := by
      rwa [hPasses, List.flatMap_singleton]
    exact (run.chain.made call hMember).exists_token
  have hValues : run.steps.map Replacement.value =
      (pattern.regex.segments text.toList).1.map Segment.found := by
    calc run.steps.map Replacement.value
        = (calls.map TokenCall.value).map String.toList := by
          rw [hSteps, map_value_replacements hAnswered, List.map_map]
          rfl
      _ = (pattern.findAll text).map String.toList := by rw [hMasked.values]
      _ = (pattern.regex.segments text.toList).1.map Segment.found := by
          simp [Pattern.findAll, Regex.findAll, Function.comp_def]
  refine ⟨run, hValues, fun apart => ?_⟩
  have hFound : ∀ step ∈ run.steps,
      ∃ segment ∈ (pattern.regex.segments text.toList).1, segment.found = step.value := by
    intro step hStep
    have hValue : step.value ∈ run.steps.map Replacement.value := List.mem_map_of_mem hStep
    rw [hValues] at hValue
    exact List.mem_map.mp hValue
  exact run.final_eq.trans (rewrite_eq_splice literal hFound apart)

/-- An engine that masks runs of digits in bodies, with a letter for each digit. -/
def letterEngine : MaskingEngine :=
  { sampleEngine with
    store := ⟨"memory", fun value _ =>
      String.ofList (value.toList.map fun c => Char.ofNat (c.toNat + 49)), none⟩ }

theorem maskBody_splices_letters :
    ∃ pattern, letterEngine.patterns.patterns = [pattern] ∧
      pattern.regex.MatchesLiterally "80 and 443, then 80".toList ∧
      Ends Store.Memory.backend .unbounded Action.ReadsSucceed
        (letterEngine.maskBody "80 and 443, then 80") ⟨0, .none, Store.Memory.empty 10⟩ ∧
      ∃ run : BodyRun Store.Memory.backend .unbounded Action.ReadsSucceed letterEngine
        "80 and 443, then 80" ⟨0, .none, Store.Memory.empty 10⟩,
        run.final = "ia and eed, then ia" ∧
          run.final.toList =
            pattern.regex.splice (firstToken run.steps) "80 and 443, then 80".toList := by
  have hPatterns : letterEngine.patterns.patterns.length = 1 ∧
      ∀ pattern ∈ letterEngine.patterns.patterns, ':' ∉ pattern.name.toList ∧
        pattern.regex.MatchesLiterally "80 and 443, then 80".toList ∧
        pattern.findAll "80 and 443, then 80" = ["80", "443", "80"] ∧
        (∀ segment ∈ (pattern.regex.segments "80 and 443, then 80".toList).1,
          ∀ token ∈ ["ia", "eed"], ¬ Overlaps token.toList segment.found) ∧
        letterEngine.store.synthesizer "80" pattern.category = "ia" ∧
        letterEngine.store.synthesizer "443" pattern.category = "eed" := by
    decide +kernel
  have hFields : ∀ name ∈ letterEngine.fields, ':' ∉ name.toList := by decide +kernel
  generalize letterEngine = engine at hPatterns hFields ⊢
  obtain ⟨hSole, hPattern⟩ := hPatterns
  obtain ⟨pattern, hSole⟩ := List.length_eq_one_iff.mp hSole
  obtain ⟨hName, literal, hFound, hApart, hFirst, hSecond⟩ :=
    hPattern pattern (hSole ▸ List.mem_singleton_self _)
  have names : engine.NoColons := ⟨hFields, by simpa [hSole] using hName⟩
  have ends := maskBody_ends engine "80 and 443, then 80"
    ⟨0, .none, Store.Memory.empty 10⟩ fun _ => Action.Succeeds.readsSucceed
  obtain ⟨run, _, hSpliced⟩ := maskBody_splices hSole literal ends
  have hSteps := run.steps_of_empty hSole names
  rw [hFound, List.map_cons, List.map_cons, List.map_cons, List.map_nil, hFirst, hSecond] at hSteps
  have hFinal : run.final.toList = "ia and eed, then ia".toList := by
    rw [run.final_eq, hSteps]
    decide +kernel
  refine ⟨pattern, hSole, literal, ends, run, String.toList_inj.mp hFinal, hSpliced ?_⟩
  rw [hSteps]
  intro step hStep segment hSegment
  have hTokens := hApart segment hSegment
  simp only [List.mem_cons, List.not_mem_nil, or_false] at hStep
  rcases hStep with rfl | rfl | rfl
  · exact hTokens "ia" (by simp)
  · exact hTokens "eed" (by simp)
  · exact hTokens "ia" (by simp)

end Spans

end MaskingEngine

end Masking
