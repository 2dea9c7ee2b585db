import Masking.Proofs.Engine.Interruption
import Masking.Proofs.TokenStore.Accounts

/-! The token calls of a batch, counted. A pattern searches the text that the passes before it have
left, so how many matches there are depends on what the calls before have answered; given those
answers, a run makes one call for each listed attribute and one for each match, and no other. -/

namespace Masking

open Sharing (Request told)
open Store (Backend CallContext Ends Event Responds World execute)

namespace MaskingEngine

section Passes

variable {σ : Type}

/-- What the patterns find in a text, pass by pass. Each pattern searches what is left of the text
after the calls for the matches of the patterns before it. -/
def passes : List Pattern → String → List (TokenCall σ) → List (Pattern × List String)
  | [], _, _ => []
  | pattern :: rest, text, calls =>
      let found := pattern.findAll text
      let left := (calls.take found.length).foldl TokenCall.applied text
      (pattern, found) :: passes rest left (calls.drop found.length)

/-- The passes over a body. There are none over a body that is no text. -/
def bodyPasses (engine : MaskingEngine) (body : Option Json) (calls : List (TokenCall σ)) :
    List (Pattern × List String) :=
  match body.bind Json.str? with
  | some text => passes engine.patterns.patterns text calls
  | none => []

/-- The matches found in all passes over the bodies of some records. -/
def matchesFound (engine : MaskingEngine) (records : List LogRecord) (runs : List (RecordRun σ)) :
    List String :=
  (records.zip runs).flatMap fun pair =>
    (engine.bodyPasses pair.1.body pair.2.bodyCalls).flatMap Prod.snd

/-- What a call for a match asks for. -/
def passAsks (pass : Pattern × List String) : List (String × Category) :=
  pass.2.map fun found => (found, pass.1.category)

variable {engine : MaskingEngine} {text final : String} {calls : List (TokenCall σ)}

theorem MatchesMasked.asked {pattern : Pattern} {found : List String}
    (h : MatchesMasked pattern found text calls final) :
    calls.map (fun call => (call.value, call.category)) = passAsks (pattern, found) := by
  induction h with
  | nil => rfl
  | replaced asks _ _ ih => simpa [passAsks, asks.1, asks.2] using ih
  | kept asks _ _ ih => simpa [passAsks, asks.1, asks.2] using ih

theorem passes_cons {pattern : Pattern} {rest : List Pattern} {middle : String}
    {more : List (TokenCall σ)}
    (first : MatchesMasked pattern (pattern.findAll text) text calls middle) :
    passes (pattern :: rest) text (calls ++ more) =
      (pattern, pattern.findAll text) :: passes rest middle more := by
  have hLength : (pattern.findAll text).length = calls.length := by
    simpa [passAsks] using (congrArg List.length first.asked).symm
  simp only [passes, hLength, List.take_left, List.drop_left, ← first.applied]

theorem PatternsMasked.asked {patterns : List Pattern}
    (h : PatternsMasked patterns text calls final) :
    calls.map (fun call => (call.value, call.category)) =
      (passes patterns text calls).flatMap passAsks := by
  induction h with
  | nil => rfl
  | cons first _ ih => rw [passes_cons first, List.map_append, List.flatMap_cons, first.asked, ih]

theorem BodyMasked.asked {body : Option Json} {done : Option Json × Bool}
    (h : engine.BodyMasked body calls done) :
    calls.map (fun call => (call.value, call.category)) =
      (engine.bodyPasses body calls).flatMap passAsks := by
  cases h with
  | text patterns => exact patterns.asked
  | other noText =>
      cases hText : body.bind Json.str? with
      | none => simp only [bodyPasses, hText, List.map_nil, List.flatMap_nil]
      | some text => exact absurd (body_eq_of_str hText) (noText text)

theorem BodyMasked.calls_length {body : Option Json} {done : Option Json × Bool}
    (h : engine.BodyMasked body calls done) :
    calls.length = ((engine.bodyPasses body calls).flatMap Prod.snd).length := by
  have hAsked := congrArg List.length h.asked
  simpa [passAsks, List.length_flatMap] using hAsked

theorem RecordsMasked.calls_count {records masked : List LogRecord} {runs : List (RecordRun σ)}
    (h : engine.RecordsMasked records runs masked) :
    (runs.flatMap RecordRun.calls).length =
      (records.flatMap fun record => engine.listed record.attributes).length +
        (engine.matchesFound records runs).length := by
  induction h with
  | nil => rfl
  | cons first _ ih =>
      have hAttributes := congrArg List.length first.isolated.asked
      have hBody := first.body.calls_length
      simp only [List.length_map] at hAttributes
      simp only [matchesFound, RecordRun.calls, List.flatMap_cons, List.zip_cons_cons,
        List.length_append] at ih ⊢
      omega

end Passes

section Batches

/-- The calls of a run over a batch: one after the other, one for each listed attribute and one for
each match of each pass, and as many as the store has counted. -/
structure BatchCounted {σ : Type} (backend : Backend σ) (context : CallContext)
    (engine : MaskingEngine) (batch out : LogBatch) (world after : World σ) (events : List Event)
    (runs : List (RecordRun σ)) : Prop where
  masked : engine.RecordsMasked batch.records runs out.records
  calls : CallChain backend context (fun _ => True) engine.store world
    (runs.flatMap RecordRun.calls) after
  number : (runs.flatMap RecordRun.calls).length =
    (batch.records.flatMap fun record => engine.listed record.attributes).length +
      (engine.matchesFound batch.records runs).length
  counted : ∀ metrics : StoreMetrics,
    let later := metrics.absorbAll events
    later.hits + later.misses + later.readErrors =
      metrics.hits + metrics.misses + metrics.readErrors + (runs.flatMap RecordRun.calls).length

theorem lookups_eq (events : List Event) :
    events.countP Event.isLookup =
      events.count .hit + events.count .miss + events.count .readError := by
  induction events with
  | nil => rfl
  | cons event rest ih =>
      cases event <;> simp [List.countP_cons, Event.isLookup, ih] <;> omega

/-- The counters of a store account for every call. Whatever calls of the store and its clones are
made, in whatever order they take turns and however their operations end, the counts add up whenever
all calls have ended; and a run over a batch makes one call for each listed attribute and each
match, and no other. -/
theorem calls_accounted (engine : MaskingEngine) :
    (∀ choices session, Session.run engine.store choices .empty = some session →
      session.Accounted) ∧
    (∀ {σ : Type} {backend : Backend σ} {context : CallContext} {request : Request}
        {world after : World σ} {reply : Sharing.Reply} {events : List Event} (session : Session),
      execute backend context (request.program engine.store) world =
          some (reply, events, after) →
        ∃ choices actions, Session.run engine.store choices session =
            some ⟨session.calls ++ [⟨request, actions, .done reply⟩], session.history ++ actions⟩ ∧
          actions.flatMap told = events ∧
          Ends backend context (fun action => action ∈ actions) (request.program engine.store)
            world) ∧
    ∀ {σ : Type} {backend : Backend σ} {context : CallContext} {batch : LogBatch} {world : World σ},
      Ends backend context (fun _ => True) (engine.processBatch batch) world →
        ∃ out summary events after runs,
          execute backend context (engine.processBatch batch) world =
              some ((out, summary), events, after) ∧
            BatchCounted backend context engine batch out world after events runs := by
  refine ⟨fun choices session run => (Session.sound_of_run run).accounted, ?_, ?_⟩
  · intro σ backend context request world after reply events session run
    exact Session.run_of_execute run session
  · intro σ backend context batch world ends
    obtain ⟨⟨out, summary⟩, events, after, _, hRun, hChain, hCount, runs, rfl, _, hRecords⟩ :=
      engine.yields_processBatch batch world ends
    refine ⟨out, summary, events, after, runs, hRun, hRecords, hChain, hRecords.calls_count, ?_⟩
    intro metrics
    simp only [StoreMetrics.absorbAll_eq, ← hCount, lookups_eq]
    omega

/-- A call for a token beside a lookup that fails. Nothing is found, the first write fails, and the
second one succeeds. -/
def sampleChoices : List Session.Choice :=
  let failing : Answer := ⟨.ok none, .error (.cancelled "set")⟩
  [.start (.token "alice" (.ofField "user")), .start (.lookup "7" (.ofField "user")),
      .act 1 ⟨.error (.cancelled "get"), .ok ()⟩] ++
    List.replicate 8 (.act 0 failing) ++ List.replicate 2 (.act 0 ⟨.ok none, .ok ()⟩)

theorem calls_accounted_failures :
    (∃ session, Session.run sampleEngine.store sampleChoices .empty = some session ∧
      session.Settled ∧ session.metrics = ⟨0, 1, 0, 1⟩ ∧ session.Balanced) ∧
    Ends (Store.Scripted.backend "scripted") ⟨none, some 1000⟩ (fun _ => True)
        (sampleEngine.processBatch sampleBatch) ⟨0, .none, [], [refusal], []⟩ ∧
      ∃ out summary events after runs,
        execute (Store.Scripted.backend "scripted") ⟨none, some 1000⟩
            (sampleEngine.processBatch sampleBatch) ⟨0, .none, [], [refusal], []⟩ =
          some ((out, summary), events, after) ∧
        BatchCounted (Store.Scripted.backend "scripted") ⟨none, some 1000⟩ sampleEngine sampleBatch
          out ⟨0, .none, [], [refusal], []⟩ after events runs := by
  have hEnded : (Session.run sampleEngine.store sampleChoices .empty).map
      (fun session => (session.calls.all fun call => call.answer.isSome, session.metrics)) =
        some (true, ⟨0, 1, 0, 1⟩) := by
    rfl
  obtain ⟨session, hRun, hSession⟩ := Option.map_eq_some_iff.mp hEnded
  obtain ⟨hAll, hMetrics⟩ := Prod.mk.inj hSession
  have settled : session.Settled := List.all_eq_true.mp hAll
  have responds : Responds (Store.Scripted.backend "scripted") ⟨none, some 1000⟩ := Or.inl rfl
  have ends := responds.ends (sampleEngine.processBatch_entriesOnly sampleBatch)
    ⟨0, .none, [], [refusal], []⟩
  obtain ⟨hSessions, _, hBatches⟩ := calls_accounted sampleEngine
  exact ⟨⟨session, hRun, settled, hMetrics, (hSessions _ _ hRun).balanced settled⟩, ends,
    hBatches ends⟩

end Batches

end MaskingEngine

end Masking
