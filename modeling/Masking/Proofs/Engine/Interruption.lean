import Masking.Proofs.Engine.Isolation
import Masking.Proofs.Store.Interruption
import Masking.Proofs.Store.Notes

/-! Interruption of a batch. Once its context is interrupted a run makes no call to the backend and
takes no time, but it still goes over the whole batch; what is left of a unit depends on whether its
read had ended by then. -/

namespace Masking

open Store (Attempt Backend Call CallContext Completes Ended Ends Error Event Instant Key Program
  Reaches Responds World execute)

namespace TokenCall

variable {σ : Type} (backend : Backend σ) (context : CallContext)

/-- The read of the call ends by itself, before its context is interrupted. -/
def ReadCompletes (call : TokenCall σ) : Prop :=
  Completes context
    (fun now store => backend.get now store (Key.ofValue call.category call.value).text) call.before

def found (call : TokenCall σ) : Except Error (Option String) :=
  (backend.get call.before.now call.before.store
    (Key.ofValue call.category call.value).text).finish.1

/-- How a call is settled by its read: it fails when the read is interrupted, and otherwise answers
what the read has found. -/
structure Settled (store : TokenStore) (call : TokenCall σ) : Prop where
  interrupted : ¬ call.ReadCompletes backend context →
    ∃ error : Error, call.result = .error error ∧ error.isInterrupted = true
  completed : call.ReadCompletes backend context →
    call.result = store.answer call.value call.category (call.found backend)

variable {backend context}

theorem Made.settled {allows : Store.Action → Prop} {store : TokenStore} {call : TokenCall σ}
    (made : call.Made backend context allows store) : call.Settled backend context store := by
  obtain ⟨events, hRun⟩ := made.run
  obtain ⟨found, middle, hRead, hResult⟩ := (TokenStore.answers_of_execute hRun).1.exists_read
  have hEnded := Store.run_ended hRead
  constructor
  · intro incomplete
    obtain ⟨⟨error, hFound, hCause⟩, _⟩ := hEnded.of_not_completes incomplete
    subst hFound
    exact ⟨error, hResult, hCause⟩
  · intro completes
    have hFound := (hEnded.of_completes completes).1
    rw [hResult, hFound]
    rfl

/-- A text after a call for a match in it: the token takes the place of the matched text, and a call
that failed changes nothing. -/
def applied (text : String) (call : TokenCall σ) : String :=
  match call.result with
  | .ok token => Text.replace text call.value token
  | .error _ => text

end TokenCall

namespace MaskingEngine

section Bodies

variable {σ : Type} {engine : MaskingEngine} {text final : String} {calls : List (TokenCall σ)}

theorem MatchesMasked.applied {pattern : Pattern} {found : List String}
    (h : MatchesMasked pattern found text calls final) :
    final = calls.foldl TokenCall.applied text := by
  induction h with
  | nil => rfl
  | replaced asks result _ ih => simpa [TokenCall.applied, result, asks.1] using ih
  | kept asks result _ ih => simpa [TokenCall.applied, result] using ih

theorem PatternsMasked.applied {patterns : List Pattern}
    (h : PatternsMasked patterns text calls final) :
    final = calls.foldl TokenCall.applied text := by
  induction h with
  | nil => rfl
  | cons first _ ih => rw [List.foldl_append, ← first.applied, ih]

theorem body_eq_of_str {body : Option Json} (h : body.bind Json.str? = some text) :
    body = some (.str text) := by
  obtain ⟨value, rfl, hValue⟩ := Option.bind_eq_some_iff.mp h
  cases value <;> cases hValue
  rfl

theorem BodyMasked.applied {body : Option Json} {done : Option Json × Bool}
    (h : engine.BodyMasked body calls done) (hText : body.bind Json.str? = some text) :
    done.1.bind Json.str? = some (calls.foldl TokenCall.applied text) := by
  cases h with
  | text patterns =>
      cases hText
      exact congrArg some patterns.applied
  | other noText => exact absurd (body_eq_of_str hText) (noText text)

end Bodies

section Records

variable {σ : Type}

/-- A record that is masked in a context which may be interrupted. Whatever a unit's read had not
come to is left as it is, and a read that had come to a miss still leads to a token. -/
structure RecordInterrupted (backend : Backend σ) (context : CallContext) (engine : MaskingEngine)
    (record : LogRecord) (run : RecordRun σ) (masked : LogRecord) : Prop where
  isolated : RecordIsolated engine record run masked
  /-- The calls for a text are those for the matches of the patterns, each pattern over what is left
  by the ones before it. -/
  body : engine.BodyMasked record.body run.bodyCalls (masked.body, run.outcome.bodyMasked)
  text : ∀ text, record.bodyText = some text →
    masked.bodyText = some (run.bodyCalls.foldl TokenCall.applied text)
  /-- A listed attribute whose read did not complete keeps its value, and its call has failed. -/
  attributeKept : ∀ (index : Nat) (name : String) (value : Json) (call : TokenCall σ),
    (engine.listed record.attributes)[index]? = some (name, value) →
    run.attributeCalls[index]? = some call → ¬ call.ReadCompletes backend context →
      (engine.listed masked.attributes)[index]? = some (name, value) ∧
        call.result.toBool = false
  attributeReplaced : ∀ (index : Nat) (name : String) (value : Json) (call : TokenCall σ),
    (engine.listed record.attributes)[index]? = some (name, value) →
    run.attributeCalls[index]? = some call → call.ReadCompletes backend context →
    call.found backend = .ok none →
      (engine.listed masked.attributes)[index]? =
        some (name, .str (engine.store.synthesizer (attributeText value) ⟨"attribute_" ++ name⟩))
  /-- A match whose read did not complete is not replaced. -/
  matchKept : ∀ call ∈ run.bodyCalls, ¬ call.ReadCompletes backend context →
    ∀ text, call.applied text = text
  matchReplaced : ∀ call ∈ run.bodyCalls, call.ReadCompletes backend context →
    call.found backend = .ok none →
      ∀ text, call.applied text =
        Text.replace text call.value (engine.store.synthesizer call.value call.category)

variable {backend : Backend σ} {context : CallContext} {engine : MaskingEngine}

theorem RecordIsolated.listed_at {record masked : LogRecord} {run : RecordRun σ}
    (h : RecordIsolated engine record run masked) {index : Nat} {name : String} {value : Json}
    {call : TokenCall σ} (hListed : (engine.listed record.attributes)[index]? = some (name, value))
    (hCall : run.attributeCalls[index]? = some call) :
    call.value = attributeText value ∧ call.category = ⟨"attribute_" ++ name⟩ ∧
      (engine.listed masked.attributes)[index]? = some (name, held value call.result) := by
  have hAsked := congrArg (fun list => list[index]?) h.asked
  simp only [List.getElem?_map, hListed, hCall, Option.map_some, Option.some.injEq,
    Prod.mk.injEq] at hAsked
  refine ⟨hAsked.1, hAsked.2, ?_⟩
  rw [h.listed, List.getElem?_zipWith, hListed, hCall]

theorem RecordMasked.interrupted {record masked : LogRecord} {run : RecordRun σ}
    (h : engine.RecordMasked record run masked)
    (settled : ∀ call ∈ run.calls, call.Settled backend context engine.store) :
    RecordInterrupted backend context engine record run masked := by
  have hAttribute : ∀ call ∈ run.attributeCalls, call.Settled backend context engine.store :=
    fun call member => settled call (List.mem_append_left _ member)
  have hMatch : ∀ call ∈ run.bodyCalls, call.Settled backend context engine.store :=
    fun call member => settled call (List.mem_append_right _ member)
  refine
    { isolated := h.isolated
      body := h.body
      text := fun text hText => h.body.applied hText
      attributeKept := ?_
      attributeReplaced := ?_
      matchKept := ?_
      matchReplaced := ?_ }
  · intro index name value call hListed hCall incomplete
    obtain ⟨_, _, hAt⟩ := h.isolated.listed_at hListed hCall
    obtain ⟨error, hResult, _⟩ :=
      (hAttribute call (List.mem_of_getElem? hCall)).interrupted incomplete
    rw [hResult] at hAt ⊢
    exact ⟨hAt, rfl⟩
  · intro index name value call hListed hCall completes hFound
    obtain ⟨hValue, hCategory, hAt⟩ := h.isolated.listed_at hListed hCall
    have hResult := (hAttribute call (List.mem_of_getElem? hCall)).completed completes
    rw [hAt, hResult, hFound, hValue, hCategory]
    rfl
  · intro call member incomplete text
    obtain ⟨error, hResult, _⟩ := (hMatch call member).interrupted incomplete
    simp only [TokenCall.applied, hResult]
  · intro call member completes hFound text
    have hResult := (hMatch call member).completed completes
    simp only [TokenCall.applied, hResult, hFound, TokenStore.answer]

end Records

section Batches

variable {σ : Type}

/-- A run over a batch in a context which may be interrupted. The backend notes the calls that it
receives. -/
structure BatchInterrupted (backend : Backend σ) (context : CallContext) (engine : MaskingEngine)
    (batch : LogBatch) (world : World σ) (out : LogBatch) (summary : BatchSummary)
    (events : List Event) (after : World (List Call × σ))
    (runs : List (RecordRun (List Call × σ))) : Prop where
  noted : execute backend.noting context (engine.processBatch batch) world.withoutNotes =
    some ((out, summary), events, after)
  run : execute backend context (engine.processBatch batch) world =
    some ((out, summary), events, after.forget)
  /-- When the context is interrupted at a point of the run, nothing happens after that point: no
  call is noted and no time passes. -/
  quiet : ∀ rest middle,
    Reaches backend.noting context (engine.processBatch batch) world.withoutNotes rest middle →
      context.Interrupted middle.tokens middle.now → after = middle
  calls : CallChain backend.noting context (fun _ => True) engine.store world.withoutNotes
    (runs.flatMap RecordRun.calls) after
  isolated : BatchIsolated engine batch runs out summary
  each : ∀ (index : Nat) (record : LogRecord), batch.records[index]? = some record →
    ∃ run masked, runs[index]? = some run ∧ out.records[index]? = some masked ∧
      RecordInterrupted backend.noting context engine record run masked
  /-- A run that starts before its deadline ends no later, and one that does not takes no time. -/
  inTime : ∀ deadline, context.deadline = some deadline →
    (world.now < deadline → after.now ≤ deadline) ∧ (deadline ≤ world.now → after.now = world.now)

variable {backend : Backend σ} {context : CallContext} {engine : MaskingEngine}

/-- Interruption stops all traffic to the backend and bounds the run, which ends over every backend
that may take any time, and that may never answer when there is a deadline. -/
theorem processBatch_interrupted (responds : Responds backend context) (batch : LogBatch)
    (world : World σ) :
    ∃ out summary events after runs,
      BatchInterrupted backend context engine batch world out summary events after runs := by
  have only := engine.processBatch_entriesOnly batch
  have hNoting : Responds backend.noting context :=
    responds.imp_right fun finite =>
      ⟨fun now state key => finite.1 now state.2 key,
        fun now state key value ttl => finite.2 now state.2 key value ttl⟩
  obtain ⟨⟨out, summary⟩, events, after, _, hRun, hChain, _, runs, rfl, hSummary, hRecords⟩ :=
    engine.yields_processBatch batch world.withoutNotes (hNoting.ends only world.withoutNotes)
  have hPlain := Store.execute_noting backend context (engine.processBatch batch) world.withoutNotes
  rw [hRun] at hPlain
  refine ⟨out, summary, events, after, runs, hRun, hPlain.symm, ?_, hChain,
    hRecords.isolated hSummary, ?_, ?_⟩
  · intro rest middle reaches interrupted
    obtain ⟨later, hRest⟩ := reaches.execute_rest hRun
    exact Store.execute_of_interrupted (reaches.entriesOnly only) hRest interrupted
  · intro index record hAt
    obtain ⟨run, masked, hRunAt, hMaskedAt, hRecord⟩ := hRecords.at_index hAt
    refine ⟨run, masked, hRunAt, hMaskedAt, hRecord.interrupted fun call member => ?_⟩
    have hMember : call ∈ runs.flatMap RecordRun.calls :=
      List.mem_flatMap.mpr ⟨run, List.mem_of_getElem? hRunAt, member⟩
    exact (hChain.made call hMember).settled
  · intro deadline hDeadline
    constructor
    · intro hNow
      exact Store.now_le_deadline_of_execute only hRun hDeadline (Nat.le_of_lt hNow)
    · intro hNow
      have interrupted : context.Interrupted world.tokens world.now :=
        Or.inr ⟨deadline, hDeadline, hNow⟩
      rw [Store.execute_of_interrupted only hRun interrupted]
      rfl

/-- A rule by which looking for the token of `bob` never ends. -/
def silence : Store.Scripted.Rule :=
  ⟨.get, some "bob", none, none, 0, true, none, false, none⟩

theorem processBatch_interrupted_silence :
    Responds (Store.Scripted.backend "scripted") ⟨none, some 1000⟩ ∧
      ∃ out summary events after runs,
        BatchInterrupted (Store.Scripted.backend "scripted") ⟨none, some 1000⟩ sampleEngine
          sampleBatch ⟨0, .none, [], [silence], []⟩ out summary events after runs :=
  have responds : Responds (Store.Scripted.backend "scripted") ⟨none, some 1000⟩ := Or.inl rfl
  ⟨responds, processBatch_interrupted responds sampleBatch _⟩

example :
    (execute (Store.Scripted.backend "scripted").noting ⟨none, some 1000⟩
      (sampleEngine.processBatch sampleBatch)
      (World.withoutNotes ⟨0, .none, [], [silence], []⟩)).map
        (fun done => (done.1.2, done.2.2.now, done.2.2.store.1.length)) =
      some (⟨3, 1, 2, 1⟩, 1000, 7) := by
  decide +kernel

end Batches

end MaskingEngine

end Masking
