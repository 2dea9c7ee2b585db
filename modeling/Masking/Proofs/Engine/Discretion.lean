import Masking.Proofs.Engine.Passes
import Masking.Proofs.Engine.Replay

/-! Discretion of the log. What a run over a batch writes to the log is a function of its view: the
names of attributes, how many matches there were, how each call ended and which bodies changed. No
value, text, original or token has any part in it. -/

namespace Masking

open Store (Action Backend CallContext Error Event Key Program World execute execute_bind
  execute_emit readIn writeIn)

/-- The line of the log that an event is, if it is one. -/
def Store.Event.line? : Event → Option LogLine
  | .log line => some line
  | _ => none

/-- The lines of the log among some events. -/
def logged (events : List Event) : List LogLine :=
  events.filterMap Event.line?

section Writing

variable {σ α β : Type} {backend : Backend σ} {context : CallContext}

/-- An execution with a result and lines of the log. -/
def Writes (backend : Backend σ) (context : CallContext) (program : Program α) (world : World σ)
    (value : α) (lines : List LogLine) (after : World σ) : Prop :=
  ∃ events, execute backend context program world = some (value, events, after) ∧
    logged events = lines

namespace Writes

variable {program : Program α} {next : α → Program β} {world middle after : World σ} {value : α}
  {result : β} {lines more : List LogLine}

theorem done (value : α) (world : World σ) :
    Writes backend context (.done value) world value [] world :=
  ⟨[], rfl, rfl⟩

theorem bind (h : Writes backend context program world value lines middle)
    (rest : Writes backend context (next value) middle result more after) :
    Writes backend context (program.bind next) world result (lines ++ more) after := by
  obtain ⟨events, hRun, rfl⟩ := h
  obtain ⟨later, hRest, rfl⟩ := rest
  exact ⟨events ++ later, by simp [execute_bind, hRun, hRest], List.filterMap_append⟩

theorem map (h : Writes backend context program world value lines middle) (f : α → β) :
    Writes backend context (program.bind fun value => .done (f value)) world (f value) lines
      middle := by
  rw [← List.append_nil lines]
  exact h.bind (.done (f value) middle)

theorem tell {event : Event} {next : Unit → Program β} (silent : event.line? = none)
    (rest : Writes backend context (next ()) world result lines after) :
    Writes backend context ((Program.tell event).bind next) world result lines after := by
  obtain ⟨events, hRest, rfl⟩ := rest
  refine ⟨event :: events, ?_, by simp [logged, silent]⟩
  simp only [Program.tell, Program.bind, execute_emit, hRest, Option.map_some]

theorem log {level : Level} {message : String} {fields : List (String × String)}
    {next : Unit → Program β} (rest : Writes backend context (next ()) world result lines after) :
    Writes backend context ((Program.log level message fields).bind next) world result
      (⟨level, message, fields, none⟩ :: lines) after := by
  obtain ⟨events, hRest, rfl⟩ := rest
  refine ⟨.log ⟨level, message, fields, none⟩ :: events, ?_, rfl⟩
  simp only [Program.log, Program.tell, Program.bind, execute_emit, hRest, Option.map_some]

end Writes

end Writing

/-- How a call for a token has ended, without the value and the token. A write that has failed is
known by the text of its error. -/
inductive TokenOutcome where
  | hit
  | miss (forward reverse : Option String)
  | failed (error : String)
deriving DecidableEq

/-- The text of an error, if that is how something has ended. -/
def fault {α : Type} : Except Error α → Option String
  | .ok _ => none
  | .error error => some error.text

namespace TokenStore

variable {σ : Type} (backend : Backend σ) (context : CallContext) (store : TokenStore)
  (value : String) (category : Category)

/-- How a call ends over a backend; `none` when one of its operations never ends. -/
def outcome (world : World σ) : Option TokenOutcome :=
  (readIn backend context (Key.ofValue category value).text world).bind fun read =>
    match read.1 with
    | .error error => some (.failed error.text)
    | .ok (some _) => some .hit
    | .ok none =>
        let masked := store.synthesizer value category
        (writeIn backend context (Key.ofValue category value).text masked store.ttl read.2).bind
          fun forward =>
            (writeIn backend context (Key.ofMasked category masked).text value store.ttl
              forward.2).map fun reverse => .miss (fault forward.1) (fault reverse.1)

/-- How calls end that are made one after the other. -/
def outcomes : List (String × Category) → World σ → List (Option TokenOutcome)
  | [], _ => []
  | (value, category) :: asks, world =>
      store.outcome backend context value category world ::
        match execute backend context (store.getOrCreate value category) world with
        | some (_, _, after) => outcomes asks after
        | none => []

end TokenStore

/-- What a call writes to the log, from how it has ended. -/
def callLines (backend : String) (category : Category) : Option TokenOutcome → List LogLine
  | some .hit => [⟨.trace, "Store hit", [("category", category.tag)], none⟩]
  | some (.miss forward reverse) =>
      forward.toList.map (fun error =>
        ⟨.warn, "Failed to store masked value, using synthesized value",
          [("category", category.tag), ("backend", backend), ("error", error)], none⟩) ++
      reverse.toList.map fun error =>
        ⟨.debug, "Reverse mapping not stored", [("category", category.tag), ("error", error)], none⟩
  | _ => []

/-- The text of the error that a call has answered. -/
def failure : Option TokenOutcome → Option String
  | some (.failed error) => some error
  | _ => none

section Calls

variable {σ : Type} {backend : Backend σ} {context : CallContext} {store : TokenStore}

theorem TokenStore.outcome_of_execute {value : String} {category : Category} {world after : World σ}
    {result : Except Error String} {events : List Event}
    (run : execute backend context (store.getOrCreate value category) world =
      some (result, events, after)) :
    ∃ outcome, store.outcome backend context value category world = some outcome ∧
      logged events = callLines store.backend category (some outcome) ∧
      failure (some outcome) = fault result := by
  rw [execute_getOrCreate] at run
  obtain ⟨⟨cached, middle⟩, hRead, run⟩ := Option.bind_eq_some_iff.mp run
  rcases cached with error | (_ | masked)
  case error =>
    cases run
    exact ⟨.failed error.text, by simp [outcome, hRead], rfl, rfl⟩
  case ok.some =>
    cases run
    exact ⟨.hit, by simp [outcome, hRead], rfl, rfl⟩
  case ok.none =>
    obtain ⟨⟨forward, between⟩, hForward, run⟩ := Option.bind_eq_some_iff.mp run
    obtain ⟨⟨reverse, last⟩, hReverse, he⟩ := Option.map_eq_some_iff.mp run
    cases he
    refine ⟨.miss (fault forward) (fault reverse), ?_, ?_, rfl⟩
    · simp only [outcome, hRead, Option.bind_some, hForward, hReverse, Option.map_some]
    · rcases forward with error | _ <;> rcases reverse with error | _ <;> rfl

/-- How a call has ended. -/
def TokenCall.outcome (backend : Backend σ) (context : CallContext) (store : TokenStore)
    (call : TokenCall σ) : Option TokenOutcome :=
  store.outcome backend context call.value call.category call.before

variable {allows : Action → Prop} {call : TokenCall σ}

/-- The calls of a chain have ended as those do that ask for the same, one after the other. -/
theorem CallChain.outcomes_eq {world after : World σ} {calls : List (TokenCall σ)}
    (chain : CallChain backend context allows store world calls after) :
    calls.map (TokenCall.outcome backend context store) =
      store.outcomes backend context (calls.map fun call => (call.value, call.category)) world := by
  induction chain with
  | nil => rfl
  | cons made _ ih =>
      obtain ⟨events, run⟩ := made.run
      simp only [List.map_cons, TokenStore.outcomes, run, ih, TokenCall.outcome]

theorem TokenCall.Made.writes {value : String} {category : Category}
    (made : call.Made backend context allows store) (asks : call.Asks value category) :
    Writes backend context (store.getOrCreate value category) call.before call.result
      (callLines store.backend category (call.outcome backend context store)) call.after := by
  obtain ⟨rfl, rfl⟩ := asks
  obtain ⟨events, run⟩ := made.run
  obtain ⟨outcome, hOutcome, hLines, _⟩ := TokenStore.outcome_of_execute run
  rw [TokenCall.outcome, hOutcome]
  exact ⟨events, run, hLines⟩

theorem TokenCall.Made.failure_eq (made : call.Made backend context allows store) :
    failure (call.outcome backend context store) = fault call.result := by
  obtain ⟨events, run⟩ := made.run
  obtain ⟨outcome, hOutcome, _, hFailure⟩ := TokenStore.outcome_of_execute run
  rw [TokenCall.outcome, hOutcome, hFailure]

end Calls

namespace MaskingEngine

/-- What a unit writes to the log: what its call does, and a warning when that has failed. -/
def unitLines (store : TokenStore) (category : Category) (warning : String)
    (label : String × String) (outcome : Option TokenOutcome) : List LogLine :=
  callLines store.backend category outcome ++
    (failure outcome).toList.map fun error => ⟨.warn, warning, [label, ("error", error)], none⟩

def attributeLines (engine : MaskingEngine) (name : String) : Option TokenOutcome → List LogLine :=
  unitLines engine.store (.ofField name) "Failed to mask attribute" ("key", name)

def matchLines (engine : MaskingEngine) (pattern : Pattern) : Option TokenOutcome → List LogLine :=
  unitLines engine.store pattern.category "Failed to mask value" ("pattern", pattern.name)

/-- What the passes over a body write to the log, each of them from the calls for its matches. -/
def passLines (engine : MaskingEngine) :
    List Pattern → List Nat → List (Option TokenOutcome) → List LogLine
  | pattern :: rest, count :: counts, outcomes =>
      (outcomes.take count).flatMap (engine.matchLines pattern) ++
        passLines engine rest counts (outcomes.drop count)
  | _, _, _ => []

section Runs

variable {σ : Type} {backend : Backend σ} {context : CallContext} {allows : Action → Prop}
  {engine : MaskingEngine} {calls : List (TokenCall σ)} {world after : World σ}

theorem writes_tryMaskField {call : TokenCall σ} {value name : String}
    (made : call.Made backend context allows engine.store)
    (asks : call.Asks value (.ofField name)) :
    Writes backend context (engine.tryMaskField value name) call.before call.result
      (callLines engine.store.backend (.ofField name)
        (call.outcome backend context engine.store)) call.after := by
  rw [← List.append_nil (callLines _ _ _), tryMaskField]
  exact (made.writes asks).bind (.tell rfl (.done call.result call.after))

/-- A unit writes the lines of its call, and then those of what is done with the result, in which
the warning comes first if there is one. -/
theorem writes_unit {α : Type} {call : TokenCall σ} {category : Category} {warning : String}
    {label : String × String} {program : Program (Except Error String)}
    {next : Except Error String → Program α} {value : α} {lines : List LogLine}
    (first : Writes backend context program call.before call.result
      (callLines engine.store.backend category (call.outcome backend context engine.store))
      call.after)
    (made : call.Made backend context allows engine.store)
    (later : Writes backend context (next call.result) call.after value
      ((fault call.result).toList.map (fun error =>
        ⟨.warn, warning, [label, ("error", error)], none⟩) ++ lines) after) :
    Writes backend context (program.bind next) call.before value
      (unitLines engine.store category warning label (call.outcome backend context engine.store) ++
        lines) after := by
  rw [unitLines, made.failure_eq, List.append_assoc]
  exact first.bind later

theorem AttributesMasked.writes {attributes : List (String × Json)} {done : MaskedAttributes}
    (h : engine.AttributesMasked attributes calls done)
    (chain : CallChain backend context allows engine.store world calls after) :
    Writes backend context (engine.maskAttributes attributes) world done
      ((((attributes.map Prod.fst).filter engine.shouldMask).zip
        (calls.map (TokenCall.outcome backend context engine.store))).flatMap fun unit =>
          engine.attributeLines unit.1 unit.2) after := by
  induction h generalizing world with
  | nil =>
      cases chain
      exact .done _ _
  | @unlisted name value rest calls done unlisted _ ih =>
      rw [maskAttributes, unlisted, List.map_cons, List.filter_cons_of_neg (by simp [unlisted])]
      exact (ih chain).map _
  | masked listed asks result _ ih =>
      obtain _ | ⟨made, later⟩ := chain
      rw [maskAttributes, listed, List.map_cons, List.filter_cons_of_pos listed]
      refine writes_unit (writes_tryMaskField made asks) made ?_
      rw [result]
      exact (ih later).map _
  | kept listed asks result _ ih =>
      obtain _ | ⟨made, later⟩ := chain
      rw [maskAttributes, listed, List.map_cons, List.filter_cons_of_pos listed]
      refine writes_unit (writes_tryMaskField made asks) made ?_
      rw [result]
      exact .log ((ih later).map _)

theorem MatchesMasked.writes {pattern : Pattern} {found : List String} {text final : String}
    (h : MatchesMasked pattern found text calls final)
    (chain : CallChain backend context allows engine.store world calls after) :
    Writes backend context (engine.maskMatches pattern found text) world final
      ((calls.map (TokenCall.outcome backend context engine.store)).flatMap
        (engine.matchLines pattern)) after := by
  induction h generalizing world with
  | nil =>
      cases chain
      exact .done _ _
  | replaced asks result _ ih =>
      obtain _ | ⟨made, later⟩ := chain
      refine writes_unit (made.writes asks) made ?_
      rw [result]
      exact .tell rfl (ih later)
  | kept asks result _ ih =>
      obtain _ | ⟨made, later⟩ := chain
      refine writes_unit (made.writes asks) made ?_
      rw [result]
      exact .tell rfl (.log (ih later))

theorem PatternsMasked.writes {patterns : List Pattern} {text final : String}
    (h : PatternsMasked patterns text calls final)
    (chain : CallChain backend context allows engine.store world calls after) :
    Writes backend context (engine.maskPatterns patterns text) world final
      (engine.passLines patterns ((passes patterns text calls).map fun pass => pass.2.length)
        (calls.map (TokenCall.outcome backend context engine.store))) after := by
  induction h generalizing world with
  | nil =>
      cases chain
      exact .done _ _
  | @cons pattern rest text calls middle more final first _ ih =>
      obtain ⟨between, hFirst, hLater⟩ := chain.split
      -- There is a call for each match of the first pass, so the outcomes are cut where it ends.
      have hLength : (pattern.findAll text).length =
          (calls.map (TokenCall.outcome backend context engine.store)).length := by
        simpa [passAsks] using (congrArg List.length first.asked).symm
      rw [passes_cons first, List.map_cons, List.map_append, passLines, hLength, List.take_left,
        List.drop_left]
      exact Writes.bind (first.writes hFirst) (ih hLater)

/-- How many matches each pass over a body has found; none, when the body is no text. -/
def passCounts (engine : MaskingEngine) (body : Option Json) (calls : List (TokenCall σ)) :
    List Nat :=
  match body.bind Json.str? with
  | some text =>
      (passes engine.patterns.patterns text calls).map fun pass => pass.2.length
  | none => engine.patterns.patterns.map fun _ => 0

theorem passLines_none (patterns : List Pattern) :
    engine.passLines patterns (patterns.map fun _ => 0) [] = [] := by
  induction patterns with
  | nil => rfl
  | cons pattern rest ih => simpa [passLines] using ih

theorem BodyMasked.writes {body : Option Json} {done : Option Json × Bool}
    (h : engine.BodyMasked body calls done)
    (chain : CallChain backend context allows engine.store world calls after) :
    Writes backend context (engine.maskBodyValue body) world done
      (engine.passLines engine.patterns.patterns (engine.passCounts body calls)
        (calls.map (TokenCall.outcome backend context engine.store))) after := by
  cases h with
  | text patterns => exact (patterns.writes chain).map _
  | other noText =>
      cases chain
      have hText : body.bind Json.str? = none := by
        cases hText : body.bind Json.str? with
        | none => rfl
        | some text => exact absurd (body_eq_of_str hText) (noText text)
      rw [passCounts, hText, List.map_nil, passLines_none, maskBodyValue]
      · exact .done _ _
      · exact noText

end Runs

/-- What may be told of a run over one record. -/
structure RecordView where
  /-- The names of the attributes, in order. -/
  names : List String
  /-- How the calls for listed attributes have ended. -/
  attributes : List (Option TokenOutcome)
  /-- How many matches each pass over the body has found. -/
  passes : List Nat
  /-- How the calls for matches have ended. -/
  found : List (Option TokenOutcome)
  /-- Whether the body has changed. -/
  changed : Bool

namespace RecordView

def lines (engine : MaskingEngine) (view : RecordView) : List LogLine :=
  (((view.names.filter engine.shouldMask).zip view.attributes).flatMap fun unit =>
    engine.attributeLines unit.1 unit.2) ++
      engine.passLines engine.patterns.patterns view.passes view.found

def outcome (view : RecordView) : RecordOutcome :=
  ⟨view.attributes.countP fun outcome => (failure outcome).isNone,
    view.attributes.countP fun outcome => (failure outcome).isSome, view.changed⟩

end RecordView

section Records

variable {σ : Type} {backend : Backend σ} {context : CallContext} {allows : Action → Prop}
  {engine : MaskingEngine} {world after : World σ}

/-- The view of a run over a record. -/
def recordView (backend : Backend σ) (context : CallContext) (engine : MaskingEngine)
    (record : LogRecord) (run : RecordRun σ) : RecordView where
  names := record.attributes.map Prod.fst
  attributes := run.attributeCalls.map (TokenCall.outcome backend context engine.store)
  passes := engine.passCounts record.body run.bodyCalls
  found := run.bodyCalls.map (TokenCall.outcome backend context engine.store)
  changed := run.outcome.bodyMasked

theorem RecordMasked.writes {record masked : LogRecord} {run : RecordRun σ}
    (h : engine.RecordMasked record run masked)
    (chain : CallChain backend context allows engine.store world run.calls after) :
    Writes backend context (engine.maskRecord record) world (masked, run.outcome)
      ((recordView backend context engine record run).lines engine) after := by
  obtain ⟨middle, hFirst, hLater⟩ := chain.split
  exact Writes.bind (h.attributes.writes hFirst) ((h.body.writes hLater).map _)

theorem fault_isNone (result : Except Error String) : (fault result).isNone = result.toBool := by
  cases result <;> rfl

theorem recordView_outcome {record masked : LogRecord} {run : RecordRun σ}
    (h : engine.RecordMasked record run masked)
    (made : ∀ call ∈ run.attributeCalls, call.Made backend context allows engine.store) :
    (recordView backend context engine record run).outcome = run.outcome := by
  have hFailure : ∀ call ∈ run.attributeCalls,
      (failure (call.outcome backend context engine.store)).isNone = call.result.toBool := by
    intro call member
    rw [(made call member).failure_eq, fault_isNone]
  have hMasked : (run.attributeCalls.map (TokenCall.outcome backend context engine.store)).countP
      (fun outcome => (failure outcome).isNone) = run.outcome.fieldsMasked := by
    rw [h.isolated.fieldsMasked, List.countP_map]
    exact List.countP_congr fun call member => by rw [Function.comp_apply, hFailure call member]
  have hFailed : (run.attributeCalls.map (TokenCall.outcome backend context engine.store)).countP
      (fun outcome => (failure outcome).isSome) = run.outcome.fieldsFailed := by
    rw [h.isolated.fieldsFailed, List.countP_map]
    exact List.countP_congr fun call member => by
      rw [Function.comp_apply, ← Option.not_isNone, hFailure call member]
  simp only [RecordView.outcome, recordView, hMasked, hFailed]

theorem RecordsMasked.writes {records masked : List LogRecord} {runs : List (RecordRun σ)}
    (h : engine.RecordsMasked records runs masked) (summary : BatchSummary)
    (chain : CallChain backend context allows engine.store world (runs.flatMap RecordRun.calls)
      after) :
    Writes backend context (engine.maskRecords summary records) world
      (masked, (runs.map RecordRun.outcome).foldl BatchSummary.absorb summary)
      ((List.zipWith (recordView backend context engine) records runs).flatMap
        (RecordView.lines engine)) after := by
  induction h generalizing summary world with
  | nil =>
      cases chain
      exact .done _ _
  | cons first _ ih =>
      obtain ⟨middle, hFirst, hLater⟩ := chain.split
      exact Writes.bind (first.writes hFirst) ((ih _ hLater).map _)

theorem RecordsMasked.outcomes {records masked : List LogRecord} {runs : List (RecordRun σ)}
    (h : engine.RecordsMasked records runs masked)
    (made : ∀ call ∈ runs.flatMap RecordRun.calls, call.Made backend context allows engine.store) :
    (List.zipWith (recordView backend context engine) records runs).map RecordView.outcome =
      runs.map RecordRun.outcome := by
  induction h with
  | nil => rfl
  | cons first _ ih =>
      rw [List.flatMap_cons] at made
      obtain ⟨hFirst, hLater⟩ := List.forall_mem_append.mp made
      obtain ⟨hAttributes, _⟩ := List.forall_mem_append.mp hFirst
      rw [List.zipWith_cons_cons, List.map_cons, List.map_cons, recordView_outcome first hAttributes,
        ih hLater]

end Records

/-- What a batch writes to the log, from the views of its records. -/
def batchLines (engine : MaskingEngine) (views : List RecordView) : List LogLine :=
  views.flatMap (RecordView.lines engine) ++
    [⟨.debug, "Batch processed",
      summaryFields ((views.map RecordView.outcome).foldl BatchSummary.absorb .empty), none⟩]

section Batches

/-- An execution of an engine over a batch, with the calls that were made for its records. -/
structure BatchRun (σ : Type) where
  backend : Backend σ
  context : CallContext
  engine : MaskingEngine
  batch : LogBatch
  world : World σ
  out : LogBatch
  summary : BatchSummary
  events : List Event
  after : World σ
  runs : List (RecordRun σ)
  executed : execute backend context (engine.processBatch batch) world =
    some ((out, summary), events, after)
  calls : CallChain backend context (fun _ => True) engine.store world
    (runs.flatMap RecordRun.calls) after
  masked : engine.RecordsMasked batch.records runs out.records

namespace BatchRun

variable {σ τ : Type}

/-- What may be told of a run. -/
def views (run : BatchRun σ) : List RecordView :=
  List.zipWith (recordView run.backend run.context run.engine) run.batch.records run.runs

theorem logged_eq (run : BatchRun σ) : logged run.events = batchLines run.engine run.views := by
  have hRecords := run.masked.writes .empty run.calls
  have hBatch : Writes run.backend run.context (run.engine.processBatch run.batch) run.world
      (⟨run.out.records⟩, (run.runs.map RecordRun.outcome).foldl BatchSummary.absorb .empty)
      (batchLines run.engine run.views) run.after := by
    rw [batchLines, views, run.masked.outcomes run.calls.made]
    exact Writes.bind hRecords (.log (.done _ _))
  obtain ⟨events, hRun, hLines⟩ := hBatch
  have hSame := run.executed.symm.trans hRun
  simp only [Option.some.injEq, Prod.mk.injEq] at hSame
  rw [hSame.2.1, hLines]

/-- Every execution is such a run. -/
theorem exists_run {backend : Backend σ} {context : CallContext} {engine : MaskingEngine}
    {batch out : LogBatch} {world after : World σ} {summary : BatchSummary} {events : List Event}
    (executed : execute backend context (engine.processBatch batch) world =
      some ((out, summary), events, after)) :
    ∃ run : BatchRun σ, run.backend = backend ∧ run.context = context ∧ run.engine = engine ∧
      run.batch = batch ∧ run.world = world ∧ run.events = events := by
  obtain ⟨actions, _, _, hEnds⟩ := Store.Program.exists_performs executed
  obtain ⟨done, told, last, calls, hRun, hChain, _, runs, rfl, _, hRecords⟩ :=
    engine.yields_processBatch batch world (hEnds.mono fun _ _ => trivial)
  cases executed.symm.trans hRun
  exact ⟨⟨backend, context, engine, batch, world, out, summary, events, after, runs, executed,
    hChain, hRecords⟩, rfl, rfl, rfl, rfl, rfl, rfl⟩

end BatchRun

section Engines

variable {engine other : MaskingEngine}

theorem unitLines_congr {store another : TokenStore} (named : another.backend = store.backend) :
    unitLines another = unitLines store := by
  funext category warning label outcome
  rw [unitLines, unitLines, named]

theorem passLines_congr (named : other.store.backend = engine.store.backend)
    (patterns : List Pattern) (counts : List Nat) (outcomes : List (Option TokenOutcome)) :
    other.passLines patterns counts outcomes = engine.passLines patterns counts outcomes := by
  induction patterns generalizing counts outcomes with
  | nil => rfl
  | cons pattern rest ih =>
      cases counts with
      | nil => rfl
      | cons count counts =>
          have hUnits : other.matchLines pattern = engine.matchLines pattern := by
            rw [matchLines, matchLines, unitLines_congr named]
          rw [passLines, passLines, hUnits, ih]

theorem RecordView.lines_congr (same : engine.SameRules other)
    (named : other.store.backend = engine.store.backend) (view : RecordView) :
    view.lines other = view.lines engine := by
  have hListed : other.shouldMask = engine.shouldMask := funext same.shouldMask
  have hUnits : other.attributeLines = engine.attributeLines := by
    funext name
    rw [attributeLines, attributeLines, unitLines_congr named]
  rw [RecordView.lines, RecordView.lines, hListed, hUnits, same.patterns, passLines_congr named]

theorem batchLines_congr (same : engine.SameRules other)
    (named : other.store.backend = engine.store.backend) (views : List RecordView) :
    batchLines other views = batchLines engine views := by
  rw [batchLines, batchLines, funext (RecordView.lines_congr same named)]

end Engines

/-- Two records, the second with a number in its body. -/
def pairBatch (who other number : String) : LogBatch where
  records :=
    [⟨[("user", .str who), ("host", .str other)], none⟩,
     ⟨[("user", .str other)], some (.str ("port " ++ number))⟩]

/-- Rules by which the first write fails, and the second read. -/
def mishaps : List Store.Scripted.Rule :=
  [⟨.set, none, some 1, none, 0, false, some "broken pipe", false, none⟩,
   ⟨.get, none, some 1, none, 0, false, none, false, none⟩,
   ⟨.get, none, some 1, none, 0, false, some "refused", false, none⟩]

/-- What may be told of a run over two such records when these rules are in force. The token of the
first user was not stored, that of the second was not to be had, and the number was masked. -/
def pairViews : List RecordView :=
  [⟨["user", "host"], [some (.miss (some "scripted set failed: broken pipe") none)], [0], [], false⟩,
   ⟨["user"], [some (.failed "scripted get failed: refused")], [1], [some (.miss none none)], true⟩]

section Pairs

variable {who other number : String}
  (found : sampleEngine.patterns.patterns.map (fun pattern =>
    (pattern.category, pattern.findAll ("port " ++ number))) = [(⟨"digits"⟩, [number])])

include found

/-- Such records are masked by a call for each user and one for the number. -/
theorem exists_pair_calls {σ : Type} {runs : List (RecordRun σ)} {out : List LogRecord}
    (masked : sampleEngine.RecordsMasked (pairBatch who other number).records runs out) :
    ∃ (one two three : TokenCall σ) (first second : RecordOutcome) (done left : LogRecord),
      runs = [⟨[one], [], first⟩, ⟨[two], [three], second⟩] ∧ out = [done, left] ∧
        (one.value, one.category) = (who, ⟨"attribute_user"⟩) ∧
        (two.value, two.category) = (other, ⟨"attribute_user"⟩) ∧
        (three.value, three.category) = (number, ⟨"digits"⟩) ∧ first.bodyMasked = false ∧
        second.bodyMasked = (left.bodyText != some ("port " ++ number)) := by
  obtain ⟨pattern, hPattern, hFound⟩ := List.map_eq_singleton_iff.mp found
  obtain ⟨hCategory, hMatches⟩ := Prod.mk.inj hFound
  obtain _ | @⟨_, ⟨calls, none, first⟩, done, _, _, _, hFirst, rest⟩ := masked
  obtain _ | @⟨_, ⟨others, found, second⟩, left, _, _, _, hSecond, rest⟩ := rest
  cases rest
  obtain ⟨one, rfl, hOne⟩ := List.map_eq_singleton_iff.mp hFirst.isolated.asked
  obtain ⟨two, rfl, hTwo⟩ := List.map_eq_singleton_iff.mp hSecond.isolated.asked
  obtain ⟨hBody, rfl⟩ := hFirst.isolated.noText rfl
  have hAsked : found.map (fun call => (call.value, call.category)) = [(number, ⟨"digits"⟩)] := by
    simpa [bodyPasses, Json.str?, hPattern, passes, passAsks, hMatches, hCategory] using
      hSecond.body.asked
  obtain ⟨three, rfl, hThree⟩ := List.map_eq_singleton_iff.mp hAsked
  have hSame : first.bodyMasked = false := by
    rw [hFirst.isolated.bodyMasked, LogRecord.bodyText, hBody]
    rfl
  exact ⟨one, two, three, first, second, done, left, rfl, rfl, hOne, hTwo, hThree, hSame,
    hSecond.isolated.bodyMasked⟩

theorem exists_pair {left : String}
    (ended : sampleEngine.store.outcomes (Store.Scripted.backend "scripted") .unbounded
      [(who, ⟨"attribute_user"⟩), (other, ⟨"attribute_user"⟩), (number, ⟨"digits"⟩)]
      ⟨0, .none, [], mishaps, []⟩ = pairViews.flatMap fun view => view.attributes ++ view.found)
    (bodies : (execute (Store.Scripted.backend "scripted") .unbounded
      (sampleEngine.processBatch (pairBatch who other number)) ⟨0, .none, [], mishaps, []⟩).map
        (fun done => done.1.1.records.map LogRecord.bodyText) = some [none, some left])
    (changed : left ≠ "port " ++ number) :
    ∃ run : BatchRun Store.Scripted.State, run.engine = sampleEngine ∧
      run.batch = pairBatch who other number ∧ run.views = pairViews := by
  obtain ⟨⟨⟨out, summary⟩, events, after⟩, hRun, hBodies⟩ := Option.map_eq_some_iff.mp bodies
  obtain ⟨run, hBackend, hContext, hEngine, hBatch, hWorld, _⟩ := BatchRun.exists_run hRun
  refine ⟨run, hEngine, hBatch, ?_⟩
  obtain ⟨backend, context, engine, batch, world, ⟨out⟩, summary, events, after, runs, executed,
    chain, masked⟩ := run
  dsimp only at hBackend hContext hEngine hBatch hWorld
  subst hBackend hContext hEngine hBatch hWorld
  cases executed.symm.trans hRun
  obtain ⟨one, two, three, first, second, done, last, rfl, rfl, hOne, hTwo, hThree, hSame,
    hChanged⟩ := exists_pair_calls found masked
  have hLast : last.bodyText = some left := (List.cons.inj (List.cons.inj hBodies).2).1
  have hSecond : second.bodyMasked = true := by
    rw [hChanged, hLast]
    simpa using changed
  have hEnded : [one, two, three].map (TokenCall.outcome (Store.Scripted.backend "scripted")
      .unbounded sampleEngine.store) =
        pairViews.flatMap fun view => view.attributes ++ view.found := by
    rw [← ended, ← hOne, ← hTwo, ← hThree]
    exact chain.outcomes_eq
  simp only [pairViews, List.map_cons, List.map_nil, List.flatMap_cons, List.flatMap_nil,
    List.cons_append, List.nil_append, List.append_nil, List.cons.injEq, and_true] at hEnded
  obtain ⟨pattern, hPattern, hFound⟩ := List.map_eq_singleton_iff.mp found
  have hNoPass : sampleEngine.passCounts none ([] : List (TokenCall Store.Scripted.State)) = [0] := by
    simp only [passCounts, Option.bind_none, hPattern, List.map_cons, List.map_nil]
  have hPass : sampleEngine.passCounts (some (.str ("port " ++ number))) [three] = [1] := by
    simp only [passCounts, Option.bind_some, Json.str?, hPattern, passes, (Prod.mk.inj hFound).2,
      List.map_cons, List.map_nil, List.length_singleton]
  simp only [BatchRun.views, pairBatch, pairViews, List.zipWith_cons_cons, List.zipWith_nil_left,
    recordView, List.map_cons, List.map_nil, hEnded, hSame, hSecond, hNoPass, hPass]

end Pairs

/-- The log reveals nothing but views. Two runs of engines with the same rules and the same name of
their backend write the same lines when their views agree, whatever the values of attributes, the
texts of bodies, the originals and the tokens are, and whatever the backends and contexts. Every
execution is one of these runs. -/
theorem log_discreet {σ τ : Type} (first : BatchRun σ) (second : BatchRun τ)
    (same : first.engine.SameRules second.engine)
    (named : second.engine.store.backend = first.engine.store.backend)
    (agree : second.views = first.views) : logged second.events = logged first.events := by
  calc logged second.events = batchLines second.engine second.views := second.logged_eq
    _ = batchLines first.engine second.views := batchLines_congr same named _
    _ = batchLines first.engine first.views := by rw [agree]
    _ = logged first.events := first.logged_eq.symm

/-- Two runs in which a write and a read have failed and a body was masked log the same for other
users, another host and another number. -/
theorem log_discreet_alice :
    ∃ first second : BatchRun Store.Scripted.State,
      first.batch = pairBatch "alice" "bob" "80" ∧ second.batch = pairBatch "carol" "dave" "443" ∧
        first.engine.SameRules second.engine ∧
        second.engine.store.backend = first.engine.store.backend ∧ first.views = pairViews ∧
        second.views = first.views ∧ logged second.events = logged first.events := by
  obtain ⟨first, hFirst, hAlice, hFirstViews⟩ :
      ∃ run : BatchRun Store.Scripted.State, run.engine = sampleEngine ∧
        run.batch = pairBatch "alice" "bob" "80" ∧ run.views = pairViews :=
    exists_pair (by decide +kernel) (by decide +kernel) (by decide +kernel)
      (show "port digits-80" ≠ "port " ++ "80" by decide)
  obtain ⟨second, hSecond, hCarol, hSecondViews⟩ :
      ∃ run : BatchRun Store.Scripted.State, run.engine = sampleEngine ∧
        run.batch = pairBatch "carol" "dave" "443" ∧ run.views = pairViews :=
    exists_pair (by decide +kernel) (by decide +kernel) (by decide +kernel)
      (show "port digits-443" ≠ "port " ++ "443" by decide)
  have same : first.engine.SameRules second.engine := by
    rw [hFirst, hSecond]
    exact ⟨fun _ => Iff.rfl, rfl⟩
  have named : second.engine.store.backend = first.engine.store.backend := by
    rw [hFirst, hSecond]
  have agree : second.views = first.views := hSecondViews.trans hFirstViews.symm
  exact ⟨first, second, hAlice, hCarol, same, named, hFirstViews, agree,
    log_discreet first second same named agree⟩

example :
    (execute (Store.Scripted.backend "scripted") .unbounded
      (sampleEngine.processBatch (pairBatch "alice" "bob" "80")) ⟨0, .none, [], mishaps, []⟩).map
        (fun done => (logged done.2.1).map LogLine.message) =
      some ["Failed to store masked value, using synthesized value", "Failed to mask attribute",
        "Batch processed"] := by
  decide +kernel

end Batches

end MaskingEngine

end Masking
