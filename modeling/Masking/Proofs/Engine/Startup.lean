import Masking.Proofs.Engine.Isolation
import Masking.Proofs.Pattern.Compilation
import Masking.Proofs.Store.Notes
import Masking.Startup

/-! Startup over a backend that is open already. Whatever the backend answers, it is closed once on
every way to an error and left alone on the way to an engine; a failure of the closing itself does
not show. The engine writes all its entries with the lifetime that has been configured. -/

namespace Masking

open Store (Action Backend BackendConfig Call CallContext Duration Ends Error Event Program World
  execute execute_bind execute_close execute_ping notes_of_read notes_of_write run run_noted_free)

section Lifetimes

variable {σ : Type} {backend : Backend σ} {context : CallContext} {allows : Action → Prop}
  {store : TokenStore}

/-- The later notes are the earlier ones and more, and all writes among the new ones have one
lifetime. -/
def WritesBetween (ttl : Option Duration) (earlier later : List Call) : Prop :=
  ∃ more, later = earlier ++ more ∧
    ∀ key value lifetime, .set key value lifetime ∈ more → lifetime = ttl

namespace WritesBetween

variable {ttl : Option Duration} {first second third : List Call}

theorem refl (notes : List Call) : WritesBetween ttl notes notes :=
  ⟨[], by simp, by simp⟩

theorem trans (h : WritesBetween ttl first second) (later : WritesBetween ttl second third) :
    WritesBetween ttl first third := by
  obtain ⟨more, rfl, hMore⟩ := h
  obtain ⟨others, rfl, hOthers⟩ := later
  refine ⟨more ++ others, List.append_assoc _ _ _, ?_⟩
  intro key value lifetime member
  rcases List.mem_append.mp member with hHere | hThere
  · exact hMore key value lifetime hHere
  · exact hOthers key value lifetime hThere

theorem read {key : String} {world after : World (List Call × σ)}
    {answer : Except Error (Option String)}
    (h : Store.readIn backend.noting context key world = some (answer, after)) :
    WritesBetween ttl world.store.1 after.store.1 := by
  rcases notes_of_read h with hSame | hNoted
  · rw [hSame]
    exact refl _
  · exact ⟨[.get key], hNoted, by simp⟩

theorem write {key value : String} {world after : World (List Call × σ)}
    {answer : Except Error Unit}
    (h : Store.writeIn backend.noting context key value ttl world = some (answer, after)) :
    WritesBetween ttl world.store.1 after.store.1 := by
  rcases notes_of_write h with hSame | hNoted
  · rw [hSame]
    exact refl _
  · exact ⟨[.set key value ttl], hNoted, by simp⟩

end WritesBetween

/-- A call writes with the lifetime of its store. -/
theorem TokenCall.Made.writesBetween {call : TokenCall (List Call × σ)}
    (made : call.Made backend.noting context allows store) :
    WritesBetween store.ttl call.before.store.1 call.after.store.1 := by
  obtain ⟨events, hRun⟩ := made.run
  have hAnswers := (TokenStore.answers_of_execute hRun).1
  generalize call.result = result, call.after = after at hAnswers ⊢
  cases hAnswers with
  | failed read => exact .read read
  | hit read => exact .read read
  | miss read first second =>
      have hRead : WritesBetween store.ttl _ _ := .read read
      exact (hRead.trans (.write first)).trans (.write second)

theorem CallChain.writesBetween {world after : World (List Call × σ)}
    {calls : List (TokenCall (List Call × σ))}
    (h : CallChain backend.noting context allows store world calls after) :
    WritesBetween store.ttl world.store.1 after.store.1 := by
  induction h with
  | nil world => exact .refl _
  | cons made _ ih => exact made.writesBetween.trans ih

end Lifetimes

namespace MaskingEngine

/-- The engine writes entries of one lifetime only, over every backend and in every context. -/
def WritesFor (engine : MaskingEngine) (ttl : Option Duration) : Prop :=
  ∀ {σ : Type} (backend : Backend σ) (context : CallContext) (batch : LogBatch) (world : World σ),
    Ends backend.noting context (fun _ => True) (engine.processBatch batch) world.withoutNotes →
    ∃ done events after, execute backend.noting context (engine.processBatch batch)
        world.withoutNotes = some (done, events, after) ∧
      ∀ key value lifetime, .set key value lifetime ∈ after.store.1 → lifetime = ttl

theorem writesFor_ttl (engine : MaskingEngine) : engine.WritesFor engine.store.ttl := by
  intro σ backend context batch world ends
  obtain ⟨done, events, after, calls, hRun, hChain, _⟩ :=
    engine.yields_processBatch batch world.withoutNotes ends
  obtain ⟨more, hNotes, hMore⟩ := hChain.writesBetween
  refine ⟨done, events, after, hRun, ?_⟩
  intro key value lifetime member
  apply hMore key value lifetime
  rwa [hNotes] at member

section Startup

variable {σ : Type} {backend : Backend σ} {config : EngineConfig}

/-- The pattern can be used. -/
def Compiles (pattern : PatternConfig) : Prop :=
  ∃ regex, Regex.compile pattern.regex = .ok regex

theorem Compiles.of_pattern {config : PatternConfig} {pattern : Pattern}
    (h : Pattern.compile config = .ok pattern) : Compiles config :=
  Pattern.exists_compile_iff.mp ⟨pattern, h⟩

/-- The address that is shown for a backend: that of the server, and a fixed text for the store in
the process. -/
inductive ShownAs : BackendConfig → String → Prop
  | redis (address : String) (password : Option String) (database : Int) :
      ShownAs (.redis address password database) address
  | memory (capacity : Nat) : ShownAs (.memory capacity) "in-process"

theorem shownAs_address (backend : BackendConfig) : ShownAs backend backend.address := by
  cases backend with
  | redis address password database => exact .redis address password database
  | memory capacity => exact .memory capacity

/-- The ways in which a startup ends, and the calls that the backend receives on each. -/
inductive StartsUp (config : EngineConfig) (backend : Backend σ) (world : World σ) :
    Except StartupError MaskingEngine → List Call → Prop
  /-- The first pattern that is refused ends the startup, and the backend is closed unasked. -/
  | refused {before after : List PatternConfig} {pattern : PatternConfig} {fault : Regex.Fault}
      (patterns : config.patterns = before ++ pattern :: after)
      (fine : ∀ earlier ∈ before, Compiles earlier)
      (bad : Regex.compile pattern.regex = .error fault) :
      StartsUp config backend world (.error (.setup (.patternCompilation pattern.name fault)))
        [.close]
  /-- A ping that fails ends it too, whatever its error is and however the closing ends. -/
  | unreachable {error : Error} {after : World σ} {address : String}
      (fine : ∀ pattern ∈ config.patterns, Compiles pattern)
      (ping : run .unbounded "ping" backend.ping world = some (.error error, after))
      (shown : ShownAs config.store.backend address) :
      StartsUp config backend world
        (.error (.store (.connection backend.name address error.text))) [.ping, .close]
  | started {engine : MaskingEngine} {after : World σ}
      (ping : run .unbounded "ping" backend.ping world = some (.ok (), after))
      (fields : engine.fields = config.fieldsToMask)
      (patterns : config.patterns.map Pattern.compile = engine.patterns.patterns.map Except.ok)
      (named : engine.patterns.patterns.map Pattern.config = config.patterns)
      (lifetime : engine.WritesFor
        (if config.store.tokenTtl = 0 then none else some (config.store.tokenTtl * 1000))) :
      StartsUp config backend world (.ok engine) [.ping]

/-- What holds of every startup: an error comes with one closing, an engine with none, and a store
that cannot be used is a fatal error. -/
structure StartsCarefully (config : EngineConfig) (backend : Backend σ) (world : World σ)
    (result : Except StartupError MaskingEngine) (calls : List Call) : Prop where
  outcome : StartsUp config backend world result calls
  closed : ∀ error, result = .error error → calls.count .close = 1
  fatal : ∀ error, result = .error (.store error) → error.isFatal = true
  open_kept : ∀ engine, result = .ok engine → .close ∉ calls

theorem StartsUp.carefully {world : World σ} {result : Except StartupError MaskingEngine}
    {calls : List Call} (h : StartsUp config backend world result calls) :
    StartsCarefully config backend world result calls := by
  refine ⟨h, ?_, ?_, ?_⟩
  · rintro error rfl
    cases h <;> decide
  · rintro error rfl
    cases h
    rfl
  · rintro engine rfl
    cases h
    decide

theorem execute_closeAfterFailure {world : World (List Call × σ)} {after : World σ}
    {answer : Except Error Unit}
    (h : run .unbounded "close" backend.close world.forget = some (answer, after)) :
    ∃ events, execute backend.noting .unbounded closeAfterFailure world =
      some ((), events, ⟨after.now, after.tokens, world.store.1 ++ [.close], after.store⟩) := by
  have hClose := run_noted_free backend.close (fun state => state.1 ++ [.close])
    (Store.not_interrupted_unbounded _ _) h
  have hNoting : run .unbounded "close" backend.noting.close world = some (answer,
      ⟨after.now, after.tokens, world.store.1 ++ [.close], after.store⟩) := hClose
  simp only [closeAfterFailure, Program.bind_eq, Program.release, Program.bind, execute_close,
    hNoting, Option.bind_some]
  cases answer with
  | ok value => exact ⟨[], rfl⟩
  | error error => exact ⟨_, rfl⟩

theorem exists_close {world : World (List Call × σ)}
    (ends : Ends backend .unbounded (fun _ => True) closeAfterFailure world.forget) :
    ∃ events after, execute backend.noting .unbounded closeAfterFailure world =
      some ((), events, after) ∧ after.store.1 = world.store.1 ++ [.close] := by
  obtain ⟨answer, after, hClose, _⟩ := ends
  obtain ⟨events, hRun⟩ := execute_closeAfterFailure hClose
  exact ⟨events, _, hRun, rfl⟩

theorem ofConfig_writesFor (config : EngineConfig) (patterns : PatternSet) (name : String) :
    (ofConfig config patterns name).WritesFor
      (if config.store.tokenTtl = 0 then none else some (config.store.tokenTtl * 1000)) :=
  writesFor_ttl (ofConfig config patterns name)

/-- Startup with patterns that have been compiled is a ping, and a closing if the ping fails. -/
theorem exists_launch {patterns : PatternSet} {world : World σ}
    (compiled : PatternSet.compile config.patterns = .ok patterns)
    (ends : Ends backend .unbounded (fun _ => True) (launch config patterns backend.name) world) :
    ∃ result events after, execute backend.noting .unbounded (launch config patterns backend.name)
        world.withoutNotes = some (result, events, after) ∧
      StartsUp config backend world result after.store.1 := by
  obtain ⟨answer, middle, hPing, _, hRest⟩ := ends
  have hNoted := run_noted_free backend.ping (fun state => state.1 ++ [.ping])
    (Store.not_interrupted_unbounded world.withoutNotes.tokens world.withoutNotes.now) hPing
  have hNoting : run .unbounded "ping" backend.noting.ping world.withoutNotes =
      some (answer, ⟨middle.now, middle.tokens, [.ping], middle.store⟩) := hNoted
  simp only [launch, Program.bind_eq, Program.check, Program.bind, execute_ping, hNoting,
    Option.bind_some]
  cases answer with
  | error error =>
      obtain ⟨hClosing, _⟩ :=
        @Ends.of_bind σ Unit _ backend .unbounded _ closeAfterFailure _ middle hRest
      obtain ⟨events, after, hClose, hNotes⟩ :=
        @exists_close σ backend ⟨middle.now, middle.tokens, [.ping], middle.store⟩ hClosing
      refine ⟨_, events ++ [], after, by rw [execute_bind, hClose]; rfl, ?_⟩
      rw [hNotes]
      refine StartsUp.unreachable ?_ hPing (shownAs_address config.store.backend)
      intro pattern member
      obtain ⟨_, hPattern⟩ := PatternSet.exists_of_compile compiled pattern member
      exact .of_pattern hPattern
  | ok value =>
      have collects := PatternSet.collects_of_compile compiled
      refine ⟨_, _, _, rfl, .started hPing rfl collects.compiled collects.listed ?_⟩
      exact ofConfig_writesFor config patterns backend.name

theorem startWithBackend_refused {error : SetupError} (name : String)
    (h : PatternSet.compile config.patterns = .error error) :
    startWithBackend config name =
      closeAfterFailure.bind fun _ => .done (.error (.setup error)) := by
  rw [startWithBackend, h]
  rfl

theorem startWithBackend_compiled {patterns : PatternSet} (name : String)
    (h : PatternSet.compile config.patterns = .ok patterns) :
    startWithBackend config name = launch config patterns name := by
  rw [startWithBackend, h]

/-- Startup leaks nothing and closes no backend that can be used. Whatever the ping and the closing
answer: a pattern that is refused ends it with one closing and no other call, a ping that fails with
the ping and one closing, and otherwise the ping alone is made and there is an engine. -/
theorem startWithBackend_careful {world : World σ}
    (ends : Ends backend .unbounded (fun _ => True) (startWithBackend config backend.name) world) :
    ∃ result events after,
      execute backend.noting .unbounded (startWithBackend config backend.name)
          world.withoutNotes = some (result, events, after) ∧
        StartsCarefully config backend world result after.store.1 := by
  cases hSet : PatternSet.compile config.patterns with
  | error error =>
      rw [startWithBackend_refused _ hSet] at ends ⊢
      obtain ⟨before, pattern, after, hSplit, hFine, hBad⟩ := PatternSet.compile_eq_error_iff.mp hSet
      obtain ⟨fault, hFault, rfl⟩ := Pattern.compile_eq_error_iff.mp hBad
      obtain ⟨events, last, hClose, hNotes⟩ :=
        @exists_close σ backend world.withoutNotes ends.of_bind.1
      refine ⟨_, events ++ [], last, by rw [execute_bind, hClose]; rfl, ?_⟩
      rw [hNotes]
      apply StartsUp.carefully
      apply StartsUp.refused hSplit _ hFault
      intro earlier member
      obtain ⟨_, hPattern⟩ := hFine earlier member
      exact .of_pattern hPattern
  | ok patterns =>
      rw [startWithBackend_compiled _ hSet] at ends ⊢
      obtain ⟨result, events, after, hRun, hStarts⟩ := exists_launch hSet ends
      exact ⟨result, events, after, hRun, hStarts.carefully⟩

/-- A configuration with one pattern, over Redis, whose entries live for a minute. -/
def sampleConfig : EngineConfig where
  fieldsToMask := ["user"]
  patterns := [⟨"digits", "[0-9]+", "N-"⟩]
  store := ⟨.standard, 60⟩

/-- A rule by which an operation without a key fails. -/
def failing (operation : Store.Scripted.Operation) (message : String) : Store.Scripted.Rule :=
  ⟨operation, none, none, none, 5, false, some message, false, none⟩

theorem startWithBackend_careful_failures :
    Ends (Store.Scripted.backend "scripted") .unbounded (fun _ => True)
        (startWithBackend sampleConfig "scripted")
        ⟨0, .none, [], [failing .ping "NOAUTH", failing .close "gone"], []⟩ ∧
      ∃ result events after,
        execute (Store.Scripted.backend "scripted").noting .unbounded
            (startWithBackend sampleConfig "scripted")
            (World.withoutNotes
              ⟨0, .none, [], [failing .ping "NOAUTH", failing .close "gone"], []⟩) =
          some (result, events, after) ∧
        StartsCarefully sampleConfig (Store.Scripted.backend "scripted")
          ⟨0, .none, [], [failing .ping "NOAUTH", failing .close "gone"], []⟩ result
          after.store.1 := by
  have ends : Ends (Store.Scripted.backend "scripted") .unbounded (fun _ => True)
      (startWithBackend sampleConfig "scripted")
      ⟨0, .none, [], [failing .ping "NOAUTH", failing .close "gone"], []⟩ := by
    rw [startWithBackend]
    cases PatternSet.compile sampleConfig.patterns with
    | error error => exact ⟨_, _, rfl, trivial, trivial⟩
    | ok patterns => exact ⟨_, _, rfl, trivial, _, _, rfl, trivial, trivial⟩
  exact ⟨ends, startWithBackend_careful ends⟩

end Startup

end MaskingEngine

end Masking
