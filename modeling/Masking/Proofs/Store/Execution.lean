import Masking.Store.Execution

/-! Laws of execution. A program followed by another one is executed in sequence, an execution has
a result as soon as every operation in it ends, and an execution may be looked at after any of its
steps. -/

namespace Masking.Store

namespace Program

variable {α β : Type}

@[simp] theorem pure_eq (value : α) : (pure value : Program α) = .done value := rfl

@[simp] theorem bind_eq (program : Program α) (next : α → Program β) :
    program >>= next = program.bind next := rfl

/-- A program that only reads and writes entries, and tells events. It neither asks for the backend
nor closes it. -/
def EntriesOnly : Program α → Prop
  | .done _ => True
  | .get _ next => ∀ answer, EntriesOnly (next answer)
  | .set _ _ _ next => ∀ answer, EntriesOnly (next answer)
  | .ping _ => False
  | .close _ => False
  | .emit _ next => EntriesOnly next

theorem EntriesOnly.bind {program : Program α} {next : α → Program β}
    (first : program.EntriesOnly) (rest : ∀ value, (next value).EntriesOnly) :
    (program.bind next).EntriesOnly := by
  induction program with
  | done value => exact rest value
  | get key next ih => exact fun answer => ih answer (first answer)
  | set key value ttl next ih => exact fun answer => ih answer (first answer)
  | ping next => exact False.elim first
  | close next => exact False.elim first
  | emit event next ih => exact ih first

end Program

/-- What happens in a run: an operation with its answer, or an event that is told. -/
inductive Action where
  | get (key : String) (answer : Except Error (Option String))
  | set (key value : String) (answer : Except Error Unit)
  | ping (answer : Except Error Unit)
  | close (answer : Except Error Unit)
  | emit (event : Event)

section Runs

variable {σ α β : Type} (backend : Backend σ) (context : CallContext)

def readIn (key : String) (world : World σ) :
    Option (Except Error (Option String) × World σ) :=
  run context "get" (fun now store => backend.get now store key) world

def writeIn (key value : String) (ttl : Option Duration) (world : World σ) :
    Option (Except Error Unit × World σ) :=
  run context "set" (fun now store => backend.set now store key value ttl) world

/-- Every operation of the run ends, and in a way that is allowed. -/
def Ends (allows : Action → Prop) : Program α → World σ → Prop
  | .done _, _ => True
  | .get key next, world =>
      ∃ answer after, readIn backend context key world = some (answer, after) ∧
        allows (.get key answer) ∧ Ends allows (next answer) after
  | .set key value ttl next, world =>
      ∃ answer after, writeIn backend context key value ttl world = some (answer, after) ∧
        allows (.set key value answer) ∧ Ends allows (next answer) after
  | .ping next, world =>
      ∃ answer after, run context "ping" backend.ping world = some (answer, after) ∧
        allows (.ping answer) ∧ Ends allows (next answer) after
  | .close next, world =>
      ∃ answer after, run .unbounded "close" backend.close world = some (answer, after) ∧
        allows (.close answer) ∧ Ends allows (next answer) after
  | .emit _ next, world => Ends allows next world

/-- A run that comes from one program and world to another one in some steps. -/
inductive Reaches : Program α → World σ → Program α → World σ → Prop
  | refl (program : Program α) (world : World σ) : Reaches program world program world
  | get {key next world answer after rest finish}
      (ends : readIn backend context key world = some (answer, after))
      (later : Reaches (next answer) after rest finish) : Reaches (.get key next) world rest finish
  | set {key value ttl next world answer after rest finish}
      (ends : writeIn backend context key value ttl world = some (answer, after))
      (later : Reaches (next answer) after rest finish) :
      Reaches (.set key value ttl next) world rest finish
  | ping {next world answer after rest finish}
      (ends : run context "ping" backend.ping world = some (answer, after))
      (later : Reaches (next answer) after rest finish) : Reaches (.ping next) world rest finish
  | close {next world answer after rest finish}
      (ends : run .unbounded "close" backend.close world = some (answer, after))
      (later : Reaches (next answer) after rest finish) : Reaches (.close next) world rest finish
  | emit {event next world rest finish} (later : Reaches next world rest finish) :
      Reaches (.emit event next) world rest finish

end Runs

section Laws

variable {σ α β : Type} {backend : Backend σ} {context : CallContext}

@[simp] theorem execute_done (value : α) (world : World σ) :
    execute backend context (.done value) world = some (value, [], world) := rfl

theorem execute_get (key : String) (next : Except Error (Option String) → Program α)
    (world : World σ) :
    execute backend context (.get key next) world =
      (readIn backend context key world).bind fun done =>
        execute backend context (next done.1) done.2 := by
  rw [execute, ← readIn]
  cases readIn backend context key world <;> rfl

theorem execute_set (key value : String) (ttl : Option Duration)
    (next : Except Error Unit → Program α) (world : World σ) :
    execute backend context (.set key value ttl next) world =
      (writeIn backend context key value ttl world).bind fun done =>
        execute backend context (next done.1) done.2 := by
  rw [execute, ← writeIn]
  cases writeIn backend context key value ttl world <;> rfl

theorem execute_ping (next : Except Error Unit → Program α) (world : World σ) :
    execute backend context (.ping next) world =
      (run context "ping" backend.ping world).bind fun done =>
        execute backend context (next done.1) done.2 := by
  rw [execute]
  cases run context "ping" backend.ping world <;> rfl

theorem execute_close (next : Except Error Unit → Program α) (world : World σ) :
    execute backend context (.close next) world =
      (run .unbounded "close" backend.close world).bind fun done =>
        execute backend context (next done.1) done.2 := by
  rw [execute]
  cases run .unbounded "close" backend.close world <;> rfl

theorem execute_emit (event : Event) (next : Program α) (world : World σ) :
    execute backend context (.emit event next) world =
      (execute backend context next world).map fun done =>
        (done.1, event :: done.2.1, done.2.2) := by
  rw [execute]
  cases execute backend context next world <;> rfl

/-- A program followed by another one is executed in sequence, and the events of the second come
after those of the first. -/
theorem execute_bind (program : Program α) (next : α → Program β) (world : World σ) :
    execute backend context (program.bind next) world =
      (execute backend context program world).bind fun first =>
        (execute backend context (next first.1) first.2.2).map fun second =>
          (second.1, first.2.1 ++ second.2.1, second.2.2) := by
  induction program generalizing world with
  | done value => simp [Program.bind]
  | get key rest ih =>
      simp only [Program.bind, execute_get, ih, Option.bind_assoc]
  | set key value ttl rest ih =>
      simp only [Program.bind, execute_set, ih, Option.bind_assoc]
  | ping rest ih =>
      simp only [Program.bind, execute_ping, ih, Option.bind_assoc]
  | close rest ih =>
      simp only [Program.bind, execute_close, ih, Option.bind_assoc]
  | emit event rest ih =>
      simp only [Program.bind, execute_emit, ih]
      cases execute backend context rest world with
      | none => rfl
      | some first =>
          simp only [Option.bind_some, Option.map_some, Option.map_map]
          rfl

theorem execute_emit_some {event : Event} {next : Program α} {world after : World σ}
    {result : α} {events : List Event}
    (h : execute backend context (.emit event next) world = some (result, events, after)) :
    ∃ more, execute backend context next world = some (result, more, after) ∧
      events = event :: more := by
  rw [execute_emit] at h
  obtain ⟨⟨value, more, final⟩, hNext, he⟩ := Option.map_eq_some_iff.mp h
  cases he
  exact ⟨more, hNext, rfl⟩

theorem Ends.mono {allows more : Action → Prop} {program : Program α} {world : World σ}
    (h : Ends backend context allows program world)
    (larger : ∀ action, allows action → more action) :
    Ends backend context more program world := by
  induction program generalizing world with
  | done value => trivial
  | get key next ih =>
      obtain ⟨answer, after, hRead, hAllowed, hRest⟩ := h
      exact ⟨answer, after, hRead, larger _ hAllowed, ih answer hRest⟩
  | set key value ttl next ih =>
      obtain ⟨answer, after, hWrite, hAllowed, hRest⟩ := h
      exact ⟨answer, after, hWrite, larger _ hAllowed, ih answer hRest⟩
  | ping next ih =>
      obtain ⟨answer, after, hRun, hAllowed, hRest⟩ := h
      exact ⟨answer, after, hRun, larger _ hAllowed, ih answer hRest⟩
  | close next ih =>
      obtain ⟨answer, after, hRun, hAllowed, hRest⟩ := h
      exact ⟨answer, after, hRun, larger _ hAllowed, ih answer hRest⟩
  | emit event next ih => exact ih h

/-- When every operation of a run ends, the run has a result. -/
theorem Ends.exists_result {allows : Action → Prop} {program : Program α} {world : World σ}
    (h : Ends backend context allows program world) :
    ∃ result events after,
      execute backend context program world = some (result, events, after) := by
  induction program generalizing world with
  | done value => exact ⟨value, [], world, rfl⟩
  | get key next ih =>
      obtain ⟨answer, middle, hRead, _, hRest⟩ := h
      obtain ⟨result, events, after, hNext⟩ := ih answer hRest
      exact ⟨result, events, after, by simp [execute_get, hRead, hNext]⟩
  | set key value ttl next ih =>
      obtain ⟨answer, middle, hWrite, _, hRest⟩ := h
      obtain ⟨result, events, after, hNext⟩ := ih answer hRest
      exact ⟨result, events, after, by simp [execute_set, hWrite, hNext]⟩
  | ping next ih =>
      obtain ⟨answer, middle, hRun, _, hRest⟩ := h
      obtain ⟨result, events, after, hNext⟩ := ih answer hRest
      exact ⟨result, events, after, by simp [execute_ping, hRun, hNext]⟩
  | close next ih =>
      obtain ⟨answer, middle, hRun, _, hRest⟩ := h
      obtain ⟨result, events, after, hNext⟩ := ih answer hRest
      exact ⟨result, events, after, by simp [execute_close, hRun, hNext]⟩
  | emit event next ih =>
      obtain ⟨result, events, after, hNext⟩ := ih h
      exact ⟨result, event :: events, after, by simp [execute_emit, hNext]⟩

/-- When every operation of two programs in sequence ends, those of the first end, and those of the
second end in the world that the first leaves. -/
theorem Ends.of_bind {allows : Action → Prop} {program : Program α} {next : α → Program β}
    {world : World σ} (h : Ends backend context allows (program.bind next) world) :
    Ends backend context allows program world ∧
      ∀ {value events after}, execute backend context program world = some (value, events, after) →
        Ends backend context allows (next value) after := by
  induction program generalizing world with
  | done value =>
      refine ⟨trivial, fun run => ?_⟩
      cases run
      exact h
  | get key rest ih =>
      obtain ⟨answer, middle, hRead, hAllowed, hRest⟩ := h
      obtain ⟨hFirst, hSecond⟩ := ih answer hRest
      refine ⟨⟨answer, middle, hRead, hAllowed, hFirst⟩, fun run => ?_⟩
      rw [execute_get, hRead] at run
      exact hSecond run
  | set key value ttl rest ih =>
      obtain ⟨answer, middle, hWrite, hAllowed, hRest⟩ := h
      obtain ⟨hFirst, hSecond⟩ := ih answer hRest
      refine ⟨⟨answer, middle, hWrite, hAllowed, hFirst⟩, fun run => ?_⟩
      rw [execute_set, hWrite] at run
      exact hSecond run
  | ping rest ih =>
      obtain ⟨answer, middle, hRun, hAllowed, hRest⟩ := h
      obtain ⟨hFirst, hSecond⟩ := ih answer hRest
      refine ⟨⟨answer, middle, hRun, hAllowed, hFirst⟩, fun run => ?_⟩
      rw [execute_ping, hRun] at run
      exact hSecond run
  | close rest ih =>
      obtain ⟨answer, middle, hRun, hAllowed, hRest⟩ := h
      obtain ⟨hFirst, hSecond⟩ := ih answer hRest
      refine ⟨⟨answer, middle, hRun, hAllowed, hFirst⟩, fun run => ?_⟩
      rw [execute_close, hRun] at run
      exact hSecond run
  | emit event rest ih =>
      obtain ⟨hFirst, hSecond⟩ := ih h
      refine ⟨hFirst, fun run => ?_⟩
      obtain ⟨more, hNext, _⟩ := execute_emit_some run
      exact hSecond hNext

/-- A run that is looked at after some steps goes on to its own result. -/
theorem Reaches.execute_rest {program rest : Program α} {world middle after : World σ} {result : α}
    {events : List Event} (h : Reaches backend context program world rest middle)
    (run : execute backend context program world = some (result, events, after)) :
    ∃ later, execute backend context rest middle = some (result, later, after) := by
  induction h generalizing events with
  | refl program world => exact ⟨events, run⟩
  | get ends _ ih =>
      rw [execute_get, ends] at run
      exact ih run
  | set ends _ ih =>
      rw [execute_set, ends] at run
      exact ih run
  | ping ends _ ih =>
      rw [execute_ping, ends] at run
      exact ih run
  | close ends _ ih =>
      rw [execute_close, ends] at run
      exact ih run
  | emit _ ih =>
      obtain ⟨more, hNext, _⟩ := execute_emit_some run
      exact ih hNext

theorem Reaches.entriesOnly {program rest : Program α} {world middle : World σ}
    (h : Reaches backend context program world rest middle) (only : program.EntriesOnly) :
    rest.EntriesOnly := by
  induction h with
  | refl program world => exact only
  | get _ _ ih => exact ih (only _)
  | set _ _ ih => exact ih (only _)
  | ping _ _ _ => exact False.elim only
  | close _ _ _ => exact False.elim only
  | emit _ ih => exact ih only

end Laws

end Masking.Store
