import Masking.Proofs.Store.Entries
import Mathlib.Logic.Function.Basic

/-! Backends that keep what is written. Where no operation fails and no entry is lost a backend is
a plain map, and every run over it can be told from the map alone. -/

namespace Masking.Store

/-- The entries that a state of a backend holds at any time. -/
abbrev Held (σ : Type) := σ → String → Option String

section Attempts

variable {σ β : Type}

/-- The attempt ends by itself and well: it gives the answer, and leaves a steady state with the
given entries. -/
structure Attempt.Does (attempt : Attempt σ β) (steady : σ → Prop) (held : Held σ) (answer : β)
    (after : String → Option String) : Prop where
  ends : attempt.delay.isSome = true
  succeeds : attempt.finish.1 = .ok answer
  steady : steady attempt.finish.2
  held : held attempt.finish.2 = after

/-- In its steady states, and for writes of one lifetime, the backend is a map. A read finds what is
held and changes no entry, and a write replaces the entry of its key and no other. -/
structure Backend.Keeps (backend : Backend σ) (ttl : Option Duration) (steady : σ → Prop)
    (held : Held σ) : Prop where
  get : ∀ {now store} key, steady store →
    (backend.get now store key).Does steady held (held store key) (held store)
  set : ∀ {now store} key value, steady store →
    (backend.set now store key value ttl).Does steady held ()
      (Function.update (held store) key (some value))

end Attempts

/-- The action is a read that finds an entry, and no other operation. -/
def Action.Finds : Action → Prop
  | .get _ (.ok (some _)) => True
  | .emit _ => True
  | _ => False

section Runs

variable {σ : Type} {backend : Backend σ} {ttl : Option Duration} {steady : σ → Prop}
  {held : Held σ} {context : CallContext} {world after : World σ} {key value : String}

/-- An operation that ends well in a steady state has done what it does there. -/
theorem Attempt.Does.of_run {β : Type} {attempt : Instant → σ → Attempt σ β} {operation : String}
    {answer expected : β} {entries : String → Option String}
    (does : (attempt world.now world.store).Does steady held expected entries)
    (run : run context operation attempt world = some (.ok answer, after)) :
    answer = expected ∧ steady after.store ∧ held after.store = entries := by
  obtain ⟨hAnswer, hStore⟩ := (run_ended run).of_ok
  rw [does.succeeds] at hAnswer
  rw [hStore]
  exact ⟨(Except.ok.inj hAnswer).symm, does.steady, does.held⟩

/-- Without limits every operation of a steady state is run to its end. -/
theorem Attempt.Does.exists_run_unbounded {β : Type} {attempt : Instant → σ → Attempt σ β}
    {answer : β} {entries : String → Option String} (operation : String)
    (does : (attempt world.now world.store).Does steady held answer entries) :
    ∃ after, run .unbounded operation attempt world = some (.ok answer, after) := by
  have hEnds : ∃ result after, run .unbounded operation attempt world = some (result, after) :=
    exists_run (Or.inr does.ends)
  obtain ⟨result, after, hRun⟩ := hEnds
  obtain ⟨duration, hDelay⟩ := Option.isSome_iff_exists.mp does.ends
  have completes : Completes .unbounded attempt world :=
    ⟨not_interrupted_unbounded _ _, duration, hDelay, Or.inr (not_interrupted_unbounded _ _)⟩
  have hResult := ((run_ended hRun).of_completes completes).1
  rw [does.succeeds] at hResult
  subst hResult
  exact ⟨after, hRun⟩

theorem Backend.Keeps.exists_read (keeps : backend.Keeps ttl steady held)
    (hSteady : steady world.store) (key : String) :
    ∃ after, readIn backend .unbounded key world = some (.ok (held world.store key), after) := by
  have hDoes := @keeps.get world.now _ key hSteady
  exact Attempt.Does.exists_run_unbounded "get" hDoes

theorem Backend.Keeps.exists_write (keeps : backend.Keeps ttl steady held)
    (hSteady : steady world.store) (key value : String) :
    ∃ after, writeIn backend .unbounded key value ttl world = some (.ok (), after) := by
  have hDoes := @keeps.set world.now _ key value hSteady
  exact Attempt.Does.exists_run_unbounded "set" hDoes

end Runs

section Replays

variable {σ α β : Type} {table : String → Option String}

/-- The program has this result in the world by reads that find something, and by nothing else: it
neither writes nor synthesizes, and changes no entry. It is so in the context without limits, and in
every other one in which no read fails. -/
structure OnlyReads (backend : Backend σ) (steady : σ → Prop) (held : Held σ)
    (program : Program α) (world : World σ) (result : α) : Prop where
  unbounded : Ends backend .unbounded Action.Finds program world
  finds : ∀ context, Ends backend context Action.ReadsSucceed program world →
    Ends backend context Action.Finds program world
  result : ∀ context, Ends backend context Action.ReadsSucceed program world →
    ∃ events after, execute backend context program world = some (result, events, after) ∧
      .synthesized ∉ events ∧ steady after.store ∧ held after.store = held world.store

/-- The program has this result over the table of entries by reading alone. Everything that it reads
is there, and it makes nothing new. -/
inductive Program.Replays (table : String → Option String) : Program α → α → Prop
  | done (value : α) : Replays table (.done value) value
  | get {key found : String} {next : Except Error (Option String) → Program α} {result : α}
      (there : table key = some found) (later : Replays table (next (.ok (some found))) result) :
      Replays table (.get key next) result
  | emit {event : Event} {next : Program α} {result : α} (silent : event ≠ .synthesized)
      (later : Replays table next result) : Replays table (.emit event next) result

namespace Program.Replays

theorem tell {event : Event} {next : Unit → Program α} {result : α}
    (silent : event ≠ .synthesized) (later : Replays table (next ()) result) :
    Replays table ((Program.tell event).bind next) result :=
  .emit silent later

theorem bind {program : Program α} {next : α → Program β} {value : α} {result : β}
    (first : Replays table program value) (later : Replays table (next value) result) :
    Replays table (program.bind next) result := by
  induction first with
  | done value => exact later
  | get there _ ih => exact .get there (ih later)
  | emit silent _ ih => exact .emit silent (ih later)

variable {backend : Backend σ} {ttl : Option Duration} {steady : σ → Prop} {held : Held σ}
  {context : CallContext} {program : Program α} {result : α} {world : World σ}

theorem ends_unbounded (replays : Replays table program result)
    (keeps : backend.Keeps ttl steady held) (hSteady : steady world.store)
    (hHeld : held world.store = table) :
    Ends backend .unbounded Action.Finds program world := by
  induction replays generalizing world with
  | done value => trivial
  | @get key found next result there _ ih =>
      obtain ⟨after, hRead⟩ := keeps.exists_read hSteady key
      obtain ⟨_, hAfter, hSame⟩ := (keeps.get key hSteady).of_run hRead
      rw [hHeld, there] at hRead
      exact ⟨_, after, hRead, trivial, ih hAfter (hSame.trans hHeld)⟩
  | emit _ _ ih => exact ih hSteady hHeld

theorem execute (replays : Replays table program result) (keeps : backend.Keeps ttl steady held)
    (hSteady : steady world.store) (hHeld : held world.store = table)
    (ends : Ends backend context Action.ReadsSucceed program world) :
    Ends backend context Action.Finds program world ∧
      ∃ events after, Store.execute backend context program world = some (result, events, after) ∧
        .synthesized ∉ events ∧ steady after.store ∧ held after.store = table := by
  induction replays generalizing world with
  | done value => exact ⟨trivial, [], world, rfl, List.not_mem_nil, hSteady, hHeld⟩
  | @get key found next result there _ ih =>
      obtain ⟨answer, middle, hRead, hAllowed, hRest⟩ := ends
      cases answer with
      | error error => cases hAllowed
      | ok answer =>
          obtain ⟨hAnswer, hMiddle, hSame⟩ := (keeps.get key hSteady).of_run hRead
          rw [hHeld, there] at hAnswer
          subst hAnswer
          obtain ⟨hFinds, events, after, hRun, hAfter⟩ := ih hMiddle (hSame.trans hHeld) hRest
          refine ⟨⟨_, middle, hRead, trivial, hFinds⟩, events, after, ?_, hAfter⟩
          rw [execute_get, hRead]
          exact hRun
  | @emit event next result silent _ ih =>
      obtain ⟨hFinds, events, after, hRun, hSilent, hAfter⟩ := ih hSteady hHeld ends
      refine ⟨hFinds, event :: events, after, ?_, ?_, hAfter⟩
      · rw [execute_emit, hRun]
        rfl
      · exact List.not_mem_cons_of_ne_of_not_mem silent.symm hSilent

/-- Over a backend that holds the entries of the table the program only reads. -/
theorem onlyReads (replays : Replays table program result) (keeps : backend.Keeps ttl steady held)
    (hSteady : steady world.store) (hHeld : held world.store = table) :
    OnlyReads backend steady held program world result where
  unbounded := replays.ends_unbounded keeps hSteady hHeld
  finds _ ends := (replays.execute keeps hSteady hHeld ends).1
  result _ ends := by
    rw [hHeld]
    exact (replays.execute keeps hSteady hHeld ends).2

end Program.Replays

end Replays

namespace Memory

/-- No item of the store expires. -/
def Permanent (state : State) : Prop :=
  ∀ entry ∈ state.items, entry.2.expiresAt = none

/-- The entries of a store whose items do not expire. -/
def held : Held State :=
  fun state key => (state.items.lookup key).map Item.value

theorem Permanent.lookup {state : State} (permanent : Permanent state) (now : Instant)
    (key : String) : lookup now state key = held state key := by
  simp only [Memory.lookup, held]
  cases hItem : state.items.lookup key with
  | none => rfl
  | some item =>
      obtain ⟨before, behind, hItems, _⟩ := List.lookup_eq_some_iff.mp hItem
      have hMember : (key, item) ∈ state.items := by
        rw [hItems]
        exact List.mem_append_right _ List.mem_cons_self
      have hNever : item.expiresAt = none := permanent _ hMember
      have hAlive : item.alive now = true := by
        simp only [Item.alive, hNever]
      simp only [hAlive, if_true, Option.map_some]

theorem Permanent.insert {state : State} (permanent : Permanent state) (now : Instant)
    (key value : String) : Permanent (insert now state key value none) := by
  intro entry member
  rw [insert_eq] at member
  rcases List.mem_cons.mp member with rfl | older
  · rfl
  · exact permanent entry (List.mem_filter.mp older).1

theorem held_insert (now : Instant) (state : State) (key value : String)
    (ttl : Option Duration) :
    held (insert now state key value ttl) = Function.update (held state) key (some value) := by
  funext other
  by_cases hKey : other = key
  · subst hKey
    simp [held, insert_eq]
  · have hOther : (other == key) = false := beq_eq_false_iff_ne.mpr hKey
    rw [Function.update_of_ne hKey]
    simp only [held, insert_eq, List.lookup_cons, hOther, lookup_remove_other hKey]

/-- The store in the process keeps what is written without a lifetime. -/
theorem backend_keeps : backend.Keeps none Permanent held where
  get key permanent := ⟨rfl, congrArg Except.ok (permanent.lookup _ key), permanent, rfl⟩
  set key value permanent := ⟨rfl, rfl, permanent.insert _ key value, held_insert _ _ key value none⟩

end Memory

end Masking.Store
