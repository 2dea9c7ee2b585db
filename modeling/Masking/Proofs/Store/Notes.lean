import Masking.Proofs.Store.Interruption

/-! Backends that note every call they receive. The notes do not influence a run: leaving them out
gives the run over the backend itself. -/

namespace Masking.Store

inductive Call where
  | get (key : String)
  | set (key value : String) (ttl : Option Duration)
  | ping
  | close
deriving DecidableEq

/-- The same attempt over states with notes. The call is noted when the operation is first run, so
the note stays when the operation is cut off. -/
def Attempt.noted {σ β : Type} (attempt : Attempt σ β) (calls : List Call) :
    Attempt (List Call × σ) β where
  started := (calls, attempt.started)
  cancels := attempt.cancels
  delay := attempt.delay
  finish := (attempt.finish.1, calls, attempt.finish.2)

/-- The same backend, which also notes the calls it receives, in order. -/
def Backend.noting {σ : Type} (backend : Backend σ) : Backend (List Call × σ) where
  name := backend.name
  get now state key := (backend.get now state.2 key).noted (state.1 ++ [.get key])
  set now state key value ttl :=
    (backend.set now state.2 key value ttl).noted (state.1 ++ [.set key value ttl])
  ping now state := (backend.ping now state.2).noted (state.1 ++ [.ping])
  close now state := (backend.close now state.2).noted (state.1 ++ [.close])

namespace World

variable {σ : Type}

/-- A world in which no call has been noted yet. -/
def withoutNotes (world : World σ) : World (List Call × σ) :=
  ⟨world.now, world.tokens, ([], world.store)⟩

def forget (world : World (List Call × σ)) : World σ :=
  ⟨world.now, world.tokens, world.store.2⟩

end World

section Executions

variable {σ α β : Type} (backend : Backend σ) (context : CallContext)

theorem run_noted (operation : String) (attempt : Instant → σ → Attempt σ β)
    (note : List Call × σ → List Call) (world : World (List Call × σ)) :
    (run context operation (fun now state => (attempt now state.2).noted (note state)) world).map
        (fun done => (done.1, done.2.forget)) =
      run context operation attempt world.forget := by
  obtain ⟨now, tokens, calls, store⟩ := world
  change Option.map _ _ = run context operation attempt ⟨now, tokens, store⟩
  by_cases hCancel : context.isCancelled tokens now = true
  · simp [run, World.forget, hCancel]
  · by_cases hDeadline : (context.deadline.any fun deadline => deadline ≤ now) = true
    · simp [run, World.forget, hCancel, hDeadline]
    · simp only [run, Attempt.noted, if_neg hCancel, if_neg hDeadline]
      -- Both sides now look at the same delay and, when it is not zero, at the same verdict.
      generalize (attempt now store).delay = delay
      rcases delay with _ | _ | duration
      case some.zero => rfl
      case none =>
        dsimp only
        generalize verdict now _ _ _ = outcome
        rcases outcome with _ | _ | _ | _ <;> rfl
      case some.succ =>
        simp only [Option.map_some]
        generalize verdict now _ _ _ = outcome
        rcases outcome with _ | _ | _ | _ <;> rfl

/-- A run over a backend that notes its calls is a run over the backend itself, with notes. -/
theorem execute_noting (program : Program α) (world : World (List Call × σ)) :
    (execute backend.noting context program world).map
        (fun done => (done.1, done.2.1, done.2.2.forget)) =
      execute backend context program world.forget := by
  induction program generalizing world with
  | done value => rfl
  | get key next ih =>
      have hRead := run_noted context "get" (fun now store => backend.get now store key)
        (fun state => state.1 ++ [.get key]) world
      rw [execute_get, execute_get, readIn, readIn, ← hRead, Option.map_bind, Option.bind_map]
      exact congrArg _ (funext fun done => ih done.1 done.2)
  | set key value ttl next ih =>
      have hWrite := run_noted context "set" (fun now store => backend.set now store key value ttl)
        (fun state => state.1 ++ [.set key value ttl]) world
      rw [execute_set, execute_set, writeIn, writeIn, ← hWrite, Option.map_bind, Option.bind_map]
      exact congrArg _ (funext fun done => ih done.1 done.2)
  | ping next ih =>
      have hPing := run_noted context "ping" backend.ping (fun state => state.1 ++ [.ping]) world
      rw [execute_ping, execute_ping, ← hPing, Option.map_bind, Option.bind_map]
      exact congrArg _ (funext fun done => ih done.1 done.2)
  | close next ih =>
      have hClose := run_noted .unbounded "close" backend.close
        (fun state => state.1 ++ [.close]) world
      rw [execute_close, execute_close, ← hClose, Option.map_bind, Option.bind_map]
      exact congrArg _ (funext fun done => ih done.1 done.2)
  | emit event next ih =>
      rw [execute_emit, execute_emit, ← ih, Option.map_map, Option.map_map]
      rfl

end Executions

section Notes

variable {σ β : Type} {context : CallContext} {operation : String}
  (attempt : Instant → σ → Attempt σ β) (note : List Call × σ → List Call)
  {world : World (List Call × σ)} {answer : Except Error β}

/-- An operation whose context is not interrupted is started, so its call is noted however it
ends. -/
theorem run_noted_free {after : World σ} (free : ¬ context.Interrupted world.tokens world.now)
    (h : run context operation attempt world.forget = some (answer, after)) :
    run context operation (fun now state => (attempt now state.2).noted (note state)) world =
      some (answer, ⟨after.now, after.tokens, note world.store, after.store⟩) := by
  obtain ⟨⟨result, last⟩, hRun, hSame⟩ := Option.map_eq_some_iff.mp
    ((run_noted context operation attempt note world).trans h)
  cases hSame
  rw [hRun]
  have hNotes : last.store.1 = note world.store := by
    cases run_ended hRun with
    | refused interrupted => exact absurd interrupted free
    | completed => rfl
    | cut => rfl
  rw [← hNotes]
  rfl

/-- An operation is noted when it is started, and nothing else is. -/
theorem notes_of_run {after : World (List Call × σ)}
    (h : run context operation (fun now state => (attempt now state.2).noted (note state)) world =
      some (answer, after)) :
    after.store.1 = world.store.1 ∨ after.store.1 = note world.store := by
  cases run_ended h with
  | refused => exact Or.inl rfl
  | completed => exact Or.inr rfl
  | cut => exact Or.inr rfl

theorem notes_of_read {backend : Backend σ} {key : String}
    {read : Except Error (Option String)} {after : World (List Call × σ)}
    (h : readIn backend.noting context key world = some (read, after)) :
    after.store.1 = world.store.1 ∨ after.store.1 = world.store.1 ++ [.get key] := by
  apply notes_of_run (fun now store => backend.get now store key)
    (fun state => state.1 ++ [Call.get key])
  exact h

theorem notes_of_write {backend : Backend σ} {key value : String} {ttl : Option Duration}
    {written : Except Error Unit} {after : World (List Call × σ)}
    (h : writeIn backend.noting context key value ttl world = some (written, after)) :
    after.store.1 = world.store.1 ∨ after.store.1 = world.store.1 ++ [.set key value ttl] := by
  apply notes_of_run (fun now store => backend.set now store key value ttl)
    (fun state => state.1 ++ [Call.set key value ttl])
  exact h

end Notes

end Masking.Store
