import Masking.Proofs.Store.Execution

/-! Interruption of store calls. An operation of a context that is cancelled, or whose deadline has
come, is not started; one that waits is cut off no later than the deadline. A run that is
interrupted leaves the world as it is. -/

namespace Masking.Store

/-- A call is interrupted at an instant when its token has been cancelled or its deadline has
come. -/
def CallContext.Interrupted (context : CallContext) (tokens : Tokens) (now : Instant) : Prop :=
  (∃ instant, context.cancelAt tokens = some instant ∧ instant ≤ now) ∨
    ∃ instant, context.deadline = some instant ∧ instant ≤ now

theorem CallContext.Interrupted.mono {context : CallContext} {tokens : Tokens}
    {now later : Instant} (h : context.Interrupted tokens now) (hLater : now ≤ later) :
    context.Interrupted tokens later := by
  rcases h with ⟨instant, hCancel, hNow⟩ | ⟨instant, hDeadline, hNow⟩
  · exact Or.inl ⟨instant, hCancel, Nat.le_trans hNow hLater⟩
  · exact Or.inr ⟨instant, hDeadline, Nat.le_trans hNow hLater⟩

theorem not_interrupted_unbounded (tokens : Tokens) (now : Instant) :
    ¬ CallContext.unbounded.Interrupted tokens now := by
  rintro (⟨instant, hCancel, _⟩ | ⟨instant, hDeadline, _⟩)
  · cases hCancel
  · cases hDeadline

theorem CallContext.isCancelled_iff {context : CallContext} {tokens : Tokens} {now : Instant} :
    context.isCancelled tokens now = true ↔
      ∃ instant, context.cancelAt tokens = some instant ∧ instant ≤ now := by
  cases h : context.cancelAt tokens with
  | none => simp [isCancelled, h]
  | some instant => simp [isCancelled, h]

/-- The tokens once an operation that was started in a world has cancelled its own. -/
def World.tokensAfter {σ β : Type} (world : World σ) (started : Attempt σ β) : Tokens :=
  started.cancels.foldl (fun tokens id => tokens.cancel id world.now) world.tokens

section Operations

variable {σ β : Type} (context : CallContext) (attempt : Instant → σ → Attempt σ β)
  (world : World σ)

/-- An operation that is started and ends by itself: when it is first run, or at an instant at which
its context is not interrupted. -/
def Completes : Prop :=
  ¬ context.Interrupted world.tokens world.now ∧
    ∃ duration, (attempt world.now world.store).delay = some duration ∧
      (duration = 0 ∨ ¬ context.Interrupted (world.tokensAfter (attempt world.now world.store))
        (world.now + duration))

/-- The ways in which an operation ends: it is refused, it completes, or it is cut off while it
waits. -/
inductive Ended : Except Error β → World σ → Prop
  | refused {error : Error} (interrupted : context.Interrupted world.tokens world.now)
      (cause : error.isInterrupted = true) : Ended (.error error) world
  | completed {duration : Duration}
      (free : ¬ context.Interrupted world.tokens world.now)
      (delay : (attempt world.now world.store).delay = some duration)
      (inTime : duration = 0 ∨
        ¬ context.Interrupted (world.tokensAfter (attempt world.now world.store))
          (world.now + duration)) :
      Ended (attempt world.now world.store).finish.1
        ⟨world.now + duration, world.tokensAfter (attempt world.now world.store),
          (attempt world.now world.store).finish.2⟩
  | cut {error : Error} {instant : Instant}
      (free : ¬ context.Interrupted world.tokens world.now)
      (waits : (attempt world.now world.store).delay ≠ some 0)
      (early : ∀ duration, (attempt world.now world.store).delay = some duration →
        instant ≤ world.now + duration)
      (later : world.now ≤ instant)
      (bounded : ∀ deadline, context.deadline = some deadline → instant ≤ deadline)
      (interrupted :
        context.Interrupted (world.tokensAfter (attempt world.now world.store)) instant)
      (cause : error.isInterrupted = true) :
      Ended (.error error)
        ⟨instant, world.tokensAfter (attempt world.now world.store),
          (attempt world.now world.store).started⟩

end Operations

section Verdicts

variable {now : Instant} {cancelAt deadline finishAt : Option Instant}

/-- A wait ends by itself exactly when neither cancellation nor the deadline comes first. -/
theorem verdict_ended {instant : Instant} :
    verdict now cancelAt deadline finishAt = some (.ended instant) ↔
      finishAt = some instant ∧ (∀ limit, cancelAt = some limit → instant < limit) ∧
        ∀ limit, deadline = some limit → instant < limit := by
  cases cancelAt <;> cases deadline <;> cases finishAt <;>
    simp [verdict, verdict.withDeadline, verdict.ended, noLater] <;> grind

theorem verdict_cancelled {instant : Instant}
    (h : verdict now cancelAt deadline finishAt = some (.cancelled instant)) :
    ∃ limit, cancelAt = some limit ∧ instant = Nat.max now limit ∧
      (∀ other, deadline = some other → limit ≤ other) ∧
      ∀ other, finishAt = some other → limit ≤ other := by
  cases cancelAt <;> cases deadline <;> cases finishAt <;>
    simp [verdict, verdict.withDeadline, verdict.ended, noLater] at h ⊢ <;> grind

theorem verdict_expired {instant : Instant}
    (h : verdict now cancelAt deadline finishAt = some (.expired instant)) :
    ∃ limit, deadline = some limit ∧ instant = Nat.max now limit ∧
      ∀ other, finishAt = some other → limit ≤ other := by
  cases cancelAt <;> cases deadline <;> cases finishAt <;>
    simp [verdict, verdict.withDeadline, verdict.ended, noLater] at h ⊢ <;> grind

theorem verdict_none (h : verdict now cancelAt deadline finishAt = none) :
    cancelAt = none ∧ deadline = none ∧ finishAt = none := by
  cases cancelAt <;> cases deadline <;> cases finishAt <;>
    simp [verdict, verdict.withDeadline, verdict.ended, noLater] at h ⊢ <;> grind

end Verdicts

section Runs

variable {σ β : Type} {context : CallContext} {operation : String}
  {attempt : Instant → σ → Attempt σ β} {world after : World σ} {answer : Except Error β}

/-- An operation of an interrupted context is not started, and nothing changes. -/
theorem run_refused (h : context.Interrupted world.tokens world.now) :
    ∃ error : Error, error.isInterrupted = true ∧
      run context operation attempt world = some (.error error, world) := by
  by_cases hCancel : context.isCancelled world.tokens world.now = true
  · exact ⟨.cancelled operation, rfl, by simp [run, hCancel]⟩
  · rcases h with hToken | ⟨deadline, hDeadline, hNow⟩
    · exact absurd (CallContext.isCancelled_iff.mpr hToken) hCancel
    · exact ⟨.deadlineExceeded operation, rfl, by simp [run, hCancel, hDeadline, hNow]⟩

theorem run_free (h : ¬ context.Interrupted world.tokens world.now) :
    run context operation attempt world =
      let started := attempt world.now world.store
      let tokens := world.tokensAfter started
      match started.delay with
      | some 0 => some (started.finish.1, ⟨world.now, tokens, started.finish.2⟩)
      | delay =>
          match verdict world.now (context.cancelAt tokens) context.deadline
              (delay.map fun duration => world.now + duration) with
          | some (.cancelled instant) =>
              some (.error (.cancelled operation), ⟨instant, tokens, started.started⟩)
          | some (.expired instant) =>
              some (.error (.deadlineExceeded operation), ⟨instant, tokens, started.started⟩)
          | some (.ended instant) => some (started.finish.1, ⟨instant, tokens, started.finish.2⟩)
          | none => none := by
  have hCancel : ¬ context.isCancelled world.tokens world.now = true :=
    fun cancelled => h (Or.inl (CallContext.isCancelled_iff.mp cancelled))
  have hDeadline : ¬ (context.deadline.any fun deadline => deadline ≤ world.now) = true := by
    intro passed
    obtain ⟨deadline, hSome, hNow⟩ := (Option.any_eq_true _ _).mp passed
    exact h (Or.inr ⟨deadline, hSome, by simpa using hNow⟩)
  rw [run, if_neg hCancel, if_neg hDeadline]
  rfl

theorem deadline_of_free (h : ¬ context.Interrupted world.tokens world.now) {deadline : Instant}
    (hDeadline : context.deadline = some deadline) : world.now < deadline :=
  Nat.lt_of_not_le fun hNow => h (Or.inr ⟨deadline, hDeadline, hNow⟩)

/-- Every operation that ends does so in one of the three ways. -/
theorem run_ended (h : run context operation attempt world = some (answer, after)) :
    Ended context attempt world answer after := by
  by_cases hFree : context.Interrupted world.tokens world.now
  · obtain ⟨error, hCause, hRun⟩ := @run_refused _ _ _ operation attempt _ hFree
    rw [hRun] at h
    cases h
    exact .refused hFree hCause
  · rw [run_free hFree] at h
    simp only at h
    split at h
    next hDelay =>
      cases h
      exact .completed hFree hDelay (Or.inl rfl)
    next hWaits =>
      split at h
      next instant hVerdict =>
        cases h
        obtain ⟨limit, hCancel, rfl, hDeadline, hFinish⟩ := verdict_cancelled hVerdict
        refine .cut hFree hWaits ?_ (Nat.le_max_left _ _) ?_ ?_ rfl
        · intro duration hDelay
          have hLimit := hFinish (world.now + duration) (by simp [hDelay])
          exact Nat.max_le.mpr ⟨Nat.le_add_right _ _, hLimit⟩
        · intro deadline hd
          exact Nat.max_le.mpr ⟨Nat.le_of_lt (deadline_of_free hFree hd), hDeadline deadline hd⟩
        · exact Or.inl ⟨limit, hCancel, Nat.le_max_right _ _⟩
      next instant hVerdict =>
        cases h
        obtain ⟨limit, hLimit, rfl, hFinish⟩ := verdict_expired hVerdict
        refine .cut hFree hWaits ?_ (Nat.le_max_left _ _) ?_ ?_ rfl
        · intro duration hDelay
          have hEnd := hFinish (world.now + duration) (by simp [hDelay])
          exact Nat.max_le.mpr ⟨Nat.le_add_right _ _, hEnd⟩
        · intro deadline hd
          cases hLimit.symm.trans hd
          exact Nat.max_le.mpr ⟨Nat.le_of_lt (deadline_of_free hFree hd), Nat.le_refl _⟩
        · exact Or.inr ⟨limit, hLimit, Nat.le_max_right _ _⟩
      next instant hVerdict =>
        cases h
        obtain ⟨hFinish, hCancel, hDeadline⟩ := verdict_ended.mp hVerdict
        obtain ⟨duration, hDelay, rfl⟩ := Option.map_eq_some_iff.mp hFinish
        refine .completed hFree hDelay (Or.inr ?_)
        rintro (⟨limit, hLimit, hPassed⟩ | ⟨limit, hLimit, hPassed⟩)
        · exact absurd hPassed (Nat.not_le_of_lt (hCancel limit hLimit))
        · exact absurd hPassed (Nat.not_le_of_lt (hDeadline limit hLimit))
      next => cases h

/-- An operation ends when its context has a deadline or it needs only finite time. -/
theorem exists_run (h : context.deadline.isSome = true ∨
      (attempt world.now world.store).delay.isSome = true) :
    ∃ answer after, run context operation attempt world = some (answer, after) := by
  by_cases hFree : context.Interrupted world.tokens world.now
  · obtain ⟨error, _, hRun⟩ := @run_refused _ _ _ operation attempt _ hFree
    exact ⟨_, _, hRun⟩
  · rw [run_free hFree]
    simp only
    split
    next => exact ⟨_, _, rfl⟩
    next =>
      split
      next => exact ⟨_, _, rfl⟩
      next => exact ⟨_, _, rfl⟩
      next => exact ⟨_, _, rfl⟩
      next hVerdict =>
        obtain ⟨_, hDeadline, hFinish⟩ := verdict_none hVerdict
        have hDelay := Option.map_eq_none_iff.mp hFinish
        simp [hDeadline, hDelay] at h

namespace Ended

/-- An operation that completes has its own answer. -/
theorem of_completes (h : Ended context attempt world answer after)
    (completes : Completes context attempt world) :
    answer = (attempt world.now world.store).finish.1 ∧
      after.store = (attempt world.now world.store).finish.2 := by
  obtain ⟨hFree, duration, hDelay, hTime⟩ := completes
  cases h with
  | refused interrupted => exact absurd interrupted hFree
  | completed => exact ⟨rfl, rfl⟩
  | cut _ waits early _ _ interrupted =>
      rcases hTime with rfl | hTime
      · exact absurd hDelay waits
      · exact absurd (interrupted.mono (early duration hDelay)) hTime

/-- An operation that does not complete fails, and from then on its context is interrupted. -/
theorem of_not_completes (h : Ended context attempt world answer after)
    (incomplete : ¬ Completes context attempt world) :
    (∃ error : Error, answer = .error error ∧ error.isInterrupted = true) ∧
      context.Interrupted after.tokens after.now := by
  cases h with
  | refused interrupted cause => exact ⟨⟨_, rfl, cause⟩, interrupted⟩
  | completed free delay inTime => exact absurd ⟨free, _, delay, inTime⟩ incomplete
  | cut _ _ _ _ _ interrupted cause => exact ⟨⟨_, rfl, cause⟩, interrupted⟩

theorem of_ok {value : β} (h : Ended context attempt world (.ok value) after) :
    (attempt world.now world.store).finish.1 = .ok value ∧
      after.store = (attempt world.now world.store).finish.2 := by
  by_cases completes : Completes context attempt world
  · obtain ⟨hAnswer, hStore⟩ := h.of_completes completes
    exact ⟨hAnswer.symm, hStore⟩
  · obtain ⟨⟨error, hAnswer, _⟩, _⟩ := h.of_not_completes completes
    cases hAnswer

theorem eq_of_interrupted (h : Ended context attempt world answer after)
    (interrupted : context.Interrupted world.tokens world.now) : after = world := by
  cases h with
  | refused => rfl
  | completed free => exact absurd interrupted free
  | cut free => exact absurd interrupted free

theorem now_le (h : Ended context attempt world answer after) : world.now ≤ after.now := by
  cases h with
  | refused => exact Nat.le_refl _
  | completed => exact Nat.le_add_right _ _
  | cut _ _ _ later => exact later

theorem now_le_deadline (h : Ended context attempt world answer after) {deadline : Instant}
    (hDeadline : context.deadline = some deadline) (hNow : world.now ≤ deadline) :
    after.now ≤ deadline := by
  cases h with
  | refused => exact hNow
  | completed _ _ inTime =>
      rcases inTime with rfl | hTime
      · exact hNow
      · exact Nat.le_of_not_le fun passed => hTime (Or.inr ⟨deadline, hDeadline, passed⟩)
  | cut _ _ _ _ bounded => exact bounded deadline hDeadline

end Ended

end Runs

section Executions

variable {σ α : Type} {backend : Backend σ} {context : CallContext} {program : Program α}
  {world after : World σ} {result : α} {events : List Event}

/-- Reads and writes end when their context has a deadline or the backend needs only finite time. -/
def Responds (backend : Backend σ) (context : CallContext) : Prop :=
  context.deadline.isSome = true ∨
    (∀ now store key, (backend.get now store key).delay.isSome = true) ∧
      ∀ now store key value ttl, (backend.set now store key value ttl).delay.isSome = true

theorem Responds.exists_read (h : Responds backend context) (key : String) (world : World σ) :
    ∃ answer after, readIn backend context key world = some (answer, after) :=
  exists_run (h.imp_right fun finite => finite.1 _ _ _)

theorem Responds.exists_write (h : Responds backend context) (key value : String)
    (ttl : Option Duration) (world : World σ) :
    ∃ answer after, writeIn backend context key value ttl world = some (answer, after) :=
  exists_run (h.imp_right fun finite => finite.2 _ _ _ _ _)

/-- Every operation of a program of reads and writes ends over a backend that responds. -/
theorem Responds.ends (h : Responds backend context) (only : program.EntriesOnly)
    (world : World σ) : Ends backend context (fun _ => True) program world := by
  induction program generalizing world with
  | done value => trivial
  | get key next ih =>
      obtain ⟨answer, middle, hRead⟩ := h.exists_read key world
      exact ⟨answer, middle, hRead, trivial, ih answer (only answer) middle⟩
  | set key value ttl next ih =>
      obtain ⟨answer, middle, hWrite⟩ := h.exists_write key value ttl world
      exact ⟨answer, middle, hWrite, trivial, ih answer (only answer) middle⟩
  | ping => exact False.elim only
  | close => exact False.elim only
  | emit event next ih => exact ih only world

/-- What every operation does to a world that its run has come to, the whole run does. -/
theorem execute_induction (only : program.EntriesOnly) {motive : World σ → World σ → Prop}
    (refl : ∀ world, motive world world)
    (trans : ∀ {first middle last}, motive first middle → motive middle last → motive first last)
    (operation : ∀ {β : Type} {attempt : Instant → σ → Attempt σ β} {before after answer},
      Ended context attempt before answer after → motive before after)
    (run : execute backend context program world = some (result, events, after)) :
    motive world after := by
  induction program generalizing world events with
  | done value =>
      cases run
      exact refl _
  | get key next ih =>
      rw [execute_get] at run
      obtain ⟨⟨answer, middle⟩, hRead, run⟩ := Option.bind_eq_some_iff.mp run
      exact trans (operation (run_ended hRead)) (ih answer (only answer) run)
  | set key value ttl next ih =>
      rw [execute_set] at run
      obtain ⟨⟨answer, middle⟩, hWrite, run⟩ := Option.bind_eq_some_iff.mp run
      exact trans (operation (run_ended hWrite)) (ih answer (only answer) run)
  | ping => exact False.elim only
  | close => exact False.elim only
  | emit event next ih =>
      obtain ⟨more, hNext, _⟩ := execute_emit_some run
      exact ih only hNext

/-- Reads and writes of an interrupted run leave the world as it is: the backend is not called, no
token is cancelled and no time passes. -/
theorem execute_of_interrupted (only : program.EntriesOnly)
    (run : execute backend context program world = some (result, events, after))
    (interrupted : context.Interrupted world.tokens world.now) : after = world := by
  have h := execute_induction only
    (motive := fun before after => context.Interrupted before.tokens before.now → after = before)
    (fun _ _ => rfl)
    (fun first second hFirst => by
      have hMiddle := first hFirst
      subst hMiddle
      exact second hFirst)
    Ended.eq_of_interrupted run
  exact h interrupted

theorem now_le_deadline_of_execute (only : program.EntriesOnly)
    (run : execute backend context program world = some (result, events, after))
    {deadline : Instant} (hDeadline : context.deadline = some deadline)
    (hNow : world.now ≤ deadline) : after.now ≤ deadline :=
  execute_induction only
    (motive := fun before after => before.now ≤ deadline → after.now ≤ deadline)
    (fun _ h => h) (fun first second h => second (first h))
    (fun ended => ended.now_le_deadline hDeadline) run hNow

end Executions

end Masking.Store
