import Masking.Proofs.Store.Interruption
import Masking.Proofs.Store.Tokens

/-! Races. An operation is polled again and again, and before each poll cancellation is looked at
first and the deadline second. What comes of that is decided by three instants: the first
cancellation, the deadline, and the end that the operation would come to by itself. -/

namespace Masking.Store

/-- An operation as its polls show it. Each poll may cancel tokens. -/
inductive Operation (σ β : Type) where
  /-- The poll ends the operation. -/
  | ends (cancels : List TokenId) (answer : Except Error β) (store : σ)
  /-- The operation goes on with another poll after a pause, which is without end if it is
  missing. -/
  | waits (cancels : List TokenId) (store : σ) (pause : Option Duration) (next : Operation σ β)

/-- The tokens with some of them cancelled, all at one instant. -/
def Tokens.cancelAll (tokens : Tokens) (ids : List TokenId) (now : Instant) : Tokens :=
  ids.foldl (fun tokens id => tokens.cancel id now) tokens

namespace Operation

variable {σ β : Type}

/-- When an operation that is first polled at an instant ends, if nothing stops it. -/
def endsAt : Operation σ β → Instant → Option Instant
  | .ends .., now => some now
  | .waits _ _ pause next, now => pause.bind fun duration => next.endsAt (now + duration)

/-- What an operation answers if nothing stops it. -/
def answer : Operation σ β → Except Error β
  | .ends _ answer _ => answer
  | .waits _ _ _ next => next.answer

/-- The tokens after the polls that come before the deadline, without the poll that ends the
operation. -/
def tokensBefore (deadline : Option Instant) : Operation σ β → Instant → Tokens → Tokens
  | .ends .., _, tokens => tokens
  | .waits cancels _ pause next, now, tokens =>
      if deadline.any fun limit => limit ≤ now then tokens
      else
        pause.elim (tokens.cancelAll cancels now) fun duration =>
          next.tokensBefore deadline (now + duration) (tokens.cancelAll cancels now)

theorem le_of_endsAt {operation : Operation σ β} {now finish : Instant}
    (h : operation.endsAt now = some finish) : now ≤ finish := by
  induction operation generalizing now with
  | ends cancels answer store =>
      cases h
      exact Nat.le_refl _
  | waits cancels store pause next ih =>
      obtain ⟨duration, _, hNext⟩ := Option.bind_eq_some_iff.mp h
      exact Nat.le_trans (Nat.le_add_right _ _) (ih hNext)

end Operation

section Contexts

variable {context : CallContext} {tokens : Tokens} {now : Instant}

theorem any_le_iff {deadline : Option Instant} :
    (deadline.any fun limit => limit ≤ now) = true ↔ Comes deadline now := by
  rw [Option.any_eq_true]
  exact exists_congr fun limit => and_congr_right fun _ => decide_eq_true_iff

/-- What has not come yet is later. -/
theorem max_of_not_comes {deadline : Option Instant} {instant : Instant}
    (h : ¬ Comes deadline now) (hDeadline : deadline = some instant) :
    Nat.max now instant = instant :=
  Nat.max_eq_right (Nat.le_of_not_le fun hNow => h ⟨instant, hDeadline, hNow⟩)

/-- The token of a context is that one, or one of its ancestors is. -/
def CallContext.DescendsFrom (context : CallContext) (tokens : Tokens) (id : TokenId) : Prop :=
  ∃ own generations, context.token = some own ∧ tokens.ancestor generations own = some id

/-- The token of a context or one of its ancestors has been cancelled. -/
def CallContext.CancelledBy (context : CallContext) (tokens : Tokens) (now : Instant) : Prop :=
  ∃ id, context.token = some id ∧ tokens.CancelledBy id now

theorem CallContext.comes_cancelAt :
    Comes (context.cancelAt tokens) now ↔ context.CancelledBy tokens now := by
  rw [cancelAt, CancelledBy]
  cases context.token with
  | none => simp
  | some id => simpa using Tokens.comes_cancelAt

theorem CallContext.isCancelled_iff_cancelledBy :
    context.isCancelled tokens now = true ↔ context.CancelledBy tokens now :=
  isCancelled_iff.trans comes_cancelAt

theorem CallContext.interrupted_iff : context.Interrupted tokens now ↔
    context.CancelledBy tokens now ∨ Comes context.deadline now :=
  or_congr_left comes_cancelAt

namespace CallContext

theorem cancelledBy_cancel {id : TokenId} {instant : Instant} :
    context.CancelledBy (tokens.cancel id now) instant ↔
      context.CancelledBy tokens instant ∨
        id < tokens.made.length ∧ now ≤ instant ∧ context.DescendsFrom tokens id := by
  rw [CancelledBy, CancelledBy, DescendsFrom]
  cases context.token with
  | none => simp
  | some own => simp [Tokens.cancelledBy_cancel]

/-- A poll that cancels tokens cancels the contexts whose tokens descend from one of them, and no
others. -/
theorem cancelledBy_cancelAll {ids : List TokenId} {instant : Instant} :
    context.CancelledBy (tokens.cancelAll ids now) instant ↔
      context.CancelledBy tokens instant ∨
        now ≤ instant ∧ ∃ id ∈ ids, id < tokens.made.length ∧ context.DescendsFrom tokens id := by
  induction ids generalizing tokens with
  | nil => simp [Tokens.cancelAll]
  | cons id ids ih =>
      have hMade : (tokens.cancel id now).made.length = tokens.made.length := by
        simp [Tokens.cancel]
      have hDescends : ∀ other, context.DescendsFrom (tokens.cancel id now) other ↔
          context.DescendsFrom tokens other := by
        simp only [DescendsFrom, Tokens.ancestor_cancel, implies_true]
      have hRest : tokens.cancelAll (id :: ids) now = (tokens.cancel id now).cancelAll ids now := rfl
      rw [hRest, ih, cancelledBy_cancel, hMade]
      simp only [hDescends, List.exists_mem_cons_iff]
      tauto

namespace CancelledBy

theorem mono {later : Instant} (h : context.CancelledBy tokens now) (hLater : now ≤ later) :
    context.CancelledBy tokens later := by
  obtain ⟨id, hId, hCancel⟩ := h
  exact ⟨id, hId, hCancel.mono hLater⟩

theorem cancelAll {instant : Instant} (h : context.CancelledBy tokens instant)
    (ids : List TokenId) (now : Instant) :
    context.CancelledBy (tokens.cancelAll ids now) instant :=
  cancelledBy_cancelAll.mpr (Or.inl h)

theorem tokensBefore {σ β : Type} {operation : Operation σ β} {deadline : Option Instant}
    {instant : Instant} (h : context.CancelledBy tokens instant) :
    context.CancelledBy (operation.tokensBefore deadline now tokens) instant := by
  induction operation generalizing now tokens with
  | ends cancels answer store => exact h
  | waits cancels store pause next ih =>
      rw [Operation.tokensBefore]
      split
      · exact h
      · cases pause with
        | none => exact h.cancelAll cancels now
        | some duration => exact ih (h.cancelAll cancels now)

end CancelledBy

end CallContext

end Contexts

section Races

variable {σ β : Type}

/-- What stops an operation when it is about to be polled. -/
def CallContext.stopsWith (context : CallContext) (name : String) (tokens : Tokens)
    (now : Instant) : Option Error :=
  if context.isCancelled tokens now then some (.cancelled name)
  else if context.deadline.any fun deadline => deadline ≤ now then some (.deadlineExceeded name)
  else none

/-- Race an operation against cancellation and the deadline of its context. While it waits, the
first of the three wakes it. -/
def race (context : CallContext) (name : String) :
    Operation σ β → World σ → Option (Except Error β × World σ)
  | .ends cancels answer store, world =>
      match context.stopsWith name world.tokens world.now with
      | some error => some (.error error, world)
      | none => some (answer, ⟨world.now, world.tokens.cancelAll cancels world.now, store⟩)
  | .waits cancels store pause next, world =>
      match context.stopsWith name world.tokens world.now with
      | some error => some (.error error, world)
      | none =>
          let tokens := world.tokens.cancelAll cancels world.now
          let finishAt := pause.map fun duration => world.now + duration
          match earlier (context.cancelAt tokens) (earlier context.deadline finishAt) with
          | some instant => race context name next ⟨Nat.max world.now instant, tokens, store⟩
          | none => none

/-- The polls of an attempt: one if it has no delay, and two otherwise. -/
def Attempt.operation (attempt : Attempt σ β) : Operation σ β :=
  match attempt.delay with
  | some 0 => .ends attempt.cancels attempt.finish.1 attempt.finish.2
  | delay =>
      .waits attempt.cancels attempt.started delay (.ends [] attempt.finish.1 attempt.finish.2)

section Outcomes

variable (context : CallContext) (name : String) (operation : Operation σ β) (world : World σ)

/-- Cancellation, by others or by a poll that leaves the operation waiting, comes no later than the
deadline and the operation's own end. -/
def CancelledFirst : Prop :=
  ∃ instant,
    context.CancelledBy (operation.tokensBefore context.deadline world.now world.tokens) instant ∧
      (∀ deadline, context.deadline = some deadline → instant ≤ deadline) ∧
        ∀ finish, operation.endsAt world.now = some finish → instant ≤ finish

/-- How the race of an operation that has been started is decided. -/
structure Settled (result : Option (Except Error β × World σ)) : Prop where
  cancelled : CancelledFirst context operation world →
    ∃ after, result = some (.error (.cancelled name), after)
  expired : ¬ CancelledFirst context operation world →
    ∀ deadline, context.deadline = some deadline →
      (∀ finish, operation.endsAt world.now = some finish → deadline ≤ finish) →
        ∃ after, result = some (.error (.deadlineExceeded name), after) ∧ after.now = deadline
  ended : ¬ CancelledFirst context operation world →
    ∀ finish, operation.endsAt world.now = some finish →
      (∀ deadline, context.deadline = some deadline → finish < deadline) →
        ∃ after, result = some (operation.answer, after) ∧ after.now = finish
  endless : ¬ CancelledFirst context operation world → context.deadline = none →
    operation.endsAt world.now = none → result = none

/-- How every race is decided. An operation that is not started leaves the world as it is. -/
structure Decided (result : Option (Except Error β × World σ)) : Prop where
  cancelledBefore : context.CancelledBy world.tokens world.now →
    result = some (.error (.cancelled name), world)
  expiredBefore : ¬ context.CancelledBy world.tokens world.now → Comes context.deadline world.now →
    result = some (.error (.deadlineExceeded name), world)
  atOnce : ¬ context.CancelledBy world.tokens world.now → ¬ Comes context.deadline world.now →
    ∀ cancels answer store, operation = .ends cancels answer store →
      result = some (answer, ⟨world.now, world.tokens.cancelAll cancels world.now, store⟩)
  started : ¬ context.CancelledBy world.tokens world.now → ¬ Comes context.deadline world.now →
    Settled context name operation world result

end Outcomes

section Polls

variable {context : CallContext} {name : String} {operation : Operation σ β} {world : World σ}
  {tokens : Tokens} {now : Instant}

theorem stopsWith_cancelled (h : context.CancelledBy tokens now) :
    context.stopsWith name tokens now = some (.cancelled name) := by
  rw [CallContext.stopsWith, if_pos (CallContext.isCancelled_iff_cancelledBy.mpr h)]

theorem stopsWith_expired (hFree : ¬ context.CancelledBy tokens now)
    (h : Comes context.deadline now) :
    context.stopsWith name tokens now = some (.deadlineExceeded name) := by
  rw [CallContext.stopsWith, if_neg (mt CallContext.isCancelled_iff_cancelledBy.mp hFree),
    if_pos (any_le_iff.mpr h)]

theorem stopsWith_free (hFree : ¬ context.CancelledBy tokens now)
    (h : ¬ Comes context.deadline now) : context.stopsWith name tokens now = none := by
  rw [CallContext.stopsWith, if_neg (mt CallContext.isCancelled_iff_cancelledBy.mp hFree),
    if_neg (mt any_le_iff.mp h)]

theorem race_stopped {error : Error}
    (h : context.stopsWith name world.tokens world.now = some error) :
    race context name operation world = some (.error error, world) := by
  cases operation with
  | ends => simp only [race, h]
  | waits => simp only [race, h]

theorem tokensBefore_late {deadline : Option Instant} (h : Comes deadline now) :
    operation.tokensBefore deadline now tokens = tokens := by
  cases operation with
  | ends => rfl
  | waits => rw [Operation.tokensBefore, if_pos (any_le_iff.mpr h)]

end Polls

section Waking

/-- A waiting operation is woken by the first of three instants, where cancellation counts before
the deadline and the deadline before the end of the pause. -/
theorem earliest_cases (cancelAt deadline finishAt : Option Instant) :
    (cancelAt = none ∧ deadline = none ∧ finishAt = none) ∨
      ∃ instant, earlier cancelAt (earlier deadline finishAt) = some instant ∧
        ((cancelAt = some instant ∧ (∀ limit, deadline = some limit → instant ≤ limit) ∧
            ∀ limit, finishAt = some limit → instant ≤ limit) ∨
          (deadline = some instant ∧ ¬ Comes cancelAt instant ∧
            ∀ limit, finishAt = some limit → instant ≤ limit) ∨
          (finishAt = some instant ∧ ¬ Comes cancelAt instant ∧ ¬ Comes deadline instant)) := by
  cases cancelAt <;> cases deadline <;> cases finishAt <;>
    simp [earlier, Comes] <;> grind

theorem forall_pause_iff {pause : Option Duration} {now instant : Instant} :
    (∀ limit, (pause.map fun duration => now + duration) = some limit → instant ≤ limit) ↔
      ∀ duration, pause = some duration → instant ≤ now + duration := by
  cases pause <;> simp

variable {context : CallContext} {name : String} {world : World σ} {cancels : List TokenId}
  {store : σ} {pause : Option Duration} {next : Operation σ β}

theorem tokensBefore_waits (h : ¬ Comes context.deadline world.now) :
    (Operation.waits cancels store pause next).tokensBefore context.deadline world.now
        world.tokens =
      pause.elim (world.tokens.cancelAll cancels world.now) fun duration =>
        next.tokensBefore context.deadline (world.now + duration)
          (world.tokens.cancelAll cancels world.now) := by
  rw [Operation.tokensBefore, if_neg (mt any_le_iff.mp h)]

/-- An operation that waits comes to its end no sooner than its first pause does. -/
theorem pause_of_endsAt {finish : Instant}
    (h : (Operation.waits cancels store pause next).endsAt world.now = some finish) :
    ∃ duration, pause = some duration ∧ world.now + duration ≤ finish := by
  obtain ⟨duration, hPause, hNext⟩ := Option.bind_eq_some_iff.mp h
  exact ⟨duration, hPause, Operation.le_of_endsAt hNext⟩

/-- How a wait comes to an end: it has none, cancellation or the deadline ends it, or the pause does
and the operation is polled again. -/
inductive Woken (context : CallContext) (name : String) (cancels : List TokenId) (store : σ)
    (pause : Option Duration) (next : Operation σ β) (world : World σ) :
    Option (Except Error β × World σ) → Prop
  | never (cancel : context.cancelAt (world.tokens.cancelAll cancels world.now) = none)
      (deadline : context.deadline = none) (endless : pause = none) :
      Woken context name cancels store pause next world none
  | cancelled {instant : Instant}
      (cancel : context.cancelAt (world.tokens.cancelAll cancels world.now) = some instant)
      (early : ∀ limit, context.deadline = some limit → instant ≤ limit)
      (cut : ∀ duration, pause = some duration → instant ≤ world.now + duration) :
      Woken context name cancels store pause next world
        (some (.error (.cancelled name),
          ⟨Nat.max world.now instant, world.tokens.cancelAll cancels world.now, store⟩))
  | expired {instant : Instant} (deadline : context.deadline = some instant)
      (free : ¬ context.CancelledBy (world.tokens.cancelAll cancels world.now) instant)
      (cut : ∀ duration, pause = some duration → instant ≤ world.now + duration) :
      Woken context name cancels store pause next world
        (some (.error (.deadlineExceeded name),
          ⟨instant, world.tokens.cancelAll cancels world.now, store⟩))
  | polled {duration : Duration} (paused : pause = some duration)
      (free : ¬ context.CancelledBy (world.tokens.cancelAll cancels world.now)
        (world.now + duration))
      (inTime : ¬ Comes context.deadline (world.now + duration)) :
      Woken context name cancels store pause next world
        (race context name next
          ⟨world.now + duration, world.tokens.cancelAll cancels world.now, store⟩)

theorem race_woken (hFree : ¬ context.CancelledBy world.tokens world.now)
    (hDeadline : ¬ Comes context.deadline world.now) :
    Woken context name cancels store pause next world
      (race context name (.waits cancels store pause next) world) := by
  simp only [race, stopsWith_free hFree hDeadline]
  rcases earliest_cases (context.cancelAt (world.tokens.cancelAll cancels world.now))
      context.deadline (pause.map fun duration => world.now + duration) with
    ⟨hCancel, hNone, hPause⟩ | ⟨instant, hWakes, hCases⟩
  · rw [hCancel, hNone, hPause]
    exact .never hCancel hNone (Option.map_eq_none_iff.mp hPause)
  · simp only [hWakes]
    rcases hCases with ⟨hCancel, hLimit, hPause⟩ | ⟨hLimit, hCancel, hPause⟩ |
      ⟨hPause, hCancel, hLimit⟩
    · rw [race_stopped (stopsWith_cancelled
        (CallContext.comes_cancelAt.mp ⟨instant, hCancel, Nat.le_max_right _ _⟩))]
      exact .cancelled hCancel hLimit (forall_pause_iff.mp hPause)
    · have hStill := mt CallContext.comes_cancelAt.mpr hCancel
      rw [max_of_not_comes hDeadline hLimit,
        race_stopped (stopsWith_expired hStill ⟨instant, hLimit, Nat.le_refl _⟩)]
      exact .expired hLimit hStill (forall_pause_iff.mp hPause)
    · obtain ⟨duration, hSome, rfl⟩ := Option.map_eq_some_iff.mp hPause
      have hLater : Nat.max world.now (world.now + duration) = world.now + duration :=
        Nat.max_eq_right (Nat.le_add_right _ _)
      rw [hLater]
      exact .polled hSome (mt CallContext.comes_cancelAt.mpr hCancel) hLimit

theorem settled_endless (hFree : ¬ Comes context.deadline world.now)
    (hCancel : context.cancelAt (world.tokens.cancelAll cancels world.now) = none)
    (hDeadline : context.deadline = none) (hPause : pause = none) :
    Settled context name (.waits cancels store pause next) world none := by
  subst hPause
  constructor
  · rintro ⟨instant, hCancelled, _, _⟩
    rw [tokensBefore_waits hFree, Option.elim_none, ← CallContext.comes_cancelAt, hCancel]
      at hCancelled
    exact absurd hCancelled (not_comes_none instant)
  · intro _ deadline hSome
    rw [hDeadline] at hSome
    cases hSome
  · intro _ finish hFinish
    cases hFinish
  · exact fun _ _ _ => rfl

theorem settled_cancelled {instant : Instant} {after : World σ}
    {result : Option (Except Error β × World σ)}
    (hFree : ¬ Comes context.deadline world.now)
    (hCancel : context.CancelledBy (world.tokens.cancelAll cancels world.now) instant)
    (hDeadline : ∀ limit, context.deadline = some limit → instant ≤ limit)
    (hPause : ∀ duration, pause = some duration → instant ≤ world.now + duration)
    (hResult : result = some (.error (.cancelled name), after)) :
    Settled context name (.waits cancels store pause next) world result := by
  have hFirst : CancelledFirst context (.waits cancels store pause next) world := by
    refine ⟨instant, ?_, hDeadline, ?_⟩
    · rw [tokensBefore_waits hFree]
      cases pause with
      | none => exact hCancel
      | some duration => exact hCancel.tokensBefore
    · intro finish hFinish
      obtain ⟨duration, hSome, hLe⟩ := pause_of_endsAt hFinish
      exact Nat.le_trans (hPause duration hSome) hLe
  constructor
  · exact fun _ => ⟨after, hResult⟩
  · exact fun goesOn => absurd hFirst goesOn
  · exact fun goesOn => absurd hFirst goesOn
  · exact fun goesOn => absurd hFirst goesOn

theorem settled_expired {instant : Instant} {after : World σ}
    {result : Option (Except Error β × World σ)}
    (hFree : ¬ Comes context.deadline world.now)
    (hDeadline : context.deadline = some instant)
    (hCancel : ¬ context.CancelledBy (world.tokens.cancelAll cancels world.now) instant)
    (hPause : ∀ duration, pause = some duration → instant ≤ world.now + duration)
    (hResult : result = some (.error (.deadlineExceeded name), after))
    (hNow : after.now = instant) :
    Settled context name (.waits cancels store pause next) world result := by
  -- Every later poll would come no sooner than the deadline, so the first one has the last word.
  have hTokens : (Operation.waits cancels store pause next).tokensBefore context.deadline world.now
      world.tokens = world.tokens.cancelAll cancels world.now := by
    rw [tokensBefore_waits hFree]
    cases pause with
    | none => rfl
    | some duration => exact tokensBefore_late ⟨instant, hDeadline, hPause duration rfl⟩
  constructor
  · rintro ⟨other, hCancelled, hFirst, _⟩
    rw [hTokens] at hCancelled
    exact absurd (hCancelled.mono (hFirst instant hDeadline)) hCancel
  · intro _ deadline hSome _
    cases hDeadline.symm.trans hSome
    exact ⟨after, hResult, hNow⟩
  · intro _ finish hFinish inTime
    obtain ⟨duration, hSome, hLe⟩ := pause_of_endsAt hFinish
    exact absurd (inTime instant hDeadline)
      (Nat.not_lt_of_le (Nat.le_trans (hPause duration hSome) hLe))
  · intro _ hNone
    rw [hDeadline] at hNone
    cases hNone

theorem settled_waited {duration : Duration} {result : Option (Except Error β × World σ)}
    (hFree : ¬ Comes context.deadline world.now)
    (h : Settled context name next
      ⟨world.now + duration, world.tokens.cancelAll cancels world.now, store⟩ result) :
    Settled context name (.waits cancels store (some duration) next) world result := by
  have hFirst : CancelledFirst context (.waits cancels store (some duration) next) world ↔
      CancelledFirst context next
        ⟨world.now + duration, world.tokens.cancelAll cancels world.now, store⟩ := by
    rw [CancelledFirst, tokensBefore_waits hFree]
    rfl
  constructor
  · exact fun cancelled => h.cancelled (hFirst.mp cancelled)
  · exact fun goesOn => h.expired (mt hFirst.mpr goesOn)
  · exact fun goesOn => h.ended (mt hFirst.mpr goesOn)
  · exact fun goesOn => h.endless (mt hFirst.mpr goesOn)

theorem settled_ends {answer : Except Error β} {after : World σ}
    (hFree : ¬ context.CancelledBy world.tokens world.now)
    (hDeadline : ¬ Comes context.deadline world.now) (hNow : after.now = world.now) :
    Settled context name (.ends cancels answer store) world (some (answer, after)) := by
  constructor
  · rintro ⟨instant, hCancelled, _, hFinish⟩
    exact absurd (hCancelled.mono (hFinish world.now rfl)) hFree
  · intro _ deadline hSome hLate
    exact absurd ⟨deadline, hSome, hLate world.now rfl⟩ hDeadline
  · intro _ finish hFinish _
    cases hFinish
    exact ⟨after, rfl, hNow⟩
  · intro _ _ hFinish
    cases hFinish

end Waking

variable (context : CallContext) (name : String)

theorem race_settled (operation : Operation σ β) (world : World σ)
    (hFree : ¬ context.CancelledBy world.tokens world.now)
    (hDeadline : ¬ Comes context.deadline world.now) :
    Settled context name operation world (race context name operation world) := by
  induction operation generalizing world with
  | ends cancels answer store =>
      rw [race, stopsWith_free hFree hDeadline]
      exact settled_ends hFree hDeadline rfl
  | waits cancels store pause next ih =>
      generalize hRace : race context name (.waits cancels store pause next) world = result
      have hWoken := @race_woken _ _ _ name _ cancels store pause next hFree hDeadline
      rw [hRace] at hWoken
      cases hWoken with
      | never cancel deadline endless => exact settled_endless hDeadline cancel deadline endless
      | cancelled cancel early cut =>
          have hCancelled := CallContext.comes_cancelAt.mp ⟨_, cancel, Nat.le_refl _⟩
          exact settled_cancelled hDeadline hCancelled early cut rfl
      | expired deadline free cut => exact settled_expired hDeadline deadline free cut rfl rfl
      | polled paused free inTime =>
          rw [paused]
          exact settled_waited hDeadline (ih _ free inTime)

theorem race_decided (operation : Operation σ β) (world : World σ) :
    Decided context name operation world (race context name operation world) := by
  constructor
  · exact fun cancelled => race_stopped (stopsWith_cancelled cancelled)
  · exact fun free expired => race_stopped (stopsWith_expired free expired)
  · rintro free inTime cancels answer store rfl
    rw [race, stopsWith_free free inTime]
  · exact fun free inTime => race_settled context name operation world free inTime

end Races

section Attempts

variable {σ β : Type} {context : CallContext} {name : String} {world : World σ}

theorem noLater_iff {instant : Instant} {other : Option Instant} :
    noLater instant other = true ↔ ∀ limit, other = some limit → instant ≤ limit := by
  cases other with
  | none => simp [noLater]
  | some limit => simp [noLater]

theorem verdict_of_cancelled {now instant : Instant} {deadline finishAt : Option Instant}
    (hDeadline : ∀ limit, deadline = some limit → instant ≤ limit)
    (hFinish : ∀ limit, finishAt = some limit → instant ≤ limit) :
    verdict now (some instant) deadline finishAt = some (.cancelled (Nat.max now instant)) := by
  rw [verdict, if_pos ⟨noLater_iff.mpr hDeadline, noLater_iff.mpr hFinish⟩]

theorem verdict_of_expired {now instant : Instant} {cancelAt finishAt : Option Instant}
    (hCancel : ¬ Comes cancelAt instant)
    (hFinish : ∀ limit, finishAt = some limit → instant ≤ limit) :
    verdict now cancelAt (some instant) finishAt = some (.expired (Nat.max now instant)) := by
  have hExpired : verdict.withDeadline now (some instant) finishAt =
      some (.expired (Nat.max now instant)) := by
    rw [verdict.withDeadline, if_pos (noLater_iff.mpr hFinish)]
  cases cancelAt with
  | none => exact hExpired
  | some limit =>
      rw [verdict, if_neg, hExpired]
      rintro ⟨hLimit, _⟩
      exact hCancel ⟨limit, rfl, noLater_iff.mp hLimit instant rfl⟩

theorem verdict_of_ended {now instant : Instant} {cancelAt deadline : Option Instant}
    (hCancel : ¬ Comes cancelAt instant) (hDeadline : ¬ Comes deadline instant) :
    verdict now cancelAt deadline (some instant) = some (.ended instant) := by
  refine verdict_ended.mpr ⟨rfl, ?_, ?_⟩
  · exact fun limit hLimit => Nat.lt_of_not_le fun hLe => hCancel ⟨limit, hLimit, hLe⟩
  · exact fun limit hLimit => Nat.lt_of_not_le fun hLe => hDeadline ⟨limit, hLimit, hLe⟩

theorem Attempt.operation_atOnce {started : Attempt σ β} (h : started.delay = some 0) :
    started.operation = .ends started.cancels started.finish.1 started.finish.2 := by
  simp only [operation, h]

theorem Attempt.operation_waits {started : Attempt σ β} (h : started.delay ≠ some 0) :
    started.operation = .waits started.cancels started.started started.delay
      (.ends [] started.finish.1 started.finish.2) := by
  rw [operation]
  split
  next hDelay => exact absurd hDelay h
  next => rfl

/-- The verdict on an operation that waits is the one that the race comes to. -/
theorem race_waits (started : Attempt σ β)
    (hCancelled : ¬ context.CancelledBy world.tokens world.now)
    (hExpired : ¬ Comes context.deadline world.now) :
    race context name (.waits started.cancels started.started started.delay
        (.ends [] started.finish.1 started.finish.2)) world =
      match verdict world.now (context.cancelAt (world.tokensAfter started)) context.deadline
          (started.delay.map fun duration => world.now + duration) with
      | some (.cancelled instant) =>
          some (.error (.cancelled name), ⟨instant, world.tokensAfter started, started.started⟩)
      | some (.expired instant) =>
          some (.error (.deadlineExceeded name),
            ⟨instant, world.tokensAfter started, started.started⟩)
      | some (.ended instant) =>
          some (started.finish.1, ⟨instant, world.tokensAfter started, started.finish.2⟩)
      | none => none := by
  have hTokens : world.tokensAfter started = world.tokens.cancelAll started.cancels world.now := rfl
  rw [hTokens]
  generalize hRace : race context name _ world = result
  have hWoken := @race_woken _ _ context name world started.cancels started.started started.delay
    (.ends [] started.finish.1 started.finish.2) hCancelled hExpired
  rw [hRace] at hWoken
  cases hWoken with
  | never cancel deadline endless =>
      rw [cancel, deadline, endless]
      rfl
  | cancelled cancel early cut =>
      rw [cancel, verdict_of_cancelled early (forall_pause_iff.mpr cut)]
  | expired deadline free cut =>
      rw [deadline, verdict_of_expired (mt CallContext.comes_cancelAt.mp free)
        (forall_pause_iff.mpr cut), max_of_not_comes hExpired deadline]
  | polled paused free inTime =>
      rw [paused, Option.map_some, verdict_of_ended (mt CallContext.comes_cancelAt.mp free) inTime,
        race, stopsWith_free free inTime]
      rfl

/-- Running an operation is racing its polls. -/
theorem run_eq_race (attempt : Instant → σ → Attempt σ β) (world : World σ) :
    run context name attempt world =
      race context name (attempt world.now world.store).operation world := by
  by_cases hCancelled : context.CancelledBy world.tokens world.now
  · rw [race_stopped (stopsWith_cancelled hCancelled), run,
      if_pos (CallContext.isCancelled_iff_cancelledBy.mpr hCancelled)]
  by_cases hExpired : Comes context.deadline world.now
  · rw [race_stopped (stopsWith_expired hCancelled hExpired), run,
      if_neg (mt CallContext.isCancelled_iff_cancelledBy.mp hCancelled),
      if_pos (any_le_iff.mpr hExpired)]
  rw [run_free (mt CallContext.interrupted_iff.mp (not_or.mpr ⟨hCancelled, hExpired⟩))]
  simp only
  split
  next hDelay =>
    rw [Attempt.operation_atOnce hDelay, race, stopsWith_free hCancelled hExpired]
    rfl
  next hDelay =>
    rw [Attempt.operation_waits hDelay]
    exact (race_waits _ hCancelled hExpired).symm

/-- An operation that is run is decided by the race of its polls, and the race of any operation,
however often it is polled, as cancellation, the deadline and its own end lie in time. -/
theorem run_decided (context : CallContext) (name : String) (world : World σ) :
    (∀ attempt : Instant → σ → Attempt σ β, run context name attempt world =
        race context name (attempt world.now world.store).operation world) ∧
      ∀ operation : Operation σ β,
        Decided context name operation world (race context name operation world) := by
  constructor
  · exact fun attempt => run_eq_race attempt world
  · exact fun operation => race_decided context name operation world

-- Where the parent's cancellation, the deadline and the operation's end all fall on one instant,
-- the caller has cancelled.
example : (race ⟨some 1, some 5⟩ "get" (.waits [] () (some 5) (.ends [] (.ok 7) ()))
    ⟨0, ⟨[⟨none, some 5⟩, ⟨some 0, none⟩]⟩, ()⟩).map Prod.fst =
      some (.error (.cancelled "get")) := rfl

end Attempts

end Masking.Store
