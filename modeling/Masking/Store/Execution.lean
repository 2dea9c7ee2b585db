import Masking.Store.Context

/-! Programs executed over a backend. Every operation races against cancellation and the deadline of
its context; time passes only while an operation waits. -/

namespace Masking.Store

/-- How a backend deals with one operation. When the operation is first run the backend changes to
`started` and the tokens in `cancels` are cancelled. Then `delay` passes, without end if there is
none, and the operation ends as `finish` says. An operation without delay ends when it is first
run. -/
structure Attempt (σ β : Type) where
  started : σ
  cancels : List TokenId
  delay : Option Duration
  finish : Except Error β × σ

/-- A key-value backend over states of type `σ`. -/
structure Backend (σ : Type) where
  name : String
  get : Instant → σ → String → Attempt σ (Option String)
  set : Instant → σ → String → String → Option Duration → Attempt σ Unit
  ping : Instant → σ → Attempt σ Unit
  close : Instant → σ → Attempt σ Unit

/-- What an operation meets: the time, the cancellation tokens and the state of the backend. -/
structure World (σ : Type) where
  now : Instant
  tokens : Tokens
  store : σ

namespace World

/-- The world after some time. -/
def advance {σ : Type} (world : World σ) (duration : Duration) : World σ :=
  { world with now := world.now + duration }

/-- The world after a token has been cancelled. -/
def cancel {σ : Type} (world : World σ) (id : TokenId) : World σ :=
  { world with tokens := world.tokens.cancel id world.now }

end World

/-- Whether an instant comes no later than another one, where `none` is never. -/
def noLater (instant : Instant) : Option Instant → Bool
  | some other => instant ≤ other
  | none => true

/-- How a waiting operation ends, and when: cancellation wins over the deadline, and the deadline
over the operation's own end, when they fall on the same instant. `none` when it never ends. -/
inductive Verdict where
  | cancelled (instant : Instant)
  | expired (instant : Instant)
  | ended (instant : Instant)
deriving DecidableEq, Inhabited

/-- The verdict on an operation that waits from `now` on. -/
def verdict (now : Instant) (cancelAt deadline finishAt : Option Instant) : Option Verdict :=
  match cancelAt with
  | some instant =>
      if noLater instant deadline ∧ noLater instant finishAt then
        some (.cancelled (Nat.max now instant))
      else withDeadline
  | none => withDeadline
where
  withDeadline : Option Verdict :=
    match deadline with
    | some instant =>
        if noLater instant finishAt then some (.expired (Nat.max now instant)) else ended
    | none => ended
  ended : Option Verdict :=
    finishAt.map Verdict.ended

/-- Run an operation in a context. It is not started when the context is cancelled already or the
deadline has come. Started, it ends by its first run, or it waits until it is cancelled, the
deadline comes or its own time has passed. An operation that is cut off leaves the backend as its
first run left it. The result is `none` when the operation never ends. -/
def run {σ β : Type} (context : CallContext) (operation : String)
    (attempt : Instant → σ → Attempt σ β) (world : World σ) :
    Option (Except Error β × World σ) :=
  let noStart := context.deadline.any fun deadline => deadline ≤ world.now
  if context.isCancelled world.tokens world.now then some (.error (.cancelled operation), world)
  else if noStart then some (.error (.deadlineExceeded operation), world)
  else
    let started := attempt world.now world.store
    let tokens := started.cancels.foldl (fun tokens id => tokens.cancel id world.now) world.tokens
    match started.delay with
    | some 0 => some (started.finish.1, ⟨world.now, tokens, started.finish.2⟩)
    | delay =>
        let finishAt := delay.map fun duration => world.now + duration
        match verdict world.now (context.cancelAt tokens) context.deadline finishAt with
        | some (.cancelled instant) =>
            some (.error (.cancelled operation), ⟨instant, tokens, started.started⟩)
        | some (.expired instant) =>
            some (.error (.deadlineExceeded operation), ⟨instant, tokens, started.started⟩)
        | some (.ended instant) => some (started.finish.1, ⟨instant, tokens, started.finish.2⟩)
        | none => none

/-- Execute a program over a backend: its result, the events it told, and the world it leaves.
Closing takes no heed of the context. The result is `none` when an operation never ends. -/
def execute {σ α : Type} (backend : Backend σ) (context : CallContext) :
    Program α → World σ → Option (α × List Event × World σ)
  | .done value, world => some (value, [], world)
  | .get key next, world =>
      match run context "get" (fun now store => backend.get now store key) world with
      | some (answer, world) => execute backend context (next answer) world
      | none => none
  | .set key value ttl next, world =>
      match run context "set" (fun now store => backend.set now store key value ttl) world with
      | some (answer, world) => execute backend context (next answer) world
      | none => none
  | .ping next, world =>
      match run context "ping" backend.ping world with
      | some (answer, world) => execute backend context (next answer) world
      | none => none
  | .close next, world =>
      match run .unbounded "close" backend.close world with
      | some (answer, world) => execute backend context (next answer) world
      | none => none
  | .emit event next, world =>
      match execute backend context next world with
      | some (value, events, world) => some (value, event :: events, world)
      | none => none

end Masking.Store
