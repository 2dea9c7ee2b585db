import Masking.Store.Program

/-! The caller's say over store calls: cancellation tokens that form trees, and deadlines on a
clock. -/

namespace Masking.Store

/-- A moment of the clock, in milliseconds. -/
abbrev Instant := Nat

/-- The seconds that an instant can count: the clock holds them as a signed number of 64 bits. -/
def maxSeconds : Nat := 9223372036854775807

/-- The instant some time after another one; `none` when the clock cannot hold it. -/
def Instant.after (start : Instant) (duration : Duration) : Option Instant :=
  if (start + duration) / 1000 ≤ maxSeconds then some (start + duration) else none

/-- The name of a cancellation token: its place in the order in which tokens were made. -/
abbrev TokenId := Nat

/-- A cancellation token. It may have been made as the child of an earlier one, and is cancelled
when that one is; it may be cancelled itself, now or at a later instant. -/
structure CancelToken where
  parent : Option TokenId
  cancelAt : Option Instant
deriving DecidableEq, Inhabited

/-- The earlier of two instants, where `none` is never. -/
def earlier : Option Instant → Option Instant → Option Instant
  | some a, some b => some (Nat.min a b)
  | some a, none => some a
  | none, b => b

/-- All cancellation tokens, in the order in which they were made. -/
structure Tokens where
  made : List CancelToken
deriving DecidableEq, Inhabited

namespace Tokens

/-- No tokens. -/
def none : Tokens := ⟨[]⟩

/-- Parents are followed for as many steps as there are tokens, which is enough because a parent is
older than its children. -/
def cancelAtFrom (tokens : Tokens) : Nat → TokenId → Option Instant
  | 0, _ => Option.none
  | steps + 1, id =>
      match tokens.made[id]? with
      | Option.none => Option.none
      | some token =>
          match token.parent with
          | Option.none => token.cancelAt
          | some parent => earlier token.cancelAt (cancelAtFrom tokens steps parent)

/-- When a token is cancelled: when it or one of its ancestors is. -/
def cancelAt (tokens : Tokens) (id : TokenId) : Option Instant :=
  cancelAtFrom tokens tokens.made.length id

/-- Whether a token is cancelled at an instant. -/
def isCancelled (tokens : Tokens) (id : TokenId) (now : Instant) : Bool :=
  match cancelAt tokens id with
  | some instant => instant ≤ now
  | Option.none => false

/-- The tokens with a new one, and its name. -/
def make (tokens : Tokens) (parent : Option TokenId) : TokenId × Tokens :=
  (tokens.made.length, ⟨tokens.made ++ [⟨parent, Option.none⟩]⟩)

/-- The tokens after one of them has been cancelled at an instant. -/
def cancel (tokens : Tokens) (id : TokenId) (now : Instant) : Tokens :=
  ⟨tokens.made.modify id fun token => { token with cancelAt := earlier token.cancelAt (some now) }⟩

end Tokens

/-- The caller's say over a call: a token by which it can be cancelled, and a deadline. Either may
be missing. -/
structure CallContext where
  token : Option TokenId
  deadline : Option Instant
deriving DecidableEq, Inhabited

namespace CallContext

/-- The context that is never cancelled and has no deadline. -/
def unbounded : CallContext := ⟨none, none⟩

/-- When a call in this context is cancelled. -/
def cancelAt (context : CallContext) (tokens : Tokens) : Option Instant :=
  context.token.bind tokens.cancelAt

/-- Whether a call in this context is cancelled at an instant. -/
def isCancelled (context : CallContext) (tokens : Tokens) (now : Instant) : Bool :=
  match context.cancelAt tokens with
  | some instant => instant ≤ now
  | none => false

/-- The time left before the deadline, zero once it has passed. -/
def remaining (context : CallContext) (now : Instant) : Option Duration :=
  context.deadline.map fun deadline => deadline - now

end CallContext

end Masking.Store
