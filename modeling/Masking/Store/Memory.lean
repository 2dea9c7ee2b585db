import Masking.Store.Execution
import Masking.Text.Digits

/-! The backend in the process: a map whose entries end at an instant of the clock. -/

namespace Masking.Store.Memory

/-- An entry of the in-process store. -/
structure Item where
  value : String
  /-- When the entry expires; `none` when it never does. -/
  expiresAt : Option Instant
deriving DecidableEq, Inhabited

/-- The in-process store: an item for each key, the capacity it was made for, and the number of
entries as it was counted last. Entries are never dropped for want of room. -/
structure State where
  items : List (String × Item)
  capacity : Nat
  counted : Nat
deriving DecidableEq, Inhabited

/-- The empty store. -/
def empty (capacity : Nat) : State := ⟨[], capacity, 0⟩

/-- Whether an item is still alive: its expiry has not come. -/
def Item.alive (item : Item) (now : Instant) : Bool :=
  match item.expiresAt with
  | some instant => now < instant
  | none => true

/-- The items without the one for a key. -/
def remove (key : String) (items : List (String × Item)) : List (String × Item) :=
  items.filter fun entry => entry.1 ≠ key

/-- The value of a key that is alive. -/
def lookup (now : Instant) (state : State) (key : String) : Option String :=
  match state.items.lookup key with
  | some item => if item.alive now then some item.value else none
  | none => none

/-- The time left to an item, if it expires and has not expired yet. -/
def Item.left (item : Item) (now : Instant) : Option Duration :=
  item.expiresAt.bind fun instant => if now ≤ instant then some (instant - now) else none

/-- How long an item lives that is made under a key without one. -/
def lifetimeOfNew (ttl : Option Duration) : Option Duration := ttl

/-- How long an item lives that takes the place of another one, whatever was left to that one. -/
def lifetimeOfUpdate (ttl _left : Option Duration) : Option Duration := ttl

/-- The store after a write. An item that is there is replaced, also when it has expired. -/
def insert (now : Instant) (state : State) (key value : String) (ttl : Option Duration) : State :=
  let lifetime :=
    match state.items.lookup key with
    | none => lifetimeOfNew ttl
    | some item => lifetimeOfUpdate ttl (item.left now)
  let item : Item := ⟨value, lifetime.map fun duration => now + duration⟩
  { state with items := (key, item) :: remove key state.items }

/-- Value and expiry are those of the write, whatever was there before. -/
theorem insert_eq (now : Instant) (state : State) (key value : String) (ttl : Option Duration) :
    insert now state key value ttl =
      { state with items :=
          (key, ⟨value, ttl.map fun duration => now + duration⟩) :: remove key state.items } := by
  unfold insert
  cases state.items.lookup key with
  | none => rfl
  | some item => rfl

/-- The store after a key has been removed. -/
def evict (state : State) (key : String) : State :=
  { state with items := remove key state.items }

/-- The store after its entries have been counted. -/
def count (now : Instant) (state : State) : State :=
  { state with counted := (state.items.filter fun entry => entry.2.alive now).length }

/-- What a store shows of itself: the number of entries as it was counted last. -/
def describe (state : State) : String :=
  "MemoryStore \x7b entries: " ++ String.ofList (Text.decimal state.counted) ++ " \x7d"

/-- An operation that ends when it is first run. -/
def instantly {β : Type} (value : β) (state : State) : Attempt State β :=
  ⟨state, [], some 0, (.ok value, state)⟩

/-- The in-process backend. It never fails and never waits. -/
def backend : Backend State where
  name := "memory"
  get now state key := instantly (lookup now state key) state
  set now state key value ttl := instantly () (insert now state key value ttl)
  ping _ state := instantly () state
  close _ state := instantly () state

end Masking.Store.Memory
