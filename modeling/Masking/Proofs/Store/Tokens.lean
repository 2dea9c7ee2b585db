import Mathlib.Data.Finset.Card
import Masking.Store.Context

/-! Trees of cancellation tokens. A token has been cancelled when it or one of its ancestors has,
however far up the tree. Cancelling and making tokens takes no cancellation back. -/

namespace Masking.Store

/-- An instant that may be missing has come. -/
def Comes (instant : Option Instant) (now : Instant) : Prop :=
  ∃ limit, instant = some limit ∧ limit ≤ now

@[simp] theorem not_comes_none (now : Instant) : ¬ Comes none now := by
  rintro ⟨limit, hLimit, _⟩
  cases hLimit

@[simp] theorem comes_some {instant now : Instant} : Comes (some instant) now ↔ instant ≤ now := by
  simp [Comes]

theorem Comes.mono {instant : Option Instant} {now later : Instant} (h : Comes instant now)
    (hLater : now ≤ later) : Comes instant later := by
  obtain ⟨limit, hLimit, hNow⟩ := h
  exact ⟨limit, hLimit, Nat.le_trans hNow hLater⟩

theorem comes_earlier {first second : Option Instant} {now : Instant} :
    Comes (earlier first second) now ↔ Comes first now ∨ Comes second now := by
  cases first with
  | none => simp [earlier]
  | some a =>
      cases second with
      | none => simp [earlier]
      | some b =>
          simp only [earlier, comes_some]
          exact min_le_iff

namespace Tokens

/-- The parent of a token that has one. -/
def parentOf (tokens : Tokens) (id : TokenId) : Option TokenId :=
  tokens.made[id]?.bind CancelToken.parent

/-- When a token itself is cancelled. -/
def ownCancelAt (tokens : Tokens) (id : TokenId) : Option Instant :=
  tokens.made[id]?.bind CancelToken.cancelAt

/-- The ancestor of a token that many generations up, which at first is the token itself. -/
def ancestor (tokens : Tokens) : Nat → TokenId → Option TokenId
  | 0, id => some id
  | generations + 1, id => (tokens.parentOf id).bind (tokens.ancestor generations)

/-- A token or one of its ancestors has been cancelled. -/
def CancelledBy (tokens : Tokens) (id : TokenId) (now : Instant) : Prop :=
  ∃ generations older, tokens.ancestor generations id = some older ∧
    Comes (tokens.ownCancelAt older) now

theorem CancelledBy.mono {tokens : Tokens} {id : TokenId} {now later : Instant}
    (h : tokens.CancelledBy id now) (hLater : now ≤ later) : tokens.CancelledBy id later := by
  obtain ⟨generations, older, hOlder, hComes⟩ := h
  exact ⟨generations, older, hOlder, hComes.mono hLater⟩

section Ancestors

variable {tokens : Tokens} {id older : TokenId}

theorem ancestor_add (first second : Nat) (id : TokenId) :
    tokens.ancestor (first + second) id =
      (tokens.ancestor first id).bind (tokens.ancestor second) := by
  induction first generalizing id with
  | zero => rw [Nat.zero_add, ancestor, Option.bind_some]
  | succ first ih =>
      rw [Nat.succ_add, ancestor, ancestor, Option.bind_assoc]
      exact congrArg (Option.bind _) (funext ih)

theorem lt_of_parentOf {parent : TokenId} (h : tokens.parentOf id = some parent) :
    id < tokens.made.length := by
  obtain ⟨token, hToken, _⟩ := Option.bind_eq_some_iff.mp h
  exact (List.getElem?_eq_some_iff.mp hToken).1

theorem lt_of_ownCancelAt {instant : Instant} (h : tokens.ownCancelAt id = some instant) :
    id < tokens.made.length := by
  obtain ⟨token, hToken, _⟩ := Option.bind_eq_some_iff.mp h
  exact (List.getElem?_eq_some_iff.mp hToken).1

/-- Everything on the way to a token that has been made has been made as well. -/
theorem exists_between {generations steps : Nat} (hOlder : older < tokens.made.length)
    (h : tokens.ancestor generations id = some older) (hSteps : steps ≤ generations) :
    ∃ between < tokens.made.length, tokens.ancestor steps id = some between := by
  obtain ⟨rest, rfl⟩ := Nat.exists_eq_add_of_le hSteps
  rw [ancestor_add] at h
  obtain ⟨between, hBetween, hRest⟩ := Option.bind_eq_some_iff.mp h
  refine ⟨between, ?_, hBetween⟩
  cases rest with
  | zero =>
      cases hRest
      exact hOlder
  | succ rest =>
      obtain ⟨parent, hParent, _⟩ := Option.bind_eq_some_iff.mp hRest
      exact lt_of_parentOf hParent

/-- Two places on the way at which the same token stands can be joined, which makes the way
shorter. -/
theorem exists_joined {near far generations : Nat} (hOlder : older < tokens.made.length)
    (h : tokens.ancestor generations id = some older) (hNear : near < far)
    (hFar : far ≤ generations)
    (hSame : (tokens.ancestor near id).getD 0 = (tokens.ancestor far id).getD 0) :
    ∃ fewer < generations, tokens.ancestor fewer id = some older := by
  obtain ⟨here, _, hHere⟩ := exists_between hOlder h (Nat.le_of_lt (Nat.lt_of_lt_of_le hNear hFar))
  obtain ⟨there, _, hThere⟩ := exists_between hOlder h hFar
  have hMeet : here = there := by simpa [hHere, hThere] using hSame
  refine ⟨near + (generations - far), by omega, ?_⟩
  rw [ancestor_add, hHere, hMeet, ← hThere, ← ancestor_add, Nat.add_sub_cancel' hFar, h]

/-- A way of as many steps as there are tokens passes some token twice. -/
theorem exists_shorter {generations : Nat} (hOlder : older < tokens.made.length)
    (h : tokens.ancestor generations id = some older) (hLong : tokens.made.length ≤ generations) :
    ∃ fewer < generations, tokens.ancestor fewer id = some older := by
  have hCard : (Finset.range tokens.made.length).card < (Finset.range (generations + 1)).card := by
    rw [Finset.card_range, Finset.card_range]
    omega
  have hMaps : ∀ steps ∈ Finset.range (generations + 1),
      (tokens.ancestor steps id).getD 0 ∈ Finset.range tokens.made.length := by
    intro steps hSteps
    obtain ⟨between, hBetween, hSome⟩ :=
      exists_between hOlder h (Nat.le_of_lt_succ (Finset.mem_range.mp hSteps))
    rw [hSome]
    exact Finset.mem_range.mpr hBetween
  obtain ⟨first, hFirst, second, hSecond, hNe, hSame⟩ :=
    Finset.exists_ne_map_eq_of_card_lt_of_maps_to hCard hMaps
  have hFirstLe := Nat.le_of_lt_succ (Finset.mem_range.mp hFirst)
  have hSecondLe := Nat.le_of_lt_succ (Finset.mem_range.mp hSecond)
  rcases Nat.lt_or_gt_of_ne hNe with hLt | hGt
  · exact exists_joined hOlder h hLt hSecondLe hSame
  · exact exists_joined hOlder h hGt hFirstLe hSame.symm

/-- A token that has been made is not further up than there are tokens. -/
theorem exists_ancestor_lt {generations : Nat} (hOlder : older < tokens.made.length)
    (h : tokens.ancestor generations id = some older) :
    ∃ fewer < tokens.made.length, tokens.ancestor fewer id = some older := by
  induction generations using Nat.strong_induction_on with
  | _ generations ih =>
      rcases Nat.lt_or_ge generations tokens.made.length with hLt | hLong
      · exact ⟨generations, hLt, h⟩
      · obtain ⟨fewer, hFewer, hShorter⟩ := exists_shorter hOlder h hLong
        exact ih fewer hFewer hShorter

end Ancestors

section Cancellation

variable {tokens : Tokens} {id : TokenId} {now : Instant}

theorem cancelAtFrom_succ (steps : Nat) (id : TokenId) :
    tokens.cancelAtFrom (steps + 1) id =
      earlier (tokens.ownCancelAt id) ((tokens.parentOf id).bind (tokens.cancelAtFrom steps)) := by
  rw [cancelAtFrom, ownCancelAt, parentOf]
  cases tokens.made[id]? with
  | none => rfl
  | some token =>
      obtain ⟨parent, cancelAt⟩ := token
      cases parent with
      | none => cases cancelAt <;> rfl
      | some parent => rfl

theorem comes_cancelAtFrom {steps : Nat} :
    Comes (tokens.cancelAtFrom steps id) now ↔
      ∃ generations < steps, ∃ older, tokens.ancestor generations id = some older ∧
        Comes (tokens.ownCancelAt older) now := by
  induction steps generalizing id with
  | zero => simp [cancelAtFrom]
  | succ steps ih =>
      rw [cancelAtFrom_succ, comes_earlier]
      constructor
      · rintro (hOwn | ⟨limit, hLimit, hNow⟩)
        · exact ⟨0, Nat.succ_pos _, id, rfl, hOwn⟩
        · obtain ⟨parent, hParent, hCancel⟩ := Option.bind_eq_some_iff.mp hLimit
          obtain ⟨generations, hFew, older, hOlder, hComes⟩ := ih.mp ⟨limit, hCancel, hNow⟩
          refine ⟨generations + 1, Nat.succ_lt_succ hFew, older, ?_, hComes⟩
          rw [ancestor, hParent, Option.bind_some, hOlder]
      · rintro ⟨generations, hFew, older, hOlder, hComes⟩
        cases generations with
        | zero =>
            cases hOlder
            exact Or.inl hComes
        | succ generations =>
            obtain ⟨parent, hParent, hOlder⟩ := Option.bind_eq_some_iff.mp hOlder
            obtain ⟨limit, hLimit, hNow⟩ :=
              ih.mpr ⟨generations, Nat.lt_of_succ_lt_succ hFew, older, hOlder, hComes⟩
            exact Or.inr ⟨limit, by rw [hParent, Option.bind_some, hLimit], hNow⟩

/-- Parents are followed far enough: a token has been cancelled exactly when it or one of its
ancestors has. -/
theorem comes_cancelAt : Comes (tokens.cancelAt id) now ↔ tokens.CancelledBy id now := by
  rw [cancelAt, comes_cancelAtFrom]
  constructor
  · rintro ⟨generations, _, older, hOlder, hComes⟩
    exact ⟨generations, older, hOlder, hComes⟩
  · rintro ⟨generations, older, hOlder, limit, hLimit, hNow⟩
    obtain ⟨fewer, hFewer, hShort⟩ := exists_ancestor_lt (lt_of_ownCancelAt hLimit) hOlder
    exact ⟨fewer, hFewer, older, hShort, limit, hLimit, hNow⟩

theorem isCancelled_iff : tokens.isCancelled id now = true ↔ tokens.CancelledBy id now := by
  rw [← comes_cancelAt, isCancelled]
  cases tokens.cancelAt id with
  | none => simp
  | some instant => simp

end Cancellation

section Changes

variable {tokens : Tokens} {id : TokenId} {now : Instant}

theorem parentOf_cancel (other : TokenId) (instant : Instant) :
    (tokens.cancel other instant).parentOf = tokens.parentOf := by
  funext id
  rw [parentOf, parentOf, cancel, List.getElem?_modify]
  cases tokens.made[id]? with
  | none => rfl
  | some token => by_cases hOther : other = id <;> simp [hOther]

theorem ancestor_cancel (other : TokenId) (instant : Instant) (generations : Nat) (id : TokenId) :
    (tokens.cancel other instant).ancestor generations id = tokens.ancestor generations id := by
  induction generations generalizing id with
  | zero => rfl
  | succ generations ih =>
      rw [ancestor, ancestor, parentOf_cancel]
      exact congrArg (Option.bind _) (funext ih)

theorem comes_ownCancelAt_cancel {other : TokenId} {instant : Instant} :
    Comes ((tokens.cancel other instant).ownCancelAt id) now ↔
      Comes (tokens.ownCancelAt id) now ∨
        id = other ∧ other < tokens.made.length ∧ instant ≤ now := by
  rw [ownCancelAt, ownCancelAt, cancel, List.getElem?_modify]
  cases hToken : tokens.made[id]? with
  | none =>
      have hId := List.getElem?_eq_none_iff.mp hToken
      have hNotMade : ¬ (id = other ∧ other < tokens.made.length ∧ instant ≤ now) := by
        rintro ⟨rfl, hLt, _⟩
        exact absurd hLt (Nat.not_lt_of_le hId)
      simp [hNotMade]
  | some token =>
      have hId : id < tokens.made.length := (List.getElem?_eq_some_iff.mp hToken).1
      by_cases hOther : other = id
      · subst hOther
        simp [comes_earlier, hId]
      · simp [hOther, Ne.symm hOther]

/-- A token is cancelled with another one exactly when that one is the token itself or one of its
ancestors. Cancelling takes no cancellation back. -/
theorem cancelledBy_cancel {other : TokenId} {instant : Instant} :
    (tokens.cancel other instant).CancelledBy id now ↔
      tokens.CancelledBy id now ∨ other < tokens.made.length ∧ instant ≤ now ∧
        ∃ generations, tokens.ancestor generations id = some other := by
  simp only [CancelledBy, ancestor_cancel, comes_ownCancelAt_cancel]
  constructor
  · rintro ⟨generations, older, hOlder, hOwn | ⟨rfl, hLt, hNow⟩⟩
    · exact Or.inl ⟨generations, older, hOlder, hOwn⟩
    · exact Or.inr ⟨hLt, hNow, generations, hOlder⟩
  · rintro (⟨generations, older, hOlder, hOwn⟩ | ⟨hLt, hNow, generations, hOlder⟩)
    · exact ⟨generations, older, hOlder, Or.inl hOwn⟩
    · exact ⟨generations, other, hOlder, Or.inr ⟨rfl, hLt, hNow⟩⟩

theorem getElem?_make {token : CancelToken} (parent : Option TokenId)
    (h : tokens.made[id]? = some token) : (tokens.make parent).2.made[id]? = some token := by
  obtain ⟨hId, _⟩ := List.getElem?_eq_some_iff.mp h
  rw [make, List.getElem?_append_left hId, h]

theorem ancestor_make {generations : Nat} {older : TokenId} (parent : Option TokenId)
    (h : tokens.ancestor generations id = some older) :
    (tokens.make parent).2.ancestor generations id = some older := by
  induction generations generalizing id with
  | zero => exact h
  | succ generations ih =>
      obtain ⟨next, hNext, hRest⟩ := Option.bind_eq_some_iff.mp h
      obtain ⟨token, hToken, hParent⟩ := Option.bind_eq_some_iff.mp hNext
      rw [ancestor, parentOf, getElem?_make parent hToken, Option.bind_some, hParent]
      exact ih hRest

/-- A new token takes no cancellation back. -/
theorem CancelledBy.make (h : tokens.CancelledBy id now) (parent : Option TokenId) :
    (tokens.make parent).2.CancelledBy id now := by
  obtain ⟨generations, older, hOlder, limit, hLimit, hNow⟩ := h
  obtain ⟨token, hToken, hOwn⟩ := Option.bind_eq_some_iff.mp hLimit
  refine ⟨generations, older, ancestor_make parent hOlder, limit, ?_, hNow⟩
  rw [ownCancelAt, getElem?_make parent hToken, Option.bind_some, hOwn]

/-- The child of a cancelled token is cancelled from the beginning. -/
theorem CancelledBy.child (h : tokens.CancelledBy id now) :
    (tokens.make (some id)).2.CancelledBy (tokens.make (some id)).1 now := by
  obtain ⟨generations, older, hOlder, hComes⟩ := h.make (some id)
  have hChild : (tokens.make (some id)).2.parentOf (tokens.make (some id)).1 = some id := by
    rw [parentOf, Tokens.make]
    simp
  exact ⟨generations + 1, older, by rw [ancestor, hChild, Option.bind_some, hOlder], hComes⟩

end Changes

end Tokens

end Masking.Store
