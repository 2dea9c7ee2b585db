import Masking.Proofs.Store.Keeping
import Masking.Proofs.Store.Keys
import Masking.Proofs.TokenStore.Calls

/-! Token calls over a backend that keeps what is written. A call is a function of the entries that
are held: it answers the token that is there and otherwise adds both entries of the mapping, so that
tokens are never replaced and every answer can be found again. -/

namespace Masking

open Store (Action Backend CallContext Duration Ends Held Key Program World execute)

namespace TokenStore

section Entries

variable (store : TokenStore) (held : String → Option String) (value : String)
  (category : Category)

/-- The token that a call gives over a map of entries: the one that is held, or else a new one. -/
def tokenOf : String :=
  (held (Key.ofValue category value).text).getD (store.synthesizer value category)

/-- The entries after a call: a token that was not held before is held now, and leads back to its
value. -/
def remember : String → Option String :=
  match held (Key.ofValue category value).text with
  | some _ => held
  | none =>
      Function.update
        (Function.update held (Key.ofValue category value).text
          (some (store.synthesizer value category)))
        (Key.ofMasked category (store.synthesizer value category)).text (some value)

variable {held value category}

theorem remember_hit {token : String} (h : held (Key.ofValue category value).text = some token) :
    store.tokenOf held value category = token ∧ store.remember held value category = held := by
  simp only [tokenOf, remember, h, Option.getD_some, and_self]

theorem remember_miss (h : held (Key.ofValue category value).text = none) :
    store.tokenOf held value category = store.synthesizer value category ∧
      store.remember held value category =
        Function.update
          (Function.update held (Key.ofValue category value).text
            (some (store.synthesizer value category)))
          (Key.ofMasked category (store.synthesizer value category)).text (some value) := by
  simp only [tokenOf, remember, h, Option.getD_none, and_self]

/-- What a call answers is held after it. -/
theorem remember_own :
    store.remember held value category (Key.ofValue category value).text =
      some (store.tokenOf held value category) := by
  cases hHeld : held (Key.ofValue category value).text with
  | some token =>
      obtain ⟨hToken, hRemember⟩ := store.remember_hit hHeld
      rw [hToken, hRemember, hHeld]
  | none =>
      obtain ⟨hToken, hRemember⟩ := store.remember_miss hHeld
      rw [hToken, hRemember, Function.update_of_ne (Key.ofValue_ne_ofMasked _ _ _ _),
        Function.update_self]

/-- A new token leads back to its value. -/
theorem remember_value (h : held (Key.ofValue category value).text = none) :
    store.remember held value category
        (Key.ofMasked category (store.synthesizer value category)).text = some value := by
  rw [(store.remember_miss h).2, Function.update_self]

/-- Only the two keys of the mapping are touched. -/
theorem remember_other {key : String} (forward : key ≠ (Key.ofValue category value).text)
    (reverse : ∀ masked, key ≠ (Key.ofMasked category masked).text) :
    store.remember held value category key = held key := by
  cases hHeld : held (Key.ofValue category value).text with
  | some token => rw [(store.remember_hit hHeld).2]
  | none =>
      rw [(store.remember_miss hHeld).2, Function.update_of_ne (reverse _),
        Function.update_of_ne forward]

/-- A token that is held stays, whatever is called for. -/
theorem remember_token {other token : String} {last : Category}
    (h : held (Key.ofValue last other).text = some token) :
    store.remember held value category (Key.ofValue last other).text = some token := by
  by_cases hKey : (Key.ofValue last other).text = (Key.ofValue category value).text
  · rw [hKey] at h
    rw [hKey, (store.remember_hit h).2, h]
  · rw [store.remember_other hKey fun masked => Key.ofValue_ne_ofMasked _ _ _ _, h]

end Entries

end TokenStore

section Calls

variable {σ : Type} {backend : Backend σ} {store : TokenStore} {steady : σ → Prop} {held : Held σ}
  {context : CallContext}

/-- A call whose operations succeed is told from the entries that were held before it. -/
theorem TokenCall.Made.kept {call : TokenCall σ} (keeps : backend.Keeps store.ttl steady held)
    (hSteady : steady call.before.store)
    (made : call.Made backend context Action.Succeeds store) :
    call.result = .ok (store.tokenOf (held call.before.store) call.value call.category) ∧
      steady call.after.store ∧
      held call.after.store =
        store.remember (held call.before.store) call.value call.category := by
  obtain ⟨events, hRun⟩ := made.run
  obtain ⟨found, middle, hRead, hFound, hRest⟩ := made.ends
  have hAnswers := (TokenStore.answers_of_execute hRun).1
  generalize call.result = result at hAnswers ⊢
  generalize call.after = after at hAnswers ⊢
  cases hAnswers with
  | failed read =>
      cases hRead.symm.trans read
      cases hFound
  | hit read =>
      obtain ⟨hHeld, hAfter, hSame⟩ := (keeps.get _ hSteady).of_run read
      obtain ⟨hToken, hRemember⟩ := store.remember_hit hHeld.symm
      exact ⟨congrArg Except.ok hToken.symm, hAfter, by rw [hRemember, hSame]⟩
  | @miss forward reverse between last _ read first second =>
      cases hRead.symm.trans read
      -- After a miss the run goes on with the two writes, and both succeed.
      obtain ⟨_, _, hFirst, hForward, hRest⟩ := hRest
      cases first.symm.trans hFirst
      cases forward with
      | error error => cases hForward
      | ok done =>
          obtain ⟨_, _, hSecond, hReverse, _⟩ := hRest
          cases second.symm.trans hSecond
          cases reverse with
          | error error => cases hReverse
          | ok done =>
              obtain ⟨hHeld, hMiddle, hSame⟩ := (keeps.get _ hSteady).of_run read
              obtain ⟨_, hBetween, hUpdated⟩ := (keeps.set _ _ hMiddle).of_run first
              obtain ⟨_, hLast, hAfter⟩ := (keeps.set _ _ hBetween).of_run second
              obtain ⟨hToken, hRemember⟩ := store.remember_miss hHeld.symm
              refine ⟨congrArg Except.ok hToken.symm, hLast, ?_⟩
              rw [hRemember, hAfter, hUpdated, hSame]

/-- What a call has answered stands under the key of its value. -/
def TokenCall.Stands (entries : String → Option String) (call : TokenCall σ) : Prop :=
  ∃ token, call.result = .ok token ∧
    entries (Key.ofValue call.category call.value).text = some token

/-- Over a chain of calls tokens are only added, and in the end every answer stands. -/
theorem CallChain.kept {world after : World σ} {calls : List (TokenCall σ)}
    (chain : CallChain backend context Action.Succeeds store world calls after)
    (keeps : backend.Keeps store.ttl steady held) (hSteady : steady world.store) :
    steady after.store ∧
      (∀ value category token, held world.store (Key.ofValue category value).text = some token →
        held after.store (Key.ofValue category value).text = some token) ∧
      ∀ call ∈ calls, call.Stands (held after.store) := by
  induction chain with
  | nil world => exact ⟨hSteady, fun _ _ _ => id, fun call member => absurd member List.not_mem_nil⟩
  | cons made _ ih =>
      obtain ⟨hResult, hMiddle, hHeld⟩ := made.kept keeps hSteady
      obtain ⟨hAfter, hGrows, hLater⟩ := ih hMiddle
      refine ⟨hAfter, ?_, List.forall_mem_cons.mpr ⟨?_, hLater⟩⟩
      · intro value category token hToken
        apply hGrows
        rw [hHeld]
        exact store.remember_token hToken
      · refine ⟨_, hResult, hGrows _ _ _ ?_⟩
        rw [hHeld]
        exact store.remember_own

end Calls

section Results

variable {σ α : Type} {backend : Backend σ} {steady : σ → Prop} {held : Held σ} {world : World σ}

/-- The program has this result in every context in which its operations succeed, and the context
without limits is one of them. -/
structure Returns (backend : Backend σ) (program : Program α) (world : World σ) (result : α) :
    Prop where
  unbounded : Ends backend .unbounded Action.Succeeds program world
  result : ∀ context, Ends backend context Action.Succeeds program world →
    ∃ events after, execute backend context program world = some (result, events, after)

theorem Returns.unique {program : Program α} {result other : α}
    (h : Returns backend program world result) (hOther : Returns backend program world other) :
    result = other := by
  obtain ⟨events, after, hRun⟩ := h.result _ h.unbounded
  obtain ⟨_, _, hAgain⟩ := hOther.result _ h.unbounded
  cases hRun.symm.trans hAgain
  rfl

namespace TokenStore

theorem ends_unbounded {store : TokenStore} (keeps : backend.Keeps store.ttl steady held)
    (hSteady : steady world.store) (value : String) (category : Category) :
    Ends backend .unbounded Action.Succeeds (store.getOrCreate value category) world := by
  obtain ⟨middle, hRead⟩ := keeps.exists_read hSteady (Key.ofValue category value).text
  obtain ⟨_, hMiddle, _⟩ := (keeps.get _ hSteady).of_run hRead
  refine ⟨_, middle, hRead, rfl, ?_⟩
  cases held world.store (Key.ofValue category value).text with
  | some token => trivial
  | none =>
      let token := store.synthesizer value category
      obtain ⟨between, hFirst⟩ :=
        keeps.exists_write hMiddle (Key.ofValue category value).text token
      obtain ⟨_, hBetween, _⟩ := (keeps.set _ _ hMiddle).of_run hFirst
      obtain ⟨after, hSecond⟩ :=
        keeps.exists_write hBetween (Key.ofMasked category token).text value
      exact ⟨_, between, hFirst, rfl, _, after, hSecond, rfl, trivial⟩

theorem getOrCreate_returns {store : TokenStore} (keeps : backend.Keeps store.ttl steady held)
    (hSteady : steady world.store) (value : String) (category : Category) :
    Returns backend (store.getOrCreate value category) world
      (.ok (store.tokenOf (held world.store) value category)) := by
  refine ⟨ends_unbounded keeps hSteady value category, fun context ends => ?_⟩
  obtain ⟨result, events, after, hRun⟩ := ends.exists_result
  have hMade : TokenCall.Made backend context Action.Succeeds store
      ⟨value, category, world, result, after⟩ := ⟨ends, events, hRun⟩
  obtain ⟨hResult, _⟩ := hMade.kept keeps hSteady
  exact ⟨events, after, hResult ▸ hRun⟩

theorem lookupValue_returns {ttl : Option Duration} (keeps : backend.Keeps ttl steady held)
    (hSteady : steady world.store) (masked : String) (category : Category) :
    Returns backend (lookupValue masked category) world
      (.ok (held world.store (Key.ofMasked category masked).text)) := by
  constructor
  · obtain ⟨after, hRead⟩ := keeps.exists_read hSteady (Key.ofMasked category masked).text
    exact ⟨_, after, hRead, rfl, trivial⟩
  · rintro context ⟨found, after, hRead, hFound, _⟩
    cases found with
    | error error => cases hFound
    | ok found =>
        obtain ⟨rfl, _⟩ := (keeps.get _ hSteady).of_run hRead
        refine ⟨[], after, ?_⟩
        rw [execute_lookupValue, hRead]
        rfl

end TokenStore

end Results

end Masking
