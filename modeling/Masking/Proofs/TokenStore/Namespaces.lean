import Masking.Proofs.TokenStore.Recall

/-! Categories as namespaces of a store. Over a backend that keeps what is written, the calls for
values of one category do not show in another one exactly when neither category goes on from the
other with a colon. -/

namespace Masking

open Store (Action Backend CallContext Duration Ends Error Held Key Program Tokens World execute)

section Isolation

variable {σ : Type} (backend : Backend σ) (ttl : Option Duration) (steady : σ → Prop)
  (held : Held σ)

/-- The worlds that token stores of one lifetime come to from a backend without entries. Between
their calls time passes and tokens are cancelled. -/
inductive Reached : World σ → Prop
  | start {world : World σ} (hSteady : steady world.store)
      (empty : held world.store = fun _ => none) : Reached world
  | pass {world : World σ} (duration : Duration) (tokens : Tokens) (earlier : Reached world) :
      Reached ⟨world.now + duration, tokens, world.store⟩
  | call {context : CallContext} {store : TokenStore} {call : TokenCall σ}
      (earlier : Reached call.before) (lifetime : store.ttl = ttl)
      (made : call.Made backend context Action.Succeeds store) : Reached call.after
  | lookup {context : CallContext} {world after : World σ} {masked : String}
      {category : Category} {found : Option String} {events : List Store.Event}
      (earlier : Reached world)
      (run : execute backend context (TokenStore.lookupValue masked category) world =
        some (.ok found, events, after)) : Reached after

/-- The program answers the same in both worlds, whichever contexts its operations succeed in. -/
def SameAnswer {α : Type} (program : Program (Except Error α)) (before after : World σ) : Prop :=
  ∃ answer, Returns backend program before (.ok answer) ∧
    Returns backend program after (.ok answer)

/-- Calls of the store for values of the first category do not show in the second one: whatever is
asked for there, with whichever synthesizer, has the same answer after such a call as before. -/
def TokenStore.Isolates (store : TokenStore) (first second : Category) : Prop :=
  ∀ (context : CallContext) (call : TokenCall σ),
    Reached backend store.ttl steady held call.before → call.category = first →
    call.Made backend context Action.Succeeds store →
      (∀ (other : TokenStore) (value : String), other.ttl = store.ttl →
        SameAnswer backend (other.getOrCreate value second) call.before call.after) ∧
      ∀ masked, SameAnswer backend (TokenStore.lookupValue masked second) call.before call.after

variable {backend ttl steady held}

theorem Reached.steady_store {world : World σ} (keeps : backend.Keeps ttl steady held)
    (h : Reached backend ttl steady held world) : steady world.store := by
  induction h with
  | start hSteady => exact hSteady
  | pass duration tokens _ ih => exact ih
  | call _ lifetime made ih =>
      subst lifetime
      exact (made.kept keeps ih).2.1
  | lookup _ run ih =>
      rw [TokenStore.execute_lookupValue] at run
      obtain ⟨⟨answer, after⟩, hRead, hDone⟩ := Option.map_eq_some_iff.mp run
      cases hDone
      exact ((keeps.get _ ih).of_run hRead).2.1

theorem SameAnswer.eq {α : Type} {program : Program (Except Error α)} {before after : World σ}
    {first second : α} (h : SameAnswer backend program before after)
    (hBefore : Returns backend program before (.ok first))
    (hAfter : Returns backend program after (.ok second)) : first = second := by
  obtain ⟨answer, hFirst, hSecond⟩ := h
  exact (Except.ok.inj (hBefore.unique hFirst)).trans (Except.ok.inj (hSecond.unique hAfter))

namespace TokenStore

variable {store : TokenStore} {first second : Category}

/-- A call changes no entry of a category that is apart from its own. -/
theorem remember_apart (store : TokenStore) (entries : String → Option String) (value : String)
    (different : first ≠ second) (apart : first.Apart second) (last : String) :
    store.remember entries value first (Key.ofValue second last).text =
        entries (Key.ofValue second last).text ∧
      store.remember entries value first (Key.ofMasked second last).text =
        entries (Key.ofMasked second last).text := by
  constructor
  · apply store.remember_other
    · exact (Key.ofValue_ne different apart value last).symm
    · exact fun masked => Key.ofValue_ne_ofMasked second first last masked
  · apply store.remember_other
    · exact (Key.ofValue_ne_ofMasked first second value last).symm
    · exact fun masked => (Key.ofMasked_ne different apart masked last).symm

theorem isolates_of_apart (keeps : backend.Keeps store.ttl steady held)
    (different : first ≠ second) (apart : first.Apart second) :
    store.Isolates backend steady held first second := by
  rintro context call hReached rfl made
  have hBefore := hReached.steady_store keeps
  obtain ⟨_, hAfter, hHeld⟩ := made.kept keeps hBefore
  have hSame := store.remember_apart (held call.before.store) call.value different apart
  constructor
  · intro other value lifetime
    rw [← lifetime] at keeps
    refine ⟨_, getOrCreate_returns keeps hBefore value second, ?_⟩
    have hReturns := getOrCreate_returns keeps hAfter value second
    rw [tokenOf, hHeld, (hSame value).1] at hReturns
    exact hReturns
  · intro masked
    refine ⟨_, lookupValue_returns keeps hBefore masked second, ?_⟩
    have hReturns := lookupValue_returns keeps hAfter masked second
    rw [hHeld, (hSame masked).2] at hReturns
    exact hReturns

/-- Over a backend that may be empty, every call can be the first one. -/
theorem exists_first_call (keeps : backend.Keeps store.ttl steady held)
    (empty : ∃ state, steady state ∧ held state = fun _ => none) (value : String)
    (category : Category) :
    ∃ call : TokenCall σ, Reached backend store.ttl steady held call.before ∧
      call.Asks value category ∧ call.Made backend .unbounded Action.Succeeds store ∧
      held call.before.store = fun _ => none := by
  obtain ⟨state, hSteady, hEmpty⟩ := empty
  let world : World σ := ⟨0, .none, state⟩
  have ends : Ends backend .unbounded Action.Succeeds (store.getOrCreate value category) world :=
    ends_unbounded keeps hSteady value category
  obtain ⟨result, events, after, hRun⟩ := ends.exists_result
  exact ⟨⟨value, category, world, result, after⟩, .start hSteady hEmpty, ⟨rfl, rfl⟩,
    ⟨ends, events, hRun⟩, hEmpty⟩

/-- When the first category goes on from the second with a colon, a value of the first can be looked
up in the second. -/
theorem not_isolates_of_extends (keeps : backend.Keeps store.ttl steady held)
    (empty : ∃ state, steady state ∧ held state = fun _ => none)
    (longer : first.Extends second) : ¬ store.Isolates backend steady held first second := by
  intro isolates
  obtain ⟨rest, hTag⟩ := longer
  obtain ⟨call, hReached, ⟨_, rfl⟩, made, hEmpty⟩ := exists_first_call keeps empty "" first
  have hBefore := hReached.steady_store keeps
  obtain ⟨_, hAfter, hHeld⟩ := made.kept keeps hBefore
  let token := store.synthesizer call.value call.category
  have hKey := Key.ofMasked_extends hTag token
  have hNew : held call.after.store (Key.ofMasked second (rest ++ ":" ++ token)).text =
      some call.value := by
    rw [hHeld, ← hKey]
    exact store.remember_value (congrFun hEmpty _)
  have hAnswer := ((isolates .unbounded call hReached rfl made).2 _).eq
    (lookupValue_returns keeps hBefore (rest ++ ":" ++ token) second)
    (lookupValue_returns keeps hAfter (rest ++ ":" ++ token) second)
  rw [hEmpty, hNew] at hAnswer
  cases hAnswer

/-- When two values have the same key in their categories, the token of the first is given to the
second. -/
theorem not_isolates_of_ofValue_eq (keeps : backend.Keeps store.ttl steady held)
    (empty : ∃ state, steady state ∧ held state = fun _ => none) {value other : String}
    (same : (Key.ofValue first value).text = (Key.ofValue second other).text)
    (differ : store.synthesizer value first ≠ store.synthesizer other second) :
    ¬ store.Isolates backend steady held first second := by
  intro isolates
  obtain ⟨call, hReached, ⟨rfl, rfl⟩, made, hEmpty⟩ := exists_first_call keeps empty value first
  have hBefore := hReached.steady_store keeps
  obtain ⟨_, hAfter, hHeld⟩ := made.kept keeps hBefore
  have hAnswer := ((isolates .unbounded call hReached rfl made).1 store other rfl).eq
    (getOrCreate_returns keeps hBefore other second)
    (getOrCreate_returns keeps hAfter other second)
  rw [tokenOf, tokenOf, hHeld, ← same, store.remember_own, tokenOf, hEmpty] at hAnswer
  exact differ hAnswer.symm

/-- Two categories are isolated from each other exactly when neither goes on from the other with a
colon, which is never so when no colon stands in them. The condition is about both directions: of
two categories that are not apart, at least calls for the longer one show in the shorter. -/
theorem isolates_iff (keeps : backend.Keeps store.ttl steady held)
    (empty : ∃ state, steady state ∧ held state = fun _ => none) (different : first ≠ second) :
    (store.Isolates backend steady held first second ∧
        store.Isolates backend steady held second first ↔ first.Apart second) ∧
      (first.Plain → second.Plain → store.Isolates backend steady held first second) := by
  refine ⟨⟨fun isolates => ⟨?_, ?_⟩, fun apart => ⟨?_, ?_⟩⟩, fun hFirst hSecond => ?_⟩
  · exact fun longer => not_isolates_of_extends keeps empty longer isolates.1
  · exact fun longer => not_isolates_of_extends keeps empty longer isolates.2
  · exact isolates_of_apart keeps different apart
  · exact isolates_of_apart keeps different.symm ⟨apart.2, apart.1⟩
  · exact isolates_of_apart keeps different (hFirst.apart hSecond)

end TokenStore

end Isolation

namespace TokenStore

open Store (Memory.backend Memory.Permanent Memory.held)

/-- A store of digests over the store in the process, without a lifetime. -/
def digestStore : TokenStore := ⟨"memory", Synthesizer.sha256 [], none⟩

theorem exists_empty : ∃ state, Memory.Permanent state ∧ Memory.held state = fun _ => none :=
  ⟨Store.Memory.empty 1000, fun _ member => absurd member List.not_mem_nil, rfl⟩

def emptyWorld : World Store.Memory.State := ⟨0, .none, Store.Memory.empty 1000⟩

theorem isolates_iff_username :
    Memory.backend.Keeps digestStore.ttl Memory.Permanent Memory.held ∧
      (∃ state, Memory.Permanent state ∧ Memory.held state = fun _ => none) ∧
      (⟨"user"⟩ : Category) ≠ ⟨"username"⟩ ∧
      (digestStore.Isolates Memory.backend Memory.Permanent Memory.held ⟨"user"⟩ ⟨"username"⟩ ∧
          digestStore.Isolates Memory.backend Memory.Permanent Memory.held ⟨"username"⟩ ⟨"user"⟩ ↔
        (⟨"user"⟩ : Category).Apart ⟨"username"⟩) ∧
      digestStore.Isolates Memory.backend Memory.Permanent Memory.held ⟨"user"⟩ ⟨"username"⟩ := by
  have different : (⟨"user"⟩ : Category) ≠ ⟨"username"⟩ := by decide
  have keeps : Memory.backend.Keeps digestStore.ttl Memory.Permanent Memory.held :=
    Store.Memory.backend_keeps
  obtain ⟨hIff, hPlain⟩ := isolates_iff keeps exists_empty different
  exact ⟨keeps, exists_empty, different, hIff, hPlain (by decide) (by decide)⟩

/-- The token of `c` in the category `a:b` is its own over an empty store, and that of `b:c` in the
category `a` when that one has been asked for before. -/
theorem isolates_fails_after_colon :
    (⟨"a"⟩ : Category) ≠ ⟨"a:b"⟩ ∧
      (execute Memory.backend .unbounded (digestStore.getOrCreate "c" ⟨"a:b"⟩) emptyWorld).map
        (fun done => done.1.toOption) = some (some "7c6f6258440f") ∧
      (execute Memory.backend .unbounded
        (do let _ ← digestStore.getOrCreate "b:c" ⟨"a"⟩; digestStore.getOrCreate "c" ⟨"a:b"⟩)
        emptyWorld).map (fun done => done.1.toOption) = some (some "e7962258a767") ∧
      ¬ digestStore.Isolates Memory.backend Memory.Permanent Memory.held ⟨"a"⟩ ⟨"a:b"⟩ := by
  have same : (Key.ofValue ⟨"a"⟩ "b:c").text = (Key.ofValue ⟨"a:b"⟩ "c").text := by decide
  have differ : digestStore.synthesizer "b:c" ⟨"a"⟩ ≠ digestStore.synthesizer "c" ⟨"a:b"⟩ := by
    decide +kernel
  refine ⟨by decide, by decide +kernel, by decide +kernel, ?_⟩
  exact not_isolates_of_ofValue_eq Store.Memory.backend_keeps exists_empty same differ

end TokenStore

end Masking
