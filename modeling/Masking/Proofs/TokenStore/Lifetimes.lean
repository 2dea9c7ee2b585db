import Masking.Proofs.Store.Keeping
import Masking.Proofs.TokenStore.Coherence
import Masking.Proofs.TokenStore.Recall

/-! Lifetimes of mappings in the process. The two entries of a mapping are written one after the
other, never refreshed, and end by themselves; while the token of a value is there, so is an entry
that leads back from it. -/

namespace Masking

open Sharing (Owns Reply Request Written)
open Store (CallContext Duration Event Instant Key Memory.Lasts Memory.State Memory.backend
  Memory.insert Memory.lookup Tokens World execute execute_bind execute_close execute_ping run_free)

section Executions

variable {context : CallContext} {world : World Memory.State}

/-- The store in the process after a call: a mapping whose token is not found is written anew. -/
def TokenStore.record (store : TokenStore) (now : Instant) (state : Memory.State) (value : String)
    (category : Category) : Memory.State :=
  match Memory.lookup now state (Key.ofValue category value).text with
  | some _ => state
  | none =>
      let token := store.synthesizer value category
      Memory.insert now (Memory.insert now state (Key.ofValue category value).text token store.ttl)
        (Key.ofMasked category token).text value store.ttl

/-- A call that is not interrupted takes no time. It answers the token that is found, or else a new
one. -/
theorem TokenStore.execute_getOrCreate_free (store : TokenStore)
    (free : ¬ context.Interrupted world.tokens world.now) (value : String) (category : Category) :
    ∃ events, execute Memory.backend context (store.getOrCreate value category) world =
      some (.ok (store.tokenOf (Memory.lookup world.now world.store) value category), events,
        { world with store := store.record world.now world.store value category }) := by
  rw [execute_getOrCreate, Store.Memory.readIn_free free, tokenOf, record]
  cases Memory.lookup world.now world.store (Key.ofValue category value).text with
  | some token => exact ⟨_, rfl⟩
  | none =>
      let token := store.synthesizer value category
      let middle : World Memory.State := ⟨world.now, world.tokens,
        Memory.insert world.now world.store (Key.ofValue category value).text token store.ttl⟩
      have hFirst := Store.Memory.writeIn_free free (Key.ofValue category value).text token store.ttl
      have hSecond := @Store.Memory.writeIn_free context middle free
        (Key.ofMasked category token).text value store.ttl
      simp only [Option.bind_some]
      rw [hFirst, Option.bind_some, hSecond]
      exact ⟨_, rfl⟩

section Lookups

variable {store : TokenStore} {now later : Instant} {state : Memory.State} {key entry value : String}
  {category : Category}

theorem TokenStore.record_miss
    (missed : Memory.lookup now state (Key.ofValue category value).text = none) :
    store.record now state value category =
      Memory.insert now
        (Memory.insert now state (Key.ofValue category value).text
          (store.synthesizer value category) store.ttl)
        (Key.ofMasked category (store.synthesizer value category)).text value store.ttl := by
  rw [record, missed]

/-- An entry that was not there before a call is one of the two that it writes after a miss, and is
within its lifetime. -/
theorem TokenStore.lookup_record_cases
    (h : Memory.lookup later (store.record now state value category) key = some entry) :
    Memory.lookup later state key = some entry ∨
      Memory.lookup now state (Key.ofValue category value).text = none ∧
        Owns store.synthesizer value category key entry ∧ Memory.Lasts store.ttl now later := by
  cases hFound : Memory.lookup now state (Key.ofValue category value).text with
  | some token =>
      rw [record, hFound] at h
      exact Or.inl h
  | none =>
      rw [record_miss hFound] at h
      rcases Store.Memory.lookup_insert_cases h with hFirst | ⟨reverse, lasts⟩
      · rcases Store.Memory.lookup_insert_cases hFirst with hBefore | ⟨forward, lasts⟩
        · exact Or.inl hBefore
        · exact Or.inr ⟨rfl, Or.inl forward, lasts⟩
      · exact Or.inr ⟨rfl, Or.inr reverse, lasts⟩

theorem TokenStore.lookup_record_isSome (lasts : Memory.Lasts store.ttl now later)
    (h : (Memory.lookup later state key).isSome = true) :
    (Memory.lookup later (store.record now state value category) key).isSome = true := by
  cases hFound : Memory.lookup now state (Key.ofValue category value).text with
  | some token =>
      rw [record, hFound]
      exact h
  | none =>
      rw [record_miss hFound]
      exact Store.Memory.lookup_insert_isSome lasts (Store.Memory.lookup_insert_isSome lasts h)

/-- After a miss both entries are found while their lifetime lasts. -/
theorem TokenStore.lookup_record_new
    (missed : Memory.lookup now state (Key.ofValue category value).text = none)
    (lasts : Memory.Lasts store.ttl now later) :
    Memory.lookup later (store.record now state value category)
        (Key.ofValue category value).text = some (store.synthesizer value category) ∧
      Memory.lookup later (store.record now state value category)
        (Key.ofMasked category (store.synthesizer value category)).text = some value := by
  rw [record_miss missed]
  constructor
  · rw [Store.Memory.lookup_insert_other (Key.ofValue_ne_ofMasked _ _ _ _)]
    exact Store.Memory.lookup_insert_self.mpr ⟨rfl, lasts⟩
  · exact Store.Memory.lookup_insert_self.mpr ⟨rfl, lasts⟩

/-- What a call answers is found after it, unless entries have no lifetime at all. -/
theorem TokenStore.lookup_record_own (positive : store.ttl ≠ some 0) :
    Memory.lookup now (store.record now state value category) (Key.ofValue category value).text =
      some (store.tokenOf (Memory.lookup now state) value category) := by
  cases hFound : Memory.lookup now state (Key.ofValue category value).text with
  | some token => rw [record, tokenOf, hFound, hFound, Option.getD_some]
  | none =>
      have lasts : Memory.Lasts store.ttl now now := by
        intro duration lifetime
        have hPositive : duration ≠ 0 := by
          rintro rfl
          exact positive lifetime
        exact Nat.lt_add_of_pos_right (Nat.pos_of_ne_zero hPositive)
      rw [(lookup_record_new hFound lasts).1, tokenOf, hFound, Option.getD_none]

end Lookups

/-- The store in the process after a request. Only calls for tokens write. -/
def Sharing.Request.record (store : TokenStore) (now : Instant) (state : Memory.State) :
    Request → Memory.State
  | .token value category => store.record now state value category
  | _ => state

theorem Sharing.Request.execute_free (store : TokenStore)
    (free : ¬ context.Interrupted world.tokens world.now) (request : Request) :
    ∃ reply events, execute Memory.backend context (request.program store) world =
      some (reply, events, { world with store := request.record store world.now world.store }) := by
  cases request with
  | token value category =>
      obtain ⟨events, hRun⟩ := store.execute_getOrCreate_free free value category
      rw [program, Store.Program.bind_eq, execute_bind, hRun]
      exact ⟨_, _, rfl⟩
  | lookup masked category =>
      have hRead := Store.Memory.readIn_free free (Key.ofMasked category masked).text
      rw [program, Store.Program.bind_eq, execute_bind, TokenStore.execute_lookupValue, hRead]
      exact ⟨_, _, rfl⟩
  | check =>
      rw [program, Store.Program.bind_eq, execute_bind, Store.Program.check, execute_ping,
        run_free free]
      exact ⟨_, _, rfl⟩
  | release =>
      rw [program, Store.Program.bind_eq, execute_bind, Store.Program.release, execute_close,
        run_free (Store.not_interrupted_unbounded _ _)]
      exact ⟨_, _, rfl⟩

end Executions

section Runs

variable (synthesizer : Synthesizer) (ttl : Option Duration)

/-- The worlds that requests come to, one after the other, from an empty store in the process. All
token stores have one synthesizer and one lifetime, no request is interrupted, and between requests
time passes and tokens are cancelled. -/
inductive Lived : List Request → World Memory.State → Prop
  | start (now : Instant) (tokens : Tokens) (capacity : Nat) :
      Lived [] ⟨now, tokens, Store.Memory.empty capacity⟩
  | request {requests : List Request} {world after : World Memory.State} {context : CallContext}
      {backend : String} {request : Request} {reply : Reply} {events : List Event}
      (earlier : Lived requests world) (free : ¬ context.Interrupted world.tokens world.now)
      (run : execute Memory.backend context (request.program ⟨backend, synthesizer, ttl⟩) world =
        some (reply, events, after)) :
      Lived (requests ++ [request]) after
  | wait {requests : List Request} {world : World Memory.State} (earlier : Lived requests world)
      (duration : Duration) (tokens : Tokens) :
      Lived requests ⟨world.now + duration, tokens, world.store⟩

/-- What is known of a store in the process: no entry lives longer than one that is written now, all
entries are those of requests, and a token is outlived by the entry that leads back from it. -/
structure Accounted (requests : List Request) (now : Instant) (state : Memory.State) : Prop where
  bounded : ∀ {later key entry}, Memory.lookup later state key = some entry →
    Memory.Lasts ttl now later
  written : ∀ {key entry}, Memory.lookup now state key = some entry →
    Written synthesizer requests key entry
  outlived : ∀ {later value category token}, now ≤ later →
    Memory.lookup later state (Key.ofValue category value).text = some token →
      ∃ other last, .token other last ∈ requests ∧
        (Key.ofValue last other).text = (Key.ofValue category value).text ∧
        token = synthesizer other last ∧
        (Memory.lookup later state (Key.ofMasked last token).text).isSome = true

end Runs

section Invariant

variable {synthesizer : Synthesizer} {ttl : Option Duration} {requests more : List Request}
  {now : Instant} {state : Memory.State}

namespace Accounted

theorem empty (now : Instant) (capacity : Nat) :
    Accounted synthesizer ttl [] now (Store.Memory.empty capacity) where
  bounded h := by cases h
  written h := by cases h
  outlived _ h := by cases h

theorem mono (h : Accounted synthesizer ttl requests now state)
    (larger : ∀ request ∈ requests, request ∈ more) :
    Accounted synthesizer ttl more now state where
  bounded := h.bounded
  written found := (h.written found).mono larger
  outlived hNow found := by
    obtain ⟨other, last, asked, hRest⟩ := h.outlived hNow found
    exact ⟨other, last, larger _ asked, hRest⟩

theorem wait (h : Accounted synthesizer ttl requests now state) {later : Instant}
    (hLater : now ≤ later) :
    Accounted synthesizer ttl requests later state where
  bounded found duration lifetime :=
    Nat.lt_of_lt_of_le (h.bounded found duration lifetime) (Nat.add_le_add_right hLater _)
  written found := by
    have holds := Store.Memory.backend_holds fun _ _ => False
    exact h.written (holds.lasting hLater found)
  outlived hNow found := h.outlived (Nat.le_trans hLater hNow) found

/-- A call keeps the account. If it writes the entry that leads back from an older token anew, that
entry ends no sooner than anything older. -/
theorem token (h : Accounted synthesizer ttl requests now state) (backend value : String)
    (category : Category) :
    Accounted synthesizer ttl (requests ++ [.token value category]) now
      (TokenStore.record ⟨backend, synthesizer, ttl⟩ now state value category) := by
  let store : TokenStore := ⟨backend, synthesizer, ttl⟩
  have hMore := h.mono fun _ => List.mem_append_left [Request.token value category]
  have hAsked : Request.token value category ∈ requests ++ [.token value category] :=
    List.mem_append_right _ List.mem_cons_self
  constructor
  case bounded =>
    intro later key entry found
    rcases store.lookup_record_cases found with hBefore | ⟨_, _, lasts⟩
    · exact h.bounded hBefore
    · exact lasts
  case written =>
    intro key entry found
    rcases store.lookup_record_cases found with hBefore | ⟨_, owns, _⟩
    · exact hMore.written hBefore
    · exact ⟨value, category, hAsked, owns⟩
  case outlived =>
    intro later other last token hNow found
    rcases store.lookup_record_cases found with hBefore | ⟨missed, ⟨hKey, rfl⟩ | ⟨hKey, _⟩, lasts⟩
    · obtain ⟨first, kind, asked, hKey, hToken, hReverse⟩ := hMore.outlived hNow hBefore
      -- The older token is alive at that instant, so what is written now lasts until then as well.
      have lasts : Memory.Lasts ttl now later := h.bounded hBefore
      exact ⟨first, kind, asked, hKey, hToken, store.lookup_record_isSome lasts hReverse⟩
    · have hReverse := (store.lookup_record_new missed lasts).2
      exact ⟨value, category, hAsked, hKey.symm, rfl, Option.isSome_of_eq_some hReverse⟩
    · exact absurd hKey (Key.ofValue_ne_ofMasked _ _ _ _)

theorem request (h : Accounted synthesizer ttl requests now state) (backend : String)
    (request : Request) :
    Accounted synthesizer ttl (requests ++ [request]) now
      (request.record ⟨backend, synthesizer, ttl⟩ now state) := by
  cases request with
  | token value category => exact h.token backend value category
  | lookup masked category => exact h.mono fun _ => List.mem_append_left _
  | check => exact h.mono fun _ => List.mem_append_left _
  | release => exact h.mono fun _ => List.mem_append_left _

end Accounted

end Invariant

section Results

variable {synthesizer : Synthesizer} {ttl : Option Duration} {requests : List Request}
  {world : World Memory.State}

/-- Every world that requests come to is accounted for by them. -/
theorem Lived.accounted (lived : Lived synthesizer ttl requests world) :
    Accounted synthesizer ttl requests world.now world.store := by
  induction lived with
  | start now tokens capacity => exact .empty now capacity
  | @request _ world after context backend request _ _ _ free run ih =>
      obtain ⟨_, _, hRun⟩ := request.execute_free ⟨backend, synthesizer, ttl⟩ free
      cases run.symm.trans hRun
      exact ih.request backend request
  | wait _ duration tokens ih => exact ih.wait (Nat.le_add_right _ _)

theorem Lived.record (lived : Lived synthesizer ttl requests world) {context : CallContext}
    (free : ¬ context.Interrupted world.tokens world.now) (backend : String) (request : Request) :
    Lived synthesizer ttl (requests ++ [request])
      { world with store := request.record ⟨backend, synthesizer, ttl⟩ world.now world.store } := by
  obtain ⟨reply, events, hRun⟩ := request.execute_free ⟨backend, synthesizer, ttl⟩ free
  exact lived.request free hRun

/-- The token can be unmasked in the world: whoever looks it up, and is not interrupted, is answered
the original, which was asked for in the category and has that token. -/
structure Unmaskable (synthesizer : Synthesizer) (requests : List Request)
    (world : World Memory.State) (category : Category) (token original : String) : Prop where
  found : ∀ context : CallContext, ¬ context.Interrupted world.tokens world.now →
    execute Memory.backend context (TokenStore.lookupValue token category) world =
      some (.ok (some original), [], world)
  asked : .token original category ∈ requests
  masks : synthesizer original category = token

/-- A token that is found under the key of a value can be unmasked. -/
theorem Lived.unmaskable (lived : Lived synthesizer ttl requests world)
    (plain : ∀ value category, .token value category ∈ requests → category.Plain) {value : String}
    {category : Category} {token : String} (hPlain : category.Plain)
    (found : Memory.lookup world.now world.store (Key.ofValue category value).text = some token) :
    ∃ original, Unmaskable synthesizer requests world category token original := by
  obtain ⟨other, last, asked, hKey, rfl, hReverse⟩ :=
    lived.accounted.outlived (Nat.le_refl _) found
  obtain ⟨rfl, rfl⟩ := Key.ofValue_inj (plain _ _ asked) hPlain hKey
  -- Another value with this token may have written the entry since, so its owner is found anew.
  obtain ⟨original, hOriginal⟩ := Option.isSome_iff_exists.mp hReverse
  obtain ⟨last, hAsked, hMasked⟩ := (lived.accounted.written hOriginal).exists_asked
  obtain ⟨rfl, hToken⟩ := Key.ofMasked_inj (plain _ _ hAsked) hPlain hMasked
  refine ⟨original, fun context free => ?_, hAsked, hToken⟩
  rw [TokenStore.execute_lookupValue, Store.Memory.readIn_free free, hOriginal]
  rfl

/-- Live mappings can be unmasked. Unless entries have no lifetime at all, whatever token a call
gives can be looked up at once, and leads to a value that has it, which is the very value when no
other one of the category has the same token. And whenever a token is found under the key of a
value, it can be looked up as well, so that no token outlives the entry that leads back from it. -/
structure Unmasks (synthesizer : Synthesizer) (ttl : Option Duration) (requests : List Request)
    (world : World Memory.State) : Prop where
  calls : ttl ≠ some 0 → ∀ (backend value : String) (category : Category) (context : CallContext),
    category.Plain → ¬ context.Interrupted world.tokens world.now →
      ∃ token events after original,
        execute Memory.backend context
            (TokenStore.getOrCreate ⟨backend, synthesizer, ttl⟩ value category) world =
          some (.ok token, events, after) ∧
        after.now = world.now ∧
        Unmaskable synthesizer (requests ++ [.token value category]) after category token original ∧
        ((∀ other, .token other category ∈ requests → synthesizer other category = token →
          other = value) → original = value)
  entries : ∀ value category token, category.Plain →
    Memory.lookup world.now world.store (Key.ofValue category value).text = some token →
      ∃ original, Unmaskable synthesizer requests world category token original

/-- Whatever requests there were before, and however long ago, live mappings can be unmasked when no
category has a colon. -/
theorem Lived.unmasks (lived : Lived synthesizer ttl requests world)
    (plain : ∀ value category, .token value category ∈ requests → category.Plain) :
    Unmasks synthesizer ttl requests world := by
  constructor
  · intro positive backend value category context hPlain free
    let store : TokenStore := ⟨backend, synthesizer, ttl⟩
    obtain ⟨events, hRun⟩ := store.execute_getOrCreate_free free value category
    let token := store.tokenOf (Memory.lookup world.now world.store) value category
    let after : World Memory.State :=
      ⟨world.now, world.tokens, store.record world.now world.store value category⟩
    have hLived : Lived synthesizer ttl (requests ++ [.token value category]) after :=
      lived.record free backend (.token value category)
    have hAll : ∀ other last, Request.token other last ∈ requests ++ [.token value category] →
        last.Plain := by
      intro other last member
      rcases List.mem_append.mp member with earlier | own
      · exact plain other last earlier
      · cases List.mem_singleton.mp own
        exact hPlain
    have hFound : Memory.lookup after.now after.store (Key.ofValue category value).text =
        some token := store.lookup_record_own positive
    obtain ⟨original, unmaskable⟩ := hLived.unmaskable hAll hPlain hFound
    refine ⟨token, events, after, original, hRun, rfl, unmaskable, fun unique => ?_⟩
    rcases List.mem_append.mp unmaskable.asked with earlier | own
    · exact unique original earlier unmaskable.masks
    · cases List.mem_singleton.mp own
      rfl
  · intro value category token hPlain found
    exact lived.unmaskable plain hPlain found

/-- The store in the process when `alice` was asked for at the start and `bob`, who has the same
token, half a second later. Both mappings last for a second. -/
def sharedStore : Memory.State :=
  let store : TokenStore := ⟨"memory", fun _ _ => "X", some 1000⟩
  store.record 500 (store.record 0 (Store.Memory.empty 10) "alice" ⟨"user"⟩) "bob" ⟨"user"⟩

theorem lived_shared :
    Lived (fun _ _ => "X") (some 1000) [.token "alice" ⟨"user"⟩, .token "bob" ⟨"user"⟩]
      ⟨500, .none, sharedStore⟩ := by
  have free := Store.not_interrupted_unbounded .none
  have hStart : Lived (fun _ _ => "X") (some 1000) [] ⟨0, .none, Store.Memory.empty 10⟩ :=
    .start 0 .none 10
  have hAlice := hStart.record (free 0) "memory" (.token "alice" ⟨"user"⟩)
  exact (hAlice.wait 500 .none).record (free 500) "memory" (.token "bob" ⟨"user"⟩)

theorem Lived.unmasks_shared :
    (∀ value category, Request.token value category ∈
        [Request.token "alice" ⟨"user"⟩, .token "bob" ⟨"user"⟩] → category.Plain) ∧
      Unmasks (fun _ _ => "X") (some 1000) [.token "alice" ⟨"user"⟩, .token "bob" ⟨"user"⟩]
        ⟨500, .none, sharedStore⟩ ∧
      Memory.lookup 500 sharedStore (Key.ofValue ⟨"user"⟩ "alice").text = some "X" ∧
      Memory.lookup 500 sharedStore (Key.ofMasked ⟨"user"⟩ "X").text = some "bob" ∧
      Memory.lookup 1000 sharedStore (Key.ofValue ⟨"user"⟩ "alice").text = none := by
  have plain : ∀ value category, Request.token value category ∈
      [Request.token "alice" ⟨"user"⟩, .token "bob" ⟨"user"⟩] → category.Plain := by
    intro value category member
    simp only [List.mem_cons, List.not_mem_nil, or_false, Request.token.injEq] at member
    obtain ⟨_, rfl⟩ | ⟨_, rfl⟩ := member <;> decide
  exact ⟨plain, lived_shared.unmasks plain, by decide, by decide, by decide⟩

end Results

end Masking
