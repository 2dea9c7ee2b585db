import Masking.Proofs.Store.Entries
import Masking.Proofs.TokenStore.Calls
import Masking.Proofs.TokenStore.Coherence

/-! Executions as runs of the shared system. Whatever a single call does over a map of entries, in
whatever context, it does in some run of the system, so what holds of all runs holds of it. -/

namespace Masking.Sharing

open Store (Action Backend CallContext Entries Error Event Key Program Within World execute
  execute_bind execute_emit_some execute_get execute_set)

section Operations

variable {σ : Type} {backend : Backend σ} {entries : Entries σ} {context : CallContext}
  {world after : World σ} {backing : Backing} {key value : String}

/-- Every entry of the world stands in the shared backend too. -/
def Mirrors (entries : Entries σ) (world : World σ) (backing : Backing) : Prop :=
  Within entries (fun key value => backing.entries key = some value) world

/-- A read of an exact map is one of the shared backend after some entries have been lost. -/
theorem read_simulated (exact : backend.Exact entries) (mirrors : Mirrors entries world backing)
    {answer : Except Error (Option String)}
    (read : Store.readIn backend context key world = some (answer, after)) :
    ∃ lost fate, answer = Fate.answer fate ((backing.drop lost).entries key) ∧
      Mirrors entries after (backing.drop lost) := by
  obtain ⟨hFound, hAfter, hMissed⟩ := exact.read mirrors read
  have hKept : backing.drop (fun _ => false) = backing := by
    simp [Backing.drop]
  rcases answer with error | (_ | found)
  case error =>
    refine ⟨fun _ => false, .fails error, rfl, ?_⟩
    rw [hKept]
    exact hAfter
  case ok.some =>
    refine ⟨fun _ => false, .succeeds, ?_, ?_⟩
    · rw [hKept, hFound found rfl]
      rfl
    · rw [hKept]
      exact hAfter
  case ok.none =>
    refine ⟨fun other => other = key, .succeeds, by simp [Backing.drop, Fate.answer], ?_⟩
    intro other found hOther
    have hDifferent : other ≠ key := by
      rintro rfl
      rw [hMissed rfl] at hOther
      cases hOther
    simp only [Backing.drop, decide_eq_true_eq, if_neg hDifferent]
    exact hAfter other found hOther

/-- A write to an exact map is one to the shared backend, perhaps one that fails and arrives. -/
theorem write_simulated (exact : backend.Exact entries) (mirrors : Mirrors entries world backing)
    {ttl : Option Store.Duration} {answer : Except Error Unit}
    (write : Store.writeIn backend context key value ttl world = some (answer, after)) :
    ∃ fate, answer = Fate.answer fate () ∧
      (Mirrors entries after (backing.write key value fate) ∨
        (backing.write key value fate).unsettled = backing.unsettled ++ [(key, value)] ∧
          Mirrors entries after ((backing.write key value fate).put key value)) := by
  obtain ⟨hAfter, hStored⟩ := exact.write mirrors write
  have hPut : ∀ base : Backing, base.entries = backing.entries →
      (∀ found, entries after.now after.store key = some found → found = value) →
      Mirrors entries after (base.put key value) := by
    intro base hBase hOnly other found hOther
    by_cases hKey : other = key
    · subst hKey
      simp only [Backing.put, if_true, hOnly found hOther]
    · simp only [Backing.put, if_neg hKey, hBase]
      exact (hAfter other found hOther).elim (fun same => absurd same.1 hKey) id
  cases answer with
  | ok done => exact ⟨.succeeds, rfl, Or.inl (hPut backing rfl (hStored rfl))⟩
  | error error =>
      refine ⟨.fails error, rfl, ?_⟩
      by_cases hArrived : entries after.now after.store key = some value
      · refine Or.inr ⟨rfl, hPut _ rfl fun found hFound => ?_⟩
        rw [hArrived] at hFound
        exact (Option.some.inj hFound).symm
      · refine Or.inl fun other found hOther => ?_
        rcases hAfter other found hOther with ⟨rfl, rfl⟩ | hOld
        · exact absurd hOther hArrived
        · exact hOld

end Operations

def told : Action → List Event
  | .emit event => [event]
  | _ => []

namespace System

/-- The events that programs have told. -/
def events (system : System) : List Event :=
  system.history.flatMap told

section Runs

variable {σ : Type} {backend : Backend σ} {entries : Entries σ} {context : CallContext}
  {synthesizer : Synthesizer}

/-- From the system there is a run in which a call ends with a reply and tells some events, and
after which all entries of a world stand in the backend. -/
def Finishes (synthesizer : Synthesizer) (entries : Entries σ) (system : System) (index : Nat)
    (request : Request) (reply : Reply) (told : List Event) (after : World σ) : Prop :=
  ∃ choices next, System.run synthesizer choices system = some next ∧
    Mirrors entries after next.backing ∧
    next.calls = system.calls.set index ⟨request, .done reply⟩ ∧
    next.events = system.events ++ told

variable {system : System} {index : Nat} {request : Request} {reply : Reply}
  {later more : List Event} {world after : World σ} {program rest : Program Reply}

theorem Finishes.lose (lost : String → Bool)
    (h : Finishes synthesizer entries { system with backing := system.backing.drop lost } index
      request reply later after) :
    Finishes synthesizer entries system index request reply later after := by
  obtain ⟨choices, next, hRun, hNext⟩ := h
  exact ⟨.lose lost :: choices, next, hRun, hNext⟩

theorem Finishes.arrive {position : Nat} {key value : String}
    (hWrite : system.backing.unsettled[position]? = some (key, value))
    (h : Finishes synthesizer entries { system with backing := system.backing.put key value } index
      request reply later after) :
    Finishes synthesizer entries system index request reply later after := by
  obtain ⟨choices, next, hRun, hNext⟩ := h
  refine ⟨.arrive position :: choices, next, ?_, hNext⟩
  simp only [run, step, hWrite, Option.bind_eq_bind, Option.bind_some, hRun]

theorem Finishes.act (fate : Fate) {action : Action} {backing : Backing}
    (hCall : system.calls[index]? = some ⟨request, program⟩)
    (hTurn : turn fate system.backing program = some (action, backing, rest))
    (hTold : told action ++ more = later)
    (h : Finishes synthesizer entries (system.advance index ⟨request, program⟩ action backing rest)
      index request reply more after) :
    Finishes synthesizer entries system index request reply later after := by
  obtain ⟨choices, next, hRun, hMirrors, hCalls, hEvents⟩ := h
  refine ⟨.act index fate :: choices, next, ?_, hMirrors, ?_, ?_⟩
  · simp only [run, step, hCall, hTurn, Option.bind_eq_bind, Option.bind_some, hRun]
  · rw [hCalls, advance, List.set_set]
  · rw [hEvents, ← hTold]
    simp [events, advance]

theorem call_advance {call : Call} {action : Action} {backing : Backing}
    (hCall : system.calls[index]? = some call) :
    (system.advance index call action backing rest).calls[index]? =
      some { call with rest := rest } := by
  obtain ⟨hIndex, _⟩ := List.getElem?_eq_some_iff.mp hCall
  exact List.getElem?_set_self hIndex

/-- What a call does in an execution over an exact map, in whatever context, it does in a run of the
system: with the same answer, the same events, and a backend in which all entries stand. -/
theorem execute_simulated (exact : backend.Exact entries) (only : program.EntriesOnly)
    (run : execute backend context program world = some (reply, later, after))
    (mirrors : Mirrors entries world system.backing)
    (hCall : system.calls[index]? = some ⟨request, program⟩) :
    Finishes synthesizer entries system index request reply later after := by
  induction program generalizing world later system with
  | done value =>
      cases run
      obtain ⟨hIndex, hAt⟩ := List.getElem?_eq_some_iff.mp hCall
      refine ⟨[], system, rfl, mirrors, ?_, by simp⟩
      rw [← hAt, List.set_getElem_self]
  | get key next ih =>
      rw [execute_get] at run
      obtain ⟨⟨answer, middle⟩, hRead, run⟩ := Option.bind_eq_some_iff.mp run
      obtain ⟨lost, fate, rfl, hMirrors⟩ := read_simulated exact mirrors hRead
      refine Finishes.lose lost (Finishes.act fate hCall rfl rfl ?_)
      exact ih _ (only _) run hMirrors (call_advance hCall)
  | set key value ttl next ih =>
      rw [execute_set] at run
      obtain ⟨⟨answer, middle⟩, hWrite, run⟩ := Option.bind_eq_some_iff.mp run
      obtain ⟨fate, rfl, hMirrors | ⟨hSent, hMirrors⟩⟩ := write_simulated exact mirrors hWrite
      · refine Finishes.act fate hCall rfl rfl ?_
        exact ih _ (only _) run hMirrors (call_advance hCall)
      · have hLast : (system.backing.write key value fate).unsettled[
            system.backing.unsettled.length]? = some (key, value) := by
          simp [hSent]
        refine Finishes.act fate hCall rfl rfl (Finishes.arrive hLast ?_)
        exact ih _ (only _) run hMirrors (call_advance hCall)
  | ping => exact False.elim only
  | close => exact False.elim only
  | emit event next ih =>
      obtain ⟨more, hNext, rfl⟩ := execute_emit_some run
      have hTurn : turn .succeeds system.backing (.emit event next) =
        some (.emit event, system.backing, next) := rfl
      exact Finishes.act .succeeds hCall hTurn rfl (ih only hNext mirrors (call_advance hCall))

/-- A call for a token over an exact map whose entries stand in a coherent system answers a token of
its own key, whatever its context does to it, and leaves entries that stand in a coherent system. -/
theorem Coherent.execute {store : TokenStore} {value : String} {category : Category}
    (coherent : system.Coherent store.synthesizer) (exact : backend.Exact entries)
    (mirrors : Mirrors entries world system.backing)
    (run : execute backend context ((Request.token value category).program store) world =
      some (reply, later, after)) :
    ∃ next : System, next.Coherent store.synthesizer ∧
      next.requests = system.requests ++ [.token value category] ∧
      Mirrors entries after next.backing ∧
      ∀ token, reply = .token (.ok token) →
        Known store.synthesizer next.requests (Key.ofValue category value).text token := by
  have hOnly : ((Request.token value category).program store).EntriesOnly :=
    (store.getOrCreate_entriesOnly value category).bind fun _ => trivial
  have hCall : (system.start store (.token value category)).calls[system.calls.length]? =
      some ⟨.token value category, (Request.token value category).program store⟩ := by
    simp [System.start]
  have hStart : Mirrors entries world (system.start store (.token value category)).backing := mirrors
  obtain ⟨choices, next, hRun, hMirrors, hCalls, _⟩ :=
    execute_simulated exact hOnly run hStart hCall
  have hNext := (coherent.start (.token value category)).run hRun
  refine ⟨next, hNext, ?_, hMirrors, ?_⟩
  · rw [requests, hCalls, requests_set hCall]
    exact requests_start system store _
  · rintro token rfl
    have hMember : ⟨.token value category, .done (.token (.ok token))⟩ ∈ next.calls := by
      rw [hCalls]
      exact List.mem_set (by simp [System.start]) _
    exact hNext.answers hMember rfl value category rfl

end Runs

section Chains

variable {σ : Type} {backend : Backend σ} {entries : Entries σ} {context : CallContext}
  {allows : Action → Prop} {store : TokenStore} {system : System} {world after : World σ}
  {calls : List (TokenCall σ)}

/-- The request of a store for what a call has asked for. -/
def requestOf (call : TokenCall σ) : Request := .token call.value call.category

theorem execute_token {call : TokenCall σ} (made : call.Made backend context allows store) :
    ∃ events, execute backend context ((requestOf call).program store) call.before =
      some (.token call.result, events, call.after) := by
  obtain ⟨events, hRun⟩ := made.run
  refine ⟨events ++ [], ?_⟩
  simp only [requestOf, Request.program, Program.bind_eq, execute_bind, hRun, Option.bind_some]
  rfl

/-- Calls one after the other over an exact map, in whatever context: the requests of all of them
are those of one coherent system, and each call answers a token of its own key. -/
theorem Coherent.chain (chain : CallChain backend context allows store world calls after)
    (coherent : system.Coherent store.synthesizer) (exact : backend.Exact entries)
    (mirrors : Mirrors entries world system.backing) :
    ∃ next : System, next.Coherent store.synthesizer ∧
      next.requests = system.requests ++ calls.map requestOf ∧
      Mirrors entries after next.backing ∧
      ∀ call ∈ calls, ∀ token, call.result = .ok token →
        Known store.synthesizer next.requests (Key.ofValue call.category call.value).text token := by
  induction chain generalizing system with
  | nil world =>
      exact ⟨system, coherent, by simp, mirrors, fun call member => absurd member List.not_mem_nil⟩
  | @cons call rest last made _ ih =>
      obtain ⟨events, hRun⟩ := execute_token made
      obtain ⟨middle, hMiddle, hFirst, hMirrors, hAnswer⟩ := coherent.execute exact mirrors hRun
      obtain ⟨next, hNext, hRequests, hLast, hLater⟩ := ih hMiddle hMirrors
      refine ⟨next, hNext, ?_, hLast, List.forall_mem_cons.mpr ⟨?_, hLater⟩⟩
      · rw [hRequests, hFirst, List.append_assoc]
        rfl
      · intro token hResult
        -- What is known after the first call stays known, as requests are only added.
        obtain ⟨value, category, asked, known⟩ := hAnswer token (congrArg Reply.token hResult)
        refine ⟨value, category, ?_, known⟩
        rw [hRequests]
        exact List.mem_append_left _ asked

end Chains

/-- Calls one after the other over a store in the process that has no entries at first. Whatever
their context is, and whatever expires meanwhile, a token that one of them answers is the synthesized
one of a call among them with the same key. -/
theorem memory_answers {context : CallContext} {allows : Action → Prop} {store : TokenStore}
    {world after : World Store.Memory.State} {calls : List (TokenCall Store.Memory.State)}
    (chain : CallChain Store.Memory.backend context allows store world calls after)
    (fresh : ∀ key, Store.Memory.lookup world.now world.store key = none) :
    ∀ call ∈ calls, ∀ token, call.result = .ok token →
      ∃ other ∈ calls, (Key.ofValue other.category other.value).text =
          (Key.ofValue call.category call.value).text ∧
        token = store.synthesizer other.value other.category := by
  have mirrors : Mirrors Store.Memory.lookup world empty.backing := by
    intro key found hFound
    rw [fresh] at hFound
    cases hFound
  obtain ⟨next, _, hRequests, _, hKnown⟩ :=
    coherent_empty.chain chain Store.Memory.backend_exact mirrors
  intro call member token hResult
  obtain ⟨value, category, asked, hKey, hToken⟩ := hKnown call member token hResult
  rw [hRequests] at asked
  obtain ⟨other, hOther, hAsked⟩ := List.mem_map.mp asked
  cases hAsked
  exact ⟨other, hOther, hKey, hToken⟩

end System

end Masking.Sharing
