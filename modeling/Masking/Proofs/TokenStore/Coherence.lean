import Masking.Proofs.Store.Keys
import Masking.Proofs.TokenStore.Interleaving

/-! Coherence of token stores that share a backend. Whatever order the operations come in, and
whichever of them fail, every entry is one of the two writes of a value that was asked for, and so a
call can only answer a token of its own key. -/

namespace Masking.Sharing

open Store (Action Duration Error Key Program)

/-- The two entries of a value: its token, and the value behind that token. -/
def Owns (synthesizer : Synthesizer) (value : String) (category : Category) (key entry : String) :
    Prop :=
  key = (Key.ofValue category value).text ∧ entry = synthesizer value category ∨
    key = (Key.ofMasked category (synthesizer value category)).text ∧ entry = value

/-- An entry of a value whose token was asked for. -/
def Written (synthesizer : Synthesizer) (requests : List Request) (key entry : String) : Prop :=
  ∃ value category, .token value category ∈ requests ∧ Owns synthesizer value category key entry

/-- A token of a value that was asked for and has the given key. -/
def Known (synthesizer : Synthesizer) (requests : List Request) (key token : String) : Prop :=
  ∃ value category, .token value category ∈ requests ∧
    (Key.ofValue category value).text = key ∧ token = synthesizer value category

def Request.Reads (request : Request) (key : String) : Prop :=
  ∃ value category, request = .token value category ∧ key = (Key.ofValue category value).text

def Request.Writes (synthesizer : Synthesizer) (request : Request) (key entry : String) : Prop :=
  ∃ value category, request = .token value category ∧ Owns synthesizer value category key entry

/-- What is left of a call for a request: it writes the two entries of its value, and it answers a
token that is known by then. What it reads under the key of its value becomes known to it. -/
def Proceeds (synthesizer : Synthesizer) (request : Request) :
    (String → Prop) → Program Reply → Prop
  | known, .done (.token (.ok token)) => known token
  | _, .done _ => True
  | known, .get key next =>
      ∀ answer, Proceeds synthesizer request
        (fun token => known token ∨ request.Reads key ∧ answer = .ok (some token)) (next answer)
  | known, .set key entry _ next =>
      request.Writes synthesizer key entry ∧
        ∀ answer, Proceeds synthesizer request known (next answer)
  | known, .ping next => ∀ answer, Proceeds synthesizer request known (next answer)
  | known, .close next => ∀ answer, Proceeds synthesizer request known (next answer)
  | known, .emit _ next => Proceeds synthesizer request known next

section Programs

variable {synthesizer : Synthesizer} {request : Request} {known more : String → Prop}
  {program : Program Reply}

theorem Proceeds.mono (h : Proceeds synthesizer request known program)
    (larger : ∀ token, known token → more token) : Proceeds synthesizer request more program := by
  induction program generalizing known more with
  | done reply =>
      rcases reply with (error | token) | _ | _
      case token.ok => exact larger token h
      all_goals trivial
  | get key next ih =>
      exact fun answer => ih answer (h answer) fun token => Or.imp_left (larger token)
  | set key entry ttl next ih => exact ⟨h.1, fun answer => ih answer (h.2 answer) larger⟩
  | ping next ih => exact fun answer => ih answer (h answer) larger
  | close next ih => exact fun answer => ih answer (h answer) larger
  | emit event next ih => exact ih h larger

theorem Proceeds.landing {fate : Fate} {key entry : String}
    (h : Proceeds synthesizer request known program)
    (hLanding : Sharing.landing fate program = some (key, entry)) :
    request.Writes synthesizer key entry := by
  cases program with
  | set name token ttl next =>
      cases fate <;> cases hLanding
      exact h.1
  | done => cases fate <;> cases hLanding
  | get => cases fate <;> cases hLanding
  | ping => cases fate <;> cases hLanding
  | close => cases fate <;> cases hLanding
  | emit => cases fate <;> cases hLanding

/-- A call for the token of a value knows the synthesized one from the start. -/
theorem proceeds_token (store : TokenStore) (value : String) (category : Category) :
    Proceeds store.synthesizer (.token value category)
      (fun token => token = store.synthesizer value category)
      ((Request.token value category).program store) := by
  have hForward : (Request.token value category).Writes store.synthesizer
      (Key.ofValue category value).text (store.synthesizer value category) :=
    ⟨value, category, rfl, Or.inl ⟨rfl, rfl⟩⟩
  have hReverse : (Request.token value category).Writes store.synthesizer
      (Key.ofMasked category (store.synthesizer value category)).text value :=
    ⟨value, category, rfl, Or.inr ⟨rfl, rfl⟩⟩
  intro answer
  rcases answer with error | (_ | masked)
  case error => trivial
  case ok.some => exact Or.inr ⟨⟨value, category, rfl, rfl⟩, rfl⟩
  case ok.none =>
    refine ⟨hForward, fun forward => ?_⟩
    cases forward with
    | error error => exact ⟨hReverse, by rintro (_ | _) <;> exact Or.inl rfl⟩
    | ok done => exact ⟨hReverse, by rintro (_ | _) <;> exact Or.inl rfl⟩

theorem proceeds_other (store : TokenStore) {request : Request}
    (other : ∀ value category, request ≠ .token value category) :
    Proceeds store.synthesizer request known (request.program store) := by
  cases request with
  | token value category => exact absurd rfl (other value category)
  | lookup masked category => exact fun answer => trivial
  | check => exact fun answer => trivial
  | release => exact fun answer => trivial

end Programs

section Invariant

variable (synthesizer : Synthesizer)

def Answerable (requests : List Request) (request : Request) (token : String) : Prop :=
  ∀ value category, request = .token value category →
    Known synthesizer requests (Key.ofValue category value).text token

/-- Every entry of the backend, and every write that may still arrive, is that of a request. -/
structure Backing.Coherent (requests : List Request) (backing : Backing) : Prop where
  entries : ∀ key entry, backing.entries key = some entry → Written synthesizer requests key entry
  unsettled : ∀ write ∈ backing.unsettled, Written synthesizer requests write.1 write.2

/-- The backend is coherent, and what is left of each call answers a token of its own key. -/
structure System.Coherent (system : System) : Prop where
  backing : system.backing.Coherent synthesizer system.requests
  calls : ∀ call ∈ system.calls, Proceeds synthesizer call.request
    (Answerable synthesizer system.requests call.request) call.rest

end Invariant

section Steps

variable {synthesizer : Synthesizer} {requests more : List Request} {request : Request}
  {backing : Backing} {key entry token : String}

theorem Written.mono (h : Written synthesizer requests key entry)
    (larger : ∀ request ∈ requests, request ∈ more) : Written synthesizer more key entry := by
  obtain ⟨value, category, asked, owns⟩ := h
  exact ⟨value, category, larger _ asked, owns⟩

theorem Answerable.mono (h : Answerable synthesizer requests request token)
    (larger : ∀ request ∈ requests, request ∈ more) :
    Answerable synthesizer more request token := by
  intro value category hRequest
  obtain ⟨other, last, asked, same⟩ := h value category hRequest
  exact ⟨other, last, larger _ asked, same⟩

theorem Request.Writes.written (h : request.Writes synthesizer key entry)
    (asked : request ∈ requests) : Written synthesizer requests key entry := by
  obtain ⟨value, category, rfl, owns⟩ := h
  exact ⟨value, category, asked, owns⟩

theorem Written.known {value : String} {category : Category}
    (h : Written synthesizer requests (Key.ofValue category value).text entry) :
    Known synthesizer requests (Key.ofValue category value).text entry := by
  obtain ⟨other, last, asked, ⟨hKey, hEntry⟩ | ⟨hKey, _⟩⟩ := h
  · exact ⟨other, last, asked, hKey.symm, hEntry⟩
  · exact absurd hKey (Key.ofValue_ne_ofMasked _ _ _ _)

/-- An entry that leads from a token to a value belongs to a value whose token was asked for. -/
theorem Written.exists_asked {category : Category} {masked : String}
    (h : Written synthesizer requests (Key.ofMasked category masked).text entry) :
    ∃ last, .token entry last ∈ requests ∧
      (Key.ofMasked last (synthesizer entry last)).text = (Key.ofMasked category masked).text := by
  obtain ⟨other, last, asked, ⟨hKey, _⟩ | ⟨hKey, rfl⟩⟩ := h
  · exact absurd hKey.symm (Key.ofValue_ne_ofMasked _ _ _ _)
  · exact ⟨last, asked, hKey.symm⟩

theorem Written.answerable (h : Written synthesizer requests key entry)
    (reads : request.Reads key) : Answerable synthesizer requests request entry := by
  obtain ⟨value, category, rfl, rfl⟩ := reads
  intro other last hRequest
  cases hRequest
  exact h.known

theorem Backing.entries_of_drop {lost : String → Bool}
    (h : (backing.drop lost).entries key = some entry) : backing.entries key = some entry := by
  simp only [drop] at h
  split at h
  · cases h
  · exact h

namespace Backing.Coherent

theorem put (h : backing.Coherent synthesizer requests)
    (written : Written synthesizer requests key entry) :
    (backing.put key entry).Coherent synthesizer requests := by
  refine ⟨fun other found hFound => ?_, h.unsettled⟩
  by_cases hKey : other = key
  · subst hKey
    simp only [Backing.put, if_true, Option.some.injEq] at hFound
    exact hFound ▸ written
  · simp only [Backing.put, if_neg hKey] at hFound
    exact h.entries other found hFound

theorem send (h : backing.Coherent synthesizer requests)
    (written : Written synthesizer requests key entry) :
    (backing.send key entry).Coherent synthesizer requests := by
  refine ⟨h.entries, List.forall_mem_append.mpr ⟨h.unsettled, ?_⟩⟩
  intro write member
  cases List.mem_singleton.mp member
  exact written

theorem write (h : backing.Coherent synthesizer requests)
    (written : Written synthesizer requests key entry) (fate : Fate) :
    (backing.write key entry fate).Coherent synthesizer requests := by
  cases fate with
  | succeeds => exact h.put written
  | fails error => exact h.send written

theorem drop (h : backing.Coherent synthesizer requests) (lost : String → Bool) :
    (backing.drop lost).Coherent synthesizer requests :=
  ⟨fun key found hFound => h.entries key found (entries_of_drop hFound), h.unsettled⟩

theorem mono (h : backing.Coherent synthesizer requests)
    (larger : ∀ request ∈ requests, request ∈ more) : backing.Coherent synthesizer more :=
  ⟨fun key entry hEntry => (h.entries key entry hEntry).mono larger,
    fun write member => (h.unsettled write member).mono larger⟩

end Backing.Coherent

/-- One turn of a call keeps the backend coherent, and the call goes on as it should. -/
theorem turn_coherent {fate : Fate} {action : Action} {after : Backing}
    {program rest : Program Reply}
    (h : turn fate backing program = some (action, after, rest))
    (coherent : backing.Coherent synthesizer requests)
    (proceeds : Proceeds synthesizer request (Answerable synthesizer requests request) program)
    (asked : request ∈ requests) :
    after.Coherent synthesizer requests ∧
      Proceeds synthesizer request (Answerable synthesizer requests request) rest := by
  cases program with
  | done reply => cases h
  | get key next =>
      cases h
      refine ⟨coherent, (proceeds _).mono ?_⟩
      rintro token (hKnown | ⟨hReads, hRead⟩)
      · exact hKnown
      · -- Only a read that succeeds gives a token, and then it is the one that stands there.
        cases fate with
        | fails error => cases hRead
        | succeeds => exact (coherent.entries key token (Except.ok.inj hRead)).answerable hReads
  | set key entry ttl next =>
      cases h
      exact ⟨coherent.write (proceeds.1.written asked) fate, proceeds.2 _⟩
  | ping next =>
      cases h
      exact ⟨coherent, proceeds _⟩
  | close next =>
      cases h
      exact ⟨coherent, proceeds _⟩
  | emit event next =>
      cases h
      exact ⟨coherent, proceeds⟩

end Steps

namespace System

variable {synthesizer : Synthesizer} {system next : System} {choice : Choice}

theorem requests_start (system : System) (store : TokenStore) (request : Request) :
    (system.start store request).requests = system.requests ++ [request] := by
  simp [requests, start]

theorem mem_requests_start {store : TokenStore} {request other : Request}
    (h : other ∈ system.requests) : other ∈ (system.start store request).requests := by
  rw [requests_start]
  exact List.mem_append_left _ h

theorem requests_set {calls : List Call} {index : Nat} {call : Call}
    (hCall : calls[index]? = some call) (rest : Program Reply) :
    (calls.set index { call with rest := rest }).map Call.request = calls.map Call.request := by
  obtain ⟨hIndex, rfl⟩ := List.getElem?_eq_some_iff.mp hCall
  have hBound : index < (calls.map Call.request).length := by
    rwa [List.length_map]
  have hRequest : (calls.map Call.request)[index] = calls[index].request :=
    List.getElem_map Call.request
  rw [List.map_set, ← hRequest, List.set_getElem_self]

theorem requests_advance {index : Nat} {call : Call} (hCall : system.calls[index]? = some call)
    (action : Action) (backing : Backing) (rest : Program Reply) :
    (system.advance index call action backing rest).requests = system.requests :=
  requests_set hCall rest

theorem Coherent.start {store : TokenStore} (coherent : system.Coherent store.synthesizer)
    (request : Request) : (system.start store request).Coherent store.synthesizer := by
  have hLarger : ∀ other ∈ system.requests, other ∈ (system.start store request).requests :=
    fun _ => mem_requests_start
  have hAsked : request ∈ (system.start store request).requests := by
    rw [requests_start]
    exact List.mem_append_right _ List.mem_cons_self
  refine ⟨coherent.backing.mono hLarger, List.forall_mem_append.mpr ⟨?_, ?_⟩⟩
  · intro call member
    exact (coherent.calls call member).mono fun token known => known.mono hLarger
  · intro call member
    cases List.mem_singleton.mp member
    by_cases hToken : ∃ value category, request = .token value category
    · obtain ⟨value, category, rfl⟩ := hToken
      refine (proceeds_token store value category).mono ?_
      rintro token rfl other last hRequest
      cases hRequest
      exact ⟨value, category, hAsked, rfl, rfl⟩
    · exact proceeds_other store fun value category same => hToken ⟨value, category, same⟩

theorem Coherent.act (coherent : system.Coherent synthesizer) {index : Nat} {fate : Fate}
    {call : Call} {action : Action} {backing : Backing} {rest : Program Reply}
    (hCall : system.calls[index]? = some call)
    (hTurn : turn fate system.backing call.rest = some (action, backing, rest)) :
    (system.advance index call action backing rest).Coherent synthesizer := by
  have hMember := List.mem_of_getElem? hCall
  have hAsked : call.request ∈ system.requests := List.mem_map.mpr ⟨call, hMember, rfl⟩
  obtain ⟨hBacking, hRest⟩ :=
    turn_coherent hTurn coherent.backing (coherent.calls call hMember) hAsked
  have hRequests := requests_advance hCall action backing rest
  constructor
  · rw [hRequests]
    exact hBacking
  · rw [hRequests]
    intro other member
    rcases List.mem_or_eq_of_mem_set member with hOther | rfl
    · exact coherent.calls other hOther
    · exact hRest

/-- Every step keeps the system coherent. -/
theorem Coherent.step (coherent : system.Coherent synthesizer)
    (h : system.step synthesizer choice = some next) : next.Coherent synthesizer := by
  cases choice with
  | start backend ttl request =>
      cases h
      have hStart := @Coherent.start system ⟨backend, synthesizer, ttl⟩ coherent request
      exact hStart
  | act index fate =>
      obtain ⟨call, hCall, h⟩ := Option.bind_eq_some_iff.mp h
      obtain ⟨⟨action, backing, rest⟩, hTurn, h⟩ := Option.bind_eq_some_iff.mp h
      cases h
      exact coherent.act hCall hTurn
  | arrive index =>
      obtain ⟨⟨key, value⟩, hWrite, h⟩ := Option.bind_eq_some_iff.mp h
      cases h
      have hWritten := coherent.backing.unsettled _ (List.mem_of_getElem? hWrite)
      exact ⟨coherent.backing.put hWritten, coherent.calls⟩
  | lose lost =>
      cases h
      exact ⟨coherent.backing.drop lost, coherent.calls⟩

/-- Every run keeps the system coherent. -/
theorem Coherent.run {choices : List Choice} (coherent : system.Coherent synthesizer)
    (h : System.run synthesizer choices system = some next) : next.Coherent synthesizer := by
  induction choices generalizing system with
  | nil =>
      cases h
      exact coherent
  | cons choice rest ih =>
      obtain ⟨middle, hStep, hRun⟩ := Option.bind_eq_some_iff.mp h
      exact ih (coherent.step hStep) hRun

theorem coherent_empty : empty.Coherent synthesizer := by
  refine ⟨⟨fun key entry hEntry => ?_, fun write member => ?_⟩, fun call member => ?_⟩
  · cases hEntry
  · exact absurd member List.not_mem_nil
  · exact absurd member List.not_mem_nil

theorem Coherent.effect (coherent : system.Coherent synthesizer) {key entry : String}
    (h : system.effect choice = some (key, entry)) :
    Written synthesizer system.requests key entry := by
  cases choice with
  | start => cases h
  | lose => cases h
  | arrive index => exact coherent.backing.unsettled (key, entry) (List.mem_of_getElem? h)
  | act index fate =>
      obtain ⟨call, hCall, h⟩ := Option.bind_eq_some_iff.mp h
      have hMember := List.mem_of_getElem? hCall
      have hWrites := (coherent.calls call hMember).landing h
      exact hWrites.written (List.mem_map.mpr ⟨call, hMember, rfl⟩)

theorem turn_entries {fate : Fate} {action : Action} {backing after : Backing}
    {program rest : Program Reply} (h : turn fate backing program = some (action, after, rest)) :
    after.entries = (backing.settle (landing fate program)).entries := by
  cases program with
  | done => cases h
  | set key value ttl next => cases fate <;> cases h <;> rfl
  | get => cases fate <;> cases h <;> rfl
  | ping => cases fate <;> cases h <;> rfl
  | close => cases fate <;> cases h <;> rfl
  | emit => cases fate <;> cases h <;> rfl

/-- Beyond the write that takes effect in it, a step can only lose entries. -/
theorem step_entries (h : system.step synthesizer choice = some next) :
    next.backing.entries = (system.backing.settle (system.effect choice)).entries ∨
      ∃ lost, choice = .lose lost ∧ next.backing = system.backing.drop lost := by
  cases choice with
  | start backend ttl request =>
      cases h
      exact Or.inl rfl
  | act index fate =>
      obtain ⟨call, hCall, h⟩ := Option.bind_eq_some_iff.mp h
      obtain ⟨⟨action, backing, rest⟩, hTurn, h⟩ := Option.bind_eq_some_iff.mp h
      cases h
      have hEffect : system.effect (.act index fate) = landing fate call.rest := by
        simp [effect, hCall]
      rw [hEffect]
      exact Or.inl (turn_entries hTurn)
  | arrive index =>
      obtain ⟨⟨key, value⟩, hWrite, h⟩ := Option.bind_eq_some_iff.mp h
      cases h
      simp only [effect, hWrite]
      exact Or.inl rfl
  | lose lost =>
      cases h
      exact Or.inr ⟨lost, rfl, rfl⟩

/-- Stores that share a backend converge. What a call for a token answers is the token of a value
that was asked for and has the same key, so it is the token of its own value when no category has a
colon. Entries appear and change only by writes of the values that were asked for, and no write under
a reverse key touches a forward entry. -/
structure Converges (synthesizer : Synthesizer) (system : System) : Prop where
  answers : ∀ call ∈ system.calls, ∀ value category token,
    call.request = .token value category → call.answer = some (.token (.ok token)) →
      ∃ other last, .token other last ∈ system.requests ∧
        (Key.ofValue last other).text = (Key.ofValue category value).text ∧
        token = synthesizer other last
  plain : (∀ value category, .token value category ∈ system.requests → category.Plain) →
    ∀ call ∈ system.calls, ∀ value category token,
      call.request = .token value category → call.answer = some (.token (.ok token)) →
        token = synthesizer value category
  writes : ∀ choice key entry, system.effect choice = some (key, entry) →
    Written synthesizer system.requests key entry
  reverse : ∀ choice next category masked entry, system.step synthesizer choice = some next →
    system.effect choice = some ((Key.ofMasked category masked).text, entry) →
      ∀ value last, next.backing.entries (Key.ofValue last value).text =
        system.backing.entries (Key.ofValue last value).text
  losses : ∀ choice next, system.step synthesizer choice = some next →
    system.effect choice = none →
      ∀ key entry, next.backing.entries key = some entry →
        system.backing.entries key = some entry

theorem Coherent.answers (coherent : system.Coherent synthesizer) {call : Call} {token : String}
    (member : call ∈ system.calls) (hAnswer : call.answer = some (.token (.ok token))) :
    Answerable synthesizer system.requests call.request token := by
  have hRest := coherent.calls call member
  obtain ⟨request, rest⟩ := call
  cases rest with
  | done reply =>
      cases hAnswer
      exact hRest
  | get => cases hAnswer
  | set => cases hAnswer
  | ping => cases hAnswer
  | close => cases hAnswer
  | emit => cases hAnswer

/-- Any number of calls of any stores that share an empty backend converge, in whatever order their
operations come, whichever of them fail, and whenever entries are lost. -/
theorem run_converges {choices : List Choice}
    (h : System.run synthesizer choices empty = some system) : system.Converges synthesizer := by
  have coherent := coherent_empty.run h
  refine ⟨?_, ?_, fun choice key entry => coherent.effect, ?_, ?_⟩
  · intro call member value category token hRequest hAnswer
    exact coherent.answers member hAnswer value category hRequest
  · intro plain call member value category token hRequest hAnswer
    obtain ⟨other, last, asked, hKey, rfl⟩ :=
      coherent.answers member hAnswer value category hRequest
    have hOwn : .token value category ∈ system.requests :=
      List.mem_map.mpr ⟨call, member, hRequest⟩
    obtain ⟨rfl, rfl⟩ := Key.ofValue_inj (plain _ _ asked) (plain _ _ hOwn) hKey
    rfl
  · intro choice next category masked entry hStep hEffect value last
    have hOther := Key.ofValue_ne_ofMasked last category value masked
    rcases step_entries hStep with hEntries | ⟨lost, rfl, _⟩
    · rw [hEntries, hEffect]
      simp only [Backing.settle, Backing.put, if_neg hOther]
    · cases hEffect
  · intro choice next hStep hEffect key entry hEntry
    rcases step_entries hStep with hEntries | ⟨lost, _, hLost⟩
    · rw [hEntries, hEffect] at hEntry
      exact hEntry
    · exact Backing.entries_of_drop (hLost ▸ hEntry)

/-- Two calls for different values with the same key, of which the second starts before the first
has ended and reads after it. -/
def collision : List Choice :=
  [.start "memory" none (.token "b:c" ⟨"a"⟩), .start "memory" none (.token "c" ⟨"a:b"⟩)] ++
    List.replicate 8 (.act 0 .succeeds) ++ List.replicate 4 (.act 1 .succeeds)

theorem run_converges_collision :
    ∃ system, System.run (fun value category => category.tag ++ "-" ++ value) collision empty =
        some system ∧
      system.calls.map Call.answer =
        [some (.token (.ok "a-b:c")), some (.token (.ok "a-b:c"))] ∧
      system.Converges fun value category => category.tag ++ "-" ++ value :=
  ⟨_, rfl, rfl, run_converges (show System.run _ collision empty = some _ from rfl)⟩

end System

end Masking.Sharing
