import Masking.TokenStore
import Masking.Proofs.Store.Execution

/-! Calls of a token store. A call reads the entry of its value, and only when there is none does it
write both entries of the mapping; what it answers depends on the read alone. -/

namespace Masking

open Store (Action Backend CallContext Duration Ends Error Event Key Program World execute
  execute_bind execute_done execute_emit execute_get execute_set readIn writeIn)

/-- Whether an event tells how the lookup of a token has ended. -/
def Store.Event.isLookup : Event → Bool
  | .hit => true
  | .miss => true
  | .readError => true
  | _ => false

namespace TokenStore

/-- The events of a write of the token of a value that has ended. -/
def forwardEvents (store : TokenStore) (category : Category) : Except Error Unit → List Event
  | .ok () => [.timed "set_forward"]
  | .error error =>
      [.writeFailure .forward,
       .log ⟨.warn, "Failed to store masked value, using synthesized value",
        [("category", category.tag), ("backend", store.backend), ("error", error.text)], none⟩,
       .timed "set_forward"]

def reverseEvents (category : Category) : Except Error Unit → List Event
  | .ok () => [.timed "set_reverse"]
  | .error error =>
      [.writeFailure .reverse,
       .log ⟨.debug, "Reverse mapping not stored",
        [("category", category.tag), ("error", error.text)], none⟩,
       .timed "set_reverse"]

section Executions

variable {σ : Type} {backend : Backend σ} {context : CallContext} {store : TokenStore}
  {value : String} {category : Category} {world after : World σ}

theorem execute_writeForward (masked : String) (world : World σ) :
    execute backend context (store.writeForward category value masked) world =
      (writeIn backend context (Key.ofValue category value).text masked store.ttl world).map
        fun done => ((), store.forwardEvents category done.1, done.2) := by
  simp only [writeForward, Program.bind_eq, Program.write, Program.bind, execute_set]
  cases writeIn backend context (Key.ofValue category value).text masked store.ttl world with
  | none => rfl
  | some done =>
      obtain ⟨answer, after⟩ := done
      cases answer with
      | error error => rfl
      | ok value => rfl

theorem execute_writeReverse (masked : String) (world : World σ) :
    execute backend context (store.writeReverse category value masked) world =
      (writeIn backend context (Key.ofMasked category masked).text value store.ttl world).map
        fun done => ((), reverseEvents category done.1, done.2) := by
  simp only [writeReverse, Program.bind_eq, Program.write, Program.bind, execute_set]
  cases writeIn backend context (Key.ofMasked category masked).text value store.ttl world with
  | none => rfl
  | some done =>
      obtain ⟨answer, after⟩ := done
      cases answer with
      | error error => rfl
      | ok value => rfl

/-- A call reads its entry first. A failed read is its answer and so is a token that is found; only
when nothing is found are the two entries written, and the answer is the synthesized token however
the writes end. -/
theorem execute_getOrCreate (world : World σ) :
    execute backend context (store.getOrCreate value category) world =
      (readIn backend context (Key.ofValue category value).text world).bind fun read =>
        match read.1 with
        | .error error => some (.error error, [.timed "get", .readError], read.2)
        | .ok (some masked) =>
            some (.ok masked,
              [.timed "get", .hit, .log ⟨.trace, "Store hit", [("category", category.tag)], none⟩],
              read.2)
        | .ok none =>
            let masked := store.synthesizer value category
            (writeIn backend context (Key.ofValue category value).text masked store.ttl read.2).bind
              fun forward =>
                (writeIn backend context (Key.ofMasked category masked).text value store.ttl
                  forward.2).map fun reverse =>
                    (.ok masked,
                      .timed "get" :: .miss :: .synthesized ::
                        (store.forwardEvents category forward.1 ++
                          reverseEvents category reverse.1),
                      reverse.2) := by
  simp only [getOrCreate, Program.read, Program.bind_eq, Program.bind, execute_get]
  refine congrArg _ (funext fun read => ?_)
  obtain ⟨cached, middle⟩ := read
  rcases cached with error | (_ | masked)
  case error => rfl
  case ok.some => rfl
  case ok.none =>
    simp only [Program.tell, Program.bind, execute_emit, execute_bind, execute_writeForward,
      execute_writeReverse, Program.pure_eq, execute_done]
    generalize writeIn backend context (Key.ofValue category value).text _ store.ttl middle = first
    cases first with
    | none => rfl
    | some forward =>
        simp only [Option.map_some, Option.bind_some]
        generalize writeIn backend context (Key.ofMasked category _).text value _ forward.2 = second
        cases second with
        | none => rfl
        | some reverse => simp

theorem execute_lookupValue (masked : String) (world : World σ) :
    execute backend context (lookupValue masked category) world =
      (readIn backend context (Key.ofMasked category masked).text world).map
        fun read => (read.1, [], read.2) := by
  rw [lookupValue, Program.read, execute_get]
  cases readIn backend context (Key.ofMasked category masked).text world <;> rfl

/-- The ways in which a call comes to its answer: the read fails, it finds a token, or it finds
nothing and both writes are made. -/
inductive Answers (backend : Backend σ) (context : CallContext) (store : TokenStore)
    (value : String) (category : Category) (world : World σ) :
    Except Error String → World σ → Prop
  | failed {error : Error} {after : World σ}
      (read : readIn backend context (Key.ofValue category value).text world =
        some (.error error, after)) :
      Answers backend context store value category world (.error error) after
  | hit {masked : String} {after : World σ}
      (read : readIn backend context (Key.ofValue category value).text world =
        some (.ok (some masked), after)) :
      Answers backend context store value category world (.ok masked) after
  | miss {forward reverse : Except Error Unit} {middle between after : World σ}
      (read : readIn backend context (Key.ofValue category value).text world =
        some (.ok none, middle))
      (first : writeIn backend context (Key.ofValue category value).text
        (store.synthesizer value category) store.ttl middle = some (forward, between))
      (second : writeIn backend context
        (Key.ofMasked category (store.synthesizer value category)).text value store.ttl between =
          some (reverse, after)) :
      Answers backend context store value category world
        (.ok (store.synthesizer value category)) after

/-- Every executed call comes to its answer in one of these ways, and tells of one lookup. -/
theorem answers_of_execute {result : Except Error String} {events : List Event}
    (run : execute backend context (store.getOrCreate value category) world =
      some (result, events, after)) :
    Answers backend context store value category world result after ∧
      events.countP Event.isLookup = 1 := by
  rw [execute_getOrCreate] at run
  obtain ⟨⟨cached, middle⟩, hRead, run⟩ := Option.bind_eq_some_iff.mp run
  rcases cached with error | (_ | masked)
  case error =>
    cases run
    exact ⟨.failed hRead, rfl⟩
  case ok.some =>
    cases run
    exact ⟨.hit hRead, rfl⟩
  case ok.none =>
    obtain ⟨⟨forward, between⟩, hForward, run⟩ := Option.bind_eq_some_iff.mp run
    obtain ⟨⟨reverse, last⟩, hReverse, he⟩ := Option.map_eq_some_iff.mp run
    cases he
    refine ⟨.miss hRead hForward hReverse, ?_⟩
    rcases forward with error | _ <;> rcases reverse with error | _ <;> rfl

/-- The answer of a call, from what its read has found. -/
def answer (store : TokenStore) (value : String) (category : Category) :
    Except Error (Option String) → Except Error String
  | .error error => .error error
  | .ok (some masked) => .ok masked
  | .ok none => .ok (store.synthesizer value category)

/-- What a call answers depends on its read alone. -/
theorem Answers.exists_read {result : Except Error String}
    (h : Answers backend context store value category world result after) :
    ∃ found middle,
      readIn backend context (Key.ofValue category value).text world = some (found, middle) ∧
        result = store.answer value category found := by
  cases h with
  | failed read => exact ⟨_, _, read, rfl⟩
  | hit read => exact ⟨_, _, read, rfl⟩
  | miss read _ _ => exact ⟨_, _, read, rfl⟩

theorem getOrCreate_entriesOnly (store : TokenStore) (value : String) (category : Category) :
    (store.getOrCreate value category).EntriesOnly := by
  rintro (error | (_ | masked))
  case error => trivial
  case ok.some => trivial
  case ok.none =>
    rintro (_ | _) (_ | _) <;> trivial

end Executions

end TokenStore

/-- A call of a token store in a run: what it asked for, what it answered, and the worlds before
and after it. -/
structure TokenCall (σ : Type) where
  value : String
  category : Category
  before : World σ
  result : Except Error String
  after : World σ

def TokenCall.Asks {σ : Type} (call : TokenCall σ) (value : String) (category : Category) : Prop :=
  call.value = value ∧ call.category = category

section Traces

variable {σ : Type} (backend : Backend σ) (context : CallContext) (allows : Action → Prop)
  (store : TokenStore)

/-- The call has been made: it was executed in the world before it, and each of its operations
ended in a way that is allowed. -/
structure TokenCall.Made (call : TokenCall σ) : Prop where
  ends : Ends backend context allows (store.getOrCreate call.value call.category) call.before
  run : ∃ events, execute backend context (store.getOrCreate call.value call.category) call.before =
    some (call.result, events, call.after)

/-- Calls that were made one after the other, each in the world that the one before it left. -/
inductive CallChain : World σ → List (TokenCall σ) → World σ → Prop
  | nil (world : World σ) : CallChain world [] world
  | cons {call : TokenCall σ} {calls : List (TokenCall σ)} {after : World σ}
      (made : call.Made backend context allows store) (rest : CallChain call.after calls after) :
      CallChain call.before (call :: calls) after

/-- A program does nothing to the backend but make token calls: when every operation of a run ends,
the run has a result, and from its world to the one it leaves there is a chain of as many calls as
it tells of lookups. The result and the calls are as `post` says. -/
def Yields {α : Type} (program : Program α) (post : α → List (TokenCall σ) → Prop) : Prop :=
  ∀ world, Ends backend context allows program world →
    ∃ result events after calls,
      execute backend context program world = some (result, events, after) ∧
      CallChain backend context allows store world calls after ∧
      events.countP Event.isLookup = calls.length ∧ post result calls

end Traces

section Laws

variable {σ α β : Type} {backend : Backend σ} {context : CallContext} {allows : Action → Prop}
  {store : TokenStore}

theorem CallChain.append {world middle after : World σ} {calls more : List (TokenCall σ)}
    (first : CallChain backend context allows store world calls middle)
    (second : CallChain backend context allows store middle more after) :
    CallChain backend context allows store world (calls ++ more) after := by
  induction first with
  | nil world => exact second
  | cons made _ ih => exact .cons made (ih second)

theorem CallChain.split {world after : World σ} {calls more : List (TokenCall σ)}
    (h : CallChain backend context allows store world (calls ++ more) after) :
    ∃ middle, CallChain backend context allows store world calls middle ∧
      CallChain backend context allows store middle more after := by
  induction calls generalizing world with
  | nil => exact ⟨world, .nil world, h⟩
  | cons call rest ih =>
      obtain _ | ⟨made, later⟩ := h
      obtain ⟨middle, hFirst, hLater⟩ := ih later
      exact ⟨middle, .cons made hFirst, hLater⟩

theorem CallChain.after_eq {world after : World σ}
    (h : CallChain backend context allows store world [] after) :
    after = world := by
  cases h
  rfl

theorem CallChain.sole {world after : World σ} {call : TokenCall σ}
    (h : CallChain backend context allows store world [call] after) :
    call.Made backend context allows store ∧ call.before = world ∧ call.after = after := by
  cases h with
  | cons made rest => exact ⟨made, rfl, rest.after_eq.symm⟩

theorem CallChain.made {world after : World σ} {calls : List (TokenCall σ)}
    (h : CallChain backend context allows store world calls after) :
    ∀ call ∈ calls, call.Made backend context allows store := by
  induction h with
  | nil world => exact fun call member => absurd member List.not_mem_nil
  | cons made _ ih =>
      intro call member
      rcases List.mem_cons.mp member with rfl | later
      · exact made
      · exact ih call later

namespace Yields

variable {post first : α → List (TokenCall σ) → Prop} {last : β → List (TokenCall σ) → Prop}

theorem done {value : α} (h : post value []) :
    Yields backend context allows store (.done value) post :=
  fun world _ => ⟨value, [], world, [], rfl, .nil world, rfl, h⟩

theorem imp {program : Program α} (h : Yields backend context allows store program first)
    (weaker : ∀ result calls, first result calls → post result calls) :
    Yields backend context allows store program post := by
  intro world ends
  obtain ⟨result, events, after, calls, hRun, hChain, hCount, hFirst⟩ := h world ends
  exact ⟨result, events, after, calls, hRun, hChain, hCount, weaker result calls hFirst⟩

theorem tell {event : Event} {next : Unit → Program α} (silent : event.isLookup = false)
    (h : Yields backend context allows store (next ()) post) :
    Yields backend context allows store ((Program.tell event).bind next) post := by
  intro world ends
  obtain ⟨result, events, after, calls, hRun, hChain, hCount, hPost⟩ := h world ends
  have hTold : execute backend context ((Program.tell event).bind next) world =
      some (result, event :: events, after) := by
    simp only [Program.tell, Program.bind, execute_emit, hRun, Option.map_some]
  exact ⟨result, event :: events, after, calls, hTold, hChain, by simp [silent, hCount], hPost⟩

/-- Of two programs in sequence, the calls of the second come after those of the first. -/
theorem bind {program : Program α} {next : α → Program β}
    (h : Yields backend context allows store program first)
    (rest : ∀ value calls, first value calls →
      Yields backend context allows store (next value) fun result more =>
        last result (calls ++ more)) :
    Yields backend context allows store (program.bind next) last := by
  intro world ends
  obtain ⟨hEnds, hLater⟩ := ends.of_bind
  obtain ⟨value, events, middle, calls, hRun, hChain, hCount, hFirst⟩ := h world hEnds
  obtain ⟨result, later, after, more, hNext, hMore, hLaterCount, hLast⟩ :=
    rest value calls hFirst middle (hLater hRun)
  exact ⟨result, events ++ later, after, calls ++ more, by simp [execute_bind, hRun, hNext],
    hChain.append hMore, by simp [hCount, hLaterCount], hLast⟩

theorem getOrCreate (value : String) (category : Category) :
    Yields backend context allows store (store.getOrCreate value category) fun result calls =>
      ∃ call : TokenCall σ, calls = [call] ∧ call.Asks value category ∧ call.result = result := by
  intro world ends
  obtain ⟨result, events, after, hRun⟩ := ends.exists_result
  have hCount := (TokenStore.answers_of_execute hRun).2
  let call : TokenCall σ := ⟨value, category, world, result, after⟩
  have hMade : call.Made backend context allows store := ⟨ends, events, hRun⟩
  have hChain : CallChain backend context allows store call.before [call] call.after :=
    .cons hMade (.nil call.after)
  exact ⟨result, events, after, [call], hRun, hChain, hCount, call, rfl, ⟨rfl, rfl⟩, rfl⟩

end Yields

end Laws

end Masking
