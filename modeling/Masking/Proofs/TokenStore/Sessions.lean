import Masking.Metrics
import Masking.Proofs.TokenStore.Simulation

/-! Sessions of a token store. Calls of a store and of its clones take turns in any order, and every
operation may be answered in any way, so a session is a run over any backend, in any contexts. What
has been done in it was done by its calls, each following its own program. -/

namespace Masking

open Sharing (Reply Request told)
open Store (Action Backend CallContext Duration Ends Error Event Program World execute
  execute_close execute_emit_some execute_get execute_ping execute_set)

/-- An answer for whatever operation comes next: one for a read, and one for any other operation. -/
structure Answer where
  found : Except Error (Option String)
  done : Except Error Unit

namespace Store.Program

variable {α : Type}

/-- The next operation of a program, with its answer, or the next event that it tells, and what is
left of the program. -/
def turn (answer : Answer) : Program α → Option (Action × Program α)
  | .done _ => none
  | .get key next => some (.get key answer.found, next answer.found)
  | .set key value _ next => some (.set key value answer.done, next answer.done)
  | .ping next => some (.ping answer.done, next answer.done)
  | .close next => some (.close answer.done, next answer.done)
  | .emit event next => some (.emit event, next)

/-- A program after some events. -/
def telling (events : List Event) (program : Program α) : Program α :=
  events.foldr .emit program

/-- The actions lead from a program to what is left of it. -/
inductive Performs : Program α → List Action → Program α → Prop
  | nil (program : Program α) : Performs program [] program
  | cons {program middle rest : Program α} {action : Action} {actions : List Action}
      (answer : Answer) (first : program.turn answer = some (action, middle))
      (later : Performs middle actions rest) : Performs program (action :: actions) rest

namespace Performs

variable {β : Type} {program middle rest : Program α} {actions : List Action} {value : α}

theorem snoc {answer : Answer} {action : Action} (h : Performs program actions middle)
    (last : middle.turn answer = some (action, rest)) :
    Performs program (actions ++ [action]) rest := by
  induction h with
  | nil => exact .cons answer last (.nil rest)
  | cons earlier first _ ih => exact .cons earlier first (ih last)

theorem done {result : α} (h : Performs (.done result) actions (.done value)) :
    actions = [] ∧ result = value := by
  obtain _ | ⟨answer, first, _⟩ := h
  · exact ⟨rfl, rfl⟩
  · cases first

theorem read {key : String} {next : Except Error (Option String) → Program α}
    (h : Performs (.get key next) actions (.done value)) :
    ∃ found more, actions = .get key found :: more ∧ Performs (next found) more (.done value) := by
  obtain _ | ⟨answer, first, later⟩ := h
  cases first
  exact ⟨_, _, rfl, later⟩

theorem write {key entry : String} {ttl : Option Duration} {next : Except Error Unit → Program α}
    (h : Performs (.set key entry ttl next) actions (.done value)) :
    ∃ done more, actions = .set key entry done :: more ∧
      Performs (next done) more (.done value) := by
  obtain _ | ⟨answer, first, later⟩ := h
  cases first
  exact ⟨_, _, rfl, later⟩

theorem emit {event : Event} {next : Program α}
    (h : Performs (.emit event next) actions (.done value)) :
    ∃ more, actions = .emit event :: more ∧ Performs next more (.done value) := by
  obtain _ | ⟨answer, first, later⟩ := h
  cases first
  exact ⟨_, rfl, later⟩

/-- A program that ends with its first turn has done nothing yet, or has had that turn. -/
theorem once (last : ∀ {answer action later}, program.turn answer = some (action, later) →
      ∃ value, later = .done value)
    (h : Performs program actions rest) :
    (actions = [] ∧ rest = program) ∨
      ∃ answer action value, program.turn answer = some (action, .done value) ∧
        actions = [action] ∧ rest = .done value := by
  obtain _ | ⟨answer, first, later⟩ := h
  · exact Or.inl ⟨rfl, rfl⟩
  · obtain ⟨value, rfl⟩ := last first
    obtain _ | ⟨_, second, _⟩ := later
    · exact Or.inr ⟨answer, _, value, first, rfl, rfl⟩
    · cases second

/-- A program that only tells events is performed by telling them. -/
theorem tells {events : List Event} {result : α}
    (h : Performs (telling events (.done result)) actions (.done value)) :
    actions = events.map .emit ∧ result = value := by
  induction events generalizing actions with
  | nil => exact h.done
  | cons event rest ih =>
      obtain ⟨more, rfl, hMore⟩ := emit h
      obtain ⟨rfl, hResult⟩ := ih hMore
      exact ⟨rfl, hResult⟩

theorem turn_bind {program : Program β} {next : β → Program α} {answer : Answer} {action : Action}
    (turn : (program.bind next).turn answer = some (action, rest)) :
    (∃ result, program = .done result) ∨
      ∃ later, program.turn answer = some (action, later) ∧ rest = later.bind next := by
  cases program with
  | done result => exact Or.inl ⟨result, rfl⟩
  | _ =>
      cases turn
      exact Or.inr ⟨_, rfl, rfl⟩

/-- A program in sequence with another one is performed to its end before that one begins. -/
theorem of_bind {program : Program β} {next : β → Program α}
    (h : Performs (program.bind next) actions (.done value)) :
    ∃ result first later, actions = first ++ later ∧ Performs program first (.done result) ∧
      Performs (next result) later (.done value) := by
  generalize hWhole : program.bind next = whole at h
  generalize hEnd : Program.done value = finish at h
  induction h generalizing program with
  | nil whole =>
      subst hEnd
      cases program with
      | done result => exact ⟨result, [], [], rfl, .nil _, hWhole ▸ .nil _⟩
      | _ => cases hWhole
  | cons answer first later ih =>
      subst hWhole hEnd
      rcases turn_bind first with ⟨result, rfl⟩ | ⟨middle, hTurn, rfl⟩
      · exact ⟨result, [], _, rfl, .nil _, .cons answer first later⟩
      · obtain ⟨result, before, after, rfl, hFirst, hLater⟩ := ih rfl rfl
        exact ⟨result, _, after, rfl, .cons answer hTurn hFirst, hLater⟩

end Performs

/-- What an executed program has done: its operations, with the answers that they had, and the
events that it told. -/
theorem exists_performs {σ : Type} {backend : Backend σ} {context : CallContext}
    {program : Program α} {world after : World σ} {value : α} {events : List Event}
    (run : execute backend context program world = some (value, events, after)) :
    ∃ actions, Performs program actions (.done value) ∧ actions.flatMap told = events ∧
      Ends backend context (fun action => action ∈ actions) program world := by
  -- An operation is answered as in the run; the other half of its answer is never asked for.
  induction program generalizing world events with
  | done result =>
      cases run
      exact ⟨[], .nil _, rfl, trivial⟩
  | get key next ih =>
      rw [execute_get] at run
      obtain ⟨⟨found, middle⟩, hRead, run⟩ := Option.bind_eq_some_iff.mp run
      obtain ⟨actions, hPerforms, hTold, hEnds⟩ := ih found run
      refine ⟨.get key found :: actions, .cons ⟨found, .ok ()⟩ rfl hPerforms, hTold, ?_⟩
      exact ⟨found, middle, hRead, List.mem_cons_self, hEnds.mono fun _ => List.mem_cons_of_mem _⟩
  | set key entry ttl next ih =>
      rw [execute_set] at run
      obtain ⟨⟨done, middle⟩, hWrite, run⟩ := Option.bind_eq_some_iff.mp run
      obtain ⟨actions, hPerforms, hTold, hEnds⟩ := ih done run
      refine ⟨.set key entry done :: actions, .cons ⟨.ok none, done⟩ rfl hPerforms,
        hTold, ?_⟩
      exact ⟨done, middle, hWrite, List.mem_cons_self, hEnds.mono fun _ => List.mem_cons_of_mem _⟩
  | ping next ih =>
      rw [execute_ping] at run
      obtain ⟨⟨done, middle⟩, hPing, run⟩ := Option.bind_eq_some_iff.mp run
      obtain ⟨actions, hPerforms, hTold, hEnds⟩ := ih done run
      refine ⟨.ping done :: actions, .cons ⟨.ok none, done⟩ rfl hPerforms, hTold, ?_⟩
      exact ⟨done, middle, hPing, List.mem_cons_self, hEnds.mono fun _ => List.mem_cons_of_mem _⟩
  | close next ih =>
      rw [execute_close] at run
      obtain ⟨⟨done, middle⟩, hClose, run⟩ := Option.bind_eq_some_iff.mp run
      obtain ⟨actions, hPerforms, hTold, hEnds⟩ := ih done run
      refine ⟨.close done :: actions, .cons ⟨.ok none, done⟩ rfl hPerforms, hTold, ?_⟩
      exact ⟨done, middle, hClose, List.mem_cons_self, hEnds.mono fun _ => List.mem_cons_of_mem _⟩
  | emit event next ih =>
      obtain ⟨more, hNext, rfl⟩ := execute_emit_some run
      obtain ⟨actions, hPerforms, rfl, hEnds⟩ := ih hNext
      refine ⟨.emit event :: actions, .cons ⟨.ok none, .ok ()⟩ rfl hPerforms, rfl, ?_⟩
      exact hEnds.mono fun _ => List.mem_cons_of_mem _

end Store.Program

namespace Session

/-- A call in a session: what it asks for, what it has done so far, and what is left of it. -/
structure Call where
  request : Request
  actions : List Action
  rest : Program Reply

namespace Call

def answer (call : Call) : Option Reply :=
  match call.rest with
  | .done reply => some reply
  | _ => none

def events (call : Call) : List Event :=
  call.actions.flatMap told

/-- Whether the call is for the token of a value. -/
def isToken (call : Call) : Bool :=
  match call.request with
  | .token _ _ => true
  | _ => false

/-- Whether the call was for a token and has answered one. -/
def succeeded (call : Call) : Bool :=
  match call.request, call.answer with
  | .token _ _, some (.token (.ok _)) => true
  | _, _ => false

/-- Whether the call was for a token and has answered an error. -/
def failed (call : Call) : Bool :=
  match call.request, call.answer with
  | .token _ _, some (.token (.error _)) => true
  | _, _ => false

end Call

end Session

/-- All calls that were made of a store and of its clones, and all that they have done. -/
structure Session where
  calls : List Session.Call
  history : List Action

namespace Session

def empty : Session := ⟨[], []⟩

/-- What happens next: a call is made, or one that was made does its next operation, which is
answered in some way, or tells its next event. -/
inductive Choice where
  | start (request : Request)
  | act (index : Nat) (answer : Answer)

def step (store : TokenStore) (session : Session) : Choice → Option Session
  | .start request =>
      some { session with calls := session.calls ++ [⟨request, [], request.program store⟩] }
  | .act index answer => do
      let call ← session.calls[index]?
      let (action, rest) ← call.rest.turn answer
      let later := { call with actions := call.actions ++ [action], rest := rest }
      some ⟨session.calls.set index later, session.history ++ [action]⟩

def run (store : TokenStore) : List Choice → Session → Option Session
  | [], session => some session
  | choice :: rest, session => do
      let next ← session.step store choice
      run store rest next

def events (session : Session) : List Event :=
  session.history.flatMap told

/-- What the store has counted. -/
def metrics (session : Session) : StoreMetrics :=
  StoreMetrics.zero.absorbAll session.events

/-- Every call that was made has run to its end. -/
def Settled (session : Session) : Prop :=
  ∀ call ∈ session.calls, call.answer.isSome = true

section Invariant

variable {store : TokenStore} {session next : Session} {call : Call}

/-- Every call has done what leads from its program to what is left of it, and nothing was done but
by calls. -/
structure Sound (store : TokenStore) (session : Session) : Prop where
  performs : ∀ call ∈ session.calls,
    (call.request.program store).Performs call.actions call.rest
  history : session.history.Perm (session.calls.flatMap Call.actions)

theorem perm_set {calls : List Call} {index : Nat} {call later : Call} {actions : List Action}
    (hAt : calls[index]? = some call) (hLater : later.actions = call.actions ++ actions) :
    ((calls.set index later).flatMap Call.actions).Perm
      (calls.flatMap Call.actions ++ actions) := by
  induction calls generalizing index with
  | nil => cases hAt
  | cons head rest ih =>
      cases index with
      | zero =>
          cases hAt
          simp only [List.set_cons_zero, List.flatMap_cons, hLater, List.append_assoc]
          exact List.perm_append_comm.append_left _
      | succ index =>
          simp only [List.set_cons_succ, List.flatMap_cons, List.append_assoc]
          exact (ih hAt).append_left _

theorem Sound.start (h : session.Sound store) (request : Request) :
    Sound store { session with
      calls := session.calls ++ [⟨request, [], request.program store⟩] } where
  performs call member := by
    rcases List.mem_append.mp member with old | new
    · exact h.performs call old
    · cases List.mem_singleton.mp new
      exact .nil _
  history := by simpa using h.history

theorem Sound.act (h : session.Sound store) {index : Nat} {call : Call} {answer : Answer}
    {action : Action} {rest : Program Reply} (hCall : session.calls[index]? = some call)
    (hTurn : call.rest.turn answer = some (action, rest)) :
    Sound store ⟨session.calls.set index ⟨call.request, call.actions ++ [action], rest⟩,
      session.history ++ [action]⟩ where
  performs other member := by
    rcases List.mem_or_eq_of_mem_set member with old | rfl
    · exact h.performs other old
    · exact (h.performs call (List.mem_of_getElem? hCall)).snoc hTurn
  history := (h.history.append_right [action]).trans (perm_set hCall rfl).symm

theorem Sound.step {choice : Choice} (h : session.Sound store)
    (step : session.step store choice = some next) : next.Sound store := by
  cases choice with
  | start request =>
      cases step
      exact h.start request
  | act index answer =>
      obtain ⟨call, hCall, step⟩ := Option.bind_eq_some_iff.mp step
      obtain ⟨⟨action, rest⟩, hTurn, step⟩ := Option.bind_eq_some_iff.mp step
      cases step
      exact h.act hCall hTurn

theorem Sound.run {choices : List Choice} (h : session.Sound store)
    (run : Session.run store choices session = some next) : next.Sound store := by
  induction choices generalizing session with
  | nil =>
      cases run
      exact h
  | cons choice rest ih =>
      obtain ⟨middle, hStep, run⟩ := Option.bind_eq_some_iff.mp run
      exact ih (h.step hStep) run

theorem sound_of_run {choices : List Choice}
    (run : Session.run store choices .empty = some session) : session.Sound store :=
  have hEmpty : Session.empty.Sound store := ⟨fun _ member => absurd member List.not_mem_nil, .nil⟩
  hEmpty.run run

/-- A call that is under way may go on with what its program still does, in some turns. -/
theorem run_of_performs {index : Nat} {actions : List Action} {rest : Program Reply}
    (hCall : session.calls[index]? = some call) (h : call.rest.Performs actions rest) :
    ∃ choices, Session.run store choices session =
      some ⟨session.calls.set index ⟨call.request, call.actions ++ actions, rest⟩,
        session.history ++ actions⟩ := by
  obtain ⟨request, before, program⟩ := call
  change program.Performs actions rest at h
  -- Each turn leaves another session, in which the call has done one more action.
  induction h generalizing session before with
  | nil =>
      obtain ⟨hIndex, hAt⟩ := List.getElem?_eq_some_iff.mp hCall
      refine ⟨[], ?_⟩
      simp only [List.append_nil, ← hAt, List.set_getElem_self]
      rfl
  | @cons program middle rest action actions answer first _ ih =>
      let later : Session :=
        ⟨session.calls.set index ⟨request, before ++ [action], middle⟩, session.history ++ [action]⟩
      have hStep : session.step store (.act index answer) = some later := by
        simp only [step, hCall, first, Option.bind_eq_bind, Option.bind_some]
        rfl
      obtain ⟨hIndex, _⟩ := List.getElem?_eq_some_iff.mp hCall
      have hNext : later.calls[index]? = some ⟨request, before ++ [action], middle⟩ :=
        List.getElem?_set_self hIndex
      obtain ⟨choices, hRun⟩ := ih _ hNext
      refine ⟨.act index answer :: choices, ?_⟩
      rw [Session.run, hStep, Option.bind_eq_bind, Option.bind_some, hRun]
      simp [later]

/-- Whatever a single call does over a backend, in whatever context, it does in a session. -/
theorem run_of_execute {σ : Type} {backend : Backend σ} {context : CallContext} {request : Request}
    {reply : Reply} {later : List Event} {world after : World σ}
    (h : execute backend context (request.program store) world = some (reply, later, after))
    (session : Session) :
    ∃ choices actions, Session.run store choices session =
        some ⟨session.calls ++ [⟨request, actions, .done reply⟩], session.history ++ actions⟩ ∧
      actions.flatMap told = later ∧
      Ends backend context (fun action => action ∈ actions) (request.program store) world := by
  obtain ⟨actions, hPerforms, hTold, hEnds⟩ := Store.Program.exists_performs h
  let started : Session :=
    { session with calls := session.calls ++ [⟨request, [], request.program store⟩] }
  have hCall : started.calls[session.calls.length]? = some ⟨request, [], request.program store⟩ := by
    simp [started]
  obtain ⟨choices, hRun⟩ := run_of_performs hCall hPerforms
  refine ⟨.start request :: choices, actions, ?_, hTold, hEnds⟩
  rw [Session.run, step, Option.bind_eq_bind, Option.bind_some, hRun]
  simp [started]

end Invariant

end Session

end Masking
