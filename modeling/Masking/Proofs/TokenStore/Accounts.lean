import Masking.Proofs.TokenStore.Sessions

/-! Accounts of a token store. Once all calls of a session have ended the counts of the store add
up: each call for a token is counted once, and each of the two writes after a miss has either
succeeded or is counted too. -/

namespace Masking

open Sharing (Reply told)
open Store (Action Error Event Key Program)

/-- Whether an event tells of a write that has failed. -/
def Store.Event.isWriteFailure : Event → Bool
  | .writeFailure _ => true
  | _ => false

namespace Store.Action

def isRead : Action → Bool
  | .get _ _ => true
  | _ => false

def isWrite : Action → Bool
  | .set _ _ _ => true
  | _ => false

/-- Whether the action is a write that has succeeded. -/
def isWritten : Action → Bool
  | .set _ _ (.ok ()) => true
  | _ => false

end Store.Action

/-- The counts of a store are the numbers of the events that were told. -/
theorem StoreMetrics.absorbAll_eq (metrics : StoreMetrics) (events : List Event) :
    metrics.absorbAll events =
      ⟨metrics.hits + events.count .hit, metrics.misses + events.count .miss,
        metrics.readErrors + events.count .readError,
        metrics.writeFailures + events.countP Event.isWriteFailure⟩ := by
  induction events generalizing metrics with
  | nil => rfl
  | cons event rest ih =>
      rw [absorbAll, List.foldl_cons, ← absorbAll, ih]
      cases event <;> simp [absorb, Event.isWriteFailure, List.countP_cons] <;> omega

namespace Session

/-- What a call for a token has done when it ends. It has read its entry; a failed read ends it and
so does a token that is found, and otherwise both entries have been written. -/
inductive Conduct (store : TokenStore) (value : String) (category : Category) :
    List Action → Except Error String → Prop
  | failed (error : Error) :
      Conduct store value category
        [.get (Key.ofValue category value).text (.error error), .emit (.timed "get"),
          .emit .readError]
        (.error error)
  | hit (masked : String) :
      Conduct store value category
        [.get (Key.ofValue category value).text (.ok (some masked)), .emit (.timed "get"),
          .emit .hit, .emit (.log ⟨.trace, "Store hit", [("category", category.tag)], none⟩)]
        (.ok masked)
  | miss (forward reverse : Except Error Unit) :
      Conduct store value category
        ([.get (Key.ofValue category value).text (.ok none), .emit (.timed "get"), .emit .miss,
            .emit .synthesized] ++
          .set (Key.ofValue category value).text (store.synthesizer value category) forward ::
            (store.forwardEvents category forward).map .emit ++
          .set (Key.ofMasked category (store.synthesizer value category)).text value reverse ::
            (TokenStore.reverseEvents category reverse).map .emit)
        (.ok (store.synthesizer value category))

section Conduct

variable {store : TokenStore} {value masked : String} {category : Category}
  {actions : List Action}

theorem performs_writeForward
    (h : (store.writeForward category value masked).Performs actions (.done ())) :
    ∃ done, actions = .set (Key.ofValue category value).text masked done ::
      (store.forwardEvents category done).map .emit := by
  obtain ⟨done, told, rfl, hTold⟩ := Store.Program.Performs.write h
  have hEvents : (Program.telling (store.forwardEvents category done) (.done ())).Performs told
      (.done ()) := by
    cases done <;> exact hTold
  exact ⟨done, congrArg _ hEvents.tells.1⟩

theorem performs_writeReverse
    (h : (store.writeReverse category value masked).Performs actions (.done ())) :
    ∃ done, actions = .set (Key.ofMasked category masked).text value done ::
      (TokenStore.reverseEvents category done).map .emit := by
  obtain ⟨done, told, rfl, hTold⟩ := Store.Program.Performs.write h
  have hEvents : (Program.telling (TokenStore.reverseEvents category done) (.done ())).Performs
      told (.done ()) := by
    cases done <;> exact hTold
  exact ⟨done, congrArg _ hEvents.tells.1⟩

theorem conduct_of_performs {result : Except Error String}
    (h : (store.getOrCreate value category).Performs actions (.done result)) :
    Conduct store value category actions result := by
  obtain ⟨found, told, rfl, hTold⟩ := Store.Program.Performs.read h
  rcases found with error | (_ | masked)
  case error =>
    have hEvents : (Program.telling [.timed "get", .readError] (.done (.error error))).Performs
        told (.done result) := hTold
    obtain ⟨rfl, rfl⟩ := hEvents.tells
    exact .failed error
  case ok.some =>
    have hEvents : (Program.telling [.timed "get", .hit,
        .log ⟨.trace, "Store hit", [("category", category.tag)], none⟩]
          (.done (.ok masked))).Performs told (.done result) := hTold
    obtain ⟨rfl, rfl⟩ := hEvents.tells
    exact .hit masked
  case ok.none =>
    obtain ⟨missed, rfl, hMissed⟩ := Store.Program.Performs.emit hTold
    obtain ⟨made, rfl, hMade⟩ := Store.Program.Performs.emit hMissed
    obtain ⟨writes, rfl, hWrites⟩ := Store.Program.Performs.emit hMade
    have hPair : ((store.writeForward category value (store.synthesizer value category)).bind
        fun _ => (store.writeReverse category value (store.synthesizer value category)).bind
          fun _ => .done (.ok (store.synthesizer value category))).Performs writes
            (.done result) := hWrites
    obtain ⟨_, first, later, rfl, hForward, hLater⟩ := Store.Program.Performs.of_bind hPair
    obtain ⟨_, second, last, rfl, hReverse, hLast⟩ := Store.Program.Performs.of_bind hLater
    obtain ⟨rfl, rfl⟩ := hLast.done
    obtain ⟨forward, rfl⟩ := performs_writeForward hForward
    obtain ⟨reverse, rfl⟩ := performs_writeReverse hReverse
    simpa using Conduct.miss forward reverse

end Conduct

/-- The accounts of a session are balanced: every call for a token is counted once, as what it has
answered, and of the two writes after each miss every one has succeeded or is counted. -/
structure Balanced (session : Session) : Prop where
  calls : session.metrics.hits + session.metrics.misses + session.metrics.readErrors =
    session.calls.countP Call.isToken
  succeeded : session.metrics.hits + session.metrics.misses = session.calls.countP Call.succeeded
  failed : session.metrics.readErrors = session.calls.countP Call.failed
  synthesized : session.events.count .synthesized = session.metrics.misses
  writes : session.metrics.writeFailures + session.history.countP Action.isWritten =
    2 * session.metrics.misses

/-- The accounts of a session: what was done was done by its calls, and they are balanced whenever
all calls have ended. -/
structure Accounted (session : Session) : Prop where
  history : session.history.Perm (session.calls.flatMap Call.actions)
  /-- A call that is not for a token leaves all counts as they are. -/
  uncounted : ∀ call ∈ session.calls, call.isToken = false →
    ∀ metrics, StoreMetrics.absorbAll metrics call.events = metrics
  /-- A call that tells of a hit has read once and written nothing. -/
  hit : ∀ call ∈ session.calls, call.answer.isSome = true → Event.hit ∈ call.events →
    call.actions.countP Action.isRead = 1 ∧ call.actions.countP Action.isWrite = 0
  failed : ∀ call ∈ session.calls, call.failed = true → call.actions.countP Action.isWrite = 0
  balanced : session.Settled → session.Balanced

section Accounts

variable {store : TokenStore} {first second session : Session} {call : Call}

theorem metrics_eq (session : Session) :
    session.metrics = ⟨session.events.count .hit, session.events.count .miss,
      session.events.count .readError, session.events.countP Event.isWriteFailure⟩ := by
  rw [metrics, StoreMetrics.absorbAll_eq]
  simp [StoreMetrics.zero]

theorem events_append :
    events ⟨first.calls ++ second.calls, first.history ++ second.history⟩ =
      first.events ++ second.events := by
  simp [events]

theorem Balanced.append (h : first.Balanced) (later : second.Balanced) :
    Balanced ⟨first.calls ++ second.calls, first.history ++ second.history⟩ := by
  obtain ⟨hCalls, hSucceeded, hFailed, hMade, hWrites⟩ := h
  obtain ⟨hCalls', hSucceeded', hFailed', hMade', hWrites'⟩ := later
  simp only [metrics_eq] at hCalls hSucceeded hFailed hMade hWrites
  simp only [metrics_eq] at hCalls' hSucceeded' hFailed' hMade' hWrites'
  constructor <;>
    simp only [metrics_eq, events_append, List.count_append, List.countP_append] <;> omega

theorem Balanced.perm {calls : List Call} {actions history : List Action}
    (h : Balanced ⟨calls, actions⟩) (same : history.Perm actions) : Balanced ⟨calls, history⟩ := by
  have hTold : (events ⟨calls, history⟩).Perm (events ⟨calls, actions⟩) := same.flatMap_right told
  have hMetrics : metrics ⟨calls, history⟩ = metrics ⟨calls, actions⟩ := by
    simp only [metrics_eq, hTold.count_eq, hTold.countP_eq]
  refine
    { calls := ?_, succeeded := ?_, failed := ?_, synthesized := ?_, writes := ?_ } <;>
    rw [hMetrics]
  · exact h.calls
  · exact h.succeeded
  · exact h.failed
  · rw [hTold.count_eq]
    exact h.synthesized
  · exact (congrArg _ (same.countP_eq _)).trans h.writes

theorem Conduct.balanced {value : String} {category : Category} {actions : List Action}
    {result : Except Error String} (h : Conduct store value category actions result) :
    Balanced ⟨[⟨.token value category, actions, .done (.token result)⟩], actions⟩ := by
  cases h with
  | failed error => constructor <;> rfl
  | hit masked => constructor <;> rfl
  | miss forward reverse =>
      rcases forward with error | _ <;> rcases reverse with error | _ <;> constructor <;> rfl

theorem Conduct.hit_reads {value : String} {category : Category} {actions : List Action}
    {result : Except Error String} (h : Conduct store value category actions result)
    (hit : Event.hit ∈ actions.flatMap told) :
    actions.countP Action.isRead = 1 ∧ actions.countP Action.isWrite = 0 := by
  cases h with
  | failed error => simp [told] at hit
  | hit masked => exact ⟨rfl, rfl⟩
  | miss forward reverse =>
      rcases forward with error | _ <;> rcases reverse with error | _ <;>
        simp [told, TokenStore.forwardEvents, TokenStore.reverseEvents] at hit

theorem Conduct.failed_writes {value : String} {category : Category} {actions : List Action}
    {error : Error} (h : Conduct store value category actions (.error error)) :
    actions.countP Action.isWrite = 0 := by
  cases h
  rfl

/-- A request that is not for a token is one operation, which writes nothing and tells nothing. -/
theorem other_turn {answer : Answer} {action : Action} {rest : Program Reply}
    (other : call.isToken = false)
    (turn : (call.request.program store).turn answer = some (action, rest)) :
    told action = [] ∧ action.isWritten = false ∧ ∃ reply, rest = .done reply := by
  obtain ⟨request, actions, _⟩ := call
  cases request with
  | token value category => cases other
  | lookup masked category =>
      cases turn
      exact ⟨rfl, rfl, _, rfl⟩
  | check =>
      cases turn
      exact ⟨rfl, rfl, _, rfl⟩
  | release =>
      cases turn
      exact ⟨rfl, rfl, _, rfl⟩

theorem Call.unanswered (other : call.isToken = false) :
    call.succeeded = false ∧ call.failed = false := by
  obtain ⟨request, actions, rest⟩ := call
  cases request with
  | token value category => cases other
  | _ => exact ⟨rfl, rfl⟩

theorem performs_other (h : (call.request.program store).Performs call.actions call.rest)
    (other : call.isToken = false) :
    call.events = [] ∧ call.actions.countP Action.isWritten = 0 := by
  rw [Call.events]
  rcases h.once (fun turn => (other_turn other turn).2.2) with
    ⟨hNone, _⟩ | ⟨answer, action, reply, hTurn, hOne, _⟩
  · rw [hNone]
    exact ⟨rfl, rfl⟩
  · obtain ⟨hTold, hWritten, _⟩ := other_turn other hTurn
    rw [hOne]
    exact ⟨by simp [hTold], by simp [hWritten]⟩

theorem performs_token (h : (call.request.program store).Performs call.actions call.rest)
    (settled : call.answer.isSome = true) (token : call.isToken = true) :
    ∃ value category result, Conduct store value category call.actions result ∧
      call = ⟨.token value category, call.actions, .done (.token result)⟩ := by
  obtain ⟨request, actions, rest⟩ := call
  obtain ⟨reply, hReply⟩ := Option.isSome_iff_exists.mp settled
  have hRest : rest = .done reply := by
    cases rest <;> cases hReply
    rfl
  subst hRest
  cases request with
  | lookup masked category => cases token
  | check => cases token
  | release => cases token
  | token value category =>
      obtain ⟨result, first, later, rfl, hFirst, hLater⟩ := Store.Program.Performs.of_bind h
      obtain ⟨rfl, rfl⟩ := hLater.done
      rw [List.append_nil]
      exact ⟨value, category, result, conduct_of_performs hFirst, rfl⟩

/-- The accounts of one call are balanced as soon as it has ended. -/
theorem balanced_of_performs (h : (call.request.program store).Performs call.actions call.rest)
    (settled : call.answer.isSome = true) : Balanced ⟨[call], call.actions⟩ := by
  cases hToken : call.isToken with
  | true =>
      obtain ⟨value, category, result, hConduct, hCall⟩ := performs_token h settled hToken
      rw [hCall]
      exact hConduct.balanced
  | false =>
      obtain ⟨hEvents, hWritten⟩ := performs_other h hToken
      obtain ⟨hSucceeded, hFailed⟩ := Call.unanswered hToken
      have hNone : events ⟨[call], call.actions⟩ = [] := hEvents
      constructor <;> simp [metrics_eq, hNone, hToken, hSucceeded, hFailed, hWritten]

theorem Sound.balanced (h : session.Sound store) (settled : session.Settled) :
    session.Balanced := by
  obtain ⟨calls, history⟩ := session
  -- The turns of the calls are mixed in the history, but no count depends on their order.
  refine Balanced.perm ?_ h.history
  have hEach : ∀ call ∈ calls, Balanced ⟨[call], call.actions⟩ := fun call member =>
    balanced_of_performs (h.performs call member) (settled call member)
  clear h settled
  induction calls with
  | nil => constructor <;> rfl
  | cons call rest ih =>
      have hRest := ih fun other member => hEach other (List.mem_cons_of_mem _ member)
      exact (hEach call List.mem_cons_self).append hRest

theorem Call.ended_of_failed (failed : call.failed = true) :
    call.answer.isSome = true ∧ call.isToken = true := by
  obtain ⟨request, actions, rest⟩ := call
  cases request with
  | token value category =>
      cases rest with
      | done reply => exact ⟨rfl, rfl⟩
      | _ => cases failed
  | _ => cases failed

theorem Sound.accounted (h : session.Sound store) : session.Accounted where
  history := h.history
  uncounted call member other metrics := by
    rw [(performs_other (h.performs call member) other).1]
    rfl
  hit call member ended hit := by
    cases hToken : call.isToken with
    | true =>
        obtain ⟨value, category, result, hConduct, _⟩ :=
          performs_token (h.performs call member) ended hToken
        exact hConduct.hit_reads hit
    | false =>
        rw [(performs_other (h.performs call member) hToken).1] at hit
        cases hit
  failed call member failed := by
    obtain ⟨hEnded, hToken⟩ := Call.ended_of_failed failed
    obtain ⟨value, category, result, hConduct, hCall⟩ :=
      performs_token (h.performs call member) hEnded hToken
    rw [hCall] at failed
    cases result with
    | ok token => cases failed
    | error error => exact hConduct.failed_writes
  balanced := h.balanced

end Accounts

end Session

end Masking
