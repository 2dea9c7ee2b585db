import Masking.Http.Service
import Masking.Proofs.Store.Interruption
import Masking.Proofs.Store.Notes
import Masking.Proofs.Store.Tokens

/-! Requests as runs of programs. What a request is answered is what its program ends in, and all
store calls for it are made in one context, which ends with the service and with its time. -/

namespace Masking

open Store (Backend Call CallContext Event Instant Program TokenId Tokens World execute
  execute_noting)

namespace Http

/-- The headers keep all values of other names. -/
theorem Headers.find_put {headers : Headers} {name other value : String} (h : other ≠ name) :
    (headers.put name value).find other = headers.find other := by
  induction headers with
  | nil =>
      have hOther : (other == name) = false := beq_eq_false_iff_ne.mpr h
      simp [put, find, List.lookup_cons, hOther]
  | cons header rest ih =>
      obtain ⟨key, old⟩ := header
      by_cases hKey : key = name
      · subst hKey
        have hOther : (other == key) = false := by simpa using h
        rw [put, List.filter_cons_of_neg (by simp)]
        exact ih.trans (by simp [find, List.lookup_cons, hOther])
      · rw [put, List.filter_cons_of_pos (by simpa using hKey), List.cons_append, ← put]
        by_cases hSame : other = key
        · simp [find, hSame]
        · have hOther : (other == key) = false := by simpa using hSame
          simp only [find, List.lookup_cons, hOther] at ih ⊢
          exact ih

/-- The request with its name among the headers. -/
def Request.named (request : Request) (entropy : Nat) : Request :=
  { request with
    headers := request.headers.put requestIdHeader (RequestId.choose entropy request.headers) }

/-- The world in which the program of a request begins. -/
def Live.start {σ : Type} (live : Live σ) (tokens : Tokens) : World σ :=
  { live.world with tokens }

namespace Service

variable {σ : Type} (service : Service)

section Contexts

variable {service} {now : Instant} {tokens later : Tokens} {context : CallContext}

/-- There is a context for a request as long as the clock can hold its deadline. -/
theorem exists_callContext
    (fits : (now + service.requestTimeout) / 1000 ≤ Store.maxSeconds) (tokens : Tokens) :
    ∃ context later, service.callContext now tokens = some (context, later) := by
  rw [callContext, Instant.after, if_pos fits]
  exact ⟨_, _, rfl⟩

theorem deadline_of_callContext (h : service.callContext now tokens = some (context, later)) :
    context.deadline = some (now + service.requestTimeout) := by
  rw [callContext, Instant.after] at h
  split at h
  next => cases h
  next deadline hDeadline =>
    cases h
    split at hDeadline
    · exact hDeadline.symm
    · cases hDeadline

theorem interrupted_of_shutdown (h : service.callContext now tokens = some (context, later))
    (stopped : tokens.isCancelled service.shutdown now = true) : context.Interrupted later now := by
  rw [callContext] at h
  split at h
  next => cases h
  next deadline _ =>
    cases h
    exact Or.inl (Tokens.comes_cancelAt.mpr (Tokens.isCancelled_iff.mp stopped).child)

end Contexts

/-- The name of a request has no part in what is done for it. -/
theorem plan_named (recorder : Recorder) (request : Request) (entropy : Nat) :
    service.plan recorder (request.named entropy) = service.plan recorder request := by
  have hType : (request.named entropy).headers.find "content-type" =
      request.headers.find "content-type" := Headers.find_put (by decide)
  have hBatch : readBatch (request.named entropy) = readBatch request := by
    rw [readBatch, readBatch, hType]
    rfl
  have hHandle : ∀ route, service.handle recorder (request.named entropy) route =
      service.handle recorder request route := by
    intro route
    cases route <;> simp only [handle, hBatch]
  have hPath : (request.named entropy).path = request.path := rfl
  have hMethod : (request.named entropy).method = request.method := rfl
  simp only [plan, hPath, hMethod, hHandle]

/-- The answer, the log and the counts of a request whose task has been done. -/
def finished (entropy : Nat) (request : Request) (recorder : Recorder)
    (done : Response × List Event × World σ) : Response × List Event × Live σ :=
  let id := RequestId.choose entropy request.headers
  let answer := sent request.method done.1
  let opening : Event := .log ⟨.debug, "Request started", [], none⟩
  let lines := opening :: done.2.1 ++ [closing request.path answer.status]
  ({ answer with headers := answer.headers.put requestIdHeader id },
    lines.map (Event.within (spanOf (request.named entropy))),
    ⟨done.2.2, (recorder.absorbAll done.2.1).countRequest request.method (pathLabel request.path)
      done.1.status⟩)

theorem respond_eq (backend : Backend σ) (entropy : Nat) (request : Request) (live : Live σ) :
    service.respond backend entropy request live =
      (service.perform backend (service.plan live.recorder request) live.world).map
        (finished entropy request live.recorder) := by
  have hPlan := service.plan_named live.recorder request entropy
  rw [← hPlan]
  delta respond logged measured
  simp only [Request.named]
  cases service.perform backend _ live.world <;> rfl

theorem perform_noting (backend : Backend σ) (task : Task) (world : World (List Call × σ)) :
    (service.perform backend.noting task world).map
        (fun done => (done.1, done.2.1, done.2.2.forget)) =
      service.perform backend task world.forget := by
  cases task with
  | ready response => rfl
  | program program =>
      simp only [perform, World.forget]
      split
      next => rfl
      next context tokens _ => exact execute_noting backend context program { world with tokens }

/-- A request is answered with a status and a body after some calls to the backend, and leaves a
world. The calls are those that a backend which notes them has received. -/
def Answers (backend : Backend σ) (entropy : Nat) (request : Request) (live : Live σ)
    (status : Nat) (body : String) (calls : List Call) (world : World σ) : Prop :=
  ∃ response events recorder,
    service.respond backend entropy request live = some (response, events, ⟨world, recorder⟩) ∧
      service.respond backend.noting entropy request ⟨live.world.withoutNotes, live.recorder⟩ =
        some (response, events, ⟨⟨world.now, world.tokens, (calls, world.store)⟩, recorder⟩) ∧
      response.status = status ∧ response.body = body

section Answers

variable {service} {backend : Backend σ} {entropy : Nat} {request : Request} {live : Live σ}
  {response : Response} {events : List Event}

theorem answers_of_perform {after : World (List Call × σ)}
    (done : service.perform backend.noting (service.plan live.recorder request)
      live.world.withoutNotes = some (response, events, after))
    (whole : request.method ≠ "HEAD") :
    service.Answers backend entropy request live response.status response.body after.store.1
      after.forget := by
  have hPlain := service.perform_noting backend (service.plan live.recorder request)
    live.world.withoutNotes
  rw [done] at hPlain
  have hSent : sent request.method response = response := if_neg whole
  refine ⟨(finished entropy request live.recorder (response, events, after)).1,
    (finished entropy request live.recorder (response, events, after)).2.1,
    (finished entropy request live.recorder (response, events, after)).2.2.recorder, ?_, ?_, ?_, ?_⟩
  · rw [respond_eq, show live.world = live.world.withoutNotes.forget from rfl, ← hPlain]
    rfl
  · rw [respond_eq, done]
    rfl
  · simp only [finished, hSent]
  · simp only [finished, hSent]

/-- A request whose answer is known already takes no call and no time. -/
theorem answers_of_ready (plan : service.plan live.recorder request = .ready response)
    (whole : request.method ≠ "HEAD") :
    service.Answers backend entropy request live response.status response.body [] live.world := by
  have hDone : service.perform backend.noting (service.plan live.recorder request)
      live.world.withoutNotes = some (response, [], live.world.withoutNotes) := by
    rw [plan]
    rfl
  exact answers_of_perform hDone whole

/-- A program is executed in the context that was made for its request. -/
theorem answers_of_program {program : Program Response} {context : CallContext} {tokens : Tokens}
    {after : World (List Call × σ)} (plan : service.plan live.recorder request = .program program)
    (made : service.callContext live.world.now live.world.tokens = some (context, tokens))
    (done : execute backend.noting context program (live.start tokens).withoutNotes =
      some (response, events, after))
    (whole : request.method ≠ "HEAD") :
    service.Answers backend entropy request live response.status response.body after.store.1
      after.forget := by
  have hDone : service.perform backend.noting (service.plan live.recorder request)
      live.world.withoutNotes = some (response, events, after) := by
    rw [plan]
    simp only [perform, World.withoutNotes, made]
    exact done
  exact answers_of_perform hDone whole

end Answers

end Service

end Http

end Masking
