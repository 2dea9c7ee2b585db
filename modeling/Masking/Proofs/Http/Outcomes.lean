import Masking.Proofs.Engine.Refusal
import Masking.Proofs.Http.Requests

/-! Outcomes of requests. Masking is answered with success however many store calls fail, a lookup
by what its read has come to, and the health of the service by whether the ping succeeds; none of
them takes longer than the time for a request, and after shutdown none of them calls the backend. -/

namespace Masking.Http

open Store (Attempt Backend CallContext Completes Ended Error Event Instant Key Program Responds
  Tokens World execute execute_bind execute_get execute_noting execute_ping readIn)

/-- The text that tells the value behind a token. -/
def lookupText (category masked value : String) : String :=
  (Json.obj [("category", .str category), ("masked", .str masked), ("original", .str value)]).text

/-- The members of a record in a text: its attributes, and its body if it has one. -/
def recordMembers (record : LogRecord) : List (String × Json) :=
  ("attributes", .obj record.attributes) ::
    record.body.toList.map fun body => ("body", body)

/-- The text that tells the records of a batch and its totals. -/
def batchText (batch : LogBatch) (summary : BatchSummary) : String :=
  (Json.obj
    [("records", .arr (batch.records.map fun record => .obj (recordMembers record))),
     ("summary", .obj
       [("records", .nat summary.records), ("fields_masked", .nat summary.fieldsMasked),
        ("fields_failed", .nat summary.fieldsFailed),
        ("bodies_masked", .nat summary.bodiesMasked)])]).text

theorem unmaskAnswer_body (category masked value : String) :
    (unmaskAnswer category masked value).body = lookupText category masked value := rfl

theorem toJson_eq_members (record : LogRecord) : record.toJson = .obj (recordMembers record) := by
  obtain ⟨attributes, _ | body⟩ := record <;> rfl

theorem maskAnswer_body (batch : LogBatch) (summary : BatchSummary) :
    (maskAnswer batch summary).body = batchText batch summary := by
  have hRecords : batch.records.map LogRecord.toJson =
      batch.records.map fun record => .obj (recordMembers record) :=
    List.map_congr_left fun record _ => toJson_eq_members record
  rw [maskAnswer, hRecords]
  rfl

section Programs

variable {σ : Type} {backend : Backend σ} {context : CallContext}

/-- The answer to a lookup, from what its read has found. -/
def unmaskReply (category masked : String) : Except Error (Option String) → Response
  | .ok (some value) => unmaskAnswer category masked value
  | .ok none => (Failure.notFound category masked).respond
  | .error error => (Failure.store error).respond

def healthReply : Except Error Unit → Response
  | .ok () => healthAnswer 200 "UP"
  | .error _ => healthAnswer 503 "DOWN"

def healthEvents : Except Error Unit → List Event
  | .ok () => []
  | .error error => [.log ⟨.warn, "Store health check failed", [("error", error.text)], none⟩]

theorem execute_unmask (category masked : String) (world : World σ) :
    execute backend context (unmask category masked) world =
      (readIn backend context (Key.ofMasked ⟨category⟩ masked).text world).map
        fun read => (unmaskReply category masked read.1, [], read.2) := by
  have hUnmask : unmask category masked =
      .get (Key.ofMasked ⟨category⟩ masked).text fun found =>
        .done (unmaskReply category masked found) := by
    have hNext : ∀ found : Except Error (Option String),
        (match found with
          | .ok (some value) => Program.done (unmaskAnswer category masked value)
          | .ok none => Program.done (Failure.notFound category masked).respond
          | .error error => Program.done (Failure.store error).respond) =
          Program.done (unmaskReply category masked found) := by
      rintro (error | _ | value) <;> rfl
    exact congrArg _ (funext hNext)
  rw [hUnmask, execute_get]
  cases readIn backend context (Key.ofMasked ⟨category⟩ masked).text world <;> rfl

theorem execute_checkHealth (world : World σ) :
    execute backend context checkHealth world =
      (Store.run context "ping" backend.ping world).map
        fun done => (healthReply done.1, healthEvents done.1, done.2) := by
  rw [checkHealth, MaskingEngine.healthCheck, Program.check, Program.bind_eq, Program.bind,
    execute_ping]
  cases Store.run context "ping" backend.ping world with
  | none => rfl
  | some done =>
      obtain ⟨answer, after⟩ := done
      rcases answer with error | _ <;> rfl

theorem execute_mask (engine : MaskingEngine) (batch : LogBatch) (world : World σ) :
    execute backend context (mask engine batch) world =
      (execute backend context (engine.processBatch batch) world).map fun done =>
        (maskAnswer done.1.1 done.1.2,
          done.2.1 ++
            [.log ⟨.info, "Batch masked", MaskingEngine.summaryFields done.1.2, none⟩],
          done.2.2) := by
  rw [mask, Program.bind_eq, execute_bind]
  cases execute backend context (engine.processBatch batch) world <;> rfl

end Programs

theorem decodePart_eq {name part text : String}
    (h : Text.fromUtf8 (Text.percentDecode (Text.utf8 part)) = some text) :
    decodePart name part = .ok text := by
  rw [decodePart, h]

/-- The request asks for a batch to be masked. -/
def Request.AsksMask (request : Request) : Prop :=
  findRoute request.path = some .mask ∧ request.method = "POST"

/-- The request asks for the value behind a token, with both parts of its path as they are when
decoded. -/
def Request.AsksUnmask (request : Request) (category masked : String) : Prop :=
  request.method = "GET" ∧ ∃ rawCategory rawMasked,
    findRoute request.path = some (.unmask rawCategory rawMasked) ∧
      decodePart "category" rawCategory = .ok category ∧ decodePart "masked" rawMasked = .ok masked

/-- The request asks whether the service is up. -/
def Request.AsksHealth (request : Request) : Prop :=
  findRoute request.path = some .health ∧ request.method = "GET"

theorem Request.AsksMask.whole {request : Request} (asks : request.AsksMask) :
    request.method ≠ "HEAD" := by
  rw [asks.2]
  decide

theorem Request.AsksUnmask.whole {request : Request} {category masked : String}
    (asks : request.AsksUnmask category masked) : request.method ≠ "HEAD" := by
  rw [asks.1]
  decide

theorem Request.AsksHealth.whole {request : Request} (asks : request.AsksHealth) :
    request.method ≠ "HEAD" := by
  rw [asks.2]
  decide

theorem readBatch_refuses {request : Request} {failure : Failure}
    (h : readBatch request = .error failure) : ∃ message, failure = .badRequest message := by
  rw [readBatch] at h
  split at h
  · split at h
    · cases h
      exact ⟨_, rfl⟩
    · split at h <;> cases h <;> exact ⟨_, rfl⟩
  · cases h
    exact ⟨_, rfl⟩

/-- What a lookup comes to. It is a timeout exactly when its read does not complete; otherwise the
answer is what the read has found. -/
structure UnmaskOutcome {σ : Type} (context : CallContext)
    (attempt : Instant → σ → Attempt σ (Option String)) (start : World σ)
    (category masked : String) (status : Nat) (body : String) : Prop where
  found : Completes context attempt start →
    ∀ value, (attempt start.now start.store).finish.1 = .ok (some value) →
      status = 200 ∧ body = lookupText category masked value
  missing : Completes context attempt start →
    (attempt start.now start.store).finish.1 = .ok none → status = 404
  interrupted : ¬ Completes context attempt start → status = 504
  failed : Completes context attempt start →
    ∀ error, (attempt start.now start.store).finish.1 = .error error →
      status = if error.isInterrupted then 504 else 503

section Lookups

variable {σ : Type} {context : CallContext} {attempt : Instant → σ → Attempt σ (Option String)}
  {start after : World σ} {category masked : String}

theorem storeFailure_status (error : Error) :
    (Failure.store error).respond.status = if error.isInterrupted then 504 else 503 := by
  cases h : error.isInterrupted <;> simp [Failure.respond, h, Response.json]

/-- The reply to a read is what the read has come to. -/
theorem unmaskOutcome_of_ended {answer : Except Error (Option String)}
    (ended : Ended context attempt start answer after) :
    UnmaskOutcome context attempt start category masked (unmaskReply category masked answer).status
      (unmaskReply category masked answer).body where
  found completes value finish := by
    obtain ⟨rfl, _⟩ := ended.of_completes completes
    rw [finish]
    exact ⟨rfl, unmaskAnswer_body category masked value⟩
  missing completes finish := by
    obtain ⟨rfl, _⟩ := ended.of_completes completes
    rw [finish]
    rfl
  interrupted incomplete := by
    obtain ⟨⟨error, rfl, hCause⟩, _⟩ := ended.of_not_completes incomplete
    rw [unmaskReply, storeFailure_status, if_pos hCause]
  failed completes error finish := by
    obtain ⟨rfl, _⟩ := ended.of_completes completes
    rw [finish, unmaskReply, storeFailure_status]

/-- The reply to a ping is success exactly when the ping has succeeded before it was cut off. -/
theorem healthReply_status {ping : Instant → σ → Attempt σ Unit} {answer : Except Error Unit}
    (ended : Ended context ping start answer after) :
    (healthReply answer).status = 200 ↔
      Completes context ping start ∧ (ping start.now start.store).finish.1 = .ok () := by
  by_cases completes : Completes context ping start
  · obtain ⟨rfl, _⟩ := ended.of_completes completes
    cases hFinish : (ping start.now start.store).finish.1 with
    | ok => simp [completes, healthReply, healthAnswer, Response.json]
    | error error => simp [healthReply, healthAnswer, Response.json]
  · obtain ⟨⟨error, rfl, _⟩, _⟩ := ended.of_not_completes completes
    simp [completes, healthReply, healthAnswer, Response.json]

end Lookups

namespace Service

variable {σ : Type} {service : Service} {backend : Backend σ} {entropy : Nat} {request : Request}
  {live : Live σ} {context : CallContext} {tokens : Tokens}

/-- The handler of a request has made this context for its store calls. -/
def Opens (service : Service) (live : Live σ) (context : CallContext) (tokens : Tokens) : Prop :=
  service.callContext live.world.now live.world.tokens = some (context, tokens)

/-- The service has been told to shut down. -/
def Stopped (service : Service) (live : Live σ) : Prop :=
  live.world.tokens.isCancelled service.shutdown live.world.now = true

section Plans

theorem plan_mask (asks : request.AsksMask) {batch : LogBatch}
    (accepted : readBatch request = .ok batch) (recorder : Recorder) :
    service.plan recorder request = .program (mask service.engine batch) := by
  obtain ⟨hRoute, hMethod⟩ := asks
  simp only [plan, hRoute, Route.accepts, hMethod, decide_true, if_true, handle, accepted]

theorem plan_refused (asks : request.AsksMask) {failure : Failure}
    (refused : readBatch request = .error failure) (recorder : Recorder) :
    service.plan recorder request = .ready failure.respond := by
  obtain ⟨hRoute, hMethod⟩ := asks
  simp only [plan, hRoute, Route.accepts, hMethod, decide_true, if_true, handle, refused]

theorem plan_unmask {category masked : String} (asks : request.AsksUnmask category masked)
    (recorder : Recorder) :
    service.plan recorder request = .program (unmask category masked) := by
  obtain ⟨hMethod, rawCategory, rawMasked, hRoute, hCategory, hMasked⟩ := asks
  simp only [plan, hRoute, Route.accepts, hMethod, decide_true, Bool.true_or, if_true, handle,
    hCategory, hMasked]

theorem plan_health (asks : request.AsksHealth) (recorder : Recorder) :
    service.plan recorder request = .program checkHealth := by
  obtain ⟨hRoute, hMethod⟩ := asks
  simp only [plan, hRoute, Route.accepts, hMethod, decide_true, Bool.true_or, if_true, handle]

end Plans

section Laws

variable {batch : LogBatch} {category masked : String}

theorem Opens.responds {τ : Type} (made : service.Opens live context tokens)
    (backend : Backend τ) : Responds backend context := by
  refine Or.inl ?_
  rw [deadline_of_callContext made]
  rfl

theorem Opens.interrupted (made : service.Opens live context tokens)
    (stopped : service.Stopped live) : context.Interrupted tokens live.world.now :=
  interrupted_of_shutdown made stopped

theorem refused_answers (asks : request.AsksMask) {failure : Failure}
    (refused : readBatch request = .error failure) :
    ∃ body, service.Answers backend entropy request live 400 body [] live.world := by
  obtain ⟨message, rfl⟩ := readBatch_refuses refused
  exact ⟨_, answers_of_ready (plan_refused asks refused live.recorder) asks.whole⟩

/-- An accepted batch is answered with what the engine makes of it, in time. -/
theorem mask_answers (asks : request.AsksMask) (accepted : readBatch request = .ok batch)
    (made : service.Opens live context tokens) :
    ∃ out summary events calls after,
      execute backend context (service.engine.processBatch batch) (live.start tokens) =
          some ((out, summary), events, after) ∧
        service.Answers backend entropy request live 200 (batchText out summary) calls after ∧
        after.now ≤ live.world.now + service.requestTimeout := by
  have only := service.engine.processBatch_entriesOnly batch
  -- The calls are those of a run that notes them, which is the same run once they are forgotten.
  have ends := (made.responds backend.noting).ends only (live.start tokens).withoutNotes
  obtain ⟨⟨out, summary⟩, events, after, hNoted⟩ := ends.exists_result
  have hPlain := execute_noting backend context (service.engine.processBatch batch)
    (live.start tokens).withoutNotes
  rw [hNoted] at hPlain
  have hMask : execute backend.noting context (mask service.engine batch)
      (live.start tokens).withoutNotes = some (maskAnswer out summary,
        events ++ [.log ⟨.info, "Batch masked", MaskingEngine.summaryFields summary, none⟩],
          after) := by
    rw [execute_mask, hNoted]
    rfl
  refine ⟨out, summary, events, after.store.1, after.forget, hPlain.symm, ?_, ?_⟩
  · rw [← maskAnswer_body]
    exact answers_of_program (plan_mask asks accepted live.recorder) made hMask asks.whole
  · exact Store.now_le_deadline_of_execute only hPlain.symm (deadline_of_callContext made)
      (Nat.le_add_right _ _)

/-- A lookup is answered by what its read comes to, in time. -/
theorem unmask_answers (asks : request.AsksUnmask category masked)
    (made : service.Opens live context tokens) :
    ∃ status body calls after,
      service.Answers backend entropy request live status body calls after ∧
        UnmaskOutcome context
          (fun now store => backend.get now store (Key.ofMasked ⟨category⟩ masked).text)
          (live.start tokens) category masked status body ∧
        after.now ≤ live.world.now + service.requestTimeout := by
  obtain ⟨answer, after, hRead⟩ := (made.responds backend.noting).exists_read
    (Key.ofMasked ⟨category⟩ masked).text (live.start tokens).withoutNotes
  have hPlain := Store.run_noted context "get"
    (fun now store => backend.get now store (Key.ofMasked ⟨category⟩ masked).text)
    (fun state => state.1 ++ [.get (Key.ofMasked ⟨category⟩ masked).text])
    (live.start tokens).withoutNotes
  have hEnded := Store.run_ended (hPlain.symm.trans (congrArg _ hRead))
  have hUnmask : execute backend.noting context (unmask category masked)
      (live.start tokens).withoutNotes = some (unmaskReply category masked answer, [], after) := by
    rw [execute_unmask, hRead]
    rfl
  exact ⟨_, _, after.store.1, after.forget,
    answers_of_program (plan_unmask asks live.recorder) made hUnmask asks.whole,
    unmaskOutcome_of_ended hEnded,
    hEnded.now_le_deadline (deadline_of_callContext made) (Nat.le_add_right _ _)⟩

/-- The service is up exactly when the ping succeeds in time. -/
theorem health_answers (asks : request.AsksHealth) (made : service.Opens live context tokens) :
    ∃ status body calls after,
      service.Answers backend entropy request live status body calls after ∧
        (status = 200 ↔ Completes context backend.ping (live.start tokens) ∧
          (backend.ping live.world.now live.world.store).finish.1 = .ok ()) ∧
        (status = 200 ∨ status = 503) ∧
        after.now ≤ live.world.now + service.requestTimeout := by
  obtain ⟨answer, after, hPing⟩ : ∃ answer after,
      Store.run context "ping" backend.noting.ping (live.start tokens).withoutNotes =
        some (answer, after) :=
    Store.exists_run (Or.inl (by rw [deadline_of_callContext made]; rfl))
  have hPlain := Store.run_noted context "ping" backend.ping (fun state => state.1 ++ [.ping])
    (live.start tokens).withoutNotes
  have hEnded := Store.run_ended (hPlain.symm.trans (congrArg _ hPing))
  have hHealth : execute backend.noting context checkHealth (live.start tokens).withoutNotes =
      some (healthReply answer, healthEvents answer, after) := by
    rw [execute_checkHealth, hPing]
    rfl
  refine ⟨_, _, after.store.1, after.forget,
    answers_of_program (plan_health asks live.recorder) made hHealth asks.whole,
    healthReply_status hEnded, ?_,
    hEnded.now_le_deadline (deadline_of_callContext made) (Nat.le_add_right _ _)⟩
  cases answer with
  | ok => exact Or.inl rfl
  | error => exact Or.inr rfl

/-- After shutdown a batch is given back as it was, and the backend is not called. -/
theorem mask_stopped (asks : request.AsksMask) (accepted : readBatch request = .ok batch)
    (made : service.Opens live context tokens) (stopped : service.Stopped live) :
    service.Answers backend entropy request live 200
      (batchText batch (service.engine.refusedSummary batch)) [] (live.start tokens) := by
  have interrupted := made.interrupted stopped
  obtain ⟨events, hNoted⟩ : ∃ events,
      execute backend.noting context (service.engine.processBatch batch)
        (live.start tokens).withoutNotes = some ((batch, service.engine.refusedSummary batch),
          events, (live.start tokens).withoutNotes) :=
    service.engine.execute_processBatch_refused batch (made.responds backend.noting) interrupted
  have hMask : execute backend.noting context (mask service.engine batch)
      (live.start tokens).withoutNotes =
        some (maskAnswer batch (service.engine.refusedSummary batch),
          events ++ [.log ⟨.info, "Batch masked",
            MaskingEngine.summaryFields (service.engine.refusedSummary batch), none⟩],
          (live.start tokens).withoutNotes) := by
    rw [execute_mask]
    exact congrArg _ hNoted
  rw [← maskAnswer_body]
  exact answers_of_program (plan_mask asks accepted live.recorder) made hMask asks.whole

theorem unmask_stopped (asks : request.AsksUnmask category masked)
    (made : service.Opens live context tokens) (stopped : service.Stopped live) :
    ∃ body, service.Answers backend entropy request live 504 body [] (live.start tokens) := by
  obtain ⟨error, hCause, hRead⟩ : ∃ error : Error, error.isInterrupted = true ∧
      readIn backend.noting context (Key.ofMasked ⟨category⟩ masked).text
        (live.start tokens).withoutNotes = some (.error error, (live.start tokens).withoutNotes) :=
    Store.run_refused (made.interrupted stopped)
  have hUnmask : execute backend.noting context (unmask category masked)
      (live.start tokens).withoutNotes =
        some ((Failure.store error).respond, [], (live.start tokens).withoutNotes) := by
    rw [execute_unmask, hRead]
    rfl
  have hAnswers : service.Answers backend entropy request live
      (Failure.store error).respond.status (Failure.store error).respond.body []
        (live.start tokens) :=
    answers_of_program (plan_unmask asks live.recorder) made hUnmask asks.whole
  rw [storeFailure_status, if_pos hCause] at hAnswers
  exact ⟨_, hAnswers⟩

theorem health_stopped (asks : request.AsksHealth) (made : service.Opens live context tokens)
    (stopped : service.Stopped live) :
    ∃ body, service.Answers backend entropy request live 503 body [] (live.start tokens) := by
  obtain ⟨error, _, hPing⟩ : ∃ error : Error, error.isInterrupted = true ∧
      Store.run context "ping" backend.noting.ping (live.start tokens).withoutNotes =
        some (.error error, (live.start tokens).withoutNotes) :=
    Store.run_refused (made.interrupted stopped)
  have hHealth : execute backend.noting context checkHealth (live.start tokens).withoutNotes =
      some (healthAnswer 503 "DOWN", healthEvents (.error error),
        (live.start tokens).withoutNotes) := by
    rw [execute_checkHealth, hPing]
    rfl
  exact ⟨_, answers_of_program (plan_health asks live.recorder) made hHealth asks.whole⟩

end Laws

/-- How requests come out, whatever the backend does. Wherever store calls are made, it is in a
context with the time of one request, which there is as long as the clock can hold its end. -/
structure Outcomes {σ : Type} (service : Service) (backend : Backend σ) (entropy : Nat)
    (live : Live σ) : Prop where
  opens : (live.world.now + service.requestTimeout) / 1000 ≤ Store.maxSeconds →
    ∃ context tokens, service.Opens live context tokens
  /-- A body that is rejected is answered without a store call. -/
  refused : ∀ (request : Request) (failure : Failure), request.AsksMask →
    readBatch request = .error failure →
      ∃ body, service.Answers backend entropy request live 400 body [] live.world
  masked : ∀ (request : Request) (batch : LogBatch) context tokens, request.AsksMask →
    readBatch request = .ok batch → service.Opens live context tokens →
      ∃ out summary events calls after,
        execute backend context (service.engine.processBatch batch) (live.start tokens) =
            some ((out, summary), events, after) ∧
          service.Answers backend entropy request live 200 (batchText out summary) calls after ∧
          after.now ≤ live.world.now + service.requestTimeout
  unmasked : ∀ (request : Request) (category masked : String) context tokens,
    request.AsksUnmask category masked → service.Opens live context tokens →
      ∃ status body calls after,
        service.Answers backend entropy request live status body calls after ∧
          UnmaskOutcome context
            (fun now store => backend.get now store (Key.ofMasked ⟨category⟩ masked).text)
            (live.start tokens) category masked status body ∧
          after.now ≤ live.world.now + service.requestTimeout
  health : ∀ (request : Request) context tokens, request.AsksHealth →
    service.Opens live context tokens →
      ∃ status body calls after,
        service.Answers backend entropy request live status body calls after ∧
          (status = 200 ↔ Completes context backend.ping (live.start tokens) ∧
            (backend.ping live.world.now live.world.store).finish.1 = .ok ()) ∧
          (status = 200 ∨ status = 503) ∧
          after.now ≤ live.world.now + service.requestTimeout
  /-- After shutdown the batch is unchanged, every listed attribute is counted as failed, and there
  are no store calls. -/
  maskedLate : ∀ (request : Request) (batch : LogBatch) context tokens, request.AsksMask →
    readBatch request = .ok batch → service.Opens live context tokens → service.Stopped live →
      service.Answers backend entropy request live 200
        (batchText batch (service.engine.refusedSummary batch)) [] (live.start tokens)
  unmaskedLate : ∀ (request : Request) (category masked : String) context tokens,
    request.AsksUnmask category masked → service.Opens live context tokens →
      service.Stopped live →
        ∃ body, service.Answers backend entropy request live 504 body [] (live.start tokens)
  healthLate : ∀ (request : Request) context tokens, request.AsksHealth →
    service.Opens live context tokens → service.Stopped live →
      ∃ body, service.Answers backend entropy request live 503 body [] (live.start tokens)

/-- Requests come out as they should in every state of the service and over every backend, which may
refuse calls, answer late or never. -/
theorem answers_lawful (service : Service) (backend : Backend σ) (entropy : Nat) (live : Live σ) :
    service.Outcomes backend entropy live where
  opens fits := exists_callContext fits live.world.tokens
  refused _ _ asks refused := refused_answers asks refused
  masked _ _ _ _ asks accepted made := mask_answers asks accepted made
  unmasked _ _ _ _ _ asks made := unmask_answers asks made
  health _ _ _ asks made := health_answers asks made
  maskedLate _ _ _ _ asks accepted made stopped := mask_stopped asks accepted made stopped
  unmaskedLate _ _ _ _ _ asks made stopped := unmask_stopped asks made stopped
  healthLate _ _ _ asks made stopped := health_stopped asks made stopped

/-- A service with a second for each request. -/
def sample : Service := ⟨MaskingEngine.sampleEngine, 0, 1000⟩

/-- The service runs, and looking for anything about `bob` never ends. -/
def sampleLive : Live Store.Scripted.State :=
  ⟨⟨0, (Tokens.none.make none).2, [], [MaskingEngine.silence], []⟩, .empty⟩

theorem answers_lawful_silence :
    Request.AsksUnmask ⟨"GET", "/v1/unmask/attribute_user/bob", [], ""⟩ "attribute_user" "bob" ∧
      ∃ body calls after,
        sample.Answers (Store.Scripted.backend "scripted") 0
            ⟨"GET", "/v1/unmask/attribute_user/bob", [], ""⟩ sampleLive 504 body calls after ∧
          after.now ≤ 1000 := by
  have asks : Request.AsksUnmask ⟨"GET", "/v1/unmask/attribute_user/bob", [], ""⟩
      "attribute_user" "bob" :=
    ⟨rfl, "attribute_user", "bob", by decide +kernel, decodePart_eq (by decide +kernel),
      decodePart_eq (by decide +kernel)⟩
  have law := sample.answers_lawful (Store.Scripted.backend "scripted") 0 sampleLive
  obtain ⟨context, tokens, made⟩ := law.opens (by decide)
  obtain ⟨status, body, calls, after, hAnswers, hOutcome, hTime⟩ :=
    law.unmasked _ _ _ context tokens asks made
  have hStatus : status = 504 := by
    refine hOutcome.interrupted fun completes => ?_
    obtain ⟨_, duration, hDelay, _⟩ := completes
    cases hDelay
  subst hStatus
  exact ⟨asks, body, calls, after, hAnswers, hTime⟩

end Service

end Masking.Http
