import Masking.Proofs.Http.Outcomes
import Masking.Settings.Basic

/-! Deadlines of requests. A request that needs the store is answered exactly when the clock can
hold its deadline, and validation lets pass timeouts with which the clock never can. -/

namespace Masking

open Store (Backend CallContext Instant Program Tokens TokenId World execute)

namespace Http.Service

variable {σ : Type} {service : Service}

/-- The answer to a request is known without the store. -/
def Immediate (service : Service) (recorder : Recorder) (request : Request) : Prop :=
  ∃ response, service.plan recorder request = .ready response

/-- What is done for a request comes to an end when it has a deadline. -/
theorem exists_done_of_plan {recorder : Recorder} {request : Request} {program : Program Response}
    {backend : Backend σ} {context : CallContext}
    (h : service.plan recorder request = .program program)
    (limited : context.deadline.isSome = true) (world : World σ) :
    ∃ done, execute backend context program world = some done := by
  have responds : Store.Responds backend context := Or.inl limited
  rw [plan] at h
  split at h
  next => cases h
  next route _ =>
    split at h
    next =>
      cases route with
      | health =>
          cases h
          obtain ⟨answer, after, hPing⟩ : ∃ answer after,
              Store.run context "ping" backend.ping world = some (answer, after) :=
            Store.exists_run (Or.inl limited)
          exact ⟨_, by rw [execute_checkHealth, hPing]; rfl⟩
      | metrics => cases h
      | mask =>
          simp only [handle] at h
          split at h
          next batch _ =>
            cases h
            have hEnds := responds.ends (service.engine.processBatch_entriesOnly batch) world
            obtain ⟨result, events, after, hRun⟩ := hEnds.exists_result
            exact ⟨_, by rw [execute_mask, hRun]; rfl⟩
          next => cases h
      | unmask category masked =>
          simp only [handle] at h
          split at h
          next category masked _ _ =>
            cases h
            obtain ⟨answer, after, hRead⟩ :=
              responds.exists_read (Store.Key.ofMasked ⟨category⟩ masked).text world
            exact ⟨_, by rw [execute_unmask, hRead]; rfl⟩
          next => cases h
          next => cases h
    next => cases h

theorem isSome_callContext_iff {now : Instant} {tokens : Tokens} :
    (service.callContext now tokens).isSome = true ↔
      (now + service.requestTimeout) / 1000 ≤ Store.maxSeconds := by
  rw [callContext, Instant.after]
  split
  next hNone =>
    split at hNone
    next => cases hNone
    next late => exact ⟨fun made => (by cases made), fun fits => absurd fits late⟩
  next hSome =>
    split at hSome
    next fits => exact ⟨fun _ => fits, fun _ => rfl⟩
    next => cases hSome

/-- A request is answered when it does not need the store, or the clock can hold its deadline. -/
theorem isSome_respond_iff (backend : Backend σ) (entropy : Nat) {request : Request}
    {live : Live σ} :
    (service.respond backend entropy request live).isSome = true ↔
      service.Immediate live.recorder request ∨
        (live.world.now + service.requestTimeout) / 1000 ≤ Store.maxSeconds := by
  rw [respond_eq, Option.isSome_map, ← isSome_callContext_iff]
  cases hPlan : service.plan live.recorder request with
  | ready response => exact ⟨fun _ => Or.inl ⟨response, hPlan⟩, fun _ => rfl⟩
  | program program =>
      have hNot : ¬ service.Immediate live.recorder request := by
        rintro ⟨response, hReady⟩
        cases hPlan.symm.trans hReady
      rw [or_iff_right hNot, perform]
      cases hContext : service.callContext live.world.now live.world.tokens with
      | none => exact Iff.rfl
      | some made =>
          obtain ⟨context, tokens⟩ := made
          have limited : context.deadline.isSome = true := by
            rw [deadline_of_callContext hContext]
            rfl
          obtain ⟨done, hDone⟩ :=
            exists_done_of_plan hPlan limited { live.world with tokens := tokens }
          exact ⟨fun _ => rfl, fun _ => Option.isSome_iff_exists.mpr ⟨done, hDone⟩⟩

/-- The service with the timeout that the settings say. -/
def ofSettings (settings : Settings) (engine : MaskingEngine) (shutdown : TokenId) : Service :=
  ⟨engine, shutdown, settings.requestTimeout⟩

end Http.Service

namespace Settings

open Http (Live Request Service)

/-- What the timeout in the settings comes to. The clock can hold the deadline of a request as long
as the seconds on it and those of the timeout together fit 63 bits; the deadline is then that much
later. Otherwise all requests that need the store are given up without an answer, and validation
does not keep anyone from that. -/
structure Timeout (settings : Settings) : Prop where
  unchecked : ∀ seconds, ({ settings with
    server := { settings.server with requestTimeoutSecs := seconds } } : Settings).validate.2 =
      settings.validate.2
  context : ∀ engine shutdown now tokens,
    ((Service.ofSettings settings engine shutdown).callContext now tokens).isSome = true ↔
      now / 1000 + settings.server.requestTimeoutSecs ≤ Store.maxSeconds
  deadline : ∀ engine shutdown now tokens context later,
    (Service.ofSettings settings engine shutdown).callContext now tokens = some (context, later) →
      context.deadline = some (now + settings.server.requestTimeoutSecs * 1000)
  answered : ∀ {σ : Type} engine shutdown (backend : Backend σ) entropy request (live : Live σ),
    ((Service.ofSettings settings engine shutdown).respond backend entropy request live).isSome =
        true ↔
      (Service.ofSettings settings engine shutdown).Immediate live.recorder request ∨
        live.world.now / 1000 + settings.server.requestTimeoutSecs ≤ Store.maxSeconds

/-- With accepted settings, and with all others, requests have contexts as long as the clock can
hold their deadlines, and no longer. -/
theorem timeout_iff (settings : Settings) : settings.Timeout := by
  have hSeconds : ∀ now, (now + settings.requestTimeout) / 1000 =
      now / 1000 + settings.server.requestTimeoutSecs := fun now =>
    Nat.add_mul_div_right now settings.server.requestTimeoutSecs (by decide)
  refine ⟨fun _ => rfl, fun engine shutdown now tokens => ?_,
    fun _ _ _ _ _ _ made => Service.deadline_of_callContext made,
    fun engine shutdown backend entropy request live => ?_⟩
  · rw [← hSeconds]
    exact Service.isSome_callContext_iff
  · rw [← hSeconds]
    exact Service.isSome_respond_iff backend entropy

/-- The settings that are used when nothing is set, with the longest timeout there is. -/
def endless : Settings :=
  { standard with
    server := { ServerSettings.standard with requestTimeoutSecs := Json.maxUnsigned } }

/-- They are accepted, and whatever the clock shows no request has a context: asked whether it is
up, the service gives no answer. -/
theorem endless_accepted :
    endless.validate = (endless, .ok ()) ∧
      (∀ engine shutdown now tokens,
        (Service.ofSettings endless engine shutdown).callContext now tokens = none) ∧
      ∀ {σ : Type} engine shutdown (backend : Backend σ) entropy (live : Live σ),
        (Service.ofSettings endless engine shutdown).respond backend entropy
          ⟨"GET", "/health", [], ""⟩ live = none := by
  have hLate : ∀ now, ¬ now / 1000 + endless.server.requestTimeoutSecs ≤ Store.maxSeconds := by
    intro now
    show ¬ now / 1000 + 18446744073709551615 ≤ 9223372036854775807
    omega
  have law := timeout_iff endless
  refine ⟨by decide +kernel, fun engine shutdown now tokens => ?_,
    fun engine shutdown backend entropy live => ?_⟩
  · refine Option.not_isSome_iff_eq_none.mp fun made => ?_
    exact hLate now ((law.context engine shutdown now tokens).mp made)
  · refine Option.not_isSome_iff_eq_none.mp fun answered => ?_
    rcases (law.answered engine shutdown backend entropy _ live).mp answered with immediate | fits
    · obtain ⟨response, hReady⟩ := immediate
      rw [Service.plan_health ⟨by decide +kernel, rfl⟩] at hReady
      cases hReady
    · exact hLate live.world.now fits

end Settings

end Masking
