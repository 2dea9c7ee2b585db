import Masking.Proofs.Engine.Discretion
import Masking.Proofs.Http.Spellings
import Masking.Proofs.Text.Replacement

/-! Discretion of the service. The log of a reverse lookup is a function of its method, its name and
the status of its answer: the path is shown by its form alone, and the lookup itself writes nothing.
What is counted of a request shows the form of its route, whatever the path is. -/

namespace Masking

open Store (Backend CallContext Event World execute)

namespace Http

/-- What the paths of reverse lookups begin with. -/
def lookupLead : List Char := "/v1/unmask/".toList

theorem lookupLead_eq :
    lookupLead = '/' :: ("v1".toList ++ '/' :: ("unmask".toList ++ ['/'])) := by
  decide

/-- The path of the request begins as those of reverse lookups do, whatever follows. -/
def Request.IsLookup (request : Request) : Prop :=
  lookupLead <+: request.path.toList

instance (request : Request) : Decidable request.IsLookup :=
  inferInstanceAs (Decidable (_ <+: _))

section Routes

variable {path : String} {request : Request}

/-- A path of this form leads to a reverse lookup, if it leads anywhere. -/
theorem findRoute_of_lookup (h : lookupLead <+: path.toList) :
    findRoute path = none ∨ ∃ category masked, findRoute path = some (.unmask category masked) := by
  obtain ⟨rest, hRest⟩ := h
  have hText : path.toList =
      [] ++ '/' :: ("v1".toList ++ '/' :: ("unmask".toList ++ '/' :: rest)) := by
    rw [← hRest, lookupLead_eq]
    simp
  have hParts : (Text.splitOn '/' path.toList).map String.ofList =
      "" :: "v1" :: "unmask" :: (Text.splitOn '/' rest).map String.ofList := by
    rw [hText, Text.splitOn_append List.not_mem_nil, Text.splitOn_append (by decide),
      Text.splitOn_append (by decide)]
    rfl
  rw [findRoute, hParts]
  generalize (Text.splitOn '/' rest).map String.ofList = others
  rcases others with _ | ⟨category, _ | ⟨masked, _ | ⟨more, others⟩⟩⟩
  · exact Or.inl rfl
  · exact Or.inl rfl
  · by_cases hEmpty : category = "" ∨ masked = ""
    · exact Or.inl (if_pos hEmpty)
    · exact Or.inr ⟨category, masked, if_neg hEmpty⟩
  · exact Or.inl rfl

/-- Every path that leads to a reverse lookup is of this form. -/
theorem lookup_of_findRoute {category masked : String}
    (h : findRoute path = some (.unmask category masked)) : lookupLead <+: path.toList := by
  rw [findRoute] at h
  split at h
  next => cases h
  next => cases h
  next => cases h
  next first last hParts =>
    have hChars := congrArg (List.map String.toList) hParts
    simp only [List.map_map, Function.comp_def, String.toList_ofList, List.map_id', List.map_cons,
      List.map_nil] at hChars
    refine ⟨first.toList ++ '/' :: last.toList, ?_⟩
    rw [← Text.join_splitOn '/' path.toList, hChars, lookupLead_eq]
    simp only [Text.join, List.append_assoc, List.cons_append, List.nil_append]
    rfl
  next => cases h

theorem loggedPath_of_lookup (h : lookupLead <+: path.toList) :
    loggedPath path = (Route.unmask "" "").template := by
  obtain ⟨rest, hRest⟩ := h
  have hLead : Text.stripLead "/v1/unmask/".toList path.toList = some rest :=
    Text.stripLead_eq_some_iff.mpr hRest.symm
  simp only [loggedPath, hLead]

theorem isQuiet_of_lookup (h : lookupLead <+: path.toList) : isQuiet path = false := by
  rw [isQuiet, Bool.or_eq_false_iff, decide_eq_false_iff_not, decide_eq_false_iff_not]
  constructor
  all_goals
    rintro rfl
    revert h
    decide

end Routes

/-- A request that was answered, over some backend and in some state of the service. -/
structure Exchange (σ : Type) where
  service : Service
  backend : Backend σ
  entropy : Nat
  request : Request
  live : Live σ
  response : Response
  events : List Event
  after : Live σ
  executed : service.respond backend entropy request live = some (response, events, after)

namespace Exchange

variable {σ : Type}

/-- The name of the request in the log. -/
def id (exchange : Exchange σ) : String :=
  RequestId.choose exchange.entropy exchange.request.headers

/-- Every request is answered by what its task has come to. -/
theorem exists_done (exchange : Exchange σ) :
    ∃ done, exchange.service.perform exchange.backend
        (exchange.service.plan exchange.live.recorder exchange.request) exchange.live.world =
          some done ∧
      Service.finished exchange.entropy exchange.request exchange.live.recorder done =
        (exchange.response, exchange.events, exchange.after) := by
  have hRun := exchange.executed
  rw [Service.respond_eq] at hRun
  exact Option.map_eq_some_iff.mp hRun

end Exchange

section Lookups

variable {σ : Type} {service : Service} {backend : Backend σ} {request : Request}

/-- The lines of the log about a reverse lookup, from its method, its name and the status of its
answer. -/
def lookupLines (method id : String) (status : Nat) : List LogLine :=
  let span : Span := ⟨"http_request", [("request_id", id), ("method", method),
    ("path", (Route.unmask "" "").template)]⟩
  let fields := [("status", String.ofList (Text.decimal status))]
  [⟨.debug, "Request started", [], some span⟩,
    if 500 ≤ status ∧ status < 600 then ⟨.warn, "Request failed", fields, some span⟩
    else ⟨.info, "Request completed", fields, some span⟩]

theorem Headers.find_put_self (headers : Headers) (name value : String) :
    (headers.put name value).find name = some value := by
  have hNone : (headers.filter fun header => header.1 ≠ name).lookup name = none := by
    rw [List.lookup_eq_none_iff]
    intro header hHeader
    have hName : header.1 ≠ name := of_decide_eq_true (List.mem_filter.mp hHeader).2
    simpa using hName.symm
  rw [put, find, List.lookup_append, hNone]
  simp

/-- What is done for a request with such a path tells nothing. -/
theorem perform_lookup (h : request.IsLookup) {recorder : Recorder} {world after : World σ}
    {response : Response} {events : List Event}
    (done : service.perform backend (service.plan recorder request) world =
      some (response, events, after)) : events = [] := by
  have hReady : ∀ response, service.perform backend (.ready response) world =
      some (response, [], world) := fun _ => rfl
  rw [Service.plan] at done
  rcases findRoute_of_lookup h with hRoute | ⟨category, masked, hRoute⟩
  · simp only [hRoute, hReady] at done
    cases done
    rfl
  · simp only [hRoute] at done
    split at done
    next =>
      simp only [Service.handle] at done
      split at done
      next =>
        simp only [Service.perform] at done
        split at done
        next => cases done
        next =>
          rw [execute_unmask] at done
          obtain ⟨read, _, hDone⟩ := Option.map_eq_some_iff.mp done
          cases hDone
          rfl
      next => cases done; rfl
      next => cases done; rfl
    next => cases done; rfl

theorem sent_status (method : String) (response : Response) :
    (Service.sent method response).status = response.status := by
  rw [Service.sent]
  split <;> rfl

theorem spanOf_lookup (h : request.IsLookup) (entropy : Nat) :
    Service.spanOf (request.named entropy) =
      ⟨"http_request", [("request_id", RequestId.choose entropy request.headers),
        ("method", request.method), ("path", (Route.unmask "" "").template)]⟩ := by
  have hPath : (request.named entropy).path = request.path := rfl
  rw [Service.spanOf, hPath, loggedPath_of_lookup h, Request.named, Headers.find_put_self]
  rfl

/-- The log of a reverse lookup shows nothing of its path but the form. -/
theorem Exchange.logged_lookup (exchange : Exchange σ) (h : exchange.request.IsLookup) :
    logged exchange.events =
      lookupLines exchange.request.method exchange.id exchange.response.status := by
  obtain ⟨⟨response, events, after⟩, hDone, hFinished⟩ := exchange.exists_done
  cases perform_lookup h hDone
  obtain ⟨hResponse, hRest⟩ := Prod.mk.inj hFinished
  obtain ⟨hEvents, _⟩ := Prod.mk.inj hRest
  have hStatus : exchange.response.status = response.status := by
    rw [← hResponse]
    exact sent_status _ response
  rw [hStatus, ← hEvents, spanOf_lookup h, lookupLines, Service.closing, sent_status,
    isQuiet_of_lookup h]
  by_cases hFailed : 500 ≤ response.status ∧ response.status < 600
  · rw [if_pos hFailed, if_pos hFailed]
    rfl
  · rw [if_neg hFailed, if_neg hFailed]
    rfl

end Lookups

section Labels

/-- What stands for paths in metrics: the forms of the routes, and a word for paths that lead
nowhere. -/
def pathLabels : List String :=
  "unmatched" :: [Route.health, .metrics, .mask, .unmask "" ""].map Route.template

theorem pathLabel_mem (path : String) : pathLabel path ∈ pathLabels := by
  rw [pathLabel]
  split
  next route _ => cases route <;> simp [pathLabels, Route.template]
  next => exact List.mem_cons_self

/-- Labels among which a path is shown by the form of its route. -/
def FormOnly (labels : List (String × String)) : Prop :=
  ∀ label ∈ labels, label.1 = "path" → label.2 ∈ pathLabels

/-- Wherever a path is counted, it is by the form of its route. -/
structure ShowsRoutes (recorder : Recorder) : Prop where
  counters : ∀ entry ∈ recorder.counters, FormOnly entry.1.labels
  durations : ∀ entry ∈ recorder.durations, FormOnly entry.1.labels

theorem showsRoutes_empty : ShowsRoutes .empty :=
  ⟨fun _ member => absurd member List.not_mem_nil, fun _ member => absurd member List.not_mem_nil⟩

theorem formOnly_bump {series : Series} {counts : List (Series × Nat)}
    (h : ∀ entry ∈ counts, FormOnly entry.1.labels) (new : FormOnly series.labels) :
    ∀ entry ∈ Recorder.bump series counts, FormOnly entry.1.labels := by
  induction counts with
  | nil => exact List.forall_mem_singleton.mpr new
  | cons entry rest ih =>
      obtain ⟨hEntry, hRest⟩ := List.forall_mem_cons.mp h
      rw [Recorder.bump]
      split
      · exact List.forall_mem_cons.mpr ⟨hEntry, hRest⟩
      · exact List.forall_mem_cons.mpr ⟨hEntry, ih hRest⟩

namespace ShowsRoutes

variable {recorder : Recorder} {labels : List (String × String)}

theorem count (h : ShowsRoutes recorder) (metric : String) (new : FormOnly labels) :
    ShowsRoutes (recorder.count metric labels) :=
  ⟨formOnly_bump h.counters new, h.durations⟩

theorem time (h : ShowsRoutes recorder) (metric : String) (new : FormOnly labels) :
    ShowsRoutes (recorder.time metric labels) :=
  ⟨h.counters, formOnly_bump h.durations new⟩

/-- No event of a program is counted with a path. -/
theorem absorb (h : ShowsRoutes recorder) (event : Event) :
    ShowsRoutes (recorder.absorb event) := by
  have hNone : FormOnly [] := fun _ member => absurd member List.not_mem_nil
  cases event with
  | hit => exact h.count _ hNone
  | miss => exact h.count _ hNone
  | readError => exact h.count _ hNone
  | writeFailure entry => exact h.count _ (by simp [FormOnly])
  | unit kind masked => exact h.count _ (by simp [FormOnly])
  | timed operation => exact h.time _ (by simp [FormOnly])
  | log line => exact h
  | synthesized => exact h

theorem absorbAll (h : ShowsRoutes recorder) (events : List Event) :
    ShowsRoutes (recorder.absorbAll events) := by
  rw [Recorder.absorbAll]
  induction events generalizing recorder with
  | nil => exact h
  | cons event rest ih => exact ih (h.absorb event)

theorem countRequest (h : ShowsRoutes recorder) (method path : String) (status : Nat) :
    ShowsRoutes (recorder.countRequest method (pathLabel path) status) :=
  (h.count _ (by simp [FormOnly, pathLabel_mem])).time _ (by simp [FormOnly, pathLabel_mem])

end ShowsRoutes

variable {σ : Type}

/-- What is counted when a request has been answered: what its program has told, and the request
itself under the label of its path. -/
theorem Exchange.counted (exchange : Exchange σ) :
    ∃ told, exchange.after.recorder = (exchange.live.recorder.absorbAll told).countRequest
      exchange.request.method (pathLabel exchange.request.path) exchange.response.status := by
  obtain ⟨⟨response, events, after⟩, _, hFinished⟩ := exchange.exists_done
  obtain ⟨hResponse, hRest⟩ := Prod.mk.inj hFinished
  have hStatus : exchange.response.status = response.status := by
    rw [← hResponse]
    exact sent_status _ response
  exact ⟨events, by rw [hStatus, ← (Prod.mk.inj hRest).2]⟩

theorem Exchange.showsRoutes (exchange : Exchange σ) (h : ShowsRoutes exchange.live.recorder) :
    ShowsRoutes exchange.after.recorder := by
  obtain ⟨told, hRecorder⟩ := exchange.counted
  rw [hRecorder]
  exact (h.absorbAll told).countRequest _ _ _

/-- The service answers requests one after the other. Between two of them time may pass, and others
may change the store. -/
inductive Serves (service : Service) (backend : Backend σ) : Live σ → Live σ → Prop
  | start (live : Live σ) : Serves service backend live live
  | answer {first live after : Live σ} {entropy : Nat} {request : Request} {response : Response}
      {events : List Event} (earlier : Serves service backend first live)
      (answered : service.respond backend entropy request live = some (response, events, after)) :
      Serves service backend first after
  | elsewhere {first live : Live σ} (earlier : Serves service backend first live)
      (world : World σ) : Serves service backend first ⟨world, live.recorder⟩

theorem Serves.showsRoutes {service : Service} {backend : Backend σ} {first last : Live σ}
    (run : Serves service backend first last) (h : ShowsRoutes first.recorder) :
    ShowsRoutes last.recorder := by
  induction run with
  | start => exact h
  | answer _ answered ih => exact Exchange.showsRoutes ⟨_, _, _, _, _, _, _, _, answered⟩ ih
  | elsewhere _ _ ih => exact ih

end Labels

section Discretion

/-- Logs and metrics tell nothing of what reverse lookups ask for. Two requests with paths of this
form write the same lines when they have the same method, the same name and the same status,
whatever else is in their paths and queries, and whatever is stored; every path that leads to a
lookup is of this form. And in all that a service counts paths are shown by the forms of their
routes. -/
theorem respond_discreet :
    (∀ {σ τ : Type} (first : Exchange σ) (second : Exchange τ), first.request.IsLookup →
      second.request.IsLookup → second.request.method = first.request.method →
      second.id = first.id → second.response.status = first.response.status →
        logged second.events = logged first.events) ∧
      (∀ request : Request, ∀ category masked,
        findRoute request.path = some (.unmask category masked) → request.IsLookup) ∧
      (∀ {σ : Type} (exchange : Exchange σ), pathLabel exchange.request.path ∈ pathLabels ∧
        ∃ told, exchange.after.recorder = (exchange.live.recorder.absorbAll told).countRequest
          exchange.request.method (pathLabel exchange.request.path) exchange.response.status) ∧
      ∀ {σ : Type} {service : Service} {backend : Backend σ} {first last : Live σ},
        Serves service backend first last → ShowsRoutes first.recorder →
          ShowsRoutes last.recorder := by
  refine ⟨?_, fun _ _ _ => lookup_of_findRoute, ?_, fun run => run.showsRoutes⟩
  · intro σ τ first second hFirst hSecond method name status
    rw [first.logged_lookup hFirst, second.logged_lookup hSecond, method, name, status]
  · exact fun exchange => ⟨pathLabel_mem _, exchange.counted⟩

/-- A service that has just begun, with nothing in the store of its process. -/
def freshLive : Live Store.Memory.State :=
  ⟨⟨0, (Store.Tokens.none.make none).2, Store.Memory.empty 10⟩, .empty⟩

theorem exists_missed (target : String)
    (missed : (Service.sample.respond Store.Memory.backend 0
      ⟨"GET", target, [("x-request-id", "r1")], ""⟩ freshLive).map (fun done => done.1.status) =
        some 404) :
    ∃ exchange : Exchange Store.Memory.State,
      exchange.request = ⟨"GET", target, [("x-request-id", "r1")], ""⟩ ∧ exchange.entropy = 0 ∧
        exchange.live = freshLive ∧ exchange.response.status = 404 := by
  obtain ⟨⟨response, events, after⟩, executed, hStatus⟩ := Option.map_eq_some_iff.mp missed
  exact ⟨⟨_, _, _, _, _, _, _, _, executed⟩, rfl, rfl, rfl, hStatus⟩

/-- A lookup of what is not stored and a path that leads nowhere. -/
theorem respond_discreet_missed :
    ∃ first second : Exchange Store.Memory.State,
      first.request.target = "/v1/unmask/attribute_user/bob" ∧
        second.request.target = "/v1/unmask/alice?token=7" ∧
        first.request.IsLookup ∧ second.request.IsLookup ∧
        second.request.method = first.request.method ∧ second.id = first.id ∧
        second.response.status = first.response.status ∧
        logged second.events = logged first.events ∧
        Serves first.service first.backend freshLive first.after ∧ ShowsRoutes freshLive.recorder ∧
        ShowsRoutes first.after.recorder := by
  obtain ⟨first, hFirst, hEntropy, hLive, hStatus⟩ :=
    exists_missed "/v1/unmask/attribute_user/bob" (by decide +kernel)
  obtain ⟨second, hSecond, hOther, _, hMissed⟩ :=
    exists_missed "/v1/unmask/alice?token=7" (by decide +kernel)
  have hFirstPath : first.request.IsLookup := by
    rw [hFirst]
    decide +kernel
  have hSecondPath : second.request.IsLookup := by
    rw [hSecond]
    decide +kernel
  have method : second.request.method = first.request.method := by rw [hFirst, hSecond]
  have name : second.id = first.id := by
    rw [Exchange.id, Exchange.id, hFirst, hSecond, hEntropy, hOther]
  have status : second.response.status = first.response.status := by rw [hStatus, hMissed]
  have serves : Serves first.service first.backend freshLive first.after :=
    .answer (.start freshLive) (hLive ▸ first.executed)
  obtain ⟨discreet, _, _, kept⟩ := respond_discreet
  exact ⟨first, second, by rw [hFirst], by rw [hSecond], hFirstPath, hSecondPath, method, name,
    status, discreet first second hFirstPath hSecondPath method name status, serves,
    showsRoutes_empty, kept serves showsRoutes_empty⟩

end Discretion

end Http

end Masking
