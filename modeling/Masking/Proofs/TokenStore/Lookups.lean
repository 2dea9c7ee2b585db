import Masking.Proofs.TokenStore.Coherence

/-! Lookups on a shared backend. What a lookup finds was written there for a request, whichever
write of a token came last, so that a token is only ever led back to a value it stands for. -/

namespace Masking.Sharing

open Store (Action Error Key Program)

/-- What is left of a lookup: it still has to read the entry of its token, or it has answered, and
then what it has found was written under that key. -/
inductive Reports (synthesizer : Synthesizer) (requests : List Request) (masked : String)
    (category : Category) : Program Reply → Prop
  | reading : Reports synthesizer requests masked category
      (.get (Key.ofMasked category masked).text fun answer => .done (.lookup answer))
  | answered {result : Except Error (Option String)}
      (written : ∀ value, result = .ok (some value) →
        Written synthesizer requests (Key.ofMasked category masked).text value) :
      Reports synthesizer requests masked category (.done (.lookup result))

/-- Every lookup has found nothing but what was written. -/
def System.Reported (synthesizer : Synthesizer) (system : System) : Prop :=
  ∀ call ∈ system.calls, ∀ masked category, call.request = .lookup masked category →
    Reports synthesizer system.requests masked category call.rest

section Lookups

variable {synthesizer : Synthesizer} {requests more : List Request} {masked value : String}
  {category : Category} {backing : Backing}

theorem Reports.mono {program : Program Reply}
    (h : Reports synthesizer requests masked category program)
    (larger : ∀ request ∈ requests, request ∈ more) :
    Reports synthesizer more masked category program := by
  cases h with
  | reading => exact .reading
  | answered written => exact .answered fun value found => (written value found).mono larger

/-- Over a coherent backend the one read of a lookup finds what was written. -/
theorem Reports.turn {fate : Fate} {action : Action} {after : Backing}
    {program rest : Program Reply} (h : Reports synthesizer requests masked category program)
    (hTurn : turn fate backing program = some (action, after, rest))
    (coherent : backing.Coherent synthesizer requests) :
    Reports synthesizer requests masked category rest := by
  cases h with
  | answered => cases hTurn
  | reading =>
      cases hTurn
      refine .answered fun value found => ?_
      cases fate with
      | fails error => cases found
      | succeeds => exact coherent.entries _ value (Except.ok.inj found)

end Lookups

namespace System

variable {synthesizer : Synthesizer} {system next : System} {choice : Choice}

theorem Reported.start {store : TokenStore} (reported : system.Reported store.synthesizer)
    (request : Request) : (system.start store request).Reported store.synthesizer := by
  refine List.forall_mem_append.mpr ⟨?_, ?_⟩
  · intro call member masked category hRequest
    exact (reported call member masked category hRequest).mono fun _ => mem_requests_start
  · intro call member masked category hRequest
    cases List.mem_singleton.mp member
    subst hRequest
    exact .reading

theorem Reported.act (reported : system.Reported synthesizer)
    (coherent : system.Coherent synthesizer) {index : Nat} {fate : Fate} {call : Call}
    {action : Action} {backing : Backing} {rest : Program Reply}
    (hCall : system.calls[index]? = some call)
    (hTurn : turn fate system.backing call.rest = some (action, backing, rest)) :
    (system.advance index call action backing rest).Reported synthesizer := by
  intro other member masked category hRequest
  rw [requests_advance hCall]
  rcases List.mem_or_eq_of_mem_set member with hOther | rfl
  · exact reported other hOther masked category hRequest
  · have hReports := reported call (List.mem_of_getElem? hCall) masked category hRequest
    exact hReports.turn hTurn coherent.backing

/-- Every step of a coherent system lets lookups find only what was written. -/
theorem Reported.step (reported : system.Reported synthesizer)
    (coherent : system.Coherent synthesizer)
    (h : system.step synthesizer choice = some next) : next.Reported synthesizer := by
  cases choice with
  | start backend ttl request =>
      cases h
      have hStart := @Reported.start system ⟨backend, synthesizer, ttl⟩ reported request
      exact hStart
  | act index fate =>
      obtain ⟨call, hCall, h⟩ := Option.bind_eq_some_iff.mp h
      obtain ⟨⟨action, backing, rest⟩, hTurn, h⟩ := Option.bind_eq_some_iff.mp h
      cases h
      exact reported.act coherent hCall hTurn
  | arrive index =>
      obtain ⟨⟨key, value⟩, _, h⟩ := Option.bind_eq_some_iff.mp h
      cases h
      exact reported
  | lose lost =>
      cases h
      exact reported

theorem Reported.run {choices : List Choice} (reported : system.Reported synthesizer)
    (coherent : system.Coherent synthesizer)
    (h : System.run synthesizer choices system = some next) : next.Reported synthesizer := by
  induction choices generalizing system with
  | nil =>
      cases h
      exact reported
  | cons choice rest ih =>
      obtain ⟨middle, hStep, hRun⟩ := Option.bind_eq_some_iff.mp h
      exact ih (reported.step coherent hStep) (coherent.step hStep) hRun

/-- Lookups explain tokens. The value that a lookup answers was asked for before, and its token has
the key that was looked up. So it is a value of the same category and stands behind the very token,
when no category has a colon. -/
structure Explains (synthesizer : Synthesizer) (system : System) : Prop where
  answers : ∀ call ∈ system.calls, ∀ masked category value,
    call.request = .lookup masked category → call.answer = some (.lookup (.ok (some value))) →
      ∃ last, .token value last ∈ system.requests ∧
        (Key.ofMasked last (synthesizer value last)).text = (Key.ofMasked category masked).text
  plain : (∀ value category, .token value category ∈ system.requests → category.Plain) →
    ∀ call ∈ system.calls, ∀ masked category value, category.Plain →
      call.request = .lookup masked category → call.answer = some (.lookup (.ok (some value))) →
        .token value category ∈ system.requests ∧ synthesizer value category = masked

theorem Reported.answers (reported : system.Reported synthesizer) {call : Call} {masked : String}
    {category : Category} {value : String} (member : call ∈ system.calls)
    (hRequest : call.request = .lookup masked category)
    (hAnswer : call.answer = some (.lookup (.ok (some value)))) :
    Written synthesizer system.requests (Key.ofMasked category masked).text value := by
  have hReports := reported call member masked category hRequest
  obtain ⟨request, rest⟩ := call
  cases hReports with
  | reading => cases hAnswer
  | answered written =>
      cases hAnswer
      exact written value rfl

/-- Lookups explain tokens in every system that calls come to over an empty backend, in whatever
order their operations come, whichever of them fail, and whenever entries are lost. One of these is
the system at the moment of an answer, so what explains it was asked for by then. Tokens that values
share make no difference. -/
theorem run_explains {choices : List Choice}
    (h : System.run synthesizer choices empty = some system) : system.Explains synthesizer := by
  have hEmpty : empty.Reported synthesizer := fun call member => absurd member List.not_mem_nil
  have reported := hEmpty.run coherent_empty h
  constructor
  · intro call member masked category value hRequest hAnswer
    exact (reported.answers member hRequest hAnswer).exists_asked
  · intro plain call member masked category value hPlain hRequest hAnswer
    obtain ⟨last, asked, hKey⟩ := (reported.answers member hRequest hAnswer).exists_asked
    obtain ⟨rfl, rfl⟩ := Key.ofMasked_inj (plain _ _ asked) hPlain hKey
    exact ⟨asked, rfl⟩

/-- Two values that share a token are asked for at the same time. The write that leads back to the
first fails, and arrives after the one for the second. -/
def overtaken : List Choice :=
  [.start "memory" none (.token "alice" ⟨"user"⟩), .start "memory" none (.token "bob" ⟨"user"⟩)] ++
    List.replicate 6 (.act 0 .succeeds) ++ [.act 0 (.fails (.deadlineExceeded "set"))] ++
    List.replicate 8 (.act 1 .succeeds) ++ [.arrive 0, .start "memory" none (.lookup "X" ⟨"user"⟩),
      .act 2 .succeeds]

theorem run_explains_overtaken :
    ∃ system, System.run (fun _ _ => "X") overtaken empty = some system ∧
      system.calls.map Call.answer =
        [none, some (.token (.ok "X")), some (.lookup (.ok (some "alice")))] ∧
      system.Explains fun _ _ => "X" :=
  ⟨_, rfl, rfl, run_explains (show System.run _ overtaken empty = some _ from rfl)⟩

end System

end Masking.Sharing
