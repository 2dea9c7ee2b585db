import Masking.Proofs.Engine.Replay
import Masking.Proofs.Http.Spellings

/-! Values sent to be masked and asked back. A store that keeps what is written gives back, under
the token that stands in the answer to a batch, the text of the value for which the token was
made. -/

namespace Masking

open Store (Action Backend CallContext Completes Ends Held Instant Key Memory.State
  Memory.Permanent Memory.backend Memory.empty Memory.held Tokens World execute)

section Tokens

/-- No token of an attribute is empty, even if its name is. -/
theorem Synthesizer.ofDigest_field_ne_empty (digest : List UInt8 → Sha256.Digest)
    (prefixes : Synthesizer.Prefixes) (value name : String) :
    Synthesizer.ofDigest digest prefixes value (.ofField name) ≠ "" := by
  rw [Synthesizer.ofDigest]
  generalize digest (Synthesizer.preimage value (.ofField name)) = bytes
  have hMark : (bytes.toArray.toList.take 6) ≠ [] := by
    intro hEmpty
    have hLength := congrArg List.length hEmpty
    simp at hLength
  have hText := Text.hex_ne_nil hMark
  -- The categories whose tokens have a form of their own do not begin like those of attributes.
  have hOther : ∀ tag : String, tag.toList.head? ≠ some 'a' →
      (Category.ofField name).tag ≠ tag := by
    rintro tag hHead rfl
    exact hHead (by simp [Category.ofField, Category.attributeMarker])
  rw [Synthesizer.format, if_neg (hOther _ (by decide)), if_neg (hOther _ (by decide))]
  cases (Category.ofField name).fieldName with
  | some field => simp [hText]
  | none =>
      cases prefixes.lookup (Category.ofField name).tag with
      | some lead => simp [hText]
      | none => simp [hText]

end Tokens

namespace MaskingEngine

open Http (attributeBatch)

section Attributes

variable {σ : Type} {backend : Backend σ} {steady : σ → Prop} {held : Held σ}
  {context : CallContext} {engine : MaskingEngine} {world : World σ} {name : String} {value : Json}

/-- The token that the value of an attribute is given when it has none yet. -/
def newToken (engine : MaskingEngine) (name : String) (value : Json) : String :=
  engine.store.synthesizer (attributeText value) (.ofField name)

/-- Of one listed attribute there is one call, and its token takes the place of the value. -/
theorem RecordsMasked.of_attribute {runs : List (RecordRun σ)} {masked : List LogRecord}
    (h : engine.RecordsMasked (attributeBatch name value).records runs masked)
    (listed : name ∈ engine.fields)
    (succeed : ∀ call ∈ runs.flatMap RecordRun.calls, ∀ error, call.result ≠ .error error) :
    ∃ (call : TokenCall σ) (token : String), runs.flatMap RecordRun.calls = [call] ∧
      call.Asks (attributeText value) (.ofField name) ∧ call.result = .ok token ∧
      masked = (attributeBatch name (.str token)).records ∧
      (runs.map RecordRun.outcome).foldl BatchSummary.absorb .empty = ⟨1, 1, 0, 0⟩ := by
  obtain _ | @⟨_, run, record, _, _, _, first, later⟩ := h
  cases later
  obtain ⟨attributeCalls, bodyCalls, outcome⟩ := run
  obtain ⟨attributes, body⟩ := record
  obtain ⟨masked, failed, changed⟩ := outcome
  obtain ⟨hAttributes, hBody⟩ := first
  cases hBody
  cases hAttributes with
  | unlisted unlisted =>
      rw [MaskingEngine.shouldMask, List.contains_eq_mem, decide_eq_false_iff_not] at unlisted
      exact absurd listed unlisted
  | @masked _ _ _ call _ token _ _ asks result later =>
      cases later
      exact ⟨call, token, rfl, asks, result, rfl, rfl⟩
  | kept _ _ result => exact absurd result (succeed _ List.mem_cons_self _)

/-- A batch with one listed attribute, whose value has no token yet, is masked by a new one, which
leads back to the value. -/
theorem processBatch_attribute (keeps : backend.Keeps engine.store.ttl steady held)
    (hSteady : steady world.store) (listed : name ∈ engine.fields)
    (unknown : held world.store (Key.ofValue (.ofField name) (attributeText value)).text = none)
    (ends : Ends backend context Action.Succeeds (engine.processBatch (attributeBatch name value))
      world) :
    ∃ events after,
      execute backend context (engine.processBatch (attributeBatch name value)) world =
          some ((attributeBatch name (.str (engine.newToken name value)), ⟨1, 1, 0, 0⟩), events,
            after) ∧
        steady after.store ∧
        held after.store (Key.ofMasked (.ofField name) (engine.newToken name value)).text =
          some (attributeText value) := by
  obtain ⟨⟨⟨records⟩, summary⟩, events, after, _, hRun, hChain, _, runs, rfl, rfl, hRecords⟩ :=
    engine.yields_processBatch (attributeBatch name value) world ends
  obtain ⟨hAfter, _, stand⟩ := hChain.kept keeps hSteady
  obtain ⟨call, token, hCalls, ⟨hValue, hCategory⟩, hResult, rfl, hTotals⟩ :=
    hRecords.of_attribute listed fun call member error => (stand call member).ne_error
  rw [hCalls] at hChain
  obtain ⟨made, rfl, rfl⟩ := hChain.sole
  obtain ⟨hToken, _, hHeld⟩ := made.kept keeps hSteady
  rw [hValue, hCategory] at hToken hHeld
  rw [hResult, (engine.store.remember_miss unknown).1] at hToken
  cases hToken
  refine ⟨events, call.after, ?_, hAfter, ?_⟩
  · rw [hRun, hTotals]
    rfl
  · rw [hHeld]
    exact engine.store.remember_value unknown

end Attributes

end MaskingEngine

namespace Http.Service

variable {σ : Type}

/-- A value sent to be masked as an attribute comes back when it is asked for by its token. The
store is one that keeps what is written, and none of the calls for the two requests fails; what else
is sent to the service does not matter as long as the entries stay. -/
structure RoundTrip (service : Service) (backend : Backend σ) (steady : σ → Prop) (held : Held σ)
    (name : String) (value : Json) : Prop where
  /-- The attribute can be sent, whatever characters its name has and however the value is
  spelled. -/
  sent : ∀ (request : Request) (spelling : List Char), Json.Spells valueDepth spelling value →
    (request.headers.find "content-type").any namesJson = true →
    request.body.utf8ByteSize ≤ maxBodySize →
    request.body.toList = attributeBody name spelling →
      readBatch request = .ok (attributeBatch name value)
  /-- The batch is answered with a token, by which the text of the value is found again. The token
  can be written into the address of a lookup, and every way of writing it there will do. -/
  returned : ∀ (request : Request) (live : Live σ) context tokens entropy, request.AsksMask →
    readBatch request = .ok (attributeBatch name value) → service.Opens live context tokens →
    steady live.world.store →
    held live.world.store (Key.ofValue (.ofField name) (attributeText value)).text = none →
    Ends backend context Action.Succeeds
      (service.engine.processBatch (attributeBatch name value)) (live.start tokens) →
      ∃ token calls after,
        service.Answers backend entropy request live 200
            (batchText (attributeBatch name (.str token)) ⟨1, 1, 0, 0⟩) calls after ∧
          steady after.store ∧
          (∀ lookup : Request, lookup.method = "GET" →
            lookup.target = unmaskTarget ("attribute_" ++ name) token →
              lookup.AsksUnmask ("attribute_" ++ name) token) ∧
          ∀ (lookup : Request) (later : Live σ) context tokens entropy,
            lookup.AsksUnmask ("attribute_" ++ name) token → service.Opens later context tokens →
            steady later.world.store → held later.world.store = held after.store →
            Ends backend context Action.Succeeds (TokenStore.lookupValue token (.ofField name))
              (later.start tokens) →
              ∃ calls last,
                service.Answers backend entropy lookup later 200
                  (lookupText ("attribute_" ++ name) token (attributeText value)) calls last

section Lookups

variable {service : Service} {backend : Backend σ} {steady : σ → Prop} {held : Held σ}
  {ttl : Option Store.Duration} {lookup : Request} {later : Live σ} {context : CallContext}
  {tokens : Tokens} {entropy : Nat}

/-- A lookup of a token that leads to a value is answered with the value. -/
theorem unmask_found (keeps : backend.Keeps ttl steady held) {category masked value : String}
    (asks : lookup.AsksUnmask category masked) (made : service.Opens later context tokens)
    (hSteady : steady later.world.store)
    (there : held later.world.store (Key.ofMasked ⟨category⟩ masked).text = some value)
    (ends : Ends backend context Action.Succeeds (TokenStore.lookupValue masked ⟨category⟩)
      (later.start tokens)) :
    ∃ calls last, service.Answers backend entropy lookup later 200
      (lookupText category masked value) calls last := by
  obtain ⟨status, body, calls, last, hAnswers, outcome, _⟩ :=
    @unmask_answers _ service backend entropy _ _ _ _ _ _ asks made
  obtain ⟨found, after, hRead, hFound, _⟩ := ends
  have completes : Completes context
      (fun now store => backend.get now store (Key.ofMasked ⟨category⟩ masked).text)
      (later.start tokens) := by
    -- A read that is cut off answers an error, and this one has succeeded.
    by_contra incomplete
    obtain ⟨⟨error, rfl, _⟩, _⟩ := (Store.run_ended hRead).of_not_completes incomplete
    cases hFound
  have hFinish : (backend.get later.world.now later.world.store
      (Key.ofMasked ⟨category⟩ masked).text).finish.1 = .ok (some value) := by
    rw [← there]
    exact (keeps.get _ hSteady).succeeds
  obtain ⟨rfl, rfl⟩ := outcome.found completes value hFinish
  exact ⟨calls, last, hAnswers⟩

end Lookups

/-- The original of every attribute value is given back, over every store that keeps what is
written. -/
theorem unmask_masked {service : Service} {backend : Backend σ} {steady : σ → Prop} {held : Held σ}
    {digest : List UInt8 → Sha256.Digest} {prefixes : Synthesizer.Prefixes} {name : String}
    (keeps : backend.Keeps service.engine.store.ttl steady held)
    (synthesizes : service.engine.store.synthesizer = .ofDigest digest prefixes)
    (listed : name ∈ service.engine.fields) (value : Json) :
    service.RoundTrip backend steady held name value where
  sent _ _ spells typed short body := readBatch_attributeBody spells typed short body
  returned := by
    intro request live context tokens entropy asks accepted made hSteady unknown ends
    have hStart : steady (live.start tokens).store := hSteady
    obtain ⟨out, summary, events, calls, after, hRun, hAnswers, _⟩ :=
      @mask_answers _ service backend entropy _ _ _ _ _ asks accepted made
    obtain ⟨_, _, hMasked, hAfter, hReverse⟩ :=
      MaskingEngine.processBatch_attribute keeps hStart listed unknown ends
    cases hRun.symm.trans hMasked
    have hCategory : "attribute_" ++ name ≠ "" := by simp
    have hToken : service.engine.newToken name value ≠ "" := by
      rw [MaskingEngine.newToken, synthesizes]
      exact Synthesizer.ofDigest_field_ne_empty digest prefixes _ name
    refine ⟨_, calls, after, hAnswers, hAfter, ?_, ?_⟩
    · exact fun lookup reads target => asksUnmask_of_target reads target hCategory hToken
    · intro lookup later context tokens entropy asks made hLater hHeld ends
      have there : held later.world.store
          (Key.ofMasked (.ofField name) (service.engine.newToken name value)).text =
            some (attributeText value) := by
        rw [hHeld]
        exact hReverse
      exact unmask_found keeps asks made hLater there ends

/-- A service over a store in the process, which masks two attributes: the one without a name, and
one whose name has characters that mean something in keys, in paths and in JSON. -/
def shelf : Service :=
  ⟨⟨["", "né: a/%2F\"b"], .empty, ⟨"memory", .sha256 [], none⟩⟩, 0, 1000⟩

/-- The service runs, and its store has these items. -/
def shelfLive (now : Instant) (store : Memory.State) : Live Memory.State :=
  ⟨⟨now, (Tokens.none.make none).2, store⟩, .empty⟩

def shelfRequest (name value : String) : Request :=
  ⟨"POST", "/v1/logs/mask", [("content-type", "application/json")],
    String.ofList (attributeBody name (Json.quote value))⟩

theorem shelf_opens {now : Instant} (fits : (now + 1000) / 1000 ≤ Store.maxSeconds)
    (store : Memory.State) :
    shelf.Opens (shelfLive now store) ⟨some 1, some (now + 1000)⟩
      ((shelfLive now store).world.tokens.make (some 0)).2 := by
  have fits : (now + shelf.requestTimeout) / 1000 ≤ Store.maxSeconds := fits
  rw [Opens, callContext, shelfLive, Instant.after, if_pos fits]
  rfl

theorem shelf_free (now : Instant) (store : Memory.State) :
    ¬ CallContext.Interrupted ⟨some 1, some (now + 1000)⟩
      ((shelfLive now store).world.tokens.make (some 0)).2 now := by
  rintro (⟨instant, hCancel, _⟩ | ⟨instant, hDeadline, hNow⟩)
  · cases hCancel
  · cases hDeadline
    exact absurd hNow (Nat.not_le.mpr (Nat.lt_add_of_pos_right (by decide)))

theorem unmask_masked_shelf :
    Memory.backend.Keeps none Memory.Permanent Memory.held ∧
      shelf.engine.store.synthesizer = .ofDigest Sha256.hash [] ∧
      "né: a/%2F\"b" ∈ shelf.engine.fields ∧
      ∃ token calls after,
        shelf.Answers Memory.backend 0 (shelfRequest "né: a/%2F\"b" "ü :/%")
            (shelfLive 0 (Memory.empty 10)) 200
            (batchText (attributeBatch "né: a/%2F\"b" (.str token)) ⟨1, 1, 0, 0⟩) calls after ∧
          ∃ calls last,
            shelf.Answers Memory.backend 0
              ⟨"GET", unmaskTarget "attribute_né: a/%2F\"b" token, [], ""⟩
              (shelfLive 5 after.store) 200
              (lookupText "attribute_né: a/%2F\"b" token "ü :/%") calls last := by
  have keeps : Memory.backend.Keeps none Memory.Permanent Memory.held := Store.Memory.backend_keeps
  have synthesizes : shelf.engine.store.synthesizer = .ofDigest Sha256.hash [] := rfl
  have listed : "né: a/%2F\"b" ∈ shelf.engine.fields := by decide
  have trip := unmask_masked keeps synthesizes listed (.str "ü :/%")
  have accepted : readBatch (shelfRequest "né: a/%2F\"b" "ü :/%") =
      .ok (attributeBatch "né: a/%2F\"b" (.str "ü :/%")) :=
    trip.sent _ _ (Json.spells_quote _ _) (by decide +kernel) (by decide +kernel)
      (String.toList_ofList)
  obtain ⟨token, calls, after, hAnswers, hSteady, addressed, again⟩ := trip.returned _
    (shelfLive 0 (Memory.empty 10)) _ _ 0 ⟨by decide +kernel, rfl⟩ accepted
    (shelf_opens (by decide) _) (fun entry member => absurd member List.not_mem_nil) rfl
    (Store.Memory.ends_free (MaskingEngine.processBatch_entriesOnly _ _) (shelf_free 0 _))
  refine ⟨keeps, synthesizes, listed, token, calls, after, hAnswers, ?_⟩
  exact again _ (shelfLive 5 after.store) _ _ 0 (addressed _ rfl rfl)
    (shelf_opens (by decide) _) hSteady rfl
    (Store.Memory.ends_free (fun _ => trivial) (shelf_free 5 _))

end Http.Service

end Masking
