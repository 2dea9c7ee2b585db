import Masking.Http.Layers
import Masking.Proofs.Http.Deadlines
import Masking.Proofs.Http.Discretion
import Masking.Proofs.Text.Digits

/-! Names of requests. Every request has one name, which stands in its headers, in the note on it,
in all lines of its log and in the headers of its answer, whatever was sent and whatever becomes of
it. -/

namespace Masking.Http

open Store (Backend Event)

namespace RequestId

/-- Between one and 128 characters, all of them visible ASCII. -/
structure Visible (id : String) : Prop where
  nonempty : 1 ≤ id.toList.length
  short : id.toList.length ≤ 128
  visible : ∀ c ∈ id.toList, 33 ≤ c.toNat ∧ c.toNat ≤ 126

theorem isGraphic_iff {c : Char} : isGraphic c = true ↔ 33 ≤ c.toNat ∧ c.toNat ≤ 126 := by
  simp only [isGraphic, Bool.and_eq_true, decide_eq_true_eq]
  omega

theorem forall_graphic_iff {chars : List Char} :
    chars.all isGraphic = true ↔ ∀ c ∈ chars, 33 ≤ c.toNat ∧ c.toNat ≤ 126 := by
  simp only [List.all_eq_true, isGraphic_iff]

theorem isAcceptable_iff {id : String} : isAcceptable id = true ↔ Visible id := by
  have hLength : maxLength = 128 := rfl
  simp only [isAcceptable, Bool.and_eq_true, decide_eq_true_eq, forall_graphic_iff, hLength]
  constructor
  · rintro ⟨⟨hNonempty, hShort⟩, hVisible⟩
    exact ⟨List.length_pos_iff.mpr hNonempty, hShort, hVisible⟩
  · rintro ⟨hNonempty, hShort, hVisible⟩
    exact ⟨⟨List.length_pos_iff.mp hNonempty, hShort⟩, hVisible⟩

section Generated

def lowerHexDigits : List Char := "0123456789abcdef".toList

/-- The text is that of a random UUID: groups of 8, 4, 4, 4 and 12 hexadecimal digits, where the
third group begins with the version and the fourth with the variant. -/
def IsRandomUuid (text : String) : Prop :=
  ∃ (first second third fourth fifth : List Char) (variant : Char),
    text.toList = first ++ '-' :: second ++ '-' :: '4' :: third ++ '-' :: variant :: fourth
      ++ '-' :: fifth ∧
    first.length = 8 ∧ second.length = 4 ∧ third.length = 3 ∧ fourth.length = 3 ∧
    fifth.length = 12 ∧ variant ∈ ['8', '9', 'a', 'b'] ∧
    ∀ c ∈ first ++ second ++ third ++ fourth ++ fifth, c ∈ lowerHexDigits

theorem hexDigit_mem {n : Nat} (h : n < 16) : Text.hexDigit n ∈ lowerHexDigits := by
  revert n
  decide

theorem hex_mem (bytes : List UInt8) : ∀ c ∈ Text.hex bytes, c ∈ lowerHexDigits := by
  induction bytes with
  | nil => exact fun _ member => absurd member List.not_mem_nil
  | cons b rest ih =>
      have hByte := b.toNat_lt
      exact List.forall_mem_cons.mpr ⟨hexDigit_mem (by omega),
        List.forall_mem_cons.mpr ⟨hexDigit_mem (by omega), ih⟩⟩

/-- The marks are all that is fixed in the digits of the two bytes that have them. -/
theorem hexByte_version (b : UInt8) :
    Text.hexByte (UInt8.ofNat (b.toNat % 16 + 64)) = ['4', Text.hexDigit (b.toNat % 16)] := by
  have hValue : (UInt8.ofNat (b.toNat % 16 + 64)).toNat = b.toNat % 16 + 64 :=
    UInt8.toNat_ofNat_of_lt' (show _ < 256 by omega)
  rw [Text.hexByte, hValue, show (b.toNat % 16 + 64) / 16 = 4 by omega,
    show (b.toNat % 16 + 64) % 16 = b.toNat % 16 by omega]
  rfl

theorem hexByte_variant (b : UInt8) :
    Text.hexByte (UInt8.ofNat (b.toNat % 64 + 128)) =
      [Text.hexDigit (8 + b.toNat % 64 / 16), Text.hexDigit (b.toNat % 16)] := by
  have hValue : (UInt8.ofNat (b.toNat % 64 + 128)).toNat = b.toNat % 64 + 128 :=
    UInt8.toNat_ofNat_of_lt' (show _ < 256 by omega)
  rw [Text.hexByte, hValue, show (b.toNat % 64 + 128) / 16 = 8 + b.toNat % 64 / 16 by omega,
    show (b.toNat % 64 + 128) % 16 = b.toNat % 16 by omega]

theorem hexDigit_variant {n : Nat} (h : n < 4) :
    Text.hexDigit (8 + n) ∈ ['8', '9', 'a', 'b'] := by
  revert n
  decide

/-- What is made from entropy is a random UUID, whatever the entropy is. -/
theorem isRandomUuid_generate (entropy : Nat) : IsRandomUuid (generate entropy) := by
  obtain ⟨b₀, b₁, b₂, b₃, b₄, b₅, b₆, b₇, b₈, b₉, b₁₀, b₁₁, b₁₂, b₁₃, b₁₄, b₁₅, hBytes⟩ :
      ∃ b₀ b₁ b₂ b₃ b₄ b₅ b₆ b₇ b₈ b₉ b₁₀ b₁₁ b₁₂ b₁₃ b₁₄ b₁₅, lowBytes 16 entropy =
        [b₀, b₁, b₂, b₃, b₄, b₅, b₆, b₇, b₈, b₉, b₁₀, b₁₁, b₁₂, b₁₃, b₁₄, b₁₅] :=
    ⟨_, _, _, _, _, _, _, _, _, _, _, _, _, _, _, _, rfl⟩
  have hText : (generate entropy).toList =
      Text.hex [b₀, b₁, b₂, b₃] ++ '-' :: Text.hex [b₄, b₅] ++
        '-' :: '4' :: (Text.hexDigit (b₆.toNat % 16) :: Text.hex [b₇]) ++
        '-' :: Text.hexDigit (8 + b₈.toNat % 64 / 16) ::
          (Text.hexDigit (b₈.toNat % 16) :: Text.hex [b₉]) ++
        '-' :: Text.hex [b₁₀, b₁₁, b₁₂, b₁₃, b₁₄, b₁₅] := by
    rw [generate, String.toList_ofList, hBytes]
    change Text.hex [b₀, b₁, b₂, b₃] ++ '-' :: Text.hex [b₄, b₅] ++
        '-' :: (Text.hexByte (UInt8.ofNat (b₆.toNat % 16 + 64)) ++ Text.hex [b₇]) ++
        '-' :: (Text.hexByte (UInt8.ofNat (b₈.toNat % 64 + 128)) ++ Text.hex [b₉]) ++
        '-' :: Text.hex [b₁₀, b₁₁, b₁₂, b₁₃, b₁₄, b₁₅] = _
    rw [hexByte_version, hexByte_variant]
    rfl
  refine ⟨_, _, _, _, _, _, hText, rfl, rfl, rfl, rfl, rfl, hexDigit_variant (by omega), ?_⟩
  have hThird : ∀ c ∈ Text.hexDigit (b₆.toNat % 16) :: Text.hex [b₇], c ∈ lowerHexDigits :=
    List.forall_mem_cons.mpr ⟨hexDigit_mem (by omega), hex_mem _⟩
  have hFourth : ∀ c ∈ Text.hexDigit (b₈.toNat % 16) :: Text.hex [b₉], c ∈ lowerHexDigits :=
    List.forall_mem_cons.mpr ⟨hexDigit_mem (by omega), hex_mem _⟩
  simp only [List.forall_mem_append]
  exact ⟨⟨⟨⟨hex_mem _, hex_mem _⟩, hThird⟩, hFourth⟩, hex_mem _⟩

/-- A random UUID is fit to be the name of a request. -/
theorem IsRandomUuid.visible {text : String} (h : IsRandomUuid text) : Visible text := by
  obtain ⟨first, second, third, fourth, fifth, variant, hText, hFirst, hSecond, hThird, hFourth,
    hFifth, hVariant, hDigits⟩ := h
  have hLength : text.toList.length = 36 := by
    rw [hText]
    simp [hFirst, hSecond, hThird, hFourth, hFifth]
  have hGraphic := forall_graphic_iff.mp (show lowerHexDigits.all isGraphic = true by decide)
  have hEach : ∀ {digits : List Char}, (∀ c ∈ digits, c ∈ lowerHexDigits) →
      ∀ c ∈ digits, 33 ≤ c.toNat ∧ c.toNat ≤ 126 := fun h c member => hGraphic c (h c member)
  have hMark := forall_graphic_iff.mp
    (show ['8', '9', 'a', 'b'].all isGraphic = true by decide)
  have hDash : 33 ≤ ('-' : Char).toNat ∧ ('-' : Char).toNat ≤ 126 := by decide
  have hVersion : 33 ≤ ('4' : Char).toNat ∧ ('4' : Char).toNat ≤ 126 := by decide
  simp only [List.forall_mem_append] at hDigits
  obtain ⟨⟨⟨⟨hOne, hTwo⟩, hThree⟩, hFour⟩, hFive⟩ := hDigits
  refine ⟨by omega, by omega, ?_⟩
  rw [hText]
  simp only [List.forall_mem_append, List.forall_mem_cons]
  exact ⟨⟨⟨⟨hEach hOne, hDash, hEach hTwo⟩, hDash, hVersion, hEach hThree⟩, hDash,
    hMark variant hVariant, hEach hFour⟩, hDash, hEach hFive⟩

end Generated

section Chosen

variable {id : String} {entropy : Nat} {headers : Headers}

theorem choose_of_visible (found : headers.find requestIdHeader = some id) (visible : Visible id) :
    choose entropy headers = id := by
  rw [choose, found]
  exact if_pos (isAcceptable_iff.mpr visible)

theorem choose_of_not_visible
    (none : ∀ id, headers.find requestIdHeader = some id → ¬ Visible id) :
    choose entropy headers = generate entropy := by
  rw [choose]
  split
  next id found => exact if_neg fun h => none id found (isAcceptable_iff.mp h)
  next => rfl

theorem visible_choose (entropy : Nat) (headers : Headers) : Visible (choose entropy headers) := by
  by_cases hFound : ∃ id, headers.find requestIdHeader = some id ∧ Visible id
  · obtain ⟨id, found, visible⟩ := hFound
    rwa [choose_of_visible found visible]
  · rw [choose_of_not_visible fun id found visible => hFound ⟨id, found, visible⟩]
    exact (isRandomUuid_generate entropy).visible

theorem Visible.headerText (visible : Visible id) : headerText id = some id := by
  refine if_pos (List.all_eq_true.mpr fun c member => ?_)
  obtain ⟨hLow, hHigh⟩ := visible.visible c member
  simp only [Bool.or_eq_true, Bool.and_eq_true, decide_eq_true_eq]
  omega

theorem Visible.isHeaderValue (visible : Visible id) : isHeaderValue id = true := by
  refine List.all_eq_true.mpr fun c member => ?_
  obtain ⟨hLow, hHigh⟩ := visible.visible c member
  simp only [Bool.or_eq_true, Bool.and_eq_true, decide_eq_true_eq]
  omega

/-- What is fit to be a name is a text in any case. -/
theorem ofHeaders_eq_choose (entropy : Nat) (headers : Headers) :
    ofHeaders entropy headers = choose entropy headers := by
  rw [ofHeaders, choose]
  cases headers.find requestIdHeader with
  | none => rfl
  | some id =>
      by_cases hAcceptable : isAcceptable id = true
      · simp [(isAcceptable_iff.mp hAcceptable).headerText, hAcceptable, Option.filter]
      · rw [Option.bind_some, headerText]
        split <;> simp [hAcceptable, Option.filter]

end Chosen

end RequestId

section Layers

variable {σ : Type}

theorem Headers.filter_put_self (headers : Headers) (name value : String) :
    (headers.put name value).filter (fun header => header.1 = name) = [(name, value)] := by
  rw [put, List.filter_append, List.filter_filter]
  simp

theorem Headers.filter_put_other (headers : Headers) (name value : String) :
    (headers.put name value).filter (fun header => header.1 ≠ name) =
      headers.filter fun header => header.1 ≠ name := by
  rw [put, List.filter_append, List.filter_filter]
  simp

/-- The request as the layers hand it on. -/
def Carried.named (carried : Carried) (entropy : Nat) : Carried :=
  ⟨carried.request.named entropy, some (RequestId.choose entropy carried.request.headers)⟩

/-- Whatever stands behind the layers is asked with the named request and nothing else. Its answer
gets the name, and all it tells gets into the span of the name. -/
theorem naming_logging (entropy : Nat) (inner : Inner σ) (carried : Carried) (live : Live σ) :
    naming entropy (logging inner) carried live =
      (inner (carried.named entropy) live).map fun (response, events, live) =>
        let id := RequestId.choose entropy carried.request.headers
        let opening : Event := .log ⟨.debug, "Request started", [], none⟩
        let lines :=
          opening :: events ++ [Service.closing carried.request.path response.status]
        ({ response with headers := response.headers.put requestIdHeader id },
          lines.map (Event.within (Service.spanOf (carried.request.named entropy))), live) := by
  have hName := RequestId.ofHeaders_eq_choose entropy carried.request.headers
  have hValue := (RequestId.visible_choose entropy carried.request.headers).isHeaderValue
  have hSpan : (carried.request.named entropy).headers.find requestIdHeader =
      some (RequestId.choose entropy carried.request.headers) := Headers.find_put_self _ _ _
  simp only [naming, logging, hName, hValue, if_true, Service.spanOf, hSpan, Option.getD_some]
  simp only [Carried.named, Request.named]
  cases inner _ live <;> rfl

/-- The service is what its layers make of its routes. -/
theorem Service.layered_eq_respond (service : Service) (backend : Backend σ) (entropy : Nat)
    (request : Request) (name : Option String) (live : Live σ) :
    service.layered backend entropy ⟨request, name⟩ live =
      service.respond backend entropy request live := by
  rw [layered, naming_logging]
  delta respond logged
  simp only [Carried.named, Request.named]
  cases service.measured backend _ live <;> rfl

end Layers

namespace Exchange

variable {σ : Type} {exchange : Exchange σ}

/-- The request as the routes and the handlers get it, and what is noted on it. -/
def handed (exchange : Exchange σ) : Carried :=
  Carried.named ⟨exchange.request, none⟩ exchange.entropy

/-- The request has one name, and everyone who deals with it knows it under that name. -/
structure Identified (exchange : Exchange σ) : Prop where
  layered : exchange.service.layered exchange.backend exchange.entropy ⟨exchange.request, none⟩
    exchange.live = some (exchange.response, exchange.events, exchange.after)
  /-- The answer carries the name, once. -/
  answered : exchange.response.headers.filter (fun header => header.1 = requestIdHeader) =
    [(requestIdHeader, exchange.id)]
  /-- The first name that was sent is kept if it is fit to be one. -/
  kept : ∀ id, exchange.request.headers.find requestIdHeader = some id →
    RequestId.Visible id → exchange.id = id
  /-- Otherwise the name is new. -/
  made : (∀ id, exchange.request.headers.find requestIdHeader = some id →
    ¬ RequestId.Visible id) →
      exchange.id = RequestId.generate exchange.entropy ∧ RequestId.IsRandomUuid exchange.id
  /-- The handler finds the name noted on the request, and among its headers, once. -/
  noted : exchange.handed.name = some exchange.id
  named : exchange.handed.request.headers.filter (fun header => header.1 = requestIdHeader) =
    [(requestIdHeader, exchange.id)]
  /-- Nothing else about the request has changed. -/
  same : exchange.handed.request.method = exchange.request.method ∧
    exchange.handed.request.target = exchange.request.target ∧
    exchange.handed.request.body = exchange.request.body ∧
    exchange.handed.request.headers.filter (fun header => header.1 ≠ requestIdHeader) =
      exchange.request.headers.filter fun header => header.1 ≠ requestIdHeader
  /-- Whatever stands behind the layers is asked with this request, and with no other. -/
  asked : ∀ {τ : Type} (inner : Inner τ) (live : Live τ),
    (naming exchange.entropy (logging inner) ⟨exchange.request, none⟩ live).map
        (fun done => done.2.2) =
      (inner exchange.handed live).map fun done => done.2.2
  /-- The log has lines about the request, and all of them show the name. -/
  logged : logged exchange.events ≠ [] ∧ ∀ line ∈ logged exchange.events, ∃ span,
    line.span = some span ∧ span.fields.lookup "request_id" = some exchange.id
  /-- Whoever sends the name that was answered is answered with it again. -/
  returned : ∀ {τ : Type} (next : Exchange τ), next.request.headers.find requestIdHeader =
      exchange.response.headers.find requestIdHeader →
    next.response.headers.filter (fun header => header.1 = requestIdHeader) =
      [(requestIdHeader, exchange.id)]

theorem answered (exchange : Exchange σ) :
    exchange.response.headers.filter (fun header => header.1 = requestIdHeader) =
      [(requestIdHeader, exchange.id)] := by
  obtain ⟨done, _, hFinished⟩ := exchange.exists_done
  rw [← (Prod.mk.inj hFinished).1]
  exact Headers.filter_put_self _ _ _

theorem find_answered (exchange : Exchange σ) :
    exchange.response.headers.find requestIdHeader = some exchange.id := by
  obtain ⟨done, _, hFinished⟩ := exchange.exists_done
  rw [← (Prod.mk.inj hFinished).1]
  exact Headers.find_put_self _ _ _

theorem visible_id (exchange : Exchange σ) : RequestId.Visible exchange.id :=
  RequestId.visible_choose _ _

/-- All lines that an exchange writes belong to the span of its request. -/
theorem span_of_logged (exchange : Exchange σ) :
    logged exchange.events ≠ [] ∧ ∀ line ∈ logged exchange.events,
      line.span = some (Service.spanOf exchange.handed.request) := by
  obtain ⟨done, _, hFinished⟩ := exchange.exists_done
  rw [← (Prod.mk.inj (Prod.mk.inj hFinished).2).1]
  refine ⟨List.cons_ne_nil _ _, fun line member => ?_⟩
  obtain ⟨event, hEvent, hLine⟩ := List.mem_filterMap.mp member
  obtain ⟨told, _, rfl⟩ := List.mem_map.mp hEvent
  cases told with
  | log line =>
      cases hLine
      rfl
  | _ => cases hLine

/-- Every request that is answered is named, whatever it is, whatever was sent with it and whatever
the backend does. -/
theorem identified (exchange : Exchange σ) : exchange.Identified where
  layered := by
    rw [Service.layered_eq_respond]
    exact exchange.executed
  answered := exchange.answered
  kept _ found visible := RequestId.choose_of_visible found visible
  made none := by
    have hMade : exchange.id = RequestId.generate exchange.entropy :=
      RequestId.choose_of_not_visible none
    exact ⟨hMade, hMade ▸ RequestId.isRandomUuid_generate exchange.entropy⟩
  noted := rfl
  named := Headers.filter_put_self _ _ _
  same := ⟨rfl, rfl, rfl, Headers.filter_put_other _ _ _⟩
  asked inner live := by
    rw [naming_logging, Option.map_map]
    rfl
  logged := by
    obtain ⟨hLines, hSpan⟩ := exchange.span_of_logged
    refine ⟨hLines, fun line member => ⟨_, hSpan line member, ?_⟩⟩
    have hFound : exchange.handed.request.headers.find requestIdHeader = some exchange.id :=
      Headers.find_put_self _ _ _
    simp [Service.spanOf, hFound]
  returned next found := by
    rw [exchange.find_answered] at found
    rw [next.answered, id, RequestId.choose_of_visible found exchange.visible_id]

end Exchange

/-- Every request that is answered is answered under one name. And a request is answered, with every
backend and whatever was sent, unless it needs the store and the clock cannot hold its deadline. -/
theorem requests_identified :
    (∀ {σ : Type} (exchange : Exchange σ), exchange.Identified) ∧
      ∀ {σ : Type} (service : Service) (backend : Backend σ) (entropy : Nat) (request : Request)
        (live : Live σ),
        (∃ exchange : Exchange σ, exchange.service = service ∧ exchange.backend = backend ∧
          exchange.entropy = entropy ∧ exchange.request = request ∧ exchange.live = live) ↔
            service.Immediate live.recorder request ∨
              (live.world.now + service.requestTimeout) / 1000 ≤ Store.maxSeconds := by
  refine ⟨Exchange.identified, fun service backend entropy request live => ?_⟩
  rw [← Service.isSome_respond_iff backend entropy]
  constructor
  · rintro ⟨exchange, rfl, rfl, rfl, rfl, rfl⟩
    rw [exchange.executed]
    rfl
  · intro answered
    obtain ⟨⟨response, events, after⟩, executed⟩ := Option.isSome_iff_exists.mp answered
    exact ⟨⟨_, _, _, _, _, _, _, _, executed⟩, rfl, rfl, rfl, rfl, rfl⟩

/-- A request for nothing there is, with two names, of which the first is not fit to be one. -/
def strayRequest : Request :=
  ⟨"GET", "/nowhere", [("x-request-id", "two words"), ("x-request-id", "r1")], ""⟩

theorem requests_identified_stray :
    ∃ exchange : Exchange Store.Memory.State,
      exchange.request = strayRequest ∧ exchange.response.status = 404 ∧
        exchange.response.headers.filter (fun header => header.1 = requestIdHeader) =
          [(requestIdHeader, "00000000-0000-4000-8000-000000000000")] := by
  obtain ⟨identified, answered⟩ := requests_identified
  have hNowhere : findRoute strayRequest.path = none := by decide +kernel
  have immediate : Service.sample.Immediate freshLive.recorder strayRequest :=
    ⟨.bare 404, by rw [Service.plan, hNowhere]⟩
  obtain ⟨exchange, hService, hBackend, hEntropy, hRequest, hLive⟩ :=
    (answered Service.sample Store.Memory.backend 0 strayRequest freshLive).mpr (Or.inl immediate)
  have hStatus : (Service.sample.respond Store.Memory.backend 0 strayRequest freshLive).map
      (fun done => done.1.status) = some 404 := by decide +kernel
  have executed := exchange.executed
  rw [hService, hBackend, hEntropy, hRequest, hLive] at executed
  rw [executed] at hStatus
  have unfit : ∀ id, exchange.request.headers.find requestIdHeader = some id →
      ¬ RequestId.Visible id := by
    rw [hRequest]
    rintro id found
    cases found
    rw [← RequestId.isAcceptable_iff]
    decide
  have hId : exchange.id = "00000000-0000-4000-8000-000000000000" := by
    rw [((identified exchange).made unfit).1, hEntropy]
    decide +kernel
  exact ⟨exchange, hRequest, Option.some.inj hStatus, hId ▸ (identified exchange).answered⟩

end Masking.Http
