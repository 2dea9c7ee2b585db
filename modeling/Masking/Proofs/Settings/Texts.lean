import Masking.Proofs.Json.Structures
import Masking.Proofs.Settings.Validation
import Masking.Settings.Json

/-! Configurations and their JSON texts. A store configuration that fits its types is read back from
its text, and so are settings; what a builder makes and what validation leaves fit theirs. -/

namespace Masking

open Json (Reads maxSigned maxUnsigned render)

/-- The integer fits 64 signed bits. -/
def FitsSigned (value : Int) : Prop :=
  -(maxSigned + 1 : Int) ≤ value ∧ value ≤ maxSigned

theorem fitsSigned_zero : FitsSigned 0 := ⟨by decide, by decide⟩

theorem FitsSigned.fitsWord {value : Int} (fits : FitsSigned value) : Json.FitsWord value := by
  have hSigned : (maxSigned : Int) = 9223372036854775807 := rfl
  have hUnsigned : (maxUnsigned : Int) = 18446744073709551615 := rfl
  obtain ⟨hLow, hHigh⟩ := fits
  exact ⟨hLow, by omega⟩

theorem fitsWord_nat {n : Nat} (fits : n ≤ maxUnsigned) : Json.FitsWord n := by
  have hSigned : (maxSigned : Int) = 9223372036854775807 := rfl
  exact ⟨by omega, by omega⟩

section Kinds

variable (depth : Nat) (kind : Store.BackendConfig.Kind)

theorem reads_kind :
    Reads Store.BackendConfig.readKind depth (render (.str (kindName kind))) kind := by
  intro rest ended
  have hName := Json.reads_string depth (kindName kind) rest ended
  rw [Store.BackendConfig.readKind, hName]
  cases kind <;> rfl

theorem reads_storeKind : Reads readStoreKind depth (render (.str (kindName kind))) kind := by
  intro rest ended
  have hKind := reads_kind depth kind rest ended
  rw [render, Json.quote_append] at hKind ⊢
  exact hKind

end Kinds

namespace Store

namespace BackendConfig

/-- The numbers of the backend fit their types. -/
def Fits : BackendConfig → Prop
  | .redis _ _ database => FitsSigned database
  | .memory capacity => capacity ≤ maxUnsigned

def kind : BackendConfig → Kind
  | .redis .. => .redis
  | .memory _ => .memory

/-- The members of a backend that say more than its kind. -/
def members : BackendConfig → List (String × Json)
  | .redis address none database => [("addr", .str address), ("db", .int database)]
  | .redis address (some password) database =>
      [("addr", .str address), ("password", .str password), ("db", .int database)]
  | .memory capacity => [("max_capacity", .nat capacity)]

theorem toJson_eq (backend : BackendConfig) :
    backend.toJson = .obj (("kind", .str (kindName backend.kind)) :: backend.members) := by
  rcases backend with ⟨address, _ | password, database⟩ | capacity <;> rfl

section Tagged

variable {depth fuel : Nat} {found : Option Kind} {kind : Kind} {members : List (String × Json)}
  {text rest : List Char} {backend : BackendConfig}

/-- Members that are not the kind are kept as they are read, in their order. -/
theorem readTagged_of_readMembers (other : ∀ member ∈ members, member.1 ≠ "kind")
    (h : Json.readMembers Json.readValue depth fuel text = .ok (members, rest)) :
    readTagged depth fuel found text = .ok ((found, members), rest) := by
  induction fuel generalizing text members with
  | zero => cases h
  | succ fuel ih =>
      obtain ⟨⟨name, _⟩, hName, h⟩ := Json.bind_eq_ok_iff.mp h
      obtain ⟨_, hColon, h⟩ := Json.bind_eq_ok_iff.mp h
      obtain ⟨⟨value, _⟩, hValue, h⟩ := Json.bind_eq_ok_iff.mp h
      obtain ⟨⟨closed, _⟩, hEnd, h⟩ := Json.bind_eq_ok_iff.mp h
      rw [readTagged, hName]
      cases closed with
      | true =>
          cases h
          have hOther : name ≠ "kind" := other _ List.mem_cons_self
          simp only [bind, Except.bind, if_neg hOther, hColon, hValue, hEnd]
      | false =>
          obtain ⟨_, hMembers, hDone⟩ := Json.bind_eq_ok_iff.mp h
          cases hDone
          obtain ⟨hOther, hLater⟩ := List.forall_mem_cons.mp other
          simp only [bind, Except.bind, if_neg hOther, hColon, hValue, hEnd, ih hLater hMembers]

/-- The kind in front is found, and what comes after it is kept. -/
theorem readTagged_kind (nonempty : members ≠ [])
    (other : ∀ member ∈ members, member.1 ≠ "kind")
    (each : ∀ member ∈ members, Reads Json.readValue depth (render member.2) member.2)
    (enough : 2 * (Json.renderMembers (("kind", .str (kindName kind)) :: members)).length ≤ fuel) :
    readTagged depth fuel none
        (Json.renderMembers (("kind", .str (kindName kind)) :: members) ++ rest) =
      .ok ((some kind, members), rest) := by
  obtain ⟨next, later, rfl⟩ := List.exists_cons_of_ne_nil nonempty
  simp only [Json.renderMembers, List.length_append, List.length_cons] at enough
  obtain ⟨fuel, rfl⟩ := Nat.exists_eq_add_one_of_ne_zero (show fuel ≠ 0 by omega)
  have hRest : readTagged depth fuel (some kind) (Json.renderMembers (next :: later) ++ rest) =
      .ok ((some kind, next :: later), rest) :=
    readTagged_of_readMembers other
      (Json.readMembers_renderMembers nonempty each (show _ ≤ fuel by omega))
  have hComma := Json.scanSeparator_comma (Or.inr rfl)
    ((Json.begins_renderMembers next later).append rest)
  have hKind := reads_kind depth kind (',' :: (Json.renderMembers (next :: later) ++ rest))
    (Or.inl rfl)
  rw [Json.renderMembers, List.append_assoc, List.cons_append, List.append_assoc,
    List.cons_append, readTagged, Json.scanName_quote]
  simp only [bind, Except.bind, if_true, Option.isSome_none, Bool.false_eq_true, if_false,
    Json.scanColon_colon, hKind, hComma, hRest]

theorem reads_members (fits : backend.Fits) :
    ∀ member ∈ backend.members, Reads Json.readValue depth (render member.2) member.2 := by
  have hText : ∀ text, Reads Json.readValue depth (render (.str text)) (.str text) := fun _ =>
    Json.Canonical.str.reads .str
  have hInteger : ∀ {value : Int}, Json.FitsWord value →
      Reads Json.readValue depth (render (.int value)) (.int value) := fun word =>
    (Json.Canonical.int word).reads .int
  rcases backend with ⟨address, _ | password, database⟩ | capacity
  · have hDatabase := hInteger (FitsSigned.fitsWord fits)
    exact List.forall_mem_cons.mpr ⟨hText _, List.forall_mem_singleton.mpr hDatabase⟩
  · have hDatabase := hInteger (FitsSigned.fitsWord fits)
    exact List.forall_mem_cons.mpr ⟨hText _,
      List.forall_mem_cons.mpr ⟨hText _, List.forall_mem_singleton.mpr hDatabase⟩⟩
  · exact List.forall_mem_singleton.mpr (hInteger (fitsWord_nat fits))

theorem wantSigned_int {value : Int} (fits : FitsSigned value) :
    wantSigned (some (.int value)) = .ok value :=
  if_neg (Int.not_lt.mpr fits.2)

theorem wantUnsigned_nat (n : Nat) : wantUnsigned (some (.nat n)) = .ok n := by
  simp only [Json.nat, wantUnsigned, if_neg (Int.not_lt.mpr (Int.natCast_nonneg n)),
    Int.natAbs_natCast]

/-- The members give the backend again. No password is not the same as an empty one. -/
theorem ofMembers_members (fits : backend.Fits) :
    ofMembers backend.kind backend.members = .ok backend := by
  rcases backend with ⟨address, _ | password, database⟩ | capacity
  · change (wantSigned (some (.int database))).bind
      (fun database => .ok (redis address none database)) = _
    rw [wantSigned_int fits]
    rfl
  · change (wantSigned (some (.int database))).bind
      (fun database => .ok (redis address (some password) database)) = _
    rw [wantSigned_int fits]
    rfl
  · change (wantUnsigned (some (.nat capacity))).bind (fun capacity => .ok (memory capacity)) = _
    rw [wantUnsigned_nat]
    rfl

theorem Fits.reads (fits : backend.Fits) :
    Reads read (depth + 1) (render backend.toJson) backend := by
  intro rest _
  have nonempty : backend.members ≠ [] := by
    rcases backend with ⟨address, _ | password, database⟩ | capacity <;> exact List.cons_ne_nil _ _
  have other : ∀ member ∈ backend.members, member.1 ≠ "kind" := by
    rcases backend with ⟨address, _ | password, database⟩ | capacity <;> simp [members]
  let all := ("kind", Json.str (kindName backend.kind)) :: backend.members
  have hTagged : readTagged depth (Json.fuelFor (Json.renderMembers all ++ rest)) none
      (Json.renderMembers all ++ rest) = .ok ((some backend.kind, backend.members), rest) :=
    readTagged_kind nonempty other (reads_members fits) (Json.length_le_fuelFor _ rest)
  obtain ⟨inner, hOpens⟩ :=
    Json.renderMembers_cons ("kind", .str (kindName backend.kind)) backend.members rest
  rw [hOpens] at hTagged
  rw [toJson_eq, render, List.cons_append, hOpens]
  change Except.bind (readTagged depth (Json.fuelFor _) none _) _ = _
  rw [hTagged]
  simp only [Except.bind, bind, ofMembers_members fits]

end Tagged

end BackendConfig

namespace Config

/-- The numbers of the configuration fit their types. -/
structure Fits (config : Config) : Prop where
  backend : config.backend.Fits
  tokenTtl : config.tokenTtl ≤ maxUnsigned

/-- The configuration that a text denotes. -/
def parse (text : String) : Except Json.Fault Config :=
  Json.readAll read text.toList

variable {config first second : Config}

theorem Fits.reads (depth : Nat) (fits : config.Fits) :
    Reads read (depth + 2) (render config.toJson) config := by
  have hBackend : Reads BackendConfig.read (depth + 1) (render config.backend.toJson)
      config.backend := fits.backend.reads
  have hTtl := Json.reads_unsigned (depth + 1) fits.tokenTtl (Nat.le_refl _)
  exact Json.reads_structure
    (.known rfl rfl (Json.reads_field hBackend _)
      (.known rfl rfl (Json.reads_field hTtl _) .done)) rfl

theorem Fits.parse_text (fits : config.Fits) : parse config.toJson.text = .ok config := by
  rw [parse, Json.text, String.toList_ofList]
  exact (fits.reads (Json.maxDepth - 2)).readAll

/-- Different configurations have different texts. -/
theorem Fits.eq_of_text_eq (hFirst : first.Fits) (hSecond : second.Fits)
    (same : first.toJson.text = second.toJson.text) : first = second := by
  have hParse := hFirst.parse_text
  rw [same, hSecond.parse_text] at hParse
  exact (Except.ok.inj hParse).symm

end Config

/-- The number that is set fits its type. -/
def Setting.Fits : Setting → Prop
  | .redis _ => True
  | .password _ => True
  | .database index => FitsSigned index
  | .memory capacity => capacity ≤ maxUnsigned
  | .tokenTtl seconds => seconds ≤ maxUnsigned

namespace Builder

/-- The numbers set so far fit their types. -/
structure Fits (builder : Builder) : Prop where
  backend : ∀ backend, builder.backend = some backend → backend.Fits
  tokenTtl : builder.tokenTtl ≤ maxUnsigned

variable {builder : Builder} {setting : Setting} {settings : List Setting}

theorem Fits.set (fits : builder.Fits) (new : setting.Fits) : (builder.set setting).Fits := by
  obtain ⟨backend, ttl⟩ := builder
  obtain ⟨hBackend, hTtl⟩ := fits
  cases setting with
  | redis address => exact ⟨fun _ same => Option.some.inj same ▸ fitsSigned_zero, hTtl⟩
  | memory capacity => exact ⟨fun _ same => Option.some.inj same ▸ new, hTtl⟩
  | tokenTtl seconds => exact ⟨hBackend, new⟩
  | password given =>
      rcases backend with _ | ⟨address, password, database⟩ | capacity
      · exact ⟨hBackend, hTtl⟩
      · have hDatabase : FitsSigned database := hBackend (.redis address password database) rfl
        exact ⟨fun _ same => Option.some.inj same ▸ hDatabase, hTtl⟩
      · exact ⟨hBackend, hTtl⟩
  | database index =>
      rcases backend with _ | ⟨address, password, database⟩ | capacity
      · exact ⟨hBackend, hTtl⟩
      · exact ⟨fun _ same => Option.some.inj same ▸ new, hTtl⟩
      · exact ⟨hBackend, hTtl⟩

/-- When all numbers that are set fit their types, so do those of what is built. -/
theorem fits_ofSettings (each : ∀ setting ∈ settings, setting.Fits) :
    (ofSettings settings).Fits := by
  have hEmpty : empty.Fits := ⟨nofun, Nat.zero_le _⟩
  have hBuilder : (settings.foldl Builder.set empty).Fits :=
    List.foldlRecOn settings Builder.set hEmpty
      fun _ fits setting member => fits.set (each setting member)
  refine ⟨?_, hBuilder.tokenTtl⟩
  rw [ofSettings, build]
  cases hBackend : (settings.foldl Builder.set empty).backend with
  | none => exact fitsSigned_zero
  | some backend => exact hBuilder.backend backend hBackend

end Builder

end Store

theorem PatternConfig.reads (depth : Nat) (pattern : PatternConfig) :
    Reads PatternConfig.read (depth + 1) (render pattern.toJson) pattern := by
  have hText := Json.reads_string depth
  exact Json.reads_structure
    (.known rfl rfl (Json.reads_field (hText pattern.name) _)
      (.known rfl rfl (Json.reads_field (hText pattern.regex) _)
        (.known rfl rfl (Json.reads_field (hText pattern.tokenLead) _) .done))) rfl

namespace ServerSettings

/-- The numbers of the server settings fit their types. -/
structure Fits (settings : ServerSettings) : Prop where
  port : settings.port ≤ 65535
  requestTimeoutSecs : settings.requestTimeoutSecs ≤ maxUnsigned

theorem Fits.reads (depth : Nat) {settings : ServerSettings} (fits : settings.Fits) :
    Reads read (depth + 1) (render settings.toJson) settings := by
  have hHost := Json.reads_string depth settings.host
  have hPort := Json.reads_unsigned depth fits.port (by decide)
  have hTimeout := Json.reads_unsigned depth fits.requestTimeoutSecs (Nat.le_refl _)
  exact Json.reads_structure
    (.known rfl rfl (Json.reads_field hHost _)
      (.known rfl rfl (Json.reads_field hPort _)
        (.known rfl rfl (Json.reads_field hTimeout _) .done))) rfl

end ServerSettings

namespace Settings

/-- The numbers of the settings fit their types. -/
structure Fits (settings : Settings) : Prop where
  redisDb : FitsSigned settings.redisDb
  tokenTtl : FitsSigned settings.tokenTtl
  memoryCapacity : settings.memoryCapacity ≤ maxUnsigned
  server : settings.server.Fits

/-- The settings that a text denotes. -/
def parse (text : String) : Except Json.Fault Settings :=
  Json.readAll read text.toList

variable {settings : Settings}

theorem Fits.reads (depth : Nat) (fits : settings.Fits) :
    Reads read (depth + 3) (render settings.toJson) settings := by
  have hKind := reads_storeKind (depth + 2) settings.storeBackend
  have hText := Json.reads_string (depth + 2)
  have hDatabase := Json.reads_signed (depth + 2) fits.redisDb.1 fits.redisDb.2
  have hTtl := Json.reads_signed (depth + 2) fits.tokenTtl.1 fits.tokenTtl.2
  have hCapacity := Json.reads_unsigned (depth + 2) fits.memoryCapacity (Nat.le_refl _)
  have hFields : Reads (Json.readList Json.readString) (depth + 2)
      (render (.arr (settings.fieldsToMask.map Json.str))) settings.fieldsToMask :=
    Json.reads_list (fun _ _ => Json.begins_quote _) fun field _ => Json.reads_string _ field
  have hPatterns : Reads (Json.readList PatternConfig.read) (depth + 2)
      (render (.arr (settings.patterns.map PatternConfig.toJson))) settings.patterns :=
    Json.reads_list (fun _ _ => ⟨by decide, by decide, by decide⟩)
      fun pattern _ => PatternConfig.reads depth pattern
  have hServer := fits.server.reads (depth + 1)
  exact Json.reads_structure
    (.known rfl rfl (Json.reads_field hKind _)
    (.known rfl rfl (Json.reads_field (hText settings.redisAddr) _)
    (.known rfl rfl (Json.reads_field (hText settings.redisPassword) _)
    (.known rfl rfl (Json.reads_field hDatabase _)
    (.known rfl rfl (Json.reads_field hTtl _)
    (.known rfl rfl (Json.reads_field hCapacity _)
    (.known rfl rfl (Json.reads_field hFields _)
    (.known rfl rfl (Json.reads_field hPatterns _)
    (.known rfl rfl (Json.reads_field hServer _) .done))))))))) rfl

theorem Fits.parse_text (fits : settings.Fits) : parse settings.toJson.text = .ok settings := by
  rw [parse, Json.text, String.toList_ofList]
  exact (fits.reads (Json.maxDepth - 3)).readAll

theorem Fits.fill (fits : settings.Fits) : settings.fill.Fits := by
  unfold Settings.fill
  split
  · exact ⟨fits.redisDb, fits.tokenTtl, fits.memoryCapacity, fits.server⟩
  · exact fits

end Settings

open Store (Builder Config Setting)

/-- Configurations are read back from their texts: what a builder makes of any calls whose numbers
fit their types, and what validation leaves of settings that it accepts, which it then accepts as
they are. What is built has a text of its own; in particular no password is written otherwise than
the empty one. -/
theorem configuration_roundTrips :
    (∀ calls : List Setting, (∀ call ∈ calls, call.Fits) →
      Config.parse (Builder.ofSettings calls).toJson.text = .ok (Builder.ofSettings calls)) ∧
    (∀ settings : Settings, settings.Fits → settings.validate.2 = .ok () →
      Settings.parse settings.validate.1.toJson.text = .ok settings.validate.1 ∧
        settings.validate.1.validate = (settings.validate.1, .ok ())) ∧
    (∀ first second : List Setting, (∀ call ∈ first, call.Fits) → (∀ call ∈ second, call.Fits) →
      (Builder.ofSettings first).toJson.text = (Builder.ofSettings second).toJson.text →
        Builder.ofSettings first = Builder.ofSettings second) ∧
    ∀ address database tokenTtl, FitsSigned database → tokenTtl ≤ maxUnsigned →
      (Config.mk (.redis address none database) tokenTtl).toJson.text ≠
        (Config.mk (.redis address (some "") database) tokenTtl).toJson.text := by
  refine ⟨fun calls each => (Builder.fits_ofSettings each).parse_text,
    fun settings fits accepted =>
      ⟨fits.fill.parse_text, (Settings.check_eq_ok_iff.mp accepted).validate_again⟩,
    fun first second hFirst hSecond same =>
      (Builder.fits_ofSettings hFirst).eq_of_text_eq (Builder.fits_ofSettings hSecond) same,
    fun address database tokenTtl hDatabase hTtl same => ?_⟩
  have hAbsent : Config.Fits ⟨.redis address none database, tokenTtl⟩ := ⟨hDatabase, hTtl⟩
  have hEmpty : Config.Fits ⟨.redis address (some "") database, tokenTtl⟩ := ⟨hDatabase, hTtl⟩
  cases hAbsent.eq_of_text_eq hEmpty same

/-- The least database and the longest lifetime, in a configuration with an empty password. -/
def extremeCalls : List Setting :=
  [.redis "\u0000\"é\n", .password "", .database (-9223372036854775808),
    .tokenTtl 18446744073709551615]

theorem configuration_roundTrips_extreme :
    (Builder.ofSettings extremeCalls).toJson.text =
        "\x7b\"backend\":\x7b\"kind\":\"redis\",\"addr\":\"\\u0000\\\"é\\n\",\"password\":\"\","
          ++ "\"db\":-9223372036854775808\x7d,\"token_ttl\":18446744073709551615\x7d" ∧
      Config.parse (Builder.ofSettings extremeCalls).toJson.text =
        .ok ⟨.redis "\u0000\"é\n" (some "") (-9223372036854775808), 18446744073709551615⟩ ∧
      (∀ database, FitsSigned database →
        (Builder.ofSettings [.redis "a:1", .database database]).toJson.text ≠
          (Builder.ofSettings [.redis "a:1", .password "", .database database]).toJson.text) ∧
      Settings.parse Settings.blankSettings.validate.1.toJson.text =
        .ok { Settings.blankSettings with redisAddr := "localhost:6379" } := by
  obtain ⟨built, accepted, _, distinct⟩ := configuration_roundTrips
  have hCalls : ∀ call ∈ extremeCalls, call.Fits := by
    simp [extremeCalls, Setting.Fits, FitsSigned, maxSigned, maxUnsigned]
  have hSettings : Settings.blankSettings.Fits :=
    ⟨⟨by decide, by decide⟩, ⟨by decide, by decide⟩, by decide, ⟨by decide, by decide⟩⟩
  have hFilled : Settings.blankSettings.validate =
      ({ Settings.blankSettings with redisAddr := "localhost:6379" }, .ok ()) := by decide +kernel
  refine ⟨by decide +kernel, built extremeCalls hCalls, fun database fits =>
    distinct "a:1" database 0 fits (Nat.zero_le _), ?_⟩
  rw [(accepted _ hSettings (congrArg Prod.snd hFilled)).1, hFilled]

end Masking
