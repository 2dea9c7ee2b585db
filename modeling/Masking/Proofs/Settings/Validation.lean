import Masking.Settings.Basic

/-! What validation accepts, what it finds first when it refuses, and what it leaves of the settings;
and what the configuration of the store keeps of settings that are accepted. -/

namespace Masking

/-- Some character of the text is not white space. -/
def Unicode.Shows (text : String) : Prop :=
  ∃ c ∈ text.toList, isWhiteSpace c = false

theorem Unicode.isBlank_iff (text : String) : isBlank text = true ↔ ¬ Shows text := by
  rw [isBlank, List.all_eq_true]
  constructor
  · rintro blank ⟨c, member, hShown⟩
    rw [blank c member] at hShown
    cases hShown
  · intro nothing c member
    cases hShown : isWhiteSpace c with
    | true => rfl
    | false => exact absurd ⟨c, member, hShown⟩ nothing

instance (text : String) : Decidable (Unicode.Shows text) :=
  decidable_of_iff (¬ Unicode.isBlank text = true)
    ((not_congr (Unicode.isBlank_iff text)).trans Classical.not_not)

namespace Settings

/-- What is wrong with a pattern after the ones that have the names taken: it has no name to speak
of, or else its name is taken. -/
inductive NameFault (taken : List String) (pattern : PatternConfig) : SetupError → Prop
  | blank (hName : ¬ Unicode.Shows pattern.name) :
      NameFault taken pattern (.invalidConfig "patterns" "pattern name must not be empty")
  | duplicate (hName : Unicode.Shows pattern.name) (hTaken : pattern.name ∈ taken) :
      NameFault taken pattern
        (.invalidConfig "patterns" ("duplicate pattern name '" ++ pattern.name ++ "'"))

/-- All patterns have a name, and no two have the same. -/
structure Named (patterns : List PatternConfig) : Prop where
  shown : ∀ pattern ∈ patterns, Unicode.Shows pattern.name
  distinct : (patterns.map PatternConfig.name).Nodup

/-- The rules for settings. -/
structure Valid (settings : Settings) : Prop where
  ttl : 0 ≤ settings.tokenTtl
  database : 0 ≤ settings.redisDb
  named : Named settings.patterns

/-- The first rule that settings break, with the field it is about: that of the lifetime, that of the
database, or that of the first pattern with a fault. -/
inductive FirstFault (settings : Settings) : SetupError → Prop
  | ttl (hTtl : settings.tokenTtl < 0) :
      FirstFault settings (.invalidConfig "token_ttl" "must be non-negative")
  | database (hTtl : 0 ≤ settings.tokenTtl) (hDatabase : settings.redisDb < 0) :
      FirstFault settings (.invalidConfig "redis_db" "must be non-negative")
  | pattern (hTtl : 0 ≤ settings.tokenTtl) (hDatabase : 0 ≤ settings.redisDb)
      {before after : List PatternConfig} {pattern : PatternConfig} {error : SetupError}
      (hPatterns : settings.patterns = before ++ pattern :: after) (hBefore : Named before)
      (fault : NameFault (before.map PatternConfig.name) pattern error) : FirstFault settings error

section Names

variable {seen taken : List String} {pattern : PatternConfig} {patterns : List PatternConfig}
  {error : SetupError}

/-- A pattern is fine or has a fault. -/
theorem fine_or_fault (seen : List String) (pattern : PatternConfig) :
    Unicode.Shows pattern.name ∧ pattern.name ∉ seen ∨ ∃ error, NameFault seen pattern error := by
  by_cases hName : Unicode.Shows pattern.name
  · by_cases hTaken : pattern.name ∈ seen
    · exact Or.inr ⟨_, .duplicate hName hTaken⟩
    · exact Or.inl ⟨hName, hTaken⟩
  · exact Or.inr ⟨_, .blank hName⟩

theorem NameFault.congr (same : ∀ name, name ∈ seen ↔ name ∈ taken) :
    NameFault seen pattern error ↔ NameFault taken pattern error := by
  constructor <;> rintro (⟨hName⟩ | ⟨hName, hTaken⟩)
  · exact .blank hName
  · exact .duplicate hName ((same _).mp hTaken)
  · exact .blank hName
  · exact .duplicate hName ((same _).mpr hTaken)

theorem NameFault.not_fine (fault : NameFault seen pattern error) :
    ¬ (Unicode.Shows pattern.name ∧ pattern.name ∉ seen) := by
  rintro ⟨hName, hNew⟩
  cases fault with
  | blank hBlank => exact hBlank hName
  | duplicate _ hTaken => exact hNew hTaken

theorem checkNames_fine (hName : Unicode.Shows pattern.name) (hNew : pattern.name ∉ seen) :
    checkNames seen (pattern :: patterns) = checkNames (pattern.name :: seen) patterns := by
  have hBlank : ¬ Unicode.isBlank pattern.name = true := fun h => (Unicode.isBlank_iff _).mp h hName
  rw [checkNames, if_neg hBlank, if_neg (by simpa using hNew)]

theorem checkNames_fault (fault : NameFault seen pattern error) :
    checkNames seen (pattern :: patterns) = .error error := by
  cases fault with
  | blank hName => rw [checkNames, if_pos ((Unicode.isBlank_iff _).mpr hName)]
  | duplicate hName hTaken =>
      have hBlank : ¬ Unicode.isBlank pattern.name = true :=
        fun h => (Unicode.isBlank_iff _).mp h hName
      rw [checkNames, if_neg hBlank, if_pos (by simpa using hTaken)]

/-- Names are fine when all of them can be seen, none has been seen before and none comes twice. -/
theorem checkNames_eq_ok_iff :
    checkNames seen patterns = .ok () ↔
      Named patterns ∧ ∀ pattern ∈ patterns, pattern.name ∉ seen := by
  induction patterns generalizing seen with
  | nil => exact ⟨fun _ => ⟨⟨by simp, by simp⟩, by simp⟩, fun _ => rfl⟩
  | cons pattern rest ih =>
      rcases fine_or_fault seen pattern with ⟨hName, hNew⟩ | ⟨error, fault⟩
      · rw [checkNames_fine hName hNew, ih]
        constructor
        · rintro ⟨⟨hShown, hDistinct⟩, hUnseen⟩
          refine ⟨⟨List.forall_mem_cons.mpr ⟨hName, hShown⟩, ?_⟩, ?_⟩
          · rw [List.map_cons, List.nodup_cons]
            refine ⟨fun member => ?_, hDistinct⟩
            obtain ⟨other, hOther, hSame⟩ := List.mem_map.mp member
            exact hUnseen other hOther (List.mem_cons.mpr (Or.inl hSame))
          · exact List.forall_mem_cons.mpr
              ⟨hNew, fun other member hSeen => hUnseen other member (List.mem_cons_of_mem _ hSeen)⟩
        · rintro ⟨⟨hShown, hDistinct⟩, hUnseen⟩
          rw [List.map_cons, List.nodup_cons] at hDistinct
          refine ⟨⟨(List.forall_mem_cons.mp hShown).2, hDistinct.2⟩, fun other member hSeen => ?_⟩
          rcases List.mem_cons.mp hSeen with hSame | hBefore
          · exact hDistinct.1 (List.mem_map.mpr ⟨other, member, hSame⟩)
          · exact (List.forall_mem_cons.mp hUnseen).2 other member hBefore
      · rw [checkNames_fault fault]
        constructor
        · intro h
          cases h
        · rintro ⟨⟨hShown, _⟩, hUnseen⟩
          exact absurd ⟨(List.forall_mem_cons.mp hShown).1, (List.forall_mem_cons.mp hUnseen).1⟩
            fault.not_fine

/-- The error is about the first pattern with a fault, after patterns that are fine. -/
theorem checkNames_eq_error_iff :
    checkNames seen patterns = .error error ↔ ∃ before pattern after,
      patterns = before ++ pattern :: after ∧ checkNames seen before = .ok () ∧
        NameFault (before.map PatternConfig.name ++ seen) pattern error := by
  induction patterns generalizing seen with
  | nil => simp [checkNames]
  | cons first rest ih =>
      constructor
      · intro h
        rcases fine_or_fault seen first with ⟨hName, hNew⟩ | ⟨other, fault⟩
        · rw [checkNames_fine hName hNew, ih] at h
          obtain ⟨before, pattern, after, rfl, hBefore, fault⟩ := h
          refine ⟨first :: before, pattern, after, rfl, ?_, ?_⟩
          · rw [checkNames_fine hName hNew, hBefore]
          · exact (NameFault.congr fun name => by simp [or_left_comm]).mp fault
        · rw [checkNames_fault fault] at h
          cases h
          exact ⟨[], first, rest, rfl, rfl, fault⟩
      · rintro ⟨before, pattern, after, hPatterns, hBefore, fault⟩
        cases before with
        | nil =>
            cases hPatterns
            exact checkNames_fault fault
        | cons _ before =>
            cases hPatterns
            rcases fine_or_fault seen first with ⟨hName, hNew⟩ | ⟨other, early⟩
            · rw [checkNames_fine hName hNew] at hBefore ⊢
              refine ih.mpr ⟨before, pattern, after, rfl, hBefore, ?_⟩
              exact (NameFault.congr fun name => by simp [or_left_comm]).mp fault
            · rw [checkNames_fault early] at hBefore
              cases hBefore

end Names

section Validation

variable {settings : Settings} {error : SetupError}

theorem check_eq_ok_iff : settings.check = .ok () ↔ settings.Valid := by
  rw [check]
  split
  next hTtl => exact ⟨fun h => (by cases h), fun valid => absurd valid.ttl (Int.not_le.mpr hTtl)⟩
  next hTtl =>
    split
    next hDatabase =>
      exact ⟨fun h => (by cases h), fun valid => absurd valid.database (Int.not_le.mpr hDatabase)⟩
    next hDatabase =>
      rw [checkNames_eq_ok_iff]
      constructor
      · rintro ⟨named, _⟩
        exact ⟨Int.not_lt.mp hTtl, Int.not_lt.mp hDatabase, named⟩
      · intro valid
        exact ⟨valid.named, fun _ _ => List.not_mem_nil⟩

theorem check_eq_error_iff : settings.check = .error error ↔ settings.FirstFault error := by
  rw [check]
  constructor
  · intro h
    split at h
    next hTtl =>
      cases h
      exact .ttl hTtl
    next hTtl =>
      split at h
      next hDatabase =>
        cases h
        exact .database (Int.not_lt.mp hTtl) hDatabase
      next hDatabase =>
        obtain ⟨before, pattern, after, hPatterns, hBefore, fault⟩ := checkNames_eq_error_iff.mp h
        rw [List.append_nil] at fault
        exact .pattern (Int.not_lt.mp hTtl) (Int.not_lt.mp hDatabase) hPatterns
          (checkNames_eq_ok_iff.mp hBefore).1 fault
  · intro fault
    cases fault with
    | ttl hTtl => rw [if_pos hTtl]
    | database hTtl hDatabase => rw [if_neg (Int.not_lt.mpr hTtl), if_pos hDatabase]
    | pattern hTtl hDatabase hPatterns hBefore fault =>
        rw [if_neg (Int.not_lt.mpr hTtl), if_neg (Int.not_lt.mpr hDatabase),
          checkNames_eq_error_iff]
        refine ⟨_, _, _, hPatterns, ?_, ?_⟩
        · exact checkNames_eq_ok_iff.mpr ⟨hBefore, fun _ _ => List.not_mem_nil⟩
        · rwa [List.append_nil]

/-- Filling in the default changes nothing that a rule is about. -/
theorem valid_fill : settings.fill.Valid ↔ settings.Valid := by
  unfold fill
  split
  · exact ⟨fun valid => ⟨valid.ttl, valid.database, valid.named⟩,
      fun valid => ⟨valid.ttl, valid.database, valid.named⟩⟩
  · exact Iff.rfl

theorem fill_of_shows (hAddress : Unicode.Shows settings.redisAddr) : settings.fill = settings := by
  rw [fill, if_neg fun blank => (Unicode.isBlank_iff _).mp blank hAddress]

theorem fill_of_not_shows (hAddress : ¬ Unicode.Shows settings.redisAddr) :
    settings.fill = { settings with redisAddr := Store.defaultRedisAddress } := by
  rw [fill, if_pos ((Unicode.isBlank_iff _).mpr hAddress)]

theorem shows_defaultRedisAddress : Unicode.Shows Store.defaultRedisAddress := by
  decide +kernel

theorem named_defaultPatterns : Named defaultPatterns :=
  ⟨by decide +kernel, by decide⟩

/-- After the default has been filled in there is an address. -/
theorem shows_fill (settings : Settings) : Unicode.Shows settings.fill.redisAddr := by
  by_cases hAddress : Unicode.Shows settings.redisAddr
  · rwa [fill_of_shows hAddress]
  · rw [fill_of_not_shows hAddress]
    exact shows_defaultRedisAddress

/-- What validation leaves of valid settings it accepts as they are. -/
theorem Valid.validate_again (valid : settings.Valid) :
    settings.validate.1.validate = (settings.validate.1, .ok ()) := by
  have hFill : settings.fill.fill = settings.fill := fill_of_shows (shows_fill settings)
  have hCheck : settings.fill.check = .ok () := check_eq_ok_iff.mpr (valid_fill.mpr valid)
  rw [validate, validate, hFill, hCheck]

end Validation

/-- The configuration of a store says what the settings say: the backend that they choose with its
own settings, where no password is the empty one, and the lifetime, which is none at zero. -/
structure Represents (settings : Settings) (config : Store.Config) : Prop where
  memory : settings.storeBackend = .memory → config.backend = .memory settings.memoryCapacity
  redis : settings.storeBackend = .redis → ∃ password,
    config.backend = .redis settings.redisAddr password settings.redisDb ∧
      (password = none ↔ settings.redisPassword = "") ∧
      ∀ given, password = some given → given = settings.redisPassword
  ttl : (config.tokenTtl : Int) = settings.tokenTtl
  permanent : config.expiry = none ↔ settings.tokenTtl = 0
  lasting : ∀ duration, config.expiry = some duration → (duration : Int) = settings.tokenTtl * 1000

theorem storeConfig_tokenTtl (settings : Settings) :
    settings.storeConfig.tokenTtl = settings.tokenTtl.toNat := by
  rw [storeConfig, storeSettings]
  cases settings.storeBackend with
  | memory => rfl
  | redis =>
      by_cases hPassword : settings.redisPassword = ""
      · simp only [hPassword, if_true]
        rfl
      · simp only [hPassword, if_false]
        rfl

theorem storeConfig_memory {settings : Settings} (h : settings.storeBackend = .memory) :
    settings.storeConfig.backend = .memory settings.memoryCapacity := by
  rw [storeConfig, storeSettings, h]
  rfl

theorem storeConfig_redis {settings : Settings} (h : settings.storeBackend = .redis) :
    settings.storeConfig.backend = .redis settings.redisAddr
      (if settings.redisPassword = "" then none else some settings.redisPassword)
      settings.redisDb := by
  rw [storeConfig, storeSettings, h]
  by_cases hPassword : settings.redisPassword = ""
  · simp only [hPassword, if_true]
    rfl
  · simp only [hPassword, if_false]
    rfl

theorem Valid.represents {settings : Settings} (valid : settings.Valid) :
    settings.Represents settings.storeConfig where
  memory := storeConfig_memory
  redis chosen := by
    refine ⟨_, storeConfig_redis chosen, ?_⟩
    split
    next hEmpty => simp [hEmpty]
    next hGiven => simp [hGiven, eq_comm]
  ttl := by rw [storeConfig_tokenTtl, Int.toNat_of_nonneg valid.ttl]
  permanent := by
    have hTtl := valid.ttl
    rw [Store.Config.expiry, storeConfig_tokenTtl]
    split
    next hZero => simp; omega
    next hPositive => simp; omega
  lasting duration h := by
    have hTtl := valid.ttl
    rw [Store.Config.expiry, storeConfig_tokenTtl] at h
    split at h
    next => cases h
    next =>
      cases h
      omega

/-- Validation accepts exactly the valid settings, and says of others which rule they break first.
Either way it does nothing to them but put the default in place of an address that is blank; to
accepted settings, nothing more when it is done again. What is made of accepted settings for the
store is what they say. -/
theorem validate_faithful (settings : Settings) :
    (settings.validate.2 = .ok () ↔ settings.Valid) ∧
    (∀ error, settings.validate.2 = .error error ↔ settings.FirstFault error) ∧
    (Unicode.Shows settings.redisAddr → settings.validate.1 = settings) ∧
    (¬ Unicode.Shows settings.redisAddr →
      settings.validate.1 = { settings with redisAddr := Store.defaultRedisAddress }) ∧
    (settings.Valid → settings.validate.1.validate = (settings.validate.1, .ok ())) ∧
    (settings.Valid → settings.Represents settings.storeConfig ∧
      settings.validate.1.Represents settings.validate.1.storeConfig) := by
  refine ⟨check_eq_ok_iff, fun _ => check_eq_error_iff, fill_of_shows, fill_of_not_shows,
    Valid.validate_again, ?_⟩
  intro valid
  exact ⟨valid.represents, (valid_fill.mpr valid).represents⟩

/-- Settings with a blank address, and the same with a pattern added whose name is taken. -/
def blankSettings : Settings :=
  { standard with redisAddr := " \t", redisPassword := "secret", redisDb := 2, tokenTtl := 60 }

def doubledSettings : Settings :=
  { blankSettings with patterns := defaultPatterns ++ [⟨"ipv4", "x", ""⟩, ⟨" ", "y", ""⟩] }

theorem validate_faithful_blank :
    ¬ Unicode.Shows blankSettings.redisAddr ∧ blankSettings.Valid ∧
      blankSettings.validate = ({ blankSettings with redisAddr := "localhost:6379" }, .ok ()) ∧
      blankSettings.validate.1.Represents blankSettings.validate.1.storeConfig ∧
      doubledSettings.validate.2 =
        .error (.invalidConfig "patterns" "duplicate pattern name 'ipv4'") := by
  have hAddress : ¬ Unicode.Shows blankSettings.redisAddr := by decide +kernel
  have valid : blankSettings.Valid := ⟨by decide, by decide, named_defaultPatterns⟩
  obtain ⟨accepts, _, _, fills, _, represents⟩ := validate_faithful blankSettings
  obtain ⟨_, faults, _⟩ := validate_faithful doubledSettings
  refine ⟨hAddress, valid, Prod.ext (fills hAddress) (accepts.mpr valid), (represents valid).2, ?_⟩
  refine (faults _).mpr (.pattern (by decide) (by decide) rfl named_defaultPatterns ?_)
  exact .duplicate (by decide +kernel) (by decide)

end Settings

end Masking
