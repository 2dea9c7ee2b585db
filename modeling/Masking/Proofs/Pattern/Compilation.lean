import Masking.Pattern

/-! Patterns are compiled together or not at all. A set holds the configured patterns in their
order, and a failure is that of the first pattern that is refused. The table of a set is made entry
by entry; it finds what a search through the configurations from the front finds. -/

namespace Masking

theorem Regex.source_of_compile {source : String} {regex : Regex}
    (h : Regex.compile source = .ok regex) : regex.source = source := by
  rw [Regex.compile] at h
  split at h
  · cases h
  · split at h <;> cases h
    rfl

theorem Pattern.compile_eq_ok_iff {config : PatternConfig} {pattern : Pattern} :
    Pattern.compile config = .ok pattern ↔ ∃ regex, Regex.compile config.regex = .ok regex ∧
      pattern = ⟨config.name, regex, config.tokenLead⟩ := by
  rw [Pattern.compile]
  cases Regex.compile config.regex with
  | ok regex => simp [eq_comm]
  | error fault => simp

theorem Pattern.exists_compile_iff {config : PatternConfig} :
    (∃ pattern, Pattern.compile config = .ok pattern) ↔
      ∃ regex, Regex.compile config.regex = .ok regex := by
  simp only [Pattern.compile_eq_ok_iff, exists_comm, exists_and_left, exists_eq, and_true]

/-- A pattern keeps the configuration it was compiled from. -/
theorem Pattern.config_of_compile {config : PatternConfig} {pattern : Pattern}
    (h : Pattern.compile config = .ok pattern) : pattern.config = config := by
  obtain ⟨regex, hRegex, rfl⟩ := Pattern.compile_eq_ok_iff.mp h
  rw [Pattern.config, Regex.source_of_compile hRegex]

/-- A pattern is refused for its regular expression alone, and the error names the pattern. -/
theorem Pattern.compile_eq_error_iff {config : PatternConfig} {error : SetupError} :
    Pattern.compile config = .error error ↔ ∃ fault, Regex.compile config.regex = .error fault ∧
      error = .patternCompilation config.name fault := by
  rw [Pattern.compile]
  cases Regex.compile config.regex with
  | ok regex => simp
  | error fault => simp [eq_comm]

/-- An entry is made only where there was none. -/
theorem Synthesizer.Prefixes.lookup_enter (prefixes : Prefixes) (name lead other : String) :
    (prefixes.enter name lead).lookup other =
      (prefixes.lookup other).or (if name = other then some lead else none) := by
  rw [Prefixes.enter]
  by_cases hSame : name = other
  · subst hSame
    cases hEntry : prefixes.lookup name with
    | some entry => simp [hEntry]
    | none => simp
  · rw [if_neg hSame, Option.or_none]
    cases prefixes.lookup name with
    | some entry => rfl
    | none => simp [List.lookup_cons, beq_eq_false_iff_ne.mpr (Ne.symm hSame)]

namespace PatternSet

variable {config : PatternConfig} {configs before rest : List PatternConfig}
  {pattern : Pattern} {set result : PatternSet} {error : SetupError}

/-- The first configuration with a name. -/
def firstNamed (configs : List PatternConfig) (name : String) : Option PatternConfig :=
  configs.find? fun config => config.name = name

/-- What the set has of the configurations it was compiled from: all patterns in their order, and a
table that gives for each name what the first configuration with that name says. -/
structure Collects (set : PatternSet) (configs : List PatternConfig) : Prop where
  compiled : configs.map Pattern.compile = set.patterns.map Except.ok
  listed : set.patterns.map Pattern.config = configs
  tabled : ∀ name, set.prefixFor name = (firstNamed configs name).map PatternConfig.tokenLead

theorem collects_empty : empty.Collects [] :=
  ⟨rfl, rfl, fun _ => rfl⟩

theorem prefixFor_push (set : PatternSet) (pattern : Pattern) (name : String) :
    (set.push pattern).prefixFor name =
      (set.prefixFor name).or (if pattern.name = name then some pattern.tokenLead else none) :=
  set.prefixes.lookup_enter pattern.name pattern.tokenLead name

theorem Collects.push (collects : set.Collects configs)
    (h : Pattern.compile config = .ok pattern) :
    (set.push pattern).Collects (configs ++ [config]) := by
  have hConfig : pattern.config = config := Pattern.config_of_compile h
  refine ⟨?_, ?_, fun name => ?_⟩
  · rw [PatternSet.push, List.map_append, List.map_append, collects.compiled, List.map_singleton,
      List.map_singleton, h]
  · rw [PatternSet.push, List.map_append, collects.listed, List.map_singleton, hConfig]
  · have hLast : (firstNamed [config] name).map PatternConfig.tokenLead =
        if pattern.name = name then some pattern.tokenLead else none := by
      subst hConfig
      by_cases hName : pattern.name = name <;> simp [firstNamed, Pattern.config, hName]
    rw [prefixFor_push, collects.tabled, ← hLast, firstNamed, firstNamed, firstNamed,
      List.find?_append, Option.map_or]

theorem foldlM_add_cons_error (h : Pattern.compile config = .error error) :
    (config :: rest).foldlM add set = .error error := by
  rw [List.foldlM_cons, add, h]
  rfl

theorem foldlM_add_cons_ok (h : Pattern.compile config = .ok pattern) :
    (config :: rest).foldlM add set = rest.foldlM add (set.push pattern) := by
  rw [List.foldlM_cons, add, h]
  rfl

/-- What the loop has made of the configurations behind it, it keeps for the rest of them. -/
theorem Collects.foldlM (collects : set.Collects before)
    (h : rest.foldlM add set = .ok result) : result.Collects (before ++ rest) := by
  induction rest generalizing set before with
  | nil =>
      cases h
      rw [List.append_nil]
      exact collects
  | cons config rest ih =>
      cases hFirst : Pattern.compile config with
      | error error =>
          rw [foldlM_add_cons_error hFirst] at h
          cases h
      | ok pattern =>
          rw [foldlM_add_cons_ok hFirst] at h
          rw [List.append_cons]
          exact ih (collects.push hFirst) h

/-- A set that has been compiled collects its configurations. -/
theorem collects_of_compile (h : compile configs = .ok set) : set.Collects configs :=
  collects_empty.foldlM h

theorem exists_of_compile (h : compile configs = .ok set) :
    ∀ config ∈ configs, ∃ pattern, Pattern.compile config = .ok pattern := by
  intro config member
  have hCompiled : Pattern.compile config ∈ configs.map Pattern.compile :=
    List.mem_map_of_mem member
  rw [(collects_of_compile h).compiled] at hCompiled
  obtain ⟨pattern, _, hPattern⟩ := List.mem_map.mp hCompiled
  exact ⟨pattern, hPattern.symm⟩

theorem exists_foldlM (set : PatternSet)
    (fine : ∀ config ∈ configs, ∃ pattern, Pattern.compile config = .ok pattern) :
    ∃ result, configs.foldlM add set = .ok result := by
  induction configs generalizing set with
  | nil => exact ⟨set, rfl⟩
  | cons config rest ih =>
      obtain ⟨⟨pattern, hFirst⟩, hRest⟩ := List.forall_mem_cons.mp fine
      rw [foldlM_add_cons_ok hFirst]
      exact ih (set.push pattern) hRest

/-- There is a set exactly when every pattern can be compiled. -/
theorem exists_compile_iff :
    (∃ set, compile configs = .ok set) ↔
      ∀ config ∈ configs, ∃ pattern, Pattern.compile config = .ok pattern := by
  constructor
  · rintro ⟨set, h⟩
    exact exists_of_compile h
  · exact exists_foldlM empty

theorem foldlM_add_eq_error_iff :
    configs.foldlM add set = .error error ↔ ∃ before config after,
      configs = before ++ config :: after ∧
        (∀ earlier ∈ before, ∃ pattern, Pattern.compile earlier = .ok pattern) ∧
        Pattern.compile config = .error error := by
  constructor
  · intro h
    induction configs generalizing set with
    | nil => cases h
    | cons config rest ih =>
        cases hFirst : Pattern.compile config with
        | error other =>
            rw [foldlM_add_cons_error hFirst] at h
            cases h
            exact ⟨[], config, rest, rfl, fun _ member => absurd member List.not_mem_nil, hFirst⟩
        | ok pattern =>
            rw [foldlM_add_cons_ok hFirst] at h
            obtain ⟨before, bad, after, rfl, hFine, hBad⟩ := ih h
            exact ⟨config :: before, bad, after, rfl,
              List.forall_mem_cons.mpr ⟨⟨pattern, hFirst⟩, hFine⟩, hBad⟩
  · rintro ⟨before, bad, after, rfl, hFine, hBad⟩
    obtain ⟨middle, hMiddle⟩ := exists_foldlM set hFine
    rw [List.foldlM_append, hMiddle]
    exact foldlM_add_cons_error hBad

/-- The error is that of the first pattern that is refused; all before it are fine. -/
theorem compile_eq_error_iff :
    compile configs = .error error ↔ ∃ before config after,
      configs = before ++ config :: after ∧
        (∀ earlier ∈ before, ∃ pattern, Pattern.compile earlier = .ok pattern) ∧
        Pattern.compile config = .error error :=
  foldlM_add_eq_error_iff

end PatternSet

end Masking
