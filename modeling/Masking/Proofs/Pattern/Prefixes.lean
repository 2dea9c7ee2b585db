import Masking.Proofs.Http.Names
import Masking.Proofs.Pattern.Compilation
import Masking.Proofs.Text.Replacement

/-! What the tokens of a pattern begin with. Names may be used twice; the first configuration with
a name speaks for all of them, in the table of the set as in the tokens that are made with it. -/

namespace Masking

section Forms

variable {prefixes : Synthesizer.Prefixes} {category : Category} {lead : String}

/-- The tokens of the category have no form of their own: it is not that of addresses or of host
names, and no attribute's. -/
structure Category.Ordinary (category : Category) : Prop where
  not_ipv4 : category.tag ≠ Synthesizer.ipv4Category
  not_hostname : category.tag ≠ Synthesizer.hostnameCategory
  not_field : ∀ field, field ≠ "" → category ≠ .ofField field

theorem Category.fieldName_eq_none_iff :
    category.fieldName = none ↔ ∀ field, field ≠ "" → category ≠ .ofField field := by
  rw [fieldName]
  constructor
  · rintro h field hField rfl
    have hLead : Text.stripLead attributeMarker.toList (ofField field).tag.toList =
        some field.toList := by
      rw [Text.stripLead_eq_some_iff, ofField, String.toList_append]
    rw [hLead] at h
    cases hChars : field.toList with
    | nil => exact hField (String.toList_inj.mp hChars)
    | cons c rest =>
        rw [hChars] at h
        cases h
  · intro h
    split
    next c rest hLead =>
      have hTag := Text.stripLead_eq_some_iff.mp hLead
      have hField : String.ofList (c :: rest) ≠ "" := by simp
      refine absurd ?_ (h (String.ofList (c :: rest)) hField)
      obtain ⟨tag⟩ := category
      rw [ofField, Category.mk.injEq, ← String.toList_inj, hTag, String.toList_append,
        String.toList_ofList]
    next => rfl

/-- A token of an ordinary category is what the table has for the category, if anything, followed by
the digits of six bytes. -/
theorem Synthesizer.format_ordinary (ordinary : category.Ordinary) (digest : Sha256.Digest) :
    format prefixes category digest = (prefixes.lookup category.tag).getD "" ++
      String.ofList (Text.hex (digest.toList.take 6)) := by
  have hField := Category.fieldName_eq_none_iff.mpr ordinary.not_field
  rw [format, if_neg ordinary.not_ipv4, if_neg ordinary.not_hostname]
  simp only [hField]
  cases prefixes.lookup category.tag with
  | some lead => rfl
  | none => exact (String.empty_append).symm

/-- The token goes on after the lead with twelve lower-case hexadecimal digits, and ends there. -/
def Leads (lead token : String) : Prop :=
  ∃ digits : List Char, digits.length = 12 ∧ (∀ c ∈ digits, c ∈ Http.RequestId.lowerHexDigits) ∧
    token = lead ++ String.ofList digits

theorem PatternSet.leads (set : PatternSet) (value : String) (ordinary : category.Ordinary)
    (entry : set.prefixFor category.tag = some lead) :
    Leads lead (set.synthesizer value category) := by
  have hEntry : set.prefixes.lookup category.tag = some lead := entry
  rw [synthesizer, Synthesizer.sha256, Synthesizer.ofDigest, Synthesizer.format_ordinary ordinary,
    hEntry, Option.getD_some]
  refine ⟨_, ?_, Http.RequestId.hex_mem _, rfl⟩
  simp [Text.length_hex]

end Forms

namespace PatternSet

/-- The error is about the first configuration whose regular expression is refused. -/
def FirstRefused (configs : List PatternConfig) (error : SetupError) : Prop :=
  ∃ before config after fault, configs = before ++ config :: after ∧
    (∀ earlier ∈ before, ∃ regex, Regex.compile earlier.regex = .ok regex) ∧
    Regex.compile config.regex = .error fault ∧ error = .patternCompilation config.name fault

theorem compile_eq_error_iff_firstRefused {configs : List PatternConfig} {error : SetupError} :
    compile configs = .error error ↔ FirstRefused configs error := by
  rw [compile_eq_error_iff, FirstRefused]
  simp only [Pattern.exists_compile_iff, Pattern.compile_eq_error_iff, exists_and_left]

/-- Patterns are compiled together or not at all, whatever names they have. There is a set exactly
when every regular expression is valid, and otherwise the error names the first that is not. A set
has the patterns in order, its table gives for each name what the first configuration with the name
says, and with that the tokens of the name begin, unless they have a form of their own. -/
theorem compile_firstNamed (configs : List PatternConfig) :
    ((∃ set, compile configs = .ok set) ↔
      ∀ config ∈ configs, ∃ regex, Regex.compile config.regex = .ok regex) ∧
    (∀ error, compile configs = .error error ↔ FirstRefused configs error) ∧
    ∀ set, compile configs = .ok set →
      set.Collects configs ∧
        ∀ name first, firstNamed configs name = some first →
          (Category.ofPattern name).Ordinary →
            ∀ value, Leads first.tokenLead (set.synthesizer value (.ofPattern name)) := by
  refine ⟨?_, fun error => compile_eq_error_iff_firstRefused, fun set compiled => ?_⟩
  · rw [exists_compile_iff]
    simp only [Pattern.exists_compile_iff]
  · have collects := collects_of_compile compiled
    refine ⟨collects, fun name first hFirst ordinary value => set.leads value ordinary ?_⟩
    rw [Category.ofPattern, collects.tabled, hFirst, Option.map_some]

/-- Two patterns for card numbers that share a name, with another one between them. -/
def cardConfigs : List PatternConfig :=
  [⟨"card", "[0-9]+", "C-"⟩, ⟨"ipv4", "[0-9]+(?:[.][0-9]+)+", "IP-"⟩, ⟨"card", "[A-Z][0-9]+", "D-"⟩]

theorem compile_firstNamed_cards :
    ∃ set, compile cardConfigs = .ok set ∧ set.prefixFor "card" = some "C-" ∧
      firstNamed cardConfigs "card" = some ⟨"card", "[0-9]+", "C-"⟩ ∧
      (Category.ofPattern "card").Ordinary ∧
      Leads "C-" (set.synthesizer "4111" (.ofPattern "card")) := by
  obtain ⟨hExists, _, hSet⟩ := compile_firstNamed cardConfigs
  have hValid : ∀ config ∈ cardConfigs, ∃ regex, Regex.compile config.regex = .ok regex := by
    have hOk : ∀ config ∈ cardConfigs, (Regex.compile config.regex).toBool = true := by
      decide +kernel
    intro config member
    have hConfig := hOk config member
    cases hRegex : Regex.compile config.regex with
    | ok regex => exact ⟨regex, rfl⟩
    | error fault =>
        rw [hRegex] at hConfig
        cases hConfig
  have ordinary : (Category.ofPattern "card").Ordinary :=
    ⟨by decide, by decide, Category.fieldName_eq_none_iff.mp (by decide)⟩
  have hFirst : firstNamed cardConfigs "card" = some ⟨"card", "[0-9]+", "C-"⟩ := by decide
  obtain ⟨set, compiled⟩ := hExists.mpr hValid
  obtain ⟨collects, hLeads⟩ := hSet set compiled
  refine ⟨set, compiled, ?_, hFirst, ordinary, hLeads "card" _ hFirst ordinary "4111"⟩
  rw [collects.tabled, hFirst]
  rfl

end PatternSet

end Masking
