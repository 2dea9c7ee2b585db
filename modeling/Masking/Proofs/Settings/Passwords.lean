import Masking.Settings.Load
import Masking.Proofs.Number.Spelling
import Masking.Proofs.Settings.Validation

/-! The password that a variable of the environment gives. A text that is spelled as a truth value or
as a number is replaced by the usual text of that value; any other one is kept as it is. -/

namespace Masking

namespace Environment

/-- The variable for the password of a Redis server. -/
def passwordVariable : String := "REDMASK_REDIS_PASSWORD"

/-- A text in lower case. -/
def lower (text : String) : String :=
  String.ofList (text.toList.map Text.lowerAscii)

/-- The text is a truth value in letters of either case. -/
def Truth (text : String) : Prop :=
  lower text = "true" ∨ lower text = "false"

/-- The text is a truth value or a number. -/
def Spelled (text : String) : Prop :=
  Truth text ∨ Binary64.Spelling text.toList

/-- The text is no integer of 64 signed bits. -/
def Large (text : String) : Prop :=
  ∀ n, Text.Writes text.toList n → Text.isSigned64 n = false

/-- What becomes of a text: the usual text of what it is spelled as, and otherwise the text. -/
inductive Becomes (text : String) : String → Prop
  | truth (h : Truth text) : Becomes text (lower text)
  | integer {n : Int} (writes : Text.Writes text.toList n) (small : Text.isSigned64 n = true) :
      Becomes text (String.ofList (Text.signedDecimal n))
  | number {x : Binary64} (read : Binary64.read? text.toList = some x) (large : Large text) :
      Becomes text (String.ofList x.plainText)
  | kept (h : ¬ Spelled text) : Becomes text text

/-- The text is the usual one of a truth value, of an integer or of another number. -/
inductive Usual (text : String) : Prop
  | truth (h : text = "true" ∨ text = "false")
  | integer {n : Int} (small : Text.isSigned64 n = true)
      (h : text = String.ofList (Text.signedDecimal n))
  | number {x : Binary64} (read : Binary64.read? text.toList = some x) (large : Large text)
      (h : text = String.ofList x.plainText)

section Meanings

variable {key text other shown : String}

theorem lowerAscii_of_isDigit {c : Char} (hDigit : Text.isDigit c = true) :
    Text.lowerAscii c = c := by
  have hBounds := Text.isDigit_iff.mp hDigit
  rw [Text.lowerAscii, if_neg (by omega)]

theorem Truth.head (truth : Truth text) : ∃ c rest, text.toList = c :: rest ∧
    (Text.lowerAscii c = 't' ∨ Text.lowerAscii c = 'f') := by
  cases hText : text.toList with
  | nil => rcases truth with h | h <;> simp [lower, hText, ← String.toList_inj] at h
  | cons c rest =>
      refine ⟨c, rest, rfl, ?_⟩
      rcases truth with h | h
      · rw [lower, hText, ← String.toList_inj, String.toList_ofList] at h
        exact Or.inl (List.cons.inj h).1
      · rw [lower, hText, ← String.toList_inj, String.toList_ofList] at h
        exact Or.inr (List.cons.inj h).1

/-- No truth value is a number: those begin with other characters, or are other words. -/
theorem Truth.not_spelling (truth : Truth text) : ¬ Binary64.Spelling text.toList := by
  intro spelling
  have hWord : ¬ Binary64.Word text.toList := by
    intro word
    have hLower : lower text ∈ ["inf", "infinity", "nan"] := word
    rcases truth with h | h <;> rw [h] at hLower <;> exact absurd hLower (by decide)
  obtain ⟨c, rest, hText, hHead⟩ := truth.head
  rw [hText] at spelling hWord
  cases spelling with
  | plus => exact absurd hHead (by decide)
  | minus => exact absurd hHead (by decide)
  | bare h =>
      rcases (h.resolve_left hWord).head with hDigit | rfl
      · rw [lowerAscii_of_isDigit hDigit] at hHead
        rcases hHead with rfl | rfl <;> exact absurd hDigit (by decide)
      · exact absurd hHead (by decide)

theorem read?_eq_none_iff :
    Binary64.read? text.toList = none ↔ ¬ Binary64.Spelling text.toList := by
  rw [← Binary64.isSome_read?_iff, Option.not_isSome_iff_eq_none]

theorem readSigned64_eq_none_iff : Text.readSigned64 10 text.toList = none ↔ Large text := by
  rw [Option.eq_none_iff_forall_not_mem]
  constructor
  · intro unread n writes
    cases hSmall : Text.isSigned64 n with
    | false => rfl
    | true => exact absurd (Text.readSigned64_eq_some_iff.mpr ⟨writes, hSmall⟩) (unread n)
  · intro large n hRead
    obtain ⟨writes, hSmall⟩ := Text.readSigned64_eq_some_iff.mp hRead
    rw [large n writes] at hSmall
    cases hSmall

/-- A text that is not spelled as something else is read as no number. -/
theorem large_of_not_spelling (plain : ¬ Binary64.Spelling text.toList) : Large text :=
  fun _ writes => absurd (Binary64.spelling_of_writes writes) plain

theorem exists_becomes (text : String) : ∃ shown, Becomes text shown := by
  by_cases truth : Truth text
  · exact ⟨_, .truth truth⟩
  · cases hInteger : Text.readSigned64 10 text.toList with
    | some n =>
        obtain ⟨writes, small⟩ := Text.readSigned64_eq_some_iff.mp hInteger
        exact ⟨_, .integer writes small⟩
    | none =>
        cases hNumber : Binary64.read? text.toList with
        | some x => exact ⟨_, .number hNumber (readSigned64_eq_none_iff.mp hInteger)⟩
        | none => exact ⟨_, .kept (not_or.mpr ⟨truth, read?_eq_none_iff.mp hNumber⟩)⟩

theorem toText_valueOf_truth (truth : Truth text) :
    (valueOf key text).toText = some (lower text) := by
  rcases truth with h | h
  · have hWord : String.ofList (text.toList.map Text.lowerAscii) = "true" := h
    rw [valueOf, if_pos hWord, h]
    rfl
  · have hWord : String.ofList (text.toList.map Text.lowerAscii) = "false" := h
    rw [valueOf, hWord, if_neg (by decide), if_pos rfl, h]
    rfl

theorem toText_valueOf_untrue (hKey : key ≠ "fields_to_mask") (untrue : ¬ Truth text) :
    (valueOf key text).toText =
      match Text.readSigned64 10 text.toList, Binary64.read? text.toList with
      | some n, _ => some (String.ofList (Text.signedDecimal n))
      | none, some x => some (String.ofList x.plainText)
      | none, none => some text := by
  obtain ⟨hTrue, hFalse⟩ := not_or.mp untrue
  have hWord : lower text = String.ofList (text.toList.map Text.lowerAscii) := rfl
  rw [valueOf, if_neg (hWord ▸ hTrue), if_neg (hWord ▸ hFalse)]
  cases Text.readSigned64 10 text.toList with
  | some n => rfl
  | none =>
      cases Binary64.read? text.toList with
      | some x => rfl
      | none => rw [if_neg hKey]; rfl

/-- The value of a variable is no table, so that it takes the place of what was there. -/
theorem cover_valueOf (key text : String) (lower : Raw) :
    (valueOf key text).cover lower = valueOf key text := by
  have noTable : ∀ members, valueOf key text ≠ .table members := by
    intro members
    rw [valueOf]
    repeat' split
    all_goals exact Raw.noConfusion
  rw [Raw.cover]
  exact noTable

/-- A value of the environment that is no list is written as what becomes of it. -/
theorem Becomes.toText_valueOf (becomes : Becomes text shown) (hKey : key ≠ "fields_to_mask") :
    (valueOf key text).toText = some shown := by
  cases becomes with
  | truth truth => exact toText_valueOf_truth truth
  | integer writes small =>
      have untrue : ¬ Truth text :=
        fun truth => truth.not_spelling (Binary64.spelling_of_writes writes)
      rw [toText_valueOf_untrue hKey untrue, Text.readSigned64_eq_some_iff.mpr ⟨writes, small⟩]
  | number read large =>
      have untrue : ¬ Truth text :=
        fun truth => truth.not_spelling (Binary64.isSome_read?_iff.mp (by rw [read]; rfl))
      rw [toText_valueOf_untrue hKey untrue, readSigned64_eq_none_iff.mpr large, read]
  | kept plain =>
      obtain ⟨untrue, hNumber⟩ := not_or.mp plain
      rw [toText_valueOf_untrue hKey untrue,
        readSigned64_eq_none_iff.mpr (large_of_not_spelling hNumber),
        read?_eq_none_iff.mpr hNumber]

theorem Becomes.unique (hFirst : Becomes text shown) (hSecond : Becomes text other) :
    shown = other := by
  -- Both are what is written for the one value that a variable with this text has.
  have hKey : "" ≠ "fields_to_mask" := by decide
  rw [← Option.some_inj, ← hFirst.toText_valueOf hKey, hSecond.toText_valueOf hKey]

/-- What becomes of a truth value or a number is one. -/
theorem Becomes.spelled (becomes : Becomes text shown) (spelled : Spelled text) :
    Spelled shown := by
  cases becomes with
  | truth truth =>
      refine Or.inl ?_
      rcases truth with h | h
      · rw [h]; exact Or.inl (by decide)
      · rw [h]; exact Or.inr (by decide)
  | @integer n _ _ =>
      have writes := Text.writes_signedDecimal n
      rw [← String.toList_ofList (l := Text.signedDecimal n)] at writes
      exact Or.inr (Binary64.spelling_of_writes writes)
  | @number x _ _ =>
      have spelling := Binary64.spelling_plainText x
      rw [← String.toList_ofList (l := x.plainText)] at spelling
      exact Or.inr spelling
  | kept plain => exact absurd spelled plain

theorem Becomes.usual (becomes : Becomes text shown) (hSame : shown = text)
    (spelled : Spelled text) : Usual text := by
  cases becomes with
  | truth truth =>
      refine .truth ?_
      rcases truth with h | h
      · exact Or.inl (hSame.symm.trans h)
      · exact Or.inr (hSame.symm.trans h)
  | integer _ small => exact .integer small hSame.symm
  | number read large => exact .number read large hSame.symm
  | kept plain => exact absurd spelled plain

theorem Usual.becomes (usual : Usual text) : Becomes text text := by
  cases usual with
  | truth h =>
      rcases h with rfl | rfl
      · have becomes : Becomes "true" (lower "true") := .truth (Or.inl (by decide))
        exact becomes
      · have becomes : Becomes "false" (lower "false") := .truth (Or.inr (by decide))
        exact becomes
  | @integer n small h =>
      have writes := Text.writes_signedDecimal n
      rw [← String.toList_ofList (l := Text.signedDecimal n), ← h] at writes
      have becomes := Becomes.integer writes small
      rwa [← h] at becomes
  | number read large h =>
      have becomes := Becomes.number read large
      rwa [← h] at becomes

/-- A text is kept exactly when it is not spelled as a truth value or a number, or is the usual text
of that value. -/
theorem becomes_self_iff : Becomes text text ↔ (Spelled text → Usual text) := by
  constructor
  · exact fun becomes spelled => becomes.usual rfl spelled
  · intro usual
    by_cases spelled : Spelled text
    · exact (usual spelled).becomes
    · exact .kept spelled

/-- Texts of which the same becomes are the same, or both are truth values or numbers. -/
theorem Becomes.eq_or_spelled (hFirst : Becomes text shown) (hSecond : Becomes other shown) :
    other = text ∨ Spelled other ∧ Spelled text := by
  by_cases spelled : Spelled text
  · by_cases hOther : Spelled other
    · exact Or.inr ⟨hOther, spelled⟩
    · rw [← (Becomes.kept hOther).unique hSecond] at hFirst
      exact absurd (hFirst.spelled spelled) hOther
  · rw [← (Becomes.kept spelled).unique hFirst] at hSecond
    by_cases hOther : Spelled other
    · exact absurd (hSecond.spelled hOther) spelled
    · exact Or.inl ((Becomes.kept hOther).unique hSecond)

end Meanings

section Loading

variable {text shown password : String} {value : Raw}

/-- What is loaded when a text for the password is all that is set, and no file is named. -/
def loadPassword (text : String) : Except SettingsError Settings :=
  Settings.loadFrom .unnamed [(passwordVariable, text)]

/-- The standard settings with a password. -/
def withPassword (password : String) : Settings :=
  { Settings.standard with redisPassword := password }

/-- A password that is the only thing set is the only member. -/
theorem layer_password (scalar : ∀ lower, value.cover lower = value) :
    Raw.layer (Raw.layer (.table []) []) [("redis_password", value)] =
      .table [("redis_password", value)] := by
  have hPath : Raw.readPath "redis_password" = [.name "redis_password"] := by decide +kernel
  rw [Raw.layer, Raw.layer, List.foldl_nil, List.foldl_cons, List.foldl_nil]
  dsimp only
  rw [hPath, Raw.change, Raw.members, Raw.update, Raw.change, scalar]

theorem toSettings_password (h : value.toText = some shown) :
    (Raw.table [("redis_password", value)]).toSettings = some (withPassword shown) := by
  simp [Raw.toSettings, Raw.members, List.lookup_cons, Raw.optional, h, Settings.Draft.finish,
    withPassword]

/-- The standard settings are valid with any password. -/
theorem validated_password (password : String) :
    (withPassword password).validated = .ok (withPassword password) := by
  have hCheck : (withPassword password).check = .ok () :=
    Settings.check_eq_ok_iff.mpr
      ⟨Int.le_refl 0, Int.le_refl 0, Settings.named_defaultPatterns⟩
  have hFill : (withPassword password).fill = withPassword password :=
    Settings.fill_of_shows Settings.shows_defaultRedisAddress
  rw [Settings.validated, Settings.validate, hFill, hCheck]

/-- The value of the variable is loaded as the text that is written for it. -/
theorem loadPassword_of_toText (h : (valueOf "redis_password" text).toText = some password) :
    loadPassword text = .ok (withPassword password) := by
  have hKey : keyOf passwordVariable = some "redis_password" := by decide +kernel
  have hSource : source [(passwordVariable, text)] =
      [("redis_password", valueOf "redis_password" text)] := by
    simp only [source, List.filterMap_cons, hKey, Option.map_some, List.filterMap_nil]
  have hGathered : Settings.gather .unnamed [(passwordVariable, text)] =
      some (withPassword password) := by
    rw [Settings.gather, Settings.fileSource, Option.bind_eq_bind, Option.bind_some, hSource,
      layer_password (cover_valueOf "redis_password" text), toSettings_password h]
  rw [loadPassword, Settings.loadFrom, hGathered, Settings.finish, validated_password]

theorem loadPassword_eq_iff :
    loadPassword text = .ok (withPassword password) ↔ Becomes text password := by
  have hKey : "redis_password" ≠ "fields_to_mask" := by decide
  constructor
  · intro h
    obtain ⟨shown, becomes⟩ := exists_becomes text
    rw [loadPassword_of_toText (becomes.toText_valueOf hKey)] at h
    have hSame : shown = password := congrArg Settings.redisPassword (Except.ok.inj h)
    rwa [← hSame]
  · exact fun becomes => loadPassword_of_toText (becomes.toText_valueOf hKey)

/-- Every text for the password is loaded as what becomes of it. That is the text itself exactly when
it is not spelled as a truth value or a number, or is the usual text of one; and different texts are
loaded as the same settings only when both are spelled so. -/
theorem password_kept_iff (text : String) :
    (∃ password, Becomes text password ∧ loadPassword text = .ok (withPassword password)) ∧
      (loadPassword text = .ok (withPassword text) ↔ (Spelled text → Usual text)) ∧
      ∀ other, loadPassword other = loadPassword text →
        other = text ∨ Spelled other ∧ Spelled text := by
  obtain ⟨password, becomes⟩ := exists_becomes text
  have hLoaded := loadPassword_eq_iff.mpr becomes
  refine ⟨⟨password, becomes, hLoaded⟩, loadPassword_eq_iff.trans becomes_self_iff,
    fun other hSame => ?_⟩
  rw [hLoaded] at hSame
  exact becomes.eq_or_spelled (loadPassword_eq_iff.mp hSame)

/-- A zero in front, capital letters and a power of ten are lost, so that two different texts are
loaded as one. -/
theorem password_rewritten :
    loadPassword "0123" = .ok (withPassword "123") ∧ loadPassword "123" = loadPassword "0123" ∧
      loadPassword "TRUE" = .ok (withPassword "true") ∧
      loadPassword "1e3" = .ok (withPassword "1000") ∧
      ¬ ∀ text, loadPassword text = .ok (withPassword text) := by
  have hZero : loadPassword "0123" = .ok (withPassword "123") :=
    loadPassword_of_toText (by decide +kernel)
  have hPlain : loadPassword "123" = .ok (withPassword "123") :=
    loadPassword_of_toText (by decide +kernel)
  refine ⟨hZero, hPlain.trans hZero.symm, loadPassword_of_toText (by decide +kernel),
    loadPassword_of_toText (by decide +kernel), fun kept => ?_⟩
  have hBoth := hZero.symm.trans (kept "0123")
  have hSame : "123" = "0123" := congrArg Settings.redisPassword (Except.ok.inj hBoth)
  exact absurd hSame (by decide)

end Loading

end Environment

end Masking
