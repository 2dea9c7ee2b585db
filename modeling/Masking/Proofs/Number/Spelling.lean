import Masking.Number.Reading
import Masking.Number.Shortest
import Mathlib.Data.List.TakeWhile

/-! Texts that are numbers. A grammar says which texts are read as an integer or as a binary64
number, and what is written for a number is in the grammar. -/

namespace Masking

namespace Text

/-- Decimal digits, at least one of them. -/
structure Digits (text : List Char) : Prop where
  nonempty : text ≠ []
  all : ∀ c ∈ text, isDigit c = true

/-- The text is an integer in decimal digits, which may have a sign. -/
inductive Writes : List Char → Int → Prop
  | bare {digits : List Char} (hDigits : Digits digits) :
      Writes digits (Nat.ofDigitChars 10 digits 0 : Nat)
  | plus {digits : List Char} (hDigits : Digits digits) :
      Writes ('+' :: digits) (Nat.ofDigitChars 10 digits 0 : Nat)
  | minus {digits : List Char} (hDigits : Digits digits) :
      Writes ('-' :: digits) (-(Nat.ofDigitChars 10 digits 0 : Nat))

section Digits

variable {c : Char} {text digits rest : List Char} {value : Char → Option Nat} {m : Nat} {n : Int}

theorem isDigit_iff : isDigit c = true ↔ 48 ≤ c.toNat ∧ c.toNat ≤ 57 := by
  unfold isDigit digitValue
  split <;> simp_all

theorem digitValue_of_isDigit (hDigit : isDigit c = true) : digitValue c = some (c.toNat - 48) :=
  if_pos (isDigit_iff.mp hDigit)

theorem hexValue_of_isDigit (hDigit : isDigit c = true) : hexValue c = some (c.toNat - 48) :=
  if_pos (isDigit_iff.mp hDigit)

theorem isDigit_of_digitValue (h : digitValue c = some m) : isDigit c = true := by
  rw [isDigit, h]
  rfl

/-- A hexadecimal digit below ten is a decimal one. -/
theorem isDigit_of_hexValue (h : hexValue c = some m) (hSmall : m < 10) : isDigit c = true := by
  unfold hexValue at h
  split at h
  next hDigit => exact isDigit_iff.mpr hDigit
  next =>
    split at h
    next hLetter =>
      cases h
      omega
    next =>
      split at h
      next hLetter =>
        cases h
        omega
      next => cases h

/-- Digits are read as the number that they write, and nothing else is read. -/
theorem readDigits_eq_some_iff (digit : ∀ c, isDigit c = true → value c = some (c.toNat - 48))
    (small : ∀ c m, value c = some m → m < 10 → isDigit c = true) (acc : Nat) :
    readDigits 10 value acc text = some m ↔
      (∀ c ∈ text, isDigit c = true) ∧ Nat.ofDigitChars 10 text acc = m := by
  induction text generalizing acc with
  | nil => simp [readDigits, Nat.ofDigitChars]
  | cons c rest ih =>
      rw [readDigits, List.forall_mem_cons, Nat.ofDigitChars_cons]
      by_cases hDigit : isDigit c = true
      · have hBounds := isDigit_iff.mp hDigit
        have hSmall : c.toNat - 48 < 10 := by omega
        simp only [digit c hDigit, if_pos hSmall, ih, hDigit, true_and, Nat.mul_comm acc 10]
        rfl
      · have hNone : ∀ d, value c = some d → ¬ d < 10 := fun d h hSmall => hDigit (small c d h hSmall)
        cases hValue : value c with
        | none => simp [hDigit]
        | some d => simp [hDigit, hNone d hValue]

theorem digits_cons_iff : Digits (c :: rest) ↔ ∀ d ∈ c :: rest, isDigit d = true :=
  ⟨Digits.all, fun all => ⟨List.cons_ne_nil _ _, all⟩⟩

theorem readDecimal_eq_some_iff :
    readDecimal text = some m ↔ Digits text ∧ Nat.ofDigitChars 10 text 0 = m := by
  cases text with
  | nil => exact ⟨fun h => (by cases h), fun h => absurd rfl h.1.nonempty⟩
  | cons c rest =>
      rw [readDecimal, digits_cons_iff, readDigits_eq_some_iff (fun _ => digitValue_of_isDigit)
        (fun _ _ h _ => isDigit_of_digitValue h)]

theorem readInBase_ten_eq_some_iff :
    readInBase 10 text = some m ↔ Digits text ∧ Nat.ofDigitChars 10 text 0 = m := by
  cases text with
  | nil => exact ⟨fun h => (by cases h), fun h => absurd rfl h.1.nonempty⟩
  | cons c rest =>
      rw [readInBase, digits_cons_iff, readDigits_eq_some_iff (fun _ => hexValue_of_isDigit)
        (fun _ _ => isDigit_of_hexValue)]

theorem Digits.not_sign (hDigits : Digits (c :: rest)) : c ≠ '-' ∧ c ≠ '+' := by
  have hFirst := hDigits.all c List.mem_cons_self
  constructor <;> rintro rfl <;> exact absurd hFirst (by decide)

/-- An integer is read exactly from the texts that write it. -/
theorem readSigned_eq_some_iff : readSigned 10 text = some n ↔ Writes text n := by
  constructor
  · intro h
    unfold readSigned at h
    split at h
    all_goals
      obtain ⟨m, hMagnitude, rfl⟩ := Option.map_eq_some_iff.mp h
      obtain ⟨k, hRead, hValue⟩ := Option.bind_eq_some_iff.mp hMagnitude
      cases hValue
      obtain ⟨hDigits, rfl⟩ := readInBase_ten_eq_some_iff.mp hRead
    · exact .minus hDigits
    · exact .plus hDigits
    · exact .bare hDigits
  · intro writes
    cases writes with
    | plus hDigits => rw [readSigned, readInBase_ten_eq_some_iff.mpr ⟨hDigits, rfl⟩]; rfl
    | minus hDigits => rw [readSigned, readInBase_ten_eq_some_iff.mpr ⟨hDigits, rfl⟩]; rfl
    | bare hDigits =>
        have hRead := readInBase_ten_eq_some_iff.mpr ⟨hDigits, rfl⟩
        unfold readSigned
        split
        · exact absurd rfl hDigits.not_sign.1
        · exact absurd rfl hDigits.not_sign.2
        · rw [hRead]
          rfl

theorem readSigned64_eq_some_iff :
    readSigned64 10 text = some n ↔ Writes text n ∧ isSigned64 n = true := by
  rw [readSigned64, Option.bind_eq_some_iff]
  constructor
  · rintro ⟨m, hRead, hRange⟩
    split at hRange
    next hSigned =>
      cases hRange
      exact ⟨readSigned_eq_some_iff.mp hRead, hSigned⟩
    next => cases hRange
  · rintro ⟨writes, hSigned⟩
    exact ⟨n, readSigned_eq_some_iff.mpr writes, if_pos hSigned⟩

theorem digits_decimal (n : Nat) : Digits (decimal n) where
  nonempty := Nat.toDigits_ne_nil
  all c member := by
    have hDigit := Nat.isDigit_of_mem_toDigits (by decide) (by decide) member
    rw [isDigit_iff]
    simpa [Char.isDigit, UInt32.le_iff_toNat_le] using hDigit

theorem ofDigitChars_decimal (n : Nat) : Nat.ofDigitChars 10 (decimal n) 0 = n :=
  Nat.ofDigitChars_ten_toDigits

theorem ofDigitChars_zeros (hZeros : ∀ c ∈ text, c = '0') : Nat.ofDigitChars 10 text 0 = 0 := by
  induction text with
  | nil => rfl
  | cons c rest ih =>
      obtain ⟨rfl, hRest⟩ := List.forall_mem_cons.mp hZeros
      rw [Nat.ofDigitChars_cons]
      exact ih hRest

/-- The decimal text of an integer writes it. -/
theorem writes_signedDecimal (n : Int) : Writes (signedDecimal n) n := by
  rw [signedDecimal]
  have hMagnitude := ofDigitChars_decimal n.natAbs
  split
  next hNegative =>
    have writes := Writes.minus (digits_decimal n.natAbs)
    rw [hMagnitude] at writes
    have hValue : -(n.natAbs : Int) = n := by omega
    rwa [hValue] at writes
  next hPositive =>
    have writes := Writes.bare (digits_decimal n.natAbs)
    rw [hMagnitude] at writes
    have hValue : (n.natAbs : Int) = n := by omega
    rwa [hValue] at writes

end Digits

end Text

namespace Binary64

open Text (Digits Writes isDigit readDecimal_eq_some_iff readSigned_eq_some_iff)

/-- One of the words for what is no finite number, in letters of either case. -/
def Word (text : List Char) : Prop :=
  String.ofList (text.map Text.lowerAscii) ∈ ["inf", "infinity", "nan"]

/-- What may follow the digits of a number: a power of ten, or nothing. -/
inductive Power : List Char → Prop
  | nothing : Power []
  | ten {letter : Char} {exponent : List Char} {n : Int} (hLetter : letter = 'e' ∨ letter = 'E')
      (hExponent : Writes exponent n) : Power (letter :: exponent)

/-- A number without sign: digits, with or without a point among, before or behind them. -/
inductive Magnitude : List Char → Prop
  | whole {digits power : List Char} (hDigits : Digits digits) (hPower : Power power) :
      Magnitude (digits ++ power)
  | pointed {whole fraction power : List Char} (hDigits : Digits (whole ++ fraction))
      (hPower : Power power) : Magnitude (whole ++ '.' :: (fraction ++ power))

/-- The text stands for a number, which may have a sign. -/
inductive Spelling : List Char → Prop
  | bare {text : List Char} (h : Word text ∨ Magnitude text) : Spelling text
  | plus {text : List Char} (h : Word text ∨ Magnitude text) : Spelling ('+' :: text)
  | minus {text : List Char} (h : Word text ∨ Magnitude text) : Spelling ('-' :: text)

section Reading

variable {text digits fraction rest : List Char} {negative : Bool}

theorem takeDigits_append (hDigits : ∀ c ∈ digits, isDigit c = true)
    (hRest : ∀ c ∈ rest.head?, isDigit c = false) : takeDigits (digits ++ rest) = (digits, rest) := by
  have hTake : rest.takeWhile isDigit = [] := by
    cases rest with
    | nil => rfl
    | cons c rest => rw [List.takeWhile_cons, hRest c rfl]; rfl
  rw [takeDigits, List.takeWhile_append_of_pos hDigits, hTake, List.append_nil, List.drop_left]

/-- Every text begins with digits that go as far as they can, none at the least. -/
theorem exists_digits (text : List Char) : ∃ digits rest, text = digits ++ rest ∧
    (∀ c ∈ digits, isDigit c = true) ∧ ∀ c ∈ rest.head?, isDigit c = false := by
  refine ⟨text.takeWhile isDigit, text.dropWhile isDigit, List.takeWhile_append_dropWhile.symm,
    fun c member => List.mem_takeWhile_imp member, fun c hHead => ?_⟩
  have hNot := List.head?_dropWhile_not isDigit text
  rw [Option.mem_def.mp hHead] at hNot
  exact hNot

theorem isSome_readPower : (readPower text).isSome = true ↔ Power text := by
  cases text with
  | nil => exact ⟨fun _ => .nothing, fun _ => rfl⟩
  | cons letter exponent =>
      rw [readPower]
      split
      next hLetter =>
        rw [Option.isSome_iff_exists]
        constructor
        · rintro ⟨n, hRead⟩
          exact .ten hLetter (readSigned_eq_some_iff.mp hRead)
        · rintro (_ | ⟨_, hExponent⟩)
          exact ⟨_, readSigned_eq_some_iff.mpr hExponent⟩
      next hLetter =>
        constructor
        · intro h
          cases h
        · rintro (_ | ⟨hTen, _⟩)
          exact absurd hTen hLetter

/-- No digit and no point follows the digits of a number. -/
theorem Power.head (power : Power text) : ∀ c ∈ text.head?, isDigit c = false ∧ c ≠ '.' := by
  intro c hHead
  cases power with
  | nothing => cases hHead
  | ten hLetter _ =>
      cases hHead
      rcases hLetter with rfl | rfl <;> decide

theorem isSome_readDecimal : (Text.readDecimal text).isSome = true ↔ Digits text := by
  rw [Option.isSome_iff_exists]
  constructor
  · rintro ⟨m, hRead⟩
    exact (readDecimal_eq_some_iff.mp hRead).1
  · exact fun hDigits => ⟨_, readDecimal_eq_some_iff.mpr ⟨hDigits, rfl⟩⟩

theorem isSome_readMagnitude_whole (hDigits : ∀ c ∈ digits, isDigit c = true)
    (hRest : ∀ c ∈ rest.head?, isDigit c = false) (hPoint : ∀ c ∈ rest.head?, c ≠ '.') :
    (readMagnitude negative (digits ++ rest)).isSome = true ↔ Digits digits ∧ Power rest := by
  rw [← isSome_readDecimal, ← isSome_readPower, readMagnitude, takeDigits_append hDigits hRest]
  dsimp only
  split
  next => exact absurd rfl (hPoint '.' rfl)
  next =>
    rw [List.append_nil]
    cases Text.readDecimal digits <;> cases readPower rest <;> simp

theorem isSome_readMagnitude_pointed (hDigits : ∀ c ∈ digits, isDigit c = true)
    (hFraction : ∀ c ∈ fraction, isDigit c = true)
    (hRest : ∀ c ∈ rest.head?, isDigit c = false) :
    (readMagnitude negative (digits ++ '.' :: (fraction ++ rest))).isSome = true ↔
      Digits (digits ++ fraction) ∧ Power rest := by
  have hPoint : ∀ c ∈ ('.' :: (fraction ++ rest)).head?, isDigit c = false := by
    rintro c ⟨⟩
    decide
  rw [← isSome_readDecimal, ← isSome_readPower, readMagnitude, takeDigits_append hDigits hPoint]
  simp only [takeDigits_append hFraction hRest]
  cases Text.readDecimal (digits ++ fraction) <;> cases readPower rest <;> simp

theorem isSome_readMagnitude : (readMagnitude negative text).isSome = true ↔ Magnitude text := by
  constructor
  · intro h
    obtain ⟨digits, rest, rfl, hDigits, hRest⟩ := exists_digits text
    by_cases hPoint : ∃ behind, rest = '.' :: behind
    · obtain ⟨behind, rfl⟩ := hPoint
      obtain ⟨fraction, rest, rfl, hFraction, hRest⟩ := exists_digits behind
      obtain ⟨hAll, hPower⟩ := (isSome_readMagnitude_pointed hDigits hFraction hRest).mp h
      exact .pointed hAll hPower
    · have hNoPoint : ∀ c ∈ rest.head?, c ≠ '.' := by
        rintro c hHead rfl
        obtain ⟨behind, hRest⟩ := List.head?_eq_some_iff.mp hHead
        exact hPoint ⟨behind, hRest⟩
      obtain ⟨hAll, hPower⟩ := (isSome_readMagnitude_whole hDigits hRest hNoPoint).mp h
      exact .whole hAll hPower
  · intro magnitude
    cases magnitude with
    | whole hDigits hPower =>
        exact (isSome_readMagnitude_whole hDigits.all (fun c hHead => (hPower.head c hHead).1)
          fun c hHead => (hPower.head c hHead).2).mpr ⟨hDigits, hPower⟩
    | pointed hDigits hPower =>
        obtain ⟨hWhole, hFraction⟩ := List.forall_mem_append.mp hDigits.all
        exact (isSome_readMagnitude_pointed hWhole hFraction
          fun c hHead => (hPower.head c hHead).1).mpr ⟨hDigits, hPower⟩

theorem isSome_readUnsigned :
    (readUnsigned negative text).isSome = true ↔ Word text ∨ Magnitude text := by
  rw [readUnsigned, Word]
  split
  next hInfinite => rcases hInfinite with hWord | hWord <;> simp [hWord]
  next hFinite =>
    obtain ⟨hShort, hLong⟩ := not_or.mp hFinite
    split
    next hNan => simp [hNan]
    next hNan => rw [isSome_readMagnitude]; simp [hShort, hLong, hNan]

/-- Digits begin with a digit or the point. -/
theorem Magnitude.head {c : Char} (magnitude : Magnitude (c :: rest)) :
    isDigit c = true ∨ c = '.' := by
  generalize hText : c :: rest = text at magnitude
  cases magnitude with
  | @whole digits power hDigits _ =>
      obtain ⟨first, others, rfl⟩ := List.exists_cons_of_ne_nil hDigits.nonempty
      cases hText
      exact Or.inl (hDigits.all c List.mem_cons_self)
  | @pointed whole fraction power hDigits _ =>
      cases whole with
      | nil =>
          cases hText
          exact Or.inr rfl
      | cons first others =>
          cases hText
          exact Or.inl (hDigits.all c List.mem_cons_self)

/-- A number without sign does not begin with one. -/
theorem head_ne_sign {c : Char} (h : Word (c :: rest) ∨ Magnitude (c :: rest)) :
    c ≠ '-' ∧ c ≠ '+' := by
  rcases h with word | magnitude
  · constructor <;> rintro rfl <;> simp [Word, ← String.toList_inj, Text.lowerAscii] at word
  · rcases magnitude.head with hDigit | rfl
    · constructor <;> rintro rfl <;> exact absurd hDigit (by decide)
    · decide

/-- A number is read exactly from the texts of the grammar. -/
theorem isSome_read?_iff : (read? text).isSome = true ↔ Spelling text := by
  constructor
  · intro h
    unfold read? at h
    split at h
    · exact .minus (isSome_readUnsigned.mp h)
    · exact .plus (isSome_readUnsigned.mp h)
    · exact .bare (isSome_readUnsigned.mp h)
  · intro spelling
    cases spelling with
    | plus h => exact isSome_readUnsigned.mpr h
    | minus h => exact isSome_readUnsigned.mpr h
    | bare h =>
        unfold read?
        split
        · exact absurd rfl (head_ne_sign h).1
        · exact absurd rfl (head_ne_sign h).2
        · exact isSome_readUnsigned.mpr h

end Reading

section Writing

variable {text digits : List Char} {significand num den : Nat} {scale exponent place : Int}

/-- An integer is a number without a point. -/
theorem spelling_of_writes {n : Int} (writes : Writes text n) : Spelling text := by
  have hMagnitude : ∀ {digits}, Digits digits → Word digits ∨ Magnitude digits := by
    intro digits hDigits
    have magnitude := Magnitude.whole hDigits .nothing
    rw [List.append_nil] at magnitude
    exact Or.inr magnitude
  cases writes with
  | bare hDigits => exact .bare (hMagnitude hDigits)
  | plus hDigits => exact .plus (hMagnitude hDigits)
  | minus hDigits => exact .minus (hMagnitude hDigits)

/-- Digits with a point somewhere are a number. Without a digit to begin with, zeros take their
place, if there are any. -/
theorem magnitude_positional (hDigits : ∀ c ∈ digits, isDigit c = true)
    (hSome : digits = [] → exponent ≠ 0) : Magnitude (positional digits exponent false) := by
  have hZeros : ∀ n, ∀ c ∈ List.replicate n '0', isDigit c = true := by
    intro n c member
    rw [List.eq_of_mem_replicate member]
    decide
  rw [positional]
  split
  next hWhole =>
    have hAll : Digits (digits ++ List.replicate exponent.natAbs '0') := by
      refine ⟨fun h => ?_, List.forall_mem_append.mpr ⟨hDigits, hZeros _⟩⟩
      obtain ⟨hNone, hReplicate⟩ := List.append_eq_nil_iff.mp h
      have hZero : exponent.natAbs = 0 := by simpa using hReplicate
      exact hSome hNone (Int.natAbs_eq_zero.mp hZero)
    exact .whole hAll .nothing
  next hFraction =>
    split
    next hInside =>
      have hAll : Digits (digits.take (digits.length + exponent).natAbs ++
          digits.drop (digits.length + exponent).natAbs) := by
        rw [List.take_append_drop]
        refine ⟨?_, hDigits⟩
        rintro rfl
        rw [List.length_nil] at hInside
        omega
      have magnitude := Magnitude.pointed hAll .nothing
      rwa [List.append_nil] at magnitude
    next =>
      have hAll : Digits (['0'] ++
          (List.replicate (digits.length + exponent).natAbs '0' ++ digits)) :=
        ⟨List.cons_ne_nil _ _, List.forall_mem_append.mpr
          ⟨hZeros 1, List.forall_mem_append.mpr ⟨hZeros _, hDigits⟩⟩⟩
      have magnitude := Magnitude.pointed hAll .nothing
      rwa [List.append_nil] at magnitude

theorem ratioLog_le (num den : Nat) : ratioLog num den ≤ (Nat.log2 num : Int) - Nat.log2 den := by
  rw [ratioLog]
  dsimp only
  split <;> omega

/-- A fraction whose logarithm is positive is no less than one. -/
theorem le_of_ratioLog_pos (h : 0 < ratioLog num den) : den ≤ num := by
  have hLog := ratioLog_le num den
  have hNum : num ≠ 0 := by
    rintro rfl
    rw [Nat.log2_zero] at hLog
    omega
  have hPower : 2 ^ (Nat.log2 den + 1) ≤ 2 ^ Nat.log2 num :=
    Nat.pow_le_pow_right (by decide) (by omega)
  calc den ≤ 2 ^ (Nat.log2 den + 1) := Nat.le_of_lt Nat.lt_log2_self
    _ ≤ 2 ^ Nat.log2 num := hPower
    _ ≤ num := Nat.log2_self_le hNum

theorem decimalLog_le (num den : Nat) :
    decimalLog num den ≤ ratioLog num den * 30103 / 100000 + 1 := by
  rw [decimalLog]
  dsimp only
  split
  · exact Int.le_refl _
  · split <;> omega

theorem ratio_den_pos (significand : Nat) (scale : Int) : 0 < (ratio significand scale).2 := by
  rw [ratio, scaleRatio]
  split
  · show 0 < 1 <<< scale.natAbs
    rw [Nat.shiftLeft_eq, Nat.one_mul]
    exact Nat.two_pow_pos _
  · exact Nat.one_pos

/-- No decimal zero is read back as a number that is not zero. -/
theorem decimalCandidate_ne_zero (nonzero : significand ≠ 0) :
    decimalCandidate significand scale place ≠ some 0 := by
  intro h
  rw [decimalCandidate] at h
  dsimp only at h
  split at h
  next hLow =>
    obtain ⟨hFits, _⟩ := hLow
    rw [Option.some.inj h, ofDecimal, if_pos rfl, zero, Binary64.finite.injEq] at hFits
    exact nonzero hFits.2.1.symm
  next =>
    split at h
    next => cases h
    next => cases h

/-- A fraction with a large decimal logarithm is no less than one. -/
theorem le_of_decimalLog (h : 15 ≤ decimalLog num den) : den ≤ num := by
  have hLog := decimalLog_le num den
  exact le_of_ratioLog_pos (by omega)

/-- Digits that are read back as a number other than zero are not zero. When no digits are, those of
the last place are taken, which are not zero either if that place is the first behind the point. -/
theorem shortestFrom_place {top : Int} (nonzero : significand ≠ 0)
    (large : 15 ≤ top → (ratio significand scale).2 ≤ (ratio significand scale).1) (left : Nat)
    (h : (shortestFrom significand scale top left).1 = 0) :
    (shortestFrom significand scale top left).2 ≠ -1 := by
  induction left with
  | zero =>
      -- All places have been tried. The last of them is the first behind the point only for
      -- numbers that are large, and of those it has a digit.
      intro hPlace
      rw [shortestFrom] at h hPlace
      dsimp only at h hPlace
      have hTop : top = 15 := by omega
      subst hTop
      have hLarge := large (Int.le_refl _)
      have hDen := ratio_den_pos significand scale
      have hQuotient : (ratio significand scale).1 * 10 / (ratio significand scale).2 = 0 := h
      have hPositive : 0 < (ratio significand scale).1 * 10 / (ratio significand scale).2 :=
        Nat.div_pos (by omega) hDen
      omega
  | succ left ih =>
      rw [shortestFrom] at h ⊢
      cases hCandidate : decimalCandidate significand scale (top - (16 - (left : Int))) with
      | some digits =>
          rw [hCandidate] at h
          obtain rfl : digits = 0 := h
          exact absurd hCandidate (decimalCandidate_ne_zero nonzero)
      | none =>
          rw [hCandidate] at h
          exact ih h

theorem dropZeros_eq (reversed : List Char) (exponent : Int) :
    ∃ zeros rest, reversed = zeros ++ rest ∧ (∀ c ∈ zeros, c = '0') ∧
      dropZeros reversed exponent = (rest, exponent + zeros.length) := by
  induction reversed generalizing exponent with
  | nil => exact ⟨[], [], rfl, by simp, by simp [dropZeros]⟩
  | cons c rest ih =>
      by_cases hZero : c = '0'
      · subst hZero
        obtain ⟨zeros, behind, rfl, hZeros, hDrop⟩ := ih (exponent + 1)
        refine ⟨'0' :: zeros, behind, rfl, List.forall_mem_cons.mpr ⟨rfl, hZeros⟩, ?_⟩
        rw [dropZeros, hDrop, List.length_cons]
        congr 1
        omega
      · refine ⟨[], c :: rest, rfl, by simp, ?_⟩
        rw [dropZeros]
        · simp
        · exact hZero

/-- Of the digits of a number only zeros at their end are dropped. -/
theorem dropZeros_decimal (n : Nat) (place : Int) :
    (∀ c ∈ (dropZeros (Text.decimal n).reverse place).1, isDigit c = true) ∧
      ((dropZeros (Text.decimal n).reverse place).1 = [] →
        n = 0 ∧ (dropZeros (Text.decimal n).reverse place).2 = place + 1) := by
  obtain ⟨zeros, rest, hReverse, hZeros, hDrop⟩ := dropZeros_eq (Text.decimal n).reverse place
  rw [hDrop]
  constructor
  · intro c member
    have hMember : c ∈ (Text.decimal n).reverse := by
      rw [hReverse]
      exact List.mem_append_right _ member
    exact (Text.digits_decimal n).all c (List.mem_reverse.mp hMember)
  · rintro rfl
    have hAll : ∀ c ∈ Text.decimal n, c = '0' := by
      intro c member
      have hMember : c ∈ zeros ++ [] := by rw [← hReverse]; exact List.mem_reverse.mpr member
      exact hZeros c (by simpa using hMember)
    have hValue : n = 0 := by
      rw [← Text.ofDigitChars_decimal n]
      exact Text.ofDigitChars_zeros hAll
    subst hValue
    have hLength : zeros.length = 1 := by
      have := congrArg List.length hReverse
      simpa [Text.decimal] using this.symm
    exact ⟨rfl, by rw [hLength]; rfl⟩

theorem shortest_digits (nonzero : significand ≠ 0) :
    (∀ c ∈ (shortest significand scale).1, isDigit c = true) ∧
      ((shortest significand scale).1 = [] → (shortest significand scale).2 ≠ 0) := by
  rcases hRatio : ratio significand scale with ⟨num, den⟩
  have large : 15 ≤ decimalLog num den →
      (ratio significand scale).2 ≤ (ratio significand scale).1 := by
    rw [hRatio]
    exact le_of_decimalLog
  have hPlace := shortestFrom_place nonzero large 17
  rcases hFrom : shortestFrom significand scale (decimalLog num den) 17 with ⟨digits, place⟩
  rw [hFrom] at hPlace
  obtain ⟨hDigits, hNone⟩ := dropZeros_decimal digits place
  rcases hDrop : dropZeros (Text.decimal digits).reverse place with ⟨reversed, exponent⟩
  rw [hDrop] at hDigits hNone
  have hShortest : shortest significand scale = (reversed.reverse, exponent) := by
    unfold shortest
    rw [hRatio]
    dsimp only
    rw [hFrom]
    dsimp only
    rw [hDrop]
  rw [hShortest]
  refine ⟨fun c member => hDigits c (List.mem_reverse.mp member), fun hEmpty hExponent => ?_⟩
  obtain ⟨hZero, hLast⟩ := hNone (List.reverse_eq_nil_iff.mp hEmpty)
  have hBehind : place ≠ -1 := hPlace hZero
  have hZeroLast : exponent = place + 1 := hLast
  omega

/-- What is written for a number, in the form for people, is a number. -/
theorem spelling_plainText (number : Binary64) : Spelling number.plainText := by
  have signed : ∀ (negative : Bool) {text : List Char}, Word text ∨ Magnitude text →
      Spelling ((if negative then ['-'] else []) ++ text) := by
    intro negative text h
    cases negative with
    | false => exact .bare h
    | true => exact .minus h
  cases number with
  | nan =>
      have hWord : Word "NaN".toList := by unfold Word; decide
      exact .bare (Or.inl hWord)
  | infinite negative =>
      have hWord : Word "inf".toList := by unfold Word; decide
      exact signed negative (Or.inl hWord)
  | finite negative significand scale =>
      rw [plainText]
      dsimp only
      split
      next =>
        have magnitude := Magnitude.whole (Text.digits_decimal 0) .nothing
        exact signed negative (Or.inr magnitude)
      next nonzero =>
        obtain ⟨hDigits, hSome⟩ := @shortest_digits significand scale nonzero
        exact signed negative (Or.inr (magnitude_positional hDigits hSome))

end Writing

end Binary64

end Masking
