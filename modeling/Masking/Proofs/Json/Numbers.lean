import Masking.Json.Skip
import Masking.Proofs.Number.Spelling

/-! Integers as they are written and read. An integer that fits 64 bits is read back from its
decimal text, and every integer that is read fits them. -/

namespace Masking

/-- Only zero is written with a zero in front. -/
theorem Text.head_decimal {n : Nat} (h : n ≠ 0) : (Text.decimal n).head? ≠ some '0' := by
  have hDigit : ∀ m < 10, m ≠ 0 → m.digitChar ≠ '0' := by decide
  induction n using Nat.strongRecOn with
  | ind n ih =>
      rw [Text.decimal]
      by_cases hSmall : n < 10
      · rw [Nat.toDigits_of_lt_base hSmall]
        exact fun hHead => hDigit n hSmall h (Option.some.inj hHead)
      · have hFront := ih (n / 10) (by omega) (by omega)
        rw [Nat.toDigits_of_base_le (by decide) (by omega), List.head?_append]
        cases hHead : (Nat.toDigits 10 (n / 10)).head? with
        | none => exact absurd (List.head?_eq_none_iff.mp hHead) Nat.toDigits_ne_nil
        | some c =>
            rw [Text.decimal, hHead] at hFront
            exact hFront

theorem Text.le_ofDigitChars (digits : List Char) (acc : Nat) :
    acc ≤ Nat.ofDigitChars 10 digits acc := by
  induction digits generalizing acc with
  | nil => exact Nat.le_refl acc
  | cons c rest ih =>
      rw [Nat.ofDigitChars_cons]
      exact Nat.le_trans (by omega) (ih _)

namespace Json

/-- What a reader has come to is what its next part has made of what its first part has found. -/
theorem bind_eq_ok_iff {α β : Type} {scan : Except Fault α} {next : α → Except Fault β} {done : β} :
    (scan >>= next) = .ok done ↔ ∃ found, scan = .ok found ∧ next found = .ok done := by
  cases scan with
  | error fault => exact ⟨fun h => (by cases h), fun ⟨_, h, _⟩ => (by cases h)⟩
  | ok found => exact ⟨fun h => ⟨found, rfl, h⟩, fun ⟨_, hFound, h⟩ => Except.ok.inj hFound ▸ h⟩

/-- The text is where a value may end: there is nothing more of it, or the container that the value
is in goes on or ends. -/
def Ended : List Char → Prop
  | [] => True
  | c :: _ => c = ',' ∨ c = ']' ∨ c = '\x7d'

/-- The integer fits 64 bits, signed or unsigned. -/
def FitsWord (value : Int) : Prop :=
  -(maxSigned + 1 : Int) ≤ value ∧ value ≤ maxUnsigned

/-- An integer as it is read. -/
def Number.ofInt (value : Int) : Number :=
  if value < 0 then .negative value else .natural value.toNat

theorem Number.toJson_ofInt (value : Int) : (Number.ofInt value).toJson = .int value := by
  rw [ofInt]
  split
  next => rfl
  next hNatural => exact congrArg Json.int (Int.toNat_of_nonneg (Int.not_lt.mp hNatural))

section Written

variable {digits rest : List Char} {acc n : Nat} {value : Int}

/-- No number goes on where a value may end. -/
theorem Ended.stops {c : Char} (ended : Ended (c :: rest)) :
    Text.isDigit c = false ∧ c ≠ '.' ∧ c ≠ 'e' ∧ c ≠ 'E' := by
  rcases ended with rfl | rfl | rfl <;> decide

theorem digitValue_ended {c : Char} (ended : Ended (c :: rest)) : Text.digitValue c = none :=
  Option.isNone_iff_eq_none.mp (Option.isSome_eq_false_iff.mp ended.stops.1)

theorem skipDigits_append (hDigits : ∀ c ∈ digits, Text.isDigit c = true) (ended : Ended rest) :
    skipDigits (digits ++ rest) = rest := by
  induction digits with
  | nil =>
      cases rest with
      | nil => rfl
      | cons c rest => simp [skipDigits, ended.stops.1]
  | cons c digits ih =>
      obtain ⟨hFirst, hDigits⟩ := List.forall_mem_cons.mp hDigits
      rw [List.cons_append, skipDigits, if_pos hFirst, ih hDigits]

theorem scanIntegerDigits_append (hDigits : ∀ c ∈ digits, Text.isDigit c = true)
    (small : Nat.ofDigitChars 10 digits acc ≤ maxUnsigned) (ended : Ended rest) :
    scanIntegerDigits acc (digits ++ rest) = ((Nat.ofDigitChars 10 digits acc, 0), rest) := by
  induction digits generalizing acc with
  | nil =>
      cases rest with
      | nil => rfl
      | cons c rest =>
          rw [List.nil_append, scanIntegerDigits, digitValue_ended ended]
          rfl
  | cons c digits ih =>
      obtain ⟨hFirst, hDigits⟩ := List.forall_mem_cons.mp hDigits
      rw [Nat.ofDigitChars_cons, Nat.mul_comm 10 acc] at small ⊢
      have hStep : ¬ maxUnsigned < acc * 10 + (c.toNat - 48) :=
        Nat.not_lt.mpr (Nat.le_trans (Text.le_ofDigitChars digits _) small)
      rw [List.cons_append, scanIntegerDigits, Text.digitValue_of_isDigit hFirst]
      simp only [if_neg hStep]
      exact ih hDigits small

/-- Digits of a number that has no fraction and no exponent are read as that number. -/
theorem scanUnsigned_decimal (isNegative : Bool) (small : n ≤ maxUnsigned) (ended : Ended rest) :
    scanUnsigned isNegative (Text.decimal n ++ rest) = scanNumberEnd isNegative n 0 rest := by
  by_cases hZero : n = 0
  · subst hZero
    cases rest with
    | nil => rfl
    | cons c rest =>
        show scanUnsigned isNegative ('0' :: c :: rest) = _
        simp only [scanUnsigned, ended.stops.1, Bool.false_eq_true, if_false]
  · have hDigits := Text.digits_decimal n
    have hValue := Text.ofDigitChars_decimal n
    have hHead := Text.head_decimal hZero
    cases hText : Text.decimal n with
    | nil => exact absurd hText hDigits.nonempty
    | cons c digits =>
        rw [hText] at hDigits hValue hHead
        have hFirst : c ≠ '0' := fun same => hHead (congrArg some same)
        have hScan : scanIntegerDigits 0 (c :: digits ++ rest) = ((n, 0), rest) := by
          rw [scanIntegerDigits_append hDigits.all (by rwa [hValue]) ended, hValue]
        rw [List.cons_append] at hScan
        rw [List.cons_append, scanUnsigned, if_pos (hDigits.all c List.mem_cons_self), hScan]
        exact hFirst

theorem scanNumberEnd_ended (isNegative : Bool) (n : Nat) (ended : Ended rest) :
    scanNumberEnd isNegative n 0 rest =
      if ¬ isNegative then .ok (.natural n, rest)
      else if n = 0 ∨ maxSigned + 1 < n then .ok (.float (Binary64.ofNat n).neg, rest)
      else .ok (.negative (-(n : Int)), rest) := by
  cases rest with
  | nil => rfl
  | cons c rest =>
      obtain ⟨_, hPoint, hLower, hUpper⟩ := ended.stops
      rw [scanNumberEnd]
      · rfl
      · exact fun _ same => hPoint (List.cons.inj same).1
      · exact fun _ same => hLower (List.cons.inj same).1
      · exact fun _ same => hUpper (List.cons.inj same).1

/-- An integer is read from its decimal text. -/
theorem scanNumber_signedDecimal (fits : FitsWord value) (ended : Ended rest) :
    scanNumber (Text.signedDecimal value ++ rest) = .ok (.ofInt value, rest) := by
  obtain ⟨hLow, hHigh⟩ := fits
  have hSigned : (maxSigned : Int) = 9223372036854775807 := rfl
  have hUnsigned : (maxUnsigned : Int) = 18446744073709551615 := rfl
  have small : value.natAbs ≤ maxUnsigned := by omega
  rw [Text.signedDecimal, Number.ofInt]
  by_cases hNegative : value < 0
  · have hMagnitude : ¬ (value.natAbs = 0 ∨ maxSigned + 1 < value.natAbs) := by omega
    have hValue : -(value.natAbs : Int) = value := by omega
    rw [if_pos hNegative, if_pos hNegative, List.cons_append, scanNumber,
      scanUnsigned_decimal true small ended, scanNumberEnd_ended true _ ended,
      if_neg (by simp), if_neg hMagnitude, hValue]
  · have hDigits := Text.digits_decimal value.natAbs
    have hNatural : value.natAbs = value.toNat := by omega
    have hSign : ∀ more, Text.decimal value.natAbs ++ rest ≠ '-' :: more := by
      intro more same
      cases hText : Text.decimal value.natAbs with
      | nil => exact hDigits.nonempty hText
      | cons c digits =>
          rw [hText] at same hDigits
          exact hDigits.not_sign.1 (List.cons.inj same).1
    rw [if_neg hNegative, if_neg hNegative, scanNumber.eq_2 _ hSign,
      scanUnsigned_decimal false small ended, scanNumberEnd_ended false _ ended,
      if_pos (by simp), hNatural]

theorem scanFloatEnd_ended (isNegative : Bool) (significand : Nat) (exponent : Int)
    (ended : Ended rest) :
    scanFloatEnd isNegative significand exponent rest =
      floatOfParts isNegative significand exponent >>= fun value => .ok (value, rest) := by
  cases rest with
  | nil => rfl
  | cons c rest =>
      obtain ⟨_, _, hLower, hUpper⟩ := ended.stops
      rw [scanFloatEnd]
      · exact fun _ same => hLower (List.cons.inj same).1
      · exact fun _ same => hUpper (List.cons.inj same).1

/-- The zero with a minus sign is the one number that is written as a float and is read as it was
whatever led to it. -/
theorem scanNumber_minusZero (ended : Ended rest) :
    scanNumber ('-' :: '0' :: '.' :: '0' :: rest) = .ok (.float (.zero true), rest) := by
  have hParts : floatOfParts true 0 (-1) = .ok (.zero true) := by decide +kernel
  have hFraction : scanFraction 0 0 ('0' :: rest) = ((0, 1, false), rest) := by
    cases rest with
    | nil => rfl
    | cons c rest =>
        show scanFraction 0 1 (c :: rest) = _
        rw [scanFraction, digitValue_ended ended]
  have hDecimal : scanDecimal true 0 0 ('0' :: rest) = .ok (.zero true, rest) := by
    rw [scanDecimal, hFraction]
    show scanFloatEnd true 0 (-1) rest = _
    rw [scanFloatEnd_ended true 0 (-1) ended, hParts]
    rfl
  change (scanDecimal true 0 0 ('0' :: rest) >>= fun done =>
    Except.ok (Number.float done.1, done.2)) = _
  rw [hDecimal]
  rfl

theorem skipFloatEnd_ended (ended : Ended rest) : skipFloatEnd rest = .ok rest := by
  cases rest with
  | nil => rfl
  | cons c rest =>
      obtain ⟨_, _, hLower, hUpper⟩ := ended.stops
      rw [skipFloatEnd]
      · exact fun _ same => hLower (List.cons.inj same).1
      · exact fun _ same => hUpper (List.cons.inj same).1

theorem skipNumber_zero (ended : Ended rest) :
    skipNumber ('0' :: '.' :: '0' :: rest) = .ok rest := by
  have hRest : skipDigits rest = rest :=
    skipDigits_append (fun _ h => absurd h List.not_mem_nil) ended
  change skipFloatEnd (skipDigits rest) = .ok rest
  rw [hRest, skipFloatEnd_ended ended]

/-- A number that is passed over is passed over as a whole. -/
theorem skipNumber_decimal (n : Nat) (ended : Ended rest) :
    skipNumber (Text.decimal n ++ rest) = .ok rest := by
  have hEnd := skipFloatEnd_ended ended
  by_cases hZero : n = 0
  · subst hZero
    cases rest with
    | nil => rfl
    | cons c rest =>
        obtain ⟨hDigit, hPoint, _⟩ := ended.stops
        show skipNumber ('0' :: c :: rest) = _
        simp only [skipNumber, hDigit, Bool.false_eq_true, if_false]
        split
        next h => cases h; exact absurd rfl hPoint
        next h => cases h; exact absurd rfl hPoint
        next => exact hEnd
  · have hDigits := Text.digits_decimal n
    have hHead := Text.head_decimal hZero
    cases hText : Text.decimal n with
    | nil => exact absurd hText hDigits.nonempty
    | cons c digits =>
        rw [hText] at hDigits hHead
        have hFirst : c ≠ '0' := fun same => hHead (congrArg some same)
        have hRest := skipDigits_append (fun d member =>
          hDigits.all d (List.mem_cons_of_mem c member)) ended
        rw [List.cons_append, skipNumber]
        · rw [if_pos (hDigits.all c List.mem_cons_self), hRest]
          dsimp only
          cases rest with
          | nil => rfl
          | cons d rest =>
              obtain ⟨_, hPoint, _⟩ := ended.stops
              split
              next h => cases h; exact absurd rfl hPoint
              next h => cases h; exact absurd rfl hPoint
              next => exact hEnd
        · rintro d more rfl
          exact absurd rfl hFirst

end Written

section Read

variable {text rest : List Char} {number : Number} {value : Int}

theorem scanIntegerDigits_le {acc : Nat} (small : acc ≤ maxUnsigned) (text : List Char) :
    (scanIntegerDigits acc text).1.1 ≤ maxUnsigned := by
  induction text generalizing acc with
  | nil => exact small
  | cons c rest ih =>
      rw [scanIntegerDigits]
      split
      next d _ =>
        split
        next => exact small
        next hFits => exact ih (Nat.not_lt.mp hFits)
      next => exact small

/-- What has been read as a number with a fraction or an exponent is no integer. -/
theorem toJson_ne_int {scan : Except Fault (Binary64 × List Char)}
    (h : (do
      let (value, rest) ← scan
      Except.ok (Number.float value, rest)) = .ok (number, rest)) :
    number.toJson ≠ .int value := by
  obtain ⟨⟨float, after⟩, _, hDone⟩ := bind_eq_ok_iff.mp h
  cases hDone
  exact fun same => (by cases same)

theorem scanNumberEnd_fits {isNegative : Bool} {significand dropped : Nat}
    (small : significand ≤ maxUnsigned)
    (h : scanNumberEnd isNegative significand dropped text = .ok (number, rest))
    (hValue : number.toJson = .int value) : FitsWord value := by
  have hSigned : (maxSigned : Int) = 9223372036854775807 := rfl
  have hUnsigned : (maxUnsigned : Int) = 18446744073709551615 := rfl
  unfold scanNumberEnd at h
  dsimp only at h
  split at h
  next => exact absurd hValue (toJson_ne_int h)
  next => exact absurd hValue (toJson_ne_int h)
  next => exact absurd hValue (toJson_ne_int h)
  next =>
    split at h
    next => exact absurd hValue (toJson_ne_int h)
    next =>
      split at h
      next =>
        cases h
        cases hValue
        constructor <;> omega
      next =>
        split at h
        next =>
          cases h
          cases hValue
        next hMagnitude =>
          cases h
          cases hValue
          constructor <;> omega

theorem scanUnsigned_fits {isNegative : Bool}
    (h : scanUnsigned isNegative text = .ok (number, rest))
    (hValue : number.toJson = .int value) : FitsWord value := by
  unfold scanUnsigned at h
  split at h
  next => cases h
  next =>
    split at h
    next =>
      split at h
      next => cases h
      next => exact scanNumberEnd_fits (Nat.zero_le _) h hValue
    next => exact scanNumberEnd_fits (Nat.zero_le _) h hValue
  next c rest _ =>
    have hSmall := scanIntegerDigits_le (Nat.zero_le maxUnsigned) (c :: rest)
    split at h
    next =>
      obtain ⟨⟨significand, dropped⟩, after⟩ := scanIntegerDigits 0 (c :: rest)
      exact scanNumberEnd_fits hSmall h hValue
    next => cases h

/-- Every integer that is read fits 64 bits. -/
theorem scanNumber_fits (h : scanNumber text = .ok (number, rest))
    (hValue : number.toJson = .int value) : FitsWord value := by
  unfold scanNumber at h
  split at h
  next => exact scanUnsigned_fits h hValue
  next => exact scanUnsigned_fits h hValue

end Read

end Json

end Masking
