import Masking.Json.Reader
import Masking.Proofs.Json.Values

/-! Values that are passed over. A value without floats is passed over as a whole, whatever is in
it. -/

namespace Masking.Json

variable {fuel : Nat} {rest : List Char} {value : Json} {items : List Json}
  {members : List (String × Json)}

theorem skipString_plain {c : Char} (quote : c ≠ '"') (slash : c ≠ '\\') (visible : 32 ≤ c.toNat)
    (rest : List Char) : skipString (fuel + 1) (c :: rest) = skipString fuel rest := by
  rw [skipString, if_neg (Nat.not_lt.mpr visible)]
  · exact fun h => absurd h quote
  · exact fun h => absurd h slash
  · exact fun _ h => absurd h slash
  · exact fun _ _ h => absurd h slash

/-- Every escaped character is passed over in one step. -/
theorem skipString_escapeChar (c : Char) (rest : List Char) :
    skipString (fuel + 1) (escapeChar c ++ rest) = skipString fuel rest := by
  rw [escapeChar]
  split_ifs with hQuote hSlash hBack hTab hLine hPage hReturn hControl
  all_goals try rfl
  · simp only [List.cons_append, List.nil_append, skipString, scanHex4_control hControl]
    rfl
  · exact skipString_plain hQuote hSlash (Nat.not_lt.mp hControl) rest

theorem skipString_escape (chars rest : List Char) (enough : chars.length < fuel) :
    skipString fuel (escape chars ++ '"' :: rest) = .ok rest := by
  induction chars generalizing fuel with
  | nil =>
      obtain ⟨fuel, rfl⟩ := Nat.exists_eq_add_one_of_ne_zero (Nat.ne_of_gt enough)
      rfl
  | cons c chars ih =>
      obtain ⟨fuel, rfl⟩ :=
        Nat.exists_eq_add_one_of_ne_zero (Nat.ne_of_gt (Nat.zero_lt_of_lt enough))
      rw [escape, List.append_assoc, skipString_escapeChar]
      exact ih (Nat.lt_of_succ_lt_succ enough)

theorem skipString_quoted (text : String) (rest : List Char) :
    skipString ((escape text.toList ++ '"' :: rest).length + 1)
      (escape text.toList ++ '"' :: rest) = .ok rest := by
  have hLength := length_le_escape text.toList
  refine skipString_escape _ _ ?_
  rw [List.length_append]
  omega

/-- The value is passed over as a whole, with fuel for the length of its text. -/
def SkipsOver (value : Json) : Prop :=
  ∀ fuel rest, 2 * (render value).length ≤ fuel → Ended rest →
    skipValue fuel (render value ++ rest) = .ok rest

/-- A value that is passed over is read as nothing. -/
def passValue (fuel : Nat) (text : List Char) : Except Fault (Unit × List Char) :=
  (skipValue fuel text).map fun rest => ((), rest)

/-- A member is passed over by its name, the colon and its value. -/
def passMember (fuel : Nat) (text : List Char) : Except Fault (Unit × List Char) :=
  match skipBlanks text with
  | [] => .error .truncated
  | '"' :: rest => do passValue fuel (← scanColon (← skipString (rest.length + 1) rest))
  | _ => .error .malformed

theorem SkipsOver.passValue (h : SkipsOver value) : ReadsBack passValue (render value) () := by
  intro fuel rest enough ended
  rw [Json.passValue, h fuel rest enough ended]
  rfl

theorem SkipsOver.passMember (h : SkipsOver value) (name : String) :
    ReadsBack passMember (memberText name (render value)) () := by
  intro fuel rest enough ended
  have hLength : (render value).length ≤ (memberText name (render value)).length := by
    simp [memberText]
    omega
  have hValue := h.passValue fuel rest (by omega) ended
  have hOpens : memberText name (render value) ++ rest =
      '"' :: (escape name.toList ++ '"' :: ':' :: (render value ++ rest)) := by
    rw [memberText, List.append_assoc, quote_append]
    rfl
  have hSkip : ∀ text : List Char, skipBlanks ('"' :: text) = '"' :: text := fun _ => rfl
  rw [Json.passMember, hOpens, hSkip]
  simp only [bind, Except.bind, skipString_quoted, scanColon_colon, hValue]

/-- A loop that goes on behind the pieces of a row as their reader does ends where it ends. -/
theorem skip_of_readRow {close : Char} {skip : Nat → List Char → Except Fault (List Char)}
    {pass : Nat → List Char → Except Fault (Unit × List Char)} {text : List Char}
    {passed : List Unit}
    (passes : ∀ fuel text middle, pass fuel text = .ok ((), middle) →
      skip (fuel + 1) text = scanSeparator close middle >>= fun separator =>
        if separator.1 then .ok separator.2 else skip fuel separator.2)
    (h : readRow close pass fuel text = .ok (passed, rest)) : skip fuel text = .ok rest := by
  induction fuel generalizing text passed with
  | zero => cases h
  | succ fuel ih =>
      obtain ⟨⟨_, middle⟩, hPass, h⟩ := bind_eq_ok_iff.mp h
      obtain ⟨⟨closed, later⟩, hSeparator, h⟩ := bind_eq_ok_iff.mp h
      rw [passes fuel text middle hPass, hSeparator]
      cases closed with
      | true =>
          cases h
          rfl
      | false =>
          obtain ⟨_, hLater, hDone⟩ := bind_eq_ok_iff.mp h
          cases hDone
          exact ih hLater

theorem passValue_eq_ok_iff {text : List Char} :
    passValue fuel text = .ok ((), rest) ↔ skipValue fuel text = .ok rest := by
  rw [passValue]
  cases skipValue fuel text <;> simp [Except.map]

theorem skipItems_succ {fuel : Nat} {text middle : List Char}
    (h : passValue fuel text = .ok ((), middle)) :
    skipItems (fuel + 1) text = scanSeparator ']' middle >>= fun separator =>
      if separator.1 then .ok separator.2 else skipItems fuel separator.2 := by
  simp only [skipItems, passValue_eq_ok_iff.mp h, bind, Except.bind]
  rcases scanSeparator ']' middle with fault | ⟨_ | _, later⟩ <;> rfl

theorem skipMembers_succ {fuel : Nat} {text middle : List Char}
    (h : passMember fuel text = .ok ((), middle)) :
    skipMembers (fuel + 1) text = scanSeparator '\x7d' middle >>= fun separator =>
      if separator.1 then .ok separator.2 else skipMembers fuel separator.2 := by
  rw [passMember] at h
  split at h
  next => cases h
  next inner hText =>
    obtain ⟨named, hName, h⟩ := bind_eq_ok_iff.mp h
    obtain ⟨later, hColon, h⟩ := bind_eq_ok_iff.mp h
    simp only [skipMembers, hText, hName, hColon, passValue_eq_ok_iff.mp h, bind, Except.bind]
    rcases scanSeparator '\x7d' middle with fault | ⟨_ | _, later⟩ <;> rfl
  next => cases h

theorem skipItems_renderItems (nonempty : items ≠ [])
    (begins : ∀ item ∈ items, Begins (render item)) (each : ∀ item ∈ items, SkipsOver item)
    (enough : 2 * (renderItems items).length ≤ fuel) :
    skipItems fuel (renderItems items ++ rest) = .ok rest := by
  rw [renderItems_eq_row] at enough ⊢
  exact skip_of_readRow (fun _ _ _ => skipItems_succ)
    (readRow_row (Or.inl rfl) nonempty begins (fun item member => (each item member).passValue)
      enough)

theorem skipMembers_renderMembers (nonempty : members ≠ [])
    (each : ∀ member ∈ members, SkipsOver member.2)
    (enough : 2 * (renderMembers members).length ≤ fuel) :
    skipMembers fuel (renderMembers members ++ rest) = .ok rest := by
  rw [renderMembers_eq_row] at enough ⊢
  exact skip_of_readRow (fun _ _ _ => skipMembers_succ)
    (readRow_row (Or.inr rfl) nonempty (fun _ _ => begins_memberText _ _)
      (fun member hMember => (each member hMember).passMember member.1) enough)

/-- An array that is not empty is passed over as its items are. -/
theorem skipValue_items {text : List Char} (h : Begins text)
    (hItems : skipItems fuel text = .ok rest) : skipValue (fuel + 1) ('[' :: text) = .ok rest := by
  have hOpens : skipBlanks ('[' :: text) = '[' :: text := rfl
  -- This is what tells `simp` that the array is not closed at once.
  have hItem : ∀ later, text ≠ ']' :: later := by
    rintro later rfl
    exact h.2.1 rfl
  simp only [skipValue, hOpens, h.skipBlanks, hItems]

theorem skipValue_number {c : Char} {text : List Char} (hDigit : Text.isDigit c = true)
    (h : skipNumber (c :: text) = .ok rest) : skipValue (fuel + 1) (c :: text) = .ok rest := by
  have hOther : ∀ d, Text.isDigit d = false → c ≠ d := by
    rintro d hNone rfl
    exact absurd hDigit (by rw [hNone]; exact Bool.false_ne_true)
  have hSkip : skipBlanks (c :: text) = c :: text := by
    rw [skipBlanks, if_neg (by simp [isBlank, hOther _ (show Text.isDigit ' ' = false from rfl),
      hOther _ (show Text.isDigit '\n' = false from rfl),
      hOther _ (show Text.isDigit '\t' = false from rfl),
      hOther _ (show Text.isDigit '\r' = false from rfl)])]
  rw [skipValue, hSkip]
  split
  next hNil => cases hNil
  next same => exact absurd (List.cons.inj same).1 (hOther 'n' rfl)
  next same => exact absurd (List.cons.inj same).1 (hOther 't' rfl)
  next same => exact absurd (List.cons.inj same).1 (hOther 'f' rfl)
  next same => exact absurd (List.cons.inj same).1 (hOther '"' rfl)
  next same => exact absurd (List.cons.inj same).1 (hOther '-' rfl)
  next same => exact absurd (List.cons.inj same).1 (hOther '[' rfl)
  next same => exact absurd (List.cons.inj same).1 (hOther '\x7b' rfl)
  next same =>
    cases same
    rw [if_pos hDigit, h]

theorem skipValue_signedDecimal (value : Int) (ended : Ended rest) :
    skipValue (fuel + 1) (Text.signedDecimal value ++ rest) = .ok rest := by
  have hNumber := skipNumber_decimal value.natAbs ended
  rw [Text.signedDecimal]
  split
  next => exact hNumber
  next =>
    have hDigits := Text.digits_decimal value.natAbs
    cases hText : Text.decimal value.natAbs with
    | nil => exact absurd hText hDigits.nonempty
    | cons c digits =>
        rw [hText] at hDigits hNumber
        exact skipValue_number (hDigits.all c List.mem_cons_self) hNumber

/-- A value without floats is passed over as a whole. -/
theorem FloatFree.skipsOver (free : FloatFree value) : SkipsOver value := by
  have hFuel : ∀ {value : Json} {fuel : Nat}, FloatFree value →
      2 * (render value).length ≤ fuel → ∃ less, fuel = less + 1 := by
    intro value fuel free enough
    have hLength := free.length_pos
    exact Nat.exists_eq_add_one_of_ne_zero (show fuel ≠ 0 by omega)
  induction free with
  | null =>
      intro fuel rest enough _
      obtain ⟨fuel, rfl⟩ := hFuel .null enough
      rfl
  | minusZero =>
      intro fuel rest enough ended
      obtain ⟨fuel, rfl⟩ := hFuel .minusZero enough
      exact skipNumber_zero ended
  | @bool value =>
      intro fuel rest enough _
      obtain ⟨fuel, rfl⟩ := hFuel .bool enough
      cases value <;> rfl
  | @int value =>
      intro fuel rest enough ended
      obtain ⟨fuel, rfl⟩ := hFuel .int enough
      exact skipValue_signedDecimal value ended
  | @str value =>
      intro fuel rest enough _
      obtain ⟨fuel, rfl⟩ := hFuel .str enough
      rw [render, skipValue, skipBlanks_quote, quote_append]
      exact skipString_quoted value rest
  | @arr items free ih =>
      intro fuel rest enough _
      obtain ⟨fuel, rfl⟩ := hFuel (.arr free) enough
      cases items with
      | nil => rfl
      | cons item later =>
          rw [render, List.length_cons] at enough
          have hItems : skipItems fuel (renderItems (item :: later) ++ rest) = .ok rest :=
            skipItems_renderItems (List.cons_ne_nil item later)
              (fun item member => (free item member).begins) ih (by omega)
          have hBegins := begins_renderItems (free item List.mem_cons_self).begins later
          exact skipValue_items (hBegins.append rest) hItems
  | @obj members free ih =>
      intro fuel rest enough _
      obtain ⟨fuel, rfl⟩ := hFuel (.obj free) enough
      cases members with
      | nil => rfl
      | cons member later =>
          rw [render, List.length_cons] at enough
          have hMembers : skipMembers fuel (renderMembers (member :: later) ++ rest) = .ok rest :=
            skipMembers_renderMembers (List.cons_ne_nil member later) ih (by omega)
          obtain ⟨inner, hOpens⟩ :
              ∃ inner, renderMembers (member :: later) ++ rest = '"' :: inner := by
            cases later <;> exact ⟨_, rfl⟩
          rw [render, List.cons_append, hOpens]
          rw [hOpens] at hMembers
          exact hMembers

end Masking.Json
