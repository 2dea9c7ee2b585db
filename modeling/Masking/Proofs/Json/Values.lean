import Masking.Proofs.Json.Members
import Masking.Proofs.Json.Rows

/-! Values of any shape as they are read and written. What is read is canonical, and a canonical
value is read back from its text as long as there are no floats in it, whose texts need not lead
back to them. -/

namespace Masking.Json

/-- A value as reading gives it: integers fit 64 bits, the members of objects are in order, each
name once, and no more than so many containers are open at once. -/
inductive Canonical : Nat → Json → Prop
  | null {depth} : Canonical depth .null
  | bool {depth value} : Canonical depth (.bool value)
  | int {depth value} (fits : FitsWord value) : Canonical depth (.int value)
  | float {depth value} : Canonical depth (.float value)
  | str {depth value} : Canonical depth (.str value)
  | arr {depth} {items : List Json} (each : ∀ item ∈ items, Canonical depth item) :
      Canonical (depth + 1) (.arr items)
  | obj {depth} {members : List (String × Json)} (ordered : Ordered members)
      (each : ∀ member ∈ members, Canonical depth member.2) : Canonical (depth + 1) (.obj members)

/-- A value in which no number is a float, but for the zero with a minus sign, which is how `-0` is
read. An integer that does not fit 64 bits is read as a float. -/
inductive FloatFree : Json → Prop
  | null : FloatFree .null
  | minusZero : FloatFree (.float (.zero true))
  | bool {value} : FloatFree (.bool value)
  | int {value} : FloatFree (.int value)
  | str {value} : FloatFree (.str value)
  | arr {items : List Json} (each : ∀ item ∈ items, FloatFree item) : FloatFree (.arr items)
  | obj {members : List (String × Json)} (each : ∀ member ∈ members, FloatFree member.2) :
      FloatFree (.obj members)

mutual

/-- Whether there are floats in a value can be told by going through it. -/
def decideFloatFree : (value : Json) → Decidable (FloatFree value)
  | .null => .isTrue .null
  | .bool _ => .isTrue .bool
  | .int _ => .isTrue .int
  | .float value =>
      if same : value = .zero true then .isTrue (same ▸ .minusZero)
      else .isFalse fun
        | .minusZero => same rfl
  | .str _ => .isTrue .str
  | .arr items =>
      @decidable_of_iff _ _ ⟨.arr, fun | .arr each => each⟩ (decideItemsFloatFree items)
  | .obj members =>
      @decidable_of_iff _ _ ⟨.obj, fun | .obj each => each⟩ (decideMembersFloatFree members)

def decideItemsFloatFree : (items : List Json) → Decidable (∀ item ∈ items, FloatFree item)
  | [] => .isTrue fun _ member => absurd member List.not_mem_nil
  | item :: items =>
      @decidable_of_iff _ _ List.forall_mem_cons.symm
        (@instDecidableAnd _ _ (decideFloatFree item) (decideItemsFloatFree items))

def decideMembersFloatFree :
    (members : List (String × Json)) → Decidable (∀ member ∈ members, FloatFree member.2)
  | [] => .isTrue fun _ member => absurd member List.not_mem_nil
  | (_, value) :: members =>
      @decidable_of_iff _ _ List.forall_mem_cons.symm
        (@instDecidableAnd _ _ (decideFloatFree value) (decideMembersFloatFree members))

end

instance (value : Json) : Decidable (FloatFree value) := decideFloatFree value

section Fronts

theorem begins_signedDecimal (value : Int) : Begins (Text.signedDecimal value) := by
  rw [Text.signedDecimal]
  split
  next => exact ⟨by decide, by decide, by decide⟩
  next =>
    have hDigits := Text.digits_decimal value.natAbs
    cases hText : Text.decimal value.natAbs with
    | nil => exact hDigits.nonempty hText
    | cons c digits =>
        rw [hText] at hDigits
        have hDigit := Text.isDigit_iff.mp (hDigits.all c List.mem_cons_self)
        have hOther : ∀ d : Char, d.toNat < 48 ∨ 57 < d.toNat → c ≠ d := by
          rintro d hRange rfl
          omega
        refine ⟨?_, hOther _ (by decide), hOther _ (by decide)⟩
        simp [isBlank, hOther]

theorem FloatFree.begins {value : Json} (free : FloatFree value) : Begins (render value) := by
  cases free with
  | null => exact ⟨by decide, by decide, by decide⟩
  | minusZero => exact ⟨by decide, by decide, by decide⟩
  | @bool value => cases value <;> exact ⟨by decide, by decide, by decide⟩
  | @int value => exact begins_signedDecimal value
  | @str value => exact begins_quote value
  | arr => exact ⟨by decide, by decide, by decide⟩
  | obj => exact ⟨by decide, by decide, by decide⟩

end Fronts

section Written

variable {depth fuel : Nat} {text rest : List Char} {c : Char} {value : Json} {items : List Json}
  {members : List (String × Json)}

theorem scanValue_number {number : Number} (hFirst : startsNumber c = true)
    (h : scanNumber (c :: text) = .ok (number, rest)) :
    scanValue (fuel + 1) depth (c :: text) = .ok (number.toJson, rest) := by
  have hOther : ∀ d, startsNumber d = false → c ≠ d := by
    rintro d hNone rfl
    exact absurd hFirst (by rw [hNone]; exact Bool.false_ne_true)
  have hSkip : skipBlanks (c :: text) = c :: text := by
    rw [skipBlanks, if_neg (by simp [isBlank, hOther _ (show startsNumber ' ' = false from rfl),
      hOther _ (show startsNumber '\n' = false from rfl),
      hOther _ (show startsNumber '\t' = false from rfl),
      hOther _ (show startsNumber '\r' = false from rfl)])]
  rw [scanValue, hSkip]
  split
  next hNil => cases hNil
  next same => exact absurd (List.cons.inj same).1 (hOther 'n' rfl)
  next same => exact absurd (List.cons.inj same).1 (hOther 't' rfl)
  next same => exact absurd (List.cons.inj same).1 (hOther 'f' rfl)
  next same => exact absurd (List.cons.inj same).1 (hOther '"' rfl)
  next same => exact absurd (List.cons.inj same).1 (hOther '[' rfl)
  next same => exact absurd (List.cons.inj same).1 (hOther '\x7b' rfl)
  next same =>
    cases same
    rw [if_pos hFirst, h]
    rfl

theorem startsNumber_signedDecimal (value : Int) :
    ∃ c digits, Text.signedDecimal value = c :: digits ∧ startsNumber c = true := by
  rw [Text.signedDecimal]
  split
  next => exact ⟨_, _, rfl, rfl⟩
  next =>
    have hDigits := Text.digits_decimal value.natAbs
    cases hText : Text.decimal value.natAbs with
    | nil => exact absurd hText hDigits.nonempty
    | cons c digits =>
        rw [hText] at hDigits
        exact ⟨c, digits, rfl, by simp [startsNumber, hDigits.all c List.mem_cons_self]⟩

/-- An array that is not empty is what its items are. -/
theorem scanValue_items (h : Begins text) (hItems : scanItems fuel depth text = .ok (items, rest)) :
    scanValue (fuel + 1) (depth + 1) ('[' :: text) = .ok (.arr items, rest) := by
  have hOpens : skipBlanks ('[' :: text) = '[' :: text := rfl
  -- This is what tells `simp` that the array is not closed at once.
  have hItem : ∀ later, text ≠ ']' :: later := by
    rintro later rfl
    exact h.2.1 rfl
  simp only [scanValue, hOpens, h.skipBlanks, hItems, bind, Except.bind]

theorem scanValue_members (hMembers : scanMembers fuel depth ('"' :: text) = .ok (members, rest)) :
    scanValue (fuel + 1) (depth + 1) ('\x7b' :: '"' :: text) =
      .ok (.obj (sortMembers members), rest) := by
  change (scanMembers fuel depth ('"' :: text) >>= fun done =>
    .ok (.obj (sortMembers done.1), done.2)) = Except.ok (Json.obj (sortMembers members), rest)
  rw [hMembers]
  rfl

/-- The value is read back from its text, with fuel for the length of it. -/
def ScansBack (depth : Nat) (value : Json) : Prop :=
  ∀ fuel rest, 2 * (render value).length ≤ fuel → Ended rest →
    scanValue fuel depth (render value ++ rest) = .ok (value, rest)

theorem renderItems_eq_row (items : List Json) :
    renderItems items = row ']' (items.map render) := by
  induction items with
  | nil => rfl
  | cons item later ih =>
      cases later with
      | nil => rfl
      | cons next later => simp [renderItems, ih, row]

theorem begins_renderItems {item : Json} (h : Begins (render item)) (later : List Json) :
    Begins (renderItems (item :: later)) := by
  rw [renderItems_eq_row]
  exact begins_row h (later.map render)

theorem scanItems_eq_readRow (fuel : Nat) (text : List Char) :
    scanItems fuel depth text = readRow ']' (fun fuel => scanValue fuel depth) fuel text := by
  induction fuel generalizing text with
  | zero => rw [scanItems, readRow]
  | succ fuel ih =>
      simp only [scanItems, ih]
      rfl

theorem scanItems_renderItems (nonempty : items ≠ [])
    (begins : ∀ item ∈ items, Begins (render item)) (each : ∀ item ∈ items, ScansBack depth item)
    (enough : 2 * (renderItems items).length ≤ fuel) :
    scanItems fuel depth (renderItems items ++ rest) = .ok (items, rest) := by
  rw [renderItems_eq_row] at enough ⊢
  rw [scanItems_eq_readRow, readRow_row (Or.inl rfl) nonempty begins each enough, List.map_id']

theorem renderMembers_eq_row (members : List (String × Json)) :
    renderMembers members =
      row '\x7d' (members.map fun member => memberText member.1 (render member.2)) := by
  induction members with
  | nil => rfl
  | cons member later ih =>
      cases later with
      | nil => simp [renderMembers, row, memberText]
      | cons next later => simp [renderMembers, ih, row, memberText]

theorem begins_renderMembers (member : String × Json) (later : List (String × Json)) :
    Begins (renderMembers (member :: later)) := by
  rw [renderMembers_eq_row]
  exact begins_row (begins_memberText _ _) _

theorem scanMembers_eq_readRow (fuel : Nat) (text : List Char) :
    scanMembers fuel depth text =
      readRow '\x7d' (readMember fun fuel => scanValue fuel depth) fuel text := by
  induction fuel generalizing text with
  | zero => rw [scanMembers, readRow]
  | succ fuel ih =>
      rw [readRow, readMember, bind_assoc]
      simp only [scanMembers, ih]
      refine congrArg _ (funext fun named => ?_)
      rw [bind_assoc]
      refine congrArg _ (funext fun later => ?_)
      rw [bind_assoc]
      rfl

theorem scanMembers_renderMembers (nonempty : members ≠ [])
    (each : ∀ member ∈ members, ScansBack depth member.2)
    (enough : 2 * (renderMembers members).length ≤ fuel) :
    scanMembers fuel depth (renderMembers members ++ rest) = .ok (members, rest) := by
  rw [renderMembers_eq_row] at enough ⊢
  have hEach : ∀ member ∈ members, ReadsBack (readMember fun fuel => scanValue fuel depth)
      (memberText member.1 (render member.2)) member :=
    fun member hMember => ReadsBack.member (each member hMember) member.1
  rw [scanMembers_eq_readRow,
    readRow_row (Or.inr rfl) nonempty (fun _ _ => begins_memberText _ _) hEach enough, List.map_id']

theorem FloatFree.length_pos (free : FloatFree value) : 0 < (render value).length := by
  have hBegins := free.begins
  cases hText : render value with
  | nil =>
      rw [hText] at hBegins
      exact hBegins.elim
  | cons c text => exact Nat.zero_lt_succ _

/-- A canonical value without floats is read back from its text. -/
theorem Canonical.scansBack (canonical : Canonical depth value) (free : FloatFree value) :
    ScansBack depth value := by
  induction canonical with
  | null =>
      intro fuel rest enough _
      have hLength := free.length_pos
      obtain ⟨fuel, rfl⟩ := Nat.exists_eq_add_one_of_ne_zero (show fuel ≠ 0 by omega)
      rfl
  | @bool _ value =>
      intro fuel rest enough _
      have hLength := free.length_pos
      obtain ⟨fuel, rfl⟩ := Nat.exists_eq_add_one_of_ne_zero (show fuel ≠ 0 by omega)
      cases value <;> rfl
  | @int _ value fits =>
      intro fuel rest enough ended
      have hLength := free.length_pos
      obtain ⟨fuel, rfl⟩ := Nat.exists_eq_add_one_of_ne_zero (show fuel ≠ 0 by omega)
      obtain ⟨c, digits, hText, hFirst⟩ := startsNumber_signedDecimal value
      have hNumber := scanNumber_signedDecimal fits ended
      rw [hText, List.cons_append] at hNumber
      rw [render, hText, List.cons_append, scanValue_number hFirst hNumber, Number.toJson_ofInt]
  | float =>
      cases free with
      | minusZero =>
          intro fuel rest enough ended
          have hLength := FloatFree.minusZero.length_pos
          obtain ⟨fuel, rfl⟩ := Nat.exists_eq_add_one_of_ne_zero (show fuel ≠ 0 by omega)
          exact scanValue_number rfl (scanNumber_minusZero ended)
  | @str _ value =>
      intro fuel rest enough _
      have hLength := free.length_pos
      obtain ⟨fuel, rfl⟩ := Nat.exists_eq_add_one_of_ne_zero (show fuel ≠ 0 by omega)
      rw [render, scanValue, skipBlanks_quote, quote_append]
      simp only [scanString_escape]
      rfl
  | @arr depth items each ih =>
      intro fuel rest enough _
      have hLength := free.length_pos
      obtain ⟨fuel, rfl⟩ := Nat.exists_eq_add_one_of_ne_zero (show fuel ≠ 0 by omega)
      cases free with
      | arr free =>
          cases items with
          | nil => rfl
          | cons item later =>
              rw [render, List.length_cons] at enough
              have hItems : scanItems fuel depth (renderItems (item :: later) ++ rest) =
                  .ok (item :: later, rest) :=
                scanItems_renderItems (List.cons_ne_nil item later)
                  (fun item member => (free item member).begins)
                  (fun item member => ih item member (free item member)) (by omega)
              have hBegins := begins_renderItems (free item List.mem_cons_self).begins later
              exact scanValue_items (hBegins.append rest) hItems
  | @obj depth members ordered each ih =>
      intro fuel rest enough _
      have hLength := free.length_pos
      obtain ⟨fuel, rfl⟩ := Nat.exists_eq_add_one_of_ne_zero (show fuel ≠ 0 by omega)
      cases free with
      | obj free =>
          cases members with
          | nil => rfl
          | cons member later =>
              rw [render, List.length_cons] at enough
              have hMembers : scanMembers fuel depth (renderMembers (member :: later) ++ rest) =
                  .ok (member :: later, rest) :=
                scanMembers_renderMembers (List.cons_ne_nil member later)
                  (fun member hMember => ih member hMember (free member hMember)) (by omega)
              obtain ⟨inner, hOpens⟩ :
                  ∃ inner, renderMembers (member :: later) ++ rest = '"' :: inner := by
                cases later <;> exact ⟨_, rfl⟩
              rw [render, List.cons_append, hOpens]
              rw [hOpens] at hMembers
              rw [scanValue_members hMembers, sortMembers_of_ordered ordered]

end Written

section Read

variable {fuel depth : Nat} {text rest : List Char} {value : Json}

/-- What is read with so much fuel is canonical. -/
def ReadsCanonical (fuel : Nat) : Prop :=
  ∀ {depth : Nat} {text rest : List Char} {value : Json},
    scanValue fuel depth text = .ok (value, rest) → Canonical depth value

theorem canonical_scanItems {items : List Json} (below : ∀ less < fuel, ReadsCanonical less)
    (h : scanItems fuel depth text = .ok (items, rest)) : ∀ item ∈ items, Canonical depth item := by
  rw [scanItems_eq_readRow] at h
  exact forall_of_readRow (fun less _ _ _ hLess hItem => below less hLess hItem) h

theorem canonical_scanMembers {members : List (String × Json)}
    (below : ∀ less < fuel, ReadsCanonical less)
    (h : scanMembers fuel depth text = .ok (members, rest)) :
    ∀ member ∈ members, Canonical depth member.2 := by
  rw [scanMembers_eq_readRow] at h
  refine forall_of_readRow (fun less _ member _ hLess hMember => ?_) h
  obtain ⟨_, hValue⟩ := exists_of_readMember hMember
  exact below less hLess hValue

/-- What is read is canonical, and only a text that begins with the letter `n` is read as null. -/
theorem canonical_scanValue_succ (below : ∀ less < fuel, ReadsCanonical less)
    (h : scanValue (fuel + 1) depth text = .ok (value, rest)) :
    Canonical depth value ∧ (value = .null → ∃ later, skipBlanks text = 'n' :: later) := by
  rw [scanValue] at h
  split at h
  next => cases h
  next hText =>
    obtain ⟨_, _, hDone⟩ := bind_eq_ok_iff.mp h
    cases hDone
    exact ⟨.null, fun _ => ⟨_, hText⟩⟩
  next =>
    obtain ⟨_, _, hDone⟩ := bind_eq_ok_iff.mp h
    cases hDone
    exact ⟨.bool, fun same => (by cases same)⟩
  next =>
    obtain ⟨_, _, hDone⟩ := bind_eq_ok_iff.mp h
    cases hDone
    exact ⟨.bool, fun same => (by cases same)⟩
  next =>
    obtain ⟨_, _, hDone⟩ := bind_eq_ok_iff.mp h
    cases hDone
    exact ⟨.str, fun same => (by cases same)⟩
  next =>
    split at h
    next => cases h
    next depth =>
      split at h
      next =>
        cases h
        exact ⟨.arr fun _ member => absurd member List.not_mem_nil, fun same => (by cases same)⟩
      next =>
        obtain ⟨_, hItems, hDone⟩ := bind_eq_ok_iff.mp h
        cases hDone
        exact ⟨.arr (canonical_scanItems below hItems), fun same => (by cases same)⟩
  next =>
    split at h
    next => cases h
    next depth =>
      split at h
      next =>
        cases h
        exact ⟨.obj List.Pairwise.nil fun _ member => absurd member List.not_mem_nil,
          fun same => (by cases same)⟩
      next =>
        obtain ⟨_, hMembers, hDone⟩ := bind_eq_ok_iff.mp h
        cases hDone
        exact ⟨.obj (ordered_sortMembers _) fun member hMember =>
          canonical_scanMembers below hMembers member (mem_of_mem_sortMembers hMember),
          fun same => (by cases same)⟩
  next =>
    split at h
    next =>
      obtain ⟨⟨number, _⟩, hNumber, hDone⟩ := bind_eq_ok_iff.mp h
      cases hDone
      have hFits : ∀ value, number.toJson = .int value → FitsWord value :=
        fun _ => scanNumber_fits hNumber
      cases number with
      | natural value => exact ⟨.int (hFits value rfl), fun same => (by cases same)⟩
      | negative value => exact ⟨.int (hFits value rfl), fun same => (by cases same)⟩
      | float => exact ⟨.float, fun same => (by cases same)⟩
    next => cases h

theorem readsCanonical (fuel : Nat) : ReadsCanonical fuel := by
  induction fuel using Nat.strongRecOn with
  | ind fuel ih =>
      intro depth text rest value h
      cases fuel with
      | zero => cases h
      | succ fuel =>
          have below : ∀ less < fuel, ReadsCanonical less :=
            fun less hLess => ih less (Nat.lt_succ_of_lt hLess)
          exact (canonical_scanValue_succ below h).1

/-- Every value that is read is canonical. -/
theorem canonical_of_readValue (h : readValue depth text = .ok (value, rest)) :
    Canonical depth value :=
  readsCanonical _ h

theorem begins_of_readValue (h : readValue depth text = .ok (.null, rest)) :
    ∃ later, skipBlanks text = 'n' :: later :=
  (canonical_scanValue_succ (fun less _ => readsCanonical less) h).2 rfl

end Read

end Masking.Json
