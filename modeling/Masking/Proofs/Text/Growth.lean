import Mathlib.Algebra.Ring.Nat
import Masking.Proofs.Text.Replacement

/-! Growth under replacement. A single replacement puts at most one token in the place of each
character, or of each gap between characters. A row of them makes a text longer by no more than that
as long as all that is replaced has a character in it that the row has not put in itself; each
replacement that finds its value among what was put in may multiply the length once more. -/

namespace Masking.Text

section Marks

/-- A text in which the characters that have been put in are marked. -/
abbrev Marked := List (Char × Bool)

/-- The text without its marks. -/
def plain (text : Marked) : List Char :=
  text.map Prod.fst

/-- A text into which nothing has been put. -/
def unmarked (text : List Char) : Marked :=
  text.map fun c => (c, false)

/-- A token that is put in. -/
def putIn (token : List Char) : Marked :=
  token.map fun c => (c, true)

/-- `replaceScan` with marks for the tokens. -/
def markScan (found token : List Char) : Nat → Marked → Marked
  | _, [] => []
  | skip + 1, _ :: rest => markScan found token skip rest
  | 0, c :: rest =>
      if found <+: plain (c :: rest) then
        putIn token ++ markScan found token (found.length - 1) rest
      else c :: markScan found token 0 rest

/-- `replaceEmpty` with marks for the tokens. -/
def markEmpty (token : List Char) : Marked → Marked
  | [] => putIn token
  | c :: rest => putIn token ++ c :: markEmpty token rest

/-- `replaceAll` with marks for the tokens. -/
def markAll (found token : List Char) (text : Marked) : Marked :=
  match found with
  | [] => markEmpty token text
  | c :: cs => markScan (c :: cs) token 0 text

variable {found token : List Char} {text : Marked}

@[simp] theorem plain_unmarked (text : List Char) : plain (unmarked text) = text := by
  simp [plain, unmarked, Function.comp_def]

@[simp] theorem plain_putIn (token : List Char) : plain (putIn token) = token := by
  simp [plain, putIn, Function.comp_def]

@[simp] theorem plain_append (text rest : Marked) :
    plain (text ++ rest) = plain text ++ plain rest :=
  List.map_append

@[simp] theorem plain_cons (c : Char × Bool) (rest : Marked) :
    plain (c :: rest) = c.1 :: plain rest := rfl

theorem markAll_eq_scan (nonempty : found ≠ []) (token : List Char) (text : Marked) :
    markAll found token text = markScan found token 0 text := by
  obtain ⟨c, more, rfl⟩ := List.exists_cons_of_ne_nil nonempty
  rfl

theorem plain_markScan (found token : List Char) (skip : Nat) (text : Marked) :
    plain (markScan found token skip text) = replaceScan found token skip (plain text) := by
  induction text generalizing skip with
  | nil => cases skip <;> rfl
  | cons c rest ih =>
      cases skip with
      | succ skip => exact ih skip
      | zero =>
          by_cases hHere : found <+: plain (c :: rest)
          · obtain ⟨after, hAfter⟩ := hHere
            have hLead : stripLead found (c.1 :: plain rest) = some after :=
              stripLead_eq_some_iff.mpr hAfter.symm
            rw [markScan, if_pos ⟨after, hAfter⟩, plain_append, plain_putIn, ih, plain_cons,
              replaceScan, hLead]
          · rw [markScan, if_neg hHere]
            rw [plain_cons] at hHere ⊢
            rw [plain_cons, replaceScan_other hHere, ← ih]

theorem plain_markEmpty (token : List Char) (text : Marked) :
    plain (markEmpty token text) = replaceEmpty token (plain text) := by
  induction text with
  | nil => exact plain_putIn token
  | cons c rest ih =>
      rw [markEmpty, plain_append, plain_putIn, plain_cons, ih, plain_cons, replaceEmpty]

/-- The marks have no part in what is replaced. -/
theorem plain_markAll (found token : List Char) (text : Marked) :
    plain (markAll found token text) = replaceAll found token (plain text) := by
  cases found with
  | nil => exact plain_markEmpty token text
  | cons c cs => exact plain_markScan (c :: cs) token 0 text

theorem mem_markScan {skip : Nat} {mark : Char × Bool}
    (h : mark ∈ markScan found token skip text) : mark ∈ putIn token ∨ mark ∈ text := by
  induction text generalizing skip with
  | nil => cases skip <;> exact absurd h List.not_mem_nil
  | cons c rest ih =>
      cases skip with
      | succ skip => exact (ih h).imp_right (List.mem_cons_of_mem c)
      | zero =>
          rw [markScan] at h
          split at h
          · rcases List.mem_append.mp h with hToken | hRest
            · exact Or.inl hToken
            · exact (ih hRest).imp_right (List.mem_cons_of_mem c)
          · rcases List.mem_cons.mp h with rfl | hRest
            · exact Or.inr List.mem_cons_self
            · exact (ih hRest).imp_right (List.mem_cons_of_mem c)

end Marks

section Freshness

/-- Wherever the value stands in the text, it has a character that was not put in. The empty value
has none. -/
def Fresh (value : List Char) (text : Marked) : Prop :=
  ∀ rest, rest <:+ text → value <+: plain rest → ∃ c ∈ rest.take value.length, c.2 = false

instance (value : List Char) (text : Marked) : Decidable (Fresh value text) :=
  -- The marks are looked through one by one, not all pairs that there are.
  letI (rest : Marked) : Decidable (∃ c ∈ rest.take value.length, c.2 = false) :=
    List.decidableBEx _ _
  decidable_of_iff
    (∀ rest ∈ text.tails, value <+: plain rest → ∃ c ∈ rest.take value.length, c.2 = false) <| by
      simp only [Fresh, List.mem_tails]

/-- How many replacements of the row find their value where the row has put all of it in. -/
def stale : List Replacement → Marked → Nat
  | [], _ => 0
  | step :: steps, text =>
      (if Fresh step.value text then 0 else 1) + stale steps (markAll step.value step.token text)

/-- How often a row of replacements may multiply the length of a text: once for all that find their
values fresh, and once for each of the others, but not more often than there are replacements. -/
def growthOf (steps : List Replacement) (text : List Char) : Nat :=
  min steps.length (stale steps (unmarked text) + 1)

variable {value : List Char} {text : Marked} {steps : List Replacement}

theorem Fresh.ne_nil (h : Fresh value text) : value ≠ [] := by
  rintro rfl
  obtain ⟨c, hMember, _⟩ := h text List.suffix_rfl List.nil_prefix
  exact absurd hMember List.not_mem_nil

/-- A value with a character that no token has is fresh wherever it stands. -/
theorem fresh_of_foreign {inTokens : Char → Prop} {c : Char}
    (marks : ∀ mark ∈ text, mark.2 = true → inTokens mark.1) (member : c ∈ value)
    (foreign : ¬ inTokens c) : Fresh value text := by
  intro rest hRest hValue
  have hTake : value = plain (rest.take value.length) := by
    rw [plain, List.map_take]
    exact List.prefix_iff_eq_take.mp hValue
  rw [hTake] at member
  obtain ⟨mark, hMark, rfl⟩ := List.mem_map.mp member
  refine ⟨mark, hMark, Bool.eq_false_iff.mpr fun marked => ?_⟩
  exact foreign (marks mark (hRest.mem (List.mem_of_mem_take hMark)) marked)

theorem stale_le_length (steps : List Replacement) (text : Marked) :
    stale steps text ≤ steps.length := by
  induction steps generalizing text with
  | nil => exact Nat.le_refl 0
  | cons step steps ih =>
      have hRest := ih (markAll step.value step.token text)
      rw [stale, List.length_cons]
      split <;> omega

/-- Values that all have a character which no token has are fresh throughout. -/
theorem stale_eq_zero {inTokens : Char → Prop}
    (marks : ∀ mark ∈ text, mark.2 = true → inTokens mark.1)
    (tokens : ∀ step ∈ steps, ∀ c ∈ step.token, inTokens c)
    (foreign : ∀ step ∈ steps, ∃ c ∈ step.value, ¬ inTokens c) : stale steps text = 0 := by
  induction steps generalizing text with
  | nil => rfl
  | cons step steps ih =>
      obtain ⟨hToken, hTokens⟩ := List.forall_mem_cons.mp tokens
      obtain ⟨⟨c, hMember, hForeign⟩, hRest⟩ := List.forall_mem_cons.mp foreign
      have hFresh := fresh_of_foreign marks hMember hForeign
      rw [stale, if_pos hFresh, Nat.zero_add]
      refine ih ?_ hTokens hRest
      intro mark hMark marked
      rw [markAll_eq_scan hFresh.ne_nil] at hMark
      rcases mem_markScan hMark with hPut | hOld
      · obtain ⟨c, hChar, rfl⟩ := List.mem_map.mp hPut
        exact hToken c hChar
      · exact marks mark hOld marked

end Freshness

section Weights

/-- The length that a text may still come to: what was put in stays as it is, and any other
character may give way to a token. -/
def weight (limit : Nat) (text : Marked) : Nat :=
  (text.map fun c => if c.2 then 1 else limit).sum

variable {limit : Nat} {value token : List Char} {text : Marked}

theorem weight_append (limit : Nat) (text rest : Marked) :
    weight limit (text ++ rest) = weight limit text + weight limit rest := by
  simp [weight]

theorem weight_cons (limit : Nat) (c : Char × Bool) (rest : Marked) :
    weight limit (c :: rest) = weight limit [c] + weight limit rest :=
  weight_append limit [c] rest

theorem weight_putIn (limit : Nat) (token : List Char) :
    weight limit (putIn token) = token.length := by
  simp [weight, putIn, Function.comp_def]

theorem weight_unmarked (limit : Nat) (text : List Char) :
    weight limit (unmarked text) = text.length * limit := by
  simp [weight, unmarked, Function.comp_def]

theorem length_le_weight (positive : 1 ≤ limit) (text : Marked) :
    text.length ≤ weight limit text := by
  induction text with
  | nil => exact Nat.le_refl 0
  | cons c rest ih =>
      have hHere : 1 ≤ weight limit [c] := by
        simp only [weight, List.map_cons, List.map_nil, List.sum_cons, List.sum_nil]
        split <;> omega
      rw [weight_cons, List.length_cons]
      omega

theorem limit_le_weight {c : Char × Bool} (member : c ∈ text) (fresh : c.2 = false) :
    limit ≤ weight limit text := by
  obtain ⟨before, after, rfl⟩ := List.append_of_mem member
  have hHere : weight limit [c] = limit := by
    simp [weight, fresh]
  rw [weight_append, weight_cons, hHere]
  omega

/-- A scan multiplies the weight by no more than a factor at which every occurrence pays for the
token that takes its place. -/
theorem weight_markScan {factor : Nat} (positive : 1 ≤ factor) (nonempty : value ≠ [])
    (paid : ∀ rest, rest <:+ text → value <+: plain rest →
      token.length ≤ factor * weight limit (rest.take value.length)) (skip : Nat) :
    weight limit (markScan value token skip text) ≤ factor * weight limit (text.drop skip) := by
  induction text generalizing skip with
  | nil => cases skip <;> exact Nat.zero_le _
  | cons c rest ih =>
      have hRest := ih fun tail hTail => paid tail (hTail.trans (List.suffix_cons c rest))
      cases skip with
      | succ skip => exact hRest skip
      | zero =>
          rw [markScan, List.drop_zero]
          split
          next hHere =>
            have hLength : value.length - 1 + 1 = value.length :=
              Nat.sub_add_cancel (List.length_pos_iff.mpr nonempty)
            calc weight limit (putIn token ++ markScan value token (value.length - 1) rest)
                = token.length + weight limit (markScan value token (value.length - 1) rest) := by
                  rw [weight_append, weight_putIn]
              _ ≤ factor * weight limit ((c :: rest).take value.length) +
                    factor * weight limit (rest.drop (value.length - 1)) :=
                  Nat.add_le_add (paid _ List.suffix_rfl hHere) (hRest _)
              _ = factor * weight limit (c :: rest) := by
                  rw [← List.drop_succ_cons, hLength, ← Nat.mul_add, ← weight_append,
                    List.take_append_drop]
          next =>
            calc weight limit (c :: markScan value token 0 rest)
                = weight limit [c] + weight limit (markScan value token 0 rest) :=
                  weight_cons limit c _
              _ ≤ factor * weight limit [c] + factor * weight limit rest :=
                  Nat.add_le_add (Nat.le_mul_of_pos_left _ positive) (hRest 0)
              _ = factor * weight limit (c :: rest) := by rw [← Nat.mul_add, ← weight_cons]

/-- Replacing what is fresh makes a text no heavier: each token takes the place of a character that
was counted for one. -/
theorem weight_markAll_fresh (short : token.length ≤ limit) (fresh : Fresh value text) :
    weight limit (markAll value token text) ≤ weight limit text := by
  rw [markAll_eq_scan fresh.ne_nil, ← Nat.one_mul (weight limit text)]
  apply weight_markScan (Nat.le_refl 1) fresh.ne_nil
  intro rest hRest hValue
  obtain ⟨c, hMember, hFresh⟩ := fresh rest hRest hValue
  rw [Nat.one_mul]
  exact Nat.le_trans short (limit_le_weight hMember hFresh)

theorem weight_markEmpty (limit : Nat) (token : List Char) (text : Marked) :
    weight limit (markEmpty token text) =
      (text.length + 1) * token.length + weight limit text := by
  induction text with
  | nil =>
      rw [markEmpty, weight_putIn, List.length_nil, Nat.zero_add, Nat.one_mul]
      rfl
  | cons c rest ih =>
      rw [markEmpty, weight_append, weight_putIn, weight_cons, ih, weight_cons limit c rest,
        List.length_cons, Nat.succ_mul (rest.length + 1)]
      omega

/-- Any replacement multiplies the weight once at most. -/
theorem weight_markAll (positive : 1 ≤ limit) (short : token.length ≤ limit)
    (value : List Char) (text : Marked) :
    weight limit (markAll value token text) + 1 ≤ (weight limit text + 1) * (limit + 1) := by
  by_cases nonempty : value = []
  · subst nonempty
    calc weight limit (markAll [] token text) + 1
        = (text.length + 1) * token.length + (weight limit text + 1) := by
          rw [markAll, weight_markEmpty, Nat.add_assoc]
      _ ≤ (weight limit text + 1) * limit + (weight limit text + 1) :=
          Nat.add_le_add_right (Nat.mul_le_mul (Nat.succ_le_succ (length_le_weight positive text))
            short) _
      _ = (weight limit text + 1) * (limit + 1) := (Nat.mul_succ _ _).symm
  · have hScan : weight limit (markAll value token text) ≤ limit * weight limit text := by
      rw [markAll_eq_scan nonempty]
      apply weight_markScan positive nonempty
      intro rest _ hValue
      have hStands : 1 ≤ (rest.take value.length).length := by
        have hFits := hValue.length_le
        rw [plain, List.length_map] at hFits
        rw [List.length_take_of_le hFits]
        exact List.length_pos_iff.mpr nonempty
      exact Nat.le_trans short (Nat.le_mul_of_pos_right _
        (Nat.le_trans hStands (length_le_weight positive _)))
    rw [Nat.succ_mul, Nat.mul_succ, Nat.mul_comm (weight limit text)]
    omega

end Weights

section Lengths

variable {limit : Nat} {steps : List Replacement}

/-- Only what is not fresh multiplies the weight. -/
theorem length_rewrite_le_weight (positive : 1 ≤ limit)
    (short : ∀ step ∈ steps, step.token.length ≤ limit) (text : Marked) :
    (rewrite steps (plain text)).length + 1 ≤
      (weight limit text + 1) * (limit + 1) ^ stale steps text := by
  induction steps generalizing text with
  | nil =>
      rw [rewrite_nil, plain, List.length_map, stale, Nat.pow_zero, Nat.mul_one]
      exact Nat.succ_le_succ (length_le_weight positive text)
  | cons step steps ih =>
      obtain ⟨hShort, hRest⟩ := List.forall_mem_cons.mp short
      have hLater := ih hRest (markAll step.value step.token text)
      rw [plain_markAll] at hLater
      rw [rewrite_cons, stale]
      split
      next hFresh =>
        rw [Nat.zero_add]
        exact Nat.le_trans hLater
          (Nat.mul_le_mul_right _ (Nat.succ_le_succ (weight_markAll_fresh hShort hFresh)))
      next =>
        rw [Nat.add_comm 1 (stale _ _), Nat.pow_succ', ← Nat.mul_assoc]
        exact Nat.le_trans hLater
          (Nat.mul_le_mul_right _ (weight_markAll positive hShort step.value text))

theorem succ_mul_le (length limit : Nat) : length * limit + 1 ≤ (length + 1) * (limit + 1) := by
  rw [Nat.succ_mul, Nat.mul_succ]
  omega

/-- All fresh replacements of a row together count for one. -/
theorem length_rewrite_le_stale (positive : 1 ≤ limit)
    (short : ∀ step ∈ steps, step.token.length ≤ limit) (text : List Char) :
    (rewrite steps text).length + 1 ≤
      (text.length + 1) * (limit + 1) ^ (stale steps (unmarked text) + 1) := by
  have h := length_rewrite_le_weight positive short (unmarked text)
  rw [plain_unmarked, weight_unmarked] at h
  calc (rewrite steps text).length + 1
      ≤ (text.length * limit + 1) * (limit + 1) ^ stale steps (unmarked text) := h
    _ ≤ (text.length + 1) * (limit + 1) * (limit + 1) ^ stale steps (unmarked text) :=
        Nat.mul_le_mul_right _ (succ_mul_le text.length limit)
    _ = (text.length + 1) * (limit + 1) ^ (stale steps (unmarked text) + 1) := by
        rw [Nat.pow_succ', Nat.mul_assoc]

/-- Whatever is replaced, each replacement counts for one at most. -/
theorem length_rewrite_le_length (positive : 1 ≤ limit)
    (short : ∀ step ∈ steps, step.token.length ≤ limit) (text : List Char) :
    (rewrite steps text).length + 1 ≤ (text.length + 1) * (limit + 1) ^ steps.length := by
  -- If all of the text counts as put in, its weight is its length.
  have h := length_rewrite_le_weight positive short (putIn text)
  rw [plain_putIn, weight_putIn] at h
  exact Nat.le_trans h (Nat.mul_le_mul_left _
    (Nat.pow_le_pow_right (Nat.succ_pos limit) (stale_le_length steps (putIn text))))

/-- A row of replacements makes a text no longer than its growth allows. -/
theorem length_rewrite_le (positive : 1 ≤ limit)
    (short : ∀ step ∈ steps, step.token.length ≤ limit) (text : List Char) :
    (rewrite steps text).length + 1 ≤ (text.length + 1) * (limit + 1) ^ growthOf steps text := by
  rw [growthOf]
  rcases Nat.le_total steps.length (stale steps (unmarked text) + 1) with hFew | hFresh
  · rw [Nat.min_eq_left hFew]
    exact length_rewrite_le_length positive short text
  · rw [Nat.min_eq_right hFresh]
    exact length_rewrite_le_stale positive short text

end Lengths

end Masking.Text
