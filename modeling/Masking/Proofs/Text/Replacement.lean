import Masking.Text.Search
import Mathlib.Data.List.Infix
import Mathlib.Data.Nat.Find

/-! Replacement of literal occurrences. A text is taken apart at the first occurrence of what is
replaced; from the two equations for that all else follows: what can still be found afterwards, and
what stays whole, in one replacement and in a row of them. -/

namespace Masking.Text

section Occurrences

/-- The part stands in the text after a number of characters. -/
def OccursAt (part : List Char) (start : Nat) (text : List Char) : Prop :=
  ∃ before after, text = before ++ part ++ after ∧ before.length = start

variable {part other gap rest text : List Char} {start position : Nat}

theorem occursAt_iff_drop :
    OccursAt part start text ↔ start ≤ text.length ∧ part <+: text.drop start := by
  constructor
  · rintro ⟨before, after, rfl, rfl⟩
    refine ⟨by simp, after, ?_⟩
    rw [List.append_assoc, List.drop_left]
  · rintro ⟨hStart, after, hAfter⟩
    refine ⟨text.take start, after, ?_, List.length_take_of_le hStart⟩
    rw [List.append_assoc, hAfter, List.take_append_drop]

instance (part : List Char) (start : Nat) (text : List Char) :
    Decidable (OccursAt part start text) :=
  decidable_of_iff _ occursAt_iff_drop.symm

theorem infix_iff_occursAt : part <:+: text ↔ ∃ start, OccursAt part start text := by
  constructor
  · rintro ⟨before, after, rfl⟩
    exact ⟨before.length, before, after, rfl, rfl⟩
  · rintro ⟨start, before, after, rfl, _⟩
    exact ⟨before, after, rfl⟩

theorem OccursAt.isInfix (h : OccursAt part start text) : part <:+: text :=
  infix_iff_occursAt.mpr ⟨start, h⟩

theorem OccursAt.fits (h : OccursAt part start text) : start + part.length ≤ text.length := by
  obtain ⟨before, after, rfl, rfl⟩ := h
  simp only [List.length_append]
  omega

theorem OccursAt.append_right (h : OccursAt part start text) (rest : List Char) :
    OccursAt part start (text ++ rest) := by
  obtain ⟨before, after, rfl, rfl⟩ := h
  exact ⟨before, after ++ rest, by simp, rfl⟩

theorem OccursAt.append_left (h : OccursAt part start text) (gap : List Char) :
    OccursAt part (gap.length + start) (gap ++ text) := by
  obtain ⟨before, after, rfl, rfl⟩ := h
  exact ⟨gap ++ before, after, by simp, by simp⟩

theorem occursAt_between (gap part rest : List Char) :
    OccursAt part gap.length (gap ++ part ++ rest) :=
  ⟨gap, rest, rfl, rfl⟩

/-- What ends before the end of the first of two texts stands in it alone. -/
theorem OccursAt.of_append_left (h : OccursAt part start (gap ++ rest))
    (ends : start + part.length ≤ gap.length) : OccursAt part start gap := by
  rw [occursAt_iff_drop] at h ⊢
  obtain ⟨_, hPrefix⟩ := h
  have hStart : start ≤ gap.length := by omega
  rw [List.drop_append_of_le_length hStart] at hPrefix
  refine ⟨hStart, List.prefix_of_prefix_length_le hPrefix (List.prefix_append _ _) ?_⟩
  rw [List.length_drop]
  omega

/-- What begins after the first of two texts stands in the second. -/
theorem OccursAt.of_append_right (h : OccursAt part start (gap ++ rest))
    (begins : gap.length ≤ start) : OccursAt part (start - gap.length) rest := by
  rw [occursAt_iff_drop] at h ⊢
  obtain ⟨hStart, hPrefix⟩ := h
  rw [List.drop_append, List.drop_eq_nil_of_le begins, List.nil_append] at hPrefix
  rw [List.length_append] at hStart
  exact ⟨by omega, hPrefix⟩

end Occurrences

section Overlaps

/-- An end of the first text, but not the whole of it, is what the second begins with. -/
def RunsInto (first second : List Char) : Prop :=
  ∃ shared, shared ≠ [] ∧ shared ≠ first ∧ shared <:+ first ∧ shared <+: second

/-- One of the texts contains the other, or runs into it. The empty text overlaps every text. -/
def Overlaps (first second : List Char) : Prop :=
  first <:+: second ∨ second <:+: first ∨ RunsInto first second ∨ RunsInto second first

instance (first second : List Char) : Decidable (RunsInto first second) :=
  decidable_of_iff
    (∃ shared ∈ first.tails, shared ≠ [] ∧ shared ≠ first ∧ shared <+: second) <| by
      simp only [RunsInto, List.mem_tails]
      exact exists_congr fun shared => by tauto

instance (first second : List Char) : Decidable (Overlaps first second) :=
  inferInstanceAs (Decidable (_ ∨ _ ∨ _ ∨ _))

variable {first second part token gap rest text : List Char} {start position : Nat}

theorem Overlaps.symm (h : Overlaps first second) : Overlaps second first := by
  obtain h | h | h | h := h
  · exact Or.inr (Or.inl h)
  · exact Or.inl h
  · exact Or.inr (Or.inr (Or.inr h))
  · exact Or.inr (Or.inr (Or.inl h))

theorem overlaps_self (text : List Char) : Overlaps text text :=
  Or.inl (List.infix_refl text)

theorem overlaps_nil (text : List Char) : Overlaps [] text :=
  Or.inl List.nil_infix

theorem ne_nil_of_not_overlaps (apart : ¬ Overlaps first second) : first ≠ [] := by
  rintro rfl
  exact apart (overlaps_nil second)

/-- When an occurrence begins within another one, the two texts overlap. -/
theorem overlaps_of_begins_within (hFirst : OccursAt first start text)
    (hSecond : OccursAt second position text) (after : start ≤ position)
    (within : position < start + first.length) : Overlaps first second := by
  obtain ⟨before, behind, rfl, rfl⟩ := hFirst
  -- From the first occurrence on, the text is `first ++ behind`, in which `second` stands too.
  rw [List.append_assoc] at hSecond
  obtain ⟨lead, tail, hText, hLead⟩ := hSecond.of_append_right after
  have hShort : lead.length < first.length := by omega
  rw [List.append_assoc] at hText
  obtain ⟨shared, rfl, hShared⟩ | ⟨beyond, rfl, _⟩ := List.append_eq_append_iff.mp hText.symm
  · have hNonempty : shared ≠ [] := by
      rintro rfl
      rw [List.append_nil] at hShort
      exact absurd hShort (Nat.lt_irrefl _)
    obtain ⟨more, hMore, _⟩ | ⟨more, rfl, _⟩ := List.append_eq_append_iff.mp hShared.symm
    · cases lead with
      | nil => exact Or.inl ⟨[], more, by simp [hMore]⟩
      | cons c lead =>
          refine Or.inr (Or.inr (Or.inl ⟨shared, hNonempty, ?_, ?_, more, hMore.symm⟩))
          · intro same
            have hLength := congrArg List.length same
            simp only [List.length_append, List.length_cons] at hLength
            omega
          · exact List.suffix_append _ _
    · exact Or.inr (Or.inl ⟨lead, more, List.append_assoc _ _ _⟩)
  · rw [List.length_append] at hShort
    omega

/-- Occurrences of texts that do not overlap share no character. -/
theorem OccursAt.disjoint (hFirst : OccursAt first start text)
    (hSecond : OccursAt second position text) (apart : ¬ Overlaps first second) :
    start + first.length ≤ position ∨ position + second.length ≤ start := by
  by_contra shared
  rw [not_or, Nat.not_le, Nat.not_le] at shared
  obtain ⟨hWithin, hAround⟩ := shared
  rcases Nat.le_total start position with hAfter | hBefore
  · exact apart (overlaps_of_begins_within hFirst hSecond hAfter hWithin)
  · exact apart (overlaps_of_begins_within hSecond hFirst hBefore hAround).symm

/-- What stands in a text around a token that it does not overlap stands on one side of it. -/
theorem infix_around (h : part <:+: gap ++ token ++ rest) (apart : ¬ Overlaps token part) :
    part <:+: gap ∨ part <:+: rest := by
  obtain ⟨start, hPart⟩ := infix_iff_occursAt.mp h
  rcases (occursAt_between gap token rest).disjoint hPart apart with hAfter | hBefore
  · have hBegins : (gap ++ token).length ≤ start := by simpa using hAfter
    exact Or.inr (hPart.of_append_right hBegins).isInfix
  · rw [List.append_assoc] at hPart
    exact Or.inl (hPart.of_append_left hBefore).isInfix

end Overlaps

section Equations

variable {found token gap rest text : List Char}

theorem stripLead_eq_some_iff {lead : List Char} :
    stripLead lead text = some rest ↔ text = lead ++ rest := by
  induction lead generalizing text with
  | nil => simp [stripLead]
  | cons c lead ih =>
      cases text with
      | nil => simp [stripLead]
      | cons d text =>
          by_cases hSame : c = d
          · simp [stripLead, hSame, ih]
          · simp [stripLead, hSame, Ne.symm hSame]

theorem stripLead_eq_none_iff {lead : List Char} :
    stripLead lead text = none ↔ ¬ lead <+: text := by
  rw [Option.eq_none_iff_forall_ne_some]
  simp only [ne_eq, stripLead_eq_some_iff, List.IsPrefix, not_exists]
  exact forall_congr' fun rest => not_congr eq_comm

theorem replaceScan_skip (found token : List Char) (count : Nat) (text : List Char) :
    replaceScan found token count text = replaceScan found token 0 (text.drop count) := by
  induction count generalizing text with
  | zero => rfl
  | succ count ih =>
      cases text with
      | nil => rfl
      | cons c rest => simpa [replaceScan] using ih rest

theorem replaceScan_found (nonempty : found ≠ []) (token rest : List Char) :
    replaceScan found token 0 (found ++ rest) = token ++ replaceScan found token 0 rest := by
  obtain ⟨c, more, rfl⟩ := List.exists_cons_of_ne_nil nonempty
  have hLead : stripLead (c :: more) (c :: (more ++ rest)) = some rest :=
    stripLead_eq_some_iff.mpr rfl
  rw [List.cons_append, replaceScan, hLead]
  simp only [List.length_cons, Nat.add_sub_cancel]
  rw [replaceScan_skip, List.drop_left]

theorem replaceScan_other {c : Char} (differs : ¬ found <+: c :: rest) :
    replaceScan found token 0 (c :: rest) = c :: replaceScan found token 0 rest := by
  rw [replaceScan, stripLead_eq_none_iff.mpr differs]

theorem replaceAll_eq_scan (nonempty : found ≠ []) (token text : List Char) :
    replaceAll found token text = replaceScan found token 0 text := by
  obtain ⟨c, more, rfl⟩ := List.exists_cons_of_ne_nil nonempty
  rfl

/-- A text without what is replaced stays as it is. -/
theorem replaceAll_absent (absent : ¬ found <:+: text) : replaceAll found token text = text := by
  have nonempty : found ≠ [] := by
    rintro rfl
    exact absent List.nil_infix
  rw [replaceAll_eq_scan nonempty]
  induction text with
  | nil => rfl
  | cons c rest ih =>
      rw [List.infix_cons_iff, not_or] at absent
      rw [replaceScan_other absent.1, ih absent.2]

/-- Nothing that is replaced begins within the gap. -/
def FirstAfter (found gap rest : List Char) : Prop :=
  ∀ start, OccursAt found start (gap ++ found ++ rest) → gap.length ≤ start

/-- The first occurrence is replaced, what is before it stays, and the rest is gone through. -/
theorem replaceAll_first (nonempty : found ≠ []) (first : FirstAfter found gap rest) :
    replaceAll found token (gap ++ found ++ rest) =
      gap ++ token ++ replaceAll found token rest := by
  simp only [replaceAll_eq_scan nonempty]
  induction gap with
  | nil => exact replaceScan_found nonempty token rest
  | cons c gap ih =>
      have differs : ¬ found <+: c :: (gap ++ found ++ rest) := by
        rintro ⟨after, hAfter⟩
        have hStart : gap.length + 1 ≤ 0 := first 0 ⟨[], after, hAfter.symm, rfl⟩
        omega
      have later : FirstAfter found gap rest := by
        intro start h
        have hStart : gap.length + 1 ≤ 1 + start := first _ (h.append_left [c])
        omega
      simp only [List.cons_append] at ih ⊢
      rw [replaceScan_other differs, ih later]

/-- A text either has no occurrence, or it has a first one. -/
theorem occurrence_induction (nonempty : found ≠ []) {motive : List Char → Prop}
    (absent : ∀ text, ¬ found <:+: text → motive text)
    (first : ∀ gap rest, FirstAfter found gap rest → motive rest → motive (gap ++ found ++ rest))
    (text : List Char) : motive text := by
  induction hLength : text.length using Nat.strong_induction_on generalizing text with
  | _ length ih =>
      by_cases h : found <:+: text
      · have hOccurs := infix_iff_occursAt.mp h
        obtain ⟨gap, rest, hText, hGap⟩ := Nat.find_spec hOccurs
        have hFirst : FirstAfter found gap rest := by
          intro start hStart
          rw [hGap]
          exact Nat.find_min' hOccurs (hText ▸ hStart)
        have hShorter : rest.length < length := by
          have := List.length_pos_iff.mpr nonempty
          rw [← hLength, hText, List.length_append, List.length_append]
          omega
        rw [hText]
        exact first gap rest hFirst (ih rest.length hShorter rest rfl)
      · exact absent text h

end Equations

section Effects

variable {found token part text : List Char}

theorem exists_replaceEmpty_eq (token text : List Char) :
    ∃ more, replaceEmpty token text = token ++ more := by
  cases text with
  | nil => exact ⟨[], by simp [replaceEmpty]⟩
  | cons c rest => exact ⟨_, rfl⟩

theorem infix_of_replaceEmpty (apart : ¬ Overlaps token part)
    (h : part <:+: replaceEmpty token text) : part <:+: text := by
  induction text with
  | nil => exact absurd (Or.inr (Or.inl h)) apart
  | cons c rest ih =>
      have hNil : ¬ part <:+: [] := by
        rw [List.infix_nil]
        rintro rfl
        exact apart (overlaps_nil token).symm
      obtain ⟨more, hMore⟩ := exists_replaceEmpty_eq token rest
      have hAfter : part <:+: [c] ++ token ++ more := by
        have hText : part <:+: [] ++ token ++ (c :: replaceEmpty token rest) := h
        rw [hMore] at hText
        exact (infix_around hText apart).resolve_left hNil
      rcases infix_around hAfter apart with hHere | hLater
      · exact hHere.trans (List.prefix_append [c] rest).isInfix
      · have hRest : part <:+: replaceEmpty token rest := by
          rw [hMore]
          exact hLater.trans (List.suffix_append token more).isInfix
        exact (ih hRest).trans (List.suffix_cons c rest).isInfix

/-- What does not overlap the token is found after a replacement only if it was there before. -/
theorem infix_of_replaceAll (apart : ¬ Overlaps token part)
    (h : part <:+: replaceAll found token text) : part <:+: text := by
  by_cases nonempty : found = []
  · subst nonempty
    exact infix_of_replaceEmpty apart h
  · induction text using occurrence_induction nonempty with
    | absent text absent => rwa [replaceAll_absent absent] at h
    | first gap rest first ih =>
        rw [replaceAll_first nonempty first] at h
        rcases infix_around h apart with hGap | hRest
        · rw [List.append_assoc]
          exact hGap.trans (List.prefix_append _ _).isInfix
        · exact (ih hRest).trans (List.suffix_append _ _).isInfix

theorem found_of_brought_in (absent : ¬ part <:+: text)
    (h : part <:+: replaceAll found token text) : found <:+: text := by
  by_contra unchanged
  rw [replaceAll_absent unchanged] at h
  exact absent h

/-- What was replaced by a token that does not overlap it is not found any more. -/
theorem not_infix_replaceAll_self (apart : ¬ Overlaps token found) :
    ¬ found <:+: replaceAll found token text := by
  have nonempty : found ≠ [] := by
    rintro rfl
    exact apart (overlaps_nil token).symm
  induction text using occurrence_induction nonempty with
  | absent text absent => rwa [replaceAll_absent absent]
  | first gap rest first ih =>
      rw [replaceAll_first nonempty first]
      intro h
      rcases infix_around h apart with hGap | hRest
      · obtain ⟨start, hStart⟩ := infix_iff_occursAt.mp hGap
        have hFits := hStart.fits
        have hLate := first start (by simpa using (hStart.append_right (found ++ rest)))
        have := List.length_pos_iff.mpr nonempty
        omega
      · exact ih hRest

/-- The token of what occurs in a text is put into it. -/
theorem infix_replaceAll_token (h : found <:+: text) : token <:+: replaceAll found token text := by
  by_cases nonempty : found = []
  · subst nonempty
    obtain ⟨more, hMore⟩ := exists_replaceEmpty_eq token text
    rw [replaceAll, hMore]
    exact (List.prefix_append token more).isInfix
  · induction text using occurrence_induction nonempty with
    | absent text absent => exact absurd h absent
    | first gap rest first _ =>
        rw [replaceAll_first nonempty first]
        exact ⟨gap, _, rfl⟩

/-- A token is there after its own turn, unless neither it nor what it stands for was there. -/
theorem infix_replaceAll_own (h : found <:+: text ∨ token <:+: text) :
    token <:+: replaceAll found token text := by
  by_cases present : found <:+: text
  · exact infix_replaceAll_token present
  · rw [replaceAll_absent present]
    exact h.resolve_left present

/-- Some occurrence of the part shares no character with any occurrence of what is replaced. -/
def Spares (found part text : List Char) : Prop :=
  ∃ start, OccursAt part start text ∧ ∀ position, OccursAt found position text →
    position + found.length ≤ start ∨ start + part.length ≤ position

theorem spares_of_not_overlaps (apart : ¬ Overlaps found part) (h : part <:+: text) :
    Spares found part text := by
  obtain ⟨start, hPart⟩ := infix_iff_occursAt.mp h
  exact ⟨start, hPart, fun position hFound => hFound.disjoint hPart apart⟩

theorem mem_replaceEmpty {c : Char} (h : c ∈ text) : c ∈ replaceEmpty token text := by
  induction text with
  | nil => exact absurd h List.not_mem_nil
  | cons d rest ih =>
      rw [replaceEmpty, List.mem_append, List.mem_cons]
      rcases List.mem_cons.mp h with rfl | hRest
      · exact Or.inr (Or.inl rfl)
      · exact Or.inr (Or.inr (ih hRest))

/-- The empty text occurs everywhere, so it spares single characters at most. -/
theorem infix_replaceEmpty (spares : Spares [] part text) : part <:+: replaceEmpty token text := by
  obtain ⟨start, hPart, apart⟩ := spares
  have hFits := hPart.fits
  cases part with
  | nil => exact List.nil_infix
  | cons c more =>
      have hWithin : OccursAt [] (start + 1) text := by
        rw [List.length_cons] at hFits
        exact occursAt_iff_drop.mpr ⟨by omega, List.nil_prefix⟩
      have hMore : more = [] := by
        have hEnd := apart _ hWithin
        rw [List.length_nil, List.length_cons] at hEnd
        exact List.eq_nil_of_length_eq_zero (by omega)
      subst hMore
      obtain ⟨before, after, hText⟩ := hPart.isInfix
      have hMember : c ∈ replaceEmpty token text := mem_replaceEmpty (by simp [← hText])
      obtain ⟨first, last, hSplit⟩ := List.append_of_mem hMember
      exact ⟨first, last, by simp [hSplit]⟩

/-- What a replacement spares is still there afterwards. -/
theorem infix_replaceAll (spares : Spares found part text) :
    part <:+: replaceAll found token text := by
  by_cases nonempty : found = []
  · subst nonempty
    exact infix_replaceEmpty spares
  · induction text using occurrence_induction nonempty with
    | absent text absent =>
        rw [replaceAll_absent absent]
        exact spares.choose_spec.1.isInfix
    | first gap rest first ih =>
        rw [replaceAll_first nonempty first]
        obtain ⟨start, hPart, apart⟩ := spares
        rcases apart _ (occursAt_between gap found rest) with hAfter | hBefore
        · have hBegins : (gap ++ found).length ≤ start := by simpa using hAfter
          refine (ih ⟨_, hPart.of_append_right hBegins, ?_⟩).trans
            (List.suffix_append _ _).isInfix
          intro position hFound
          have := apart _ (hFound.append_left (gap ++ found))
          omega
        · rw [List.append_assoc] at hPart ⊢
          exact (hPart.of_append_left hBefore).isInfix.trans (List.prefix_append _ _).isInfix

end Effects

section Rows

/-- A text that is to be replaced by another one. -/
structure Replacement where
  value : List Char
  token : List Char
deriving DecidableEq

/-- Replacements made in a text one after the other. -/
def rewrite (steps : List Replacement) (text : List Char) : List Char :=
  steps.foldl (fun text step => replaceAll step.value step.token text) text

@[simp] theorem rewrite_nil (text : List Char) : rewrite [] text = text := rfl

@[simp] theorem rewrite_cons (step : Replacement) (steps : List Replacement) (text : List Char) :
    rewrite (step :: steps) text = rewrite steps (replaceAll step.value step.token text) := rfl

theorem rewrite_append (steps more : List Replacement) (text : List Char) :
    rewrite (steps ++ more) text = rewrite more (rewrite steps text) := List.foldl_append

variable {steps : List Replacement} {part text : List Char}

/-- What replacements bring into a text overlaps a token that one of them has put there. -/
theorem exists_overlaps_of_infix_rewrite (absent : ¬ part <:+: text)
    (h : part <:+: rewrite steps text) :
    ∃ before inserted after, steps = before ++ inserted :: after ∧
      inserted.value <:+: rewrite before text ∧ Overlaps inserted.token part := by
  induction steps generalizing text with
  | nil => exact absurd h absent
  | cons step steps ih =>
      by_cases present : part <:+: replaceAll step.value step.token text
      · refine ⟨[], step, steps, rfl, found_of_brought_in absent present, ?_⟩
        by_contra apart
        exact absent (infix_of_replaceAll apart present)
      · obtain ⟨before, inserted, after, rfl, hValue, hToken⟩ := ih present h
        exact ⟨step :: before, inserted, after, rfl, hValue, hToken⟩

/-- A text that was replaced is found at the end only through a token that was put in by its own
replacement or later, and that overlaps it. -/
theorem exists_overlaps_of_replaced {earlier later : List Replacement} {step : Replacement}
    (h : step.value <:+: rewrite (earlier ++ step :: later) text) :
    ∃ before inserted after, earlier ++ step :: later = before ++ inserted :: after ∧
      earlier.length ≤ before.length ∧ inserted.value <:+: rewrite before text ∧
      Overlaps inserted.token step.value := by
  rw [rewrite_append, rewrite_cons] at h
  by_cases present : step.value <:+:
      replaceAll step.value step.token (rewrite earlier text)
  · refine ⟨earlier, step, later, rfl, le_rfl, ?_, ?_⟩
    · by_contra absent
      exact absent (found_of_brought_in absent present)
    · by_contra apart
      exact not_infix_replaceAll_self apart present
  · obtain ⟨before, inserted, after, rfl, hValue, hToken⟩ :=
      exists_overlaps_of_infix_rewrite present h
    refine ⟨earlier ++ step :: before, inserted, after, by simp, by simp, ?_, hToken⟩
    rwa [rewrite_append, rewrite_cons]

/-- Whenever the turn of a replacement comes, it spares the part or puts it in itself. -/
def LeftAlone (part : List Char) : List Replacement → List Char → Prop
  | [], _ => True
  | step :: steps, text =>
      (Spares step.value part text ∨ step.token = part) ∧
        LeftAlone part steps (replaceAll step.value step.token text)

theorem infix_rewrite (h : part <:+: text) (alone : LeftAlone part steps text) :
    part <:+: rewrite steps text := by
  induction steps generalizing text with
  | nil => exact h
  | cons step steps ih =>
      obtain ⟨hStep, hSteps⟩ := alone
      have hThere : part <:+: replaceAll step.value step.token text := by
        rcases hStep with spares | rfl
        · exact infix_replaceAll spares
        · exact infix_replaceAll_own (Or.inr h)
      exact ih hThere hSteps

theorem leftAlone_of_apart (h : part <:+: text)
    (apart : ∀ step ∈ steps, ¬ Overlaps step.value part ∨ step.token = part) :
    LeftAlone part steps text := by
  induction steps generalizing text with
  | nil => trivial
  | cons step steps ih =>
      obtain ⟨hStep, hSteps⟩ := List.forall_mem_cons.mp apart
      have hSpares : Spares step.value part text ∨ step.token = part :=
        hStep.imp_left fun apart => spares_of_not_overlaps apart h
      have hThere : part <:+: rewrite [step] text := infix_rewrite h ⟨hSpares, trivial⟩
      exact ⟨hSpares, ih hThere hSteps⟩

/-- A text that all other replacements keep clear of, and of its token too, gives way to its
token, which stays. -/
theorem infix_rewrite_token {step : Replacement} (member : step ∈ steps)
    (h : step.value <:+: text)
    (apart : ∀ other ∈ steps, other = step ∨
      ¬ Overlaps other.value step.value ∧ ¬ Overlaps other.value step.token) :
    step.token <:+: rewrite steps text := by
  induction steps generalizing text with
  | nil => exact absurd member List.not_mem_nil
  | cons other steps ih =>
      obtain ⟨hOther, hSteps⟩ := List.forall_mem_cons.mp apart
      rw [rewrite_cons]
      rcases hOther with rfl | ⟨hValue, hToken⟩
      · have hPut : other.token <:+: replaceAll other.value other.token text :=
          infix_replaceAll_token h
        refine infix_rewrite hPut (leftAlone_of_apart hPut fun later hLater => ?_)
        rcases hSteps later hLater with rfl | ⟨_, hToken⟩
        · exact Or.inr rfl
        · exact Or.inl hToken
      · have hMember : step ∈ steps := by
          rcases List.mem_cons.mp member with rfl | hMember
          · exact absurd (overlaps_self _) hValue
          · exact hMember
        exact ih hMember (infix_replaceAll (spares_of_not_overlaps hValue h)) hSteps

end Rows

end Masking.Text
