import Masking.Regex.Matching
import Masking.Proofs.Text.Replacement

/-! The matches of a regular expression as pieces of the text. Segments cover the text they were
found in, so a text with other things in the places of its matches can be written down at once; the
replacements of all matched texts, made one after the other, come to the same text when nothing that
is put in overlaps anything that is replaced. -/

namespace Masking

open Text (FirstAfter OccursAt Overlaps Replacement ne_nil_of_not_overlaps occursAt_between
  overlaps_self replaceAll replaceAll_absent replaceAll_first rewrite)

namespace Regex

section Cover

theorem cover_segmentsFrom (regex : Regex) (fuel : Nat) (before : Option Char) (afterMatch : Bool)
    (gap text : List Char) :
    Segment.cover (regex.segmentsFrom fuel before afterMatch gap text).1 ++
      (regex.segmentsFrom fuel before afterMatch gap text).2 = gap ++ text := by
  induction fuel generalizing before afterMatch gap text with
  | zero => rfl
  | succ fuel ih =>
      simp only [segmentsFrom]
      split
      · rfl
      · split
        · split
          · rw [Segment.cover, List.append_nil, List.nil_append]
          · rw [ih, List.append_assoc, List.singleton_append]
        · simp only [Segment.cover, List.append_assoc, ih, List.nil_append]
          rw [List.take_append_drop, List.take_append_drop]

/-- Segments and what is after them make up the text. -/
theorem cover_segments (regex : Regex) (text : List Char) :
    Segment.cover (regex.segments text).1 ++ (regex.segments text).2 = text :=
  regex.cover_segmentsFrom _ none false [] text

theorem cover_append (segments more : List Segment) :
    Segment.cover (segments ++ more) = Segment.cover segments ++ Segment.cover more := by
  induction segments with
  | nil => rfl
  | cons segment rest ih => simp only [List.cons_append, Segment.cover, ih, List.append_assoc]

theorem found_infix_cover {segments : List Segment} {segment : Segment}
    (member : segment ∈ segments) : segment.found <:+: Segment.cover segments := by
  obtain ⟨before, after, rfl⟩ := List.append_of_mem member
  rw [cover_append, Segment.cover]
  exact ⟨Segment.cover before ++ segment.gap, Segment.cover after, by simp⟩

theorem infix_of_mem_findAll {regex : Regex} {text found : String}
    (member : found ∈ regex.findAll text) : found.toList <:+: text.toList := by
  obtain ⟨segment, hSegment, rfl⟩ := List.mem_map.mp member
  rw [String.toList_ofList, ← regex.cover_segments text.toList]
  exact (found_infix_cover hSegment).trans (List.prefix_append _ _).isInfix

end Cover

section Spans

/-- Where the matches of segments stand in the text, and what they are. -/
def Segment.spans : List Segment → List (Nat × List Char)
  | [] => []
  | segment :: rest =>
      (segment.gap.length, segment.found) ::
        (spans rest).map (Prod.map (segment.gap.length + segment.found.length + ·) id)

/-- A segment with something else in the place of its match. -/
def Segment.swap (insert : List Char → List Char) (segment : Segment) : Segment :=
  { segment with found := insert segment.found }

/-- The text with something else in the place of each match, and all between them unchanged. -/
def splice (regex : Regex) (insert : List Char → List Char) (text : List Char) : List Char :=
  Segment.cover ((regex.segments text).1.map (Segment.swap insert)) ++ (regex.segments text).2

/-- Nothing is matched without a character, and wherever a matched text occurs, it is matched. -/
structure MatchesLiterally (regex : Regex) (text : List Char) : Prop where
  nonempty : ∀ segment ∈ (regex.segments text).1, segment.found ≠ []
  spans : ∀ segment ∈ (regex.segments text).1, ∀ start, OccursAt segment.found start text →
    (start, segment.found) ∈ Segment.spans (regex.segments text).1

instance (regex : Regex) (text : List Char) : Decidable (regex.MatchesLiterally text) :=
  decidable_of_iff
    (∀ segment ∈ (regex.segments text).1, segment.found ≠ [] ∧
      ∀ start < text.length + 1, OccursAt segment.found start text →
        (start, segment.found) ∈ Segment.spans (regex.segments text).1) <| by
    constructor
    · intro h
      refine ⟨fun segment hSegment => (h segment hSegment).1, ?_⟩
      intro segment hSegment start hStart
      have hFits := hStart.fits
      exact (h segment hSegment).2 start (by omega) hStart
    · intro h segment hSegment
      exact ⟨h.nonempty segment hSegment, fun start _ => h.spans segment hSegment start⟩

/-- The text occurs only where it is a match. -/
def OnlySpans (value : List Char) (segments : List Segment) (tail : List Char) : Prop :=
  ∀ start, OccursAt value start (Segment.cover segments ++ tail) →
    (start, value) ∈ Segment.spans segments

variable {value token tail : List Char} {segment : Segment} {segments before after : List Segment}
  {start : Nat}

theorem mem_spans_cons : (start, value) ∈ Segment.spans (segment :: segments) ↔
    start = segment.gap.length ∧ value = segment.found ∨
      ∃ position, (position, value) ∈ Segment.spans segments ∧
        segment.gap.length + segment.found.length + position = start := by
  simp [Segment.spans]

theorem mem_spans_append : (start, value) ∈ Segment.spans (before ++ after) ↔
    (start, value) ∈ Segment.spans before ∨
      ∃ position, (position, value) ∈ Segment.spans after ∧
        (Segment.cover before).length + position = start := by
  induction before generalizing start with
  | nil => simp [Segment.spans, Segment.cover]
  | cons segment rest ih =>
      simp only [List.cons_append, mem_spans_cons, ih, Segment.cover, List.length_append]
      constructor
      · rintro (hHere | ⟨position, hRest | ⟨place, hAfter, rfl⟩, rfl⟩)
        · exact Or.inl (Or.inl hHere)
        · exact Or.inl (Or.inr ⟨position, hRest, rfl⟩)
        · exact Or.inr ⟨place, hAfter, by omega⟩
      · rintro ((hHere | ⟨position, hRest, rfl⟩) | ⟨place, hAfter, rfl⟩)
        · exact Or.inl hHere
        · exact Or.inr ⟨position, Or.inl hRest, rfl⟩
        · exact Or.inr ⟨_, Or.inr ⟨place, hAfter, rfl⟩, by omega⟩

/-- Matches lie within what segments cover. -/
theorem span_fits (h : (start, value) ∈ Segment.spans segments) :
    start + value.length ≤ (Segment.cover segments).length := by
  induction segments generalizing start with
  | nil => exact absurd h List.not_mem_nil
  | cons segment rest ih =>
      simp only [Segment.cover, List.length_append]
      rcases mem_spans_cons.mp h with ⟨rfl, rfl⟩ | ⟨position, hRest, rfl⟩
      · omega
      · have := ih hRest
        omega

theorem not_mem_spans (differ : ∀ segment ∈ segments, segment.found ≠ value) :
    (start, value) ∉ Segment.spans segments := by
  induction segments generalizing start with
  | nil => exact List.not_mem_nil
  | cons segment rest ih =>
      obtain ⟨hFound, hRest⟩ := List.forall_mem_cons.mp differ
      intro h
      rcases mem_spans_cons.mp h with ⟨_, same⟩ | ⟨position, hLater, _⟩
      · exact hFound same.symm
      · exact ih hRest hLater

theorem cover_middle (segment : Segment) :
    Segment.cover (before ++ segment :: after) ++ tail =
      (Segment.cover before ++ segment.gap) ++ segment.found ++ (Segment.cover after ++ tail) := by
  simp only [cover_append, Segment.cover, List.append_assoc]

/-- Behind a match, too, the text occurs only where it is a match. -/
theorem OnlySpans.behind (nonempty : segment.found ≠ [])
    (only : OnlySpans value (before ++ segment :: after) tail) : OnlySpans value after tail := by
  have hFound : 0 < segment.found.length := List.length_pos_iff.mpr nonempty
  intro start h
  have hSpan := only _ (cover_middle segment ▸
    h.append_left ((Segment.cover before ++ segment.gap) ++ segment.found))
  simp only [List.length_append] at hSpan
  rcases mem_spans_append.mp hSpan with hBefore | ⟨_, hHere, hPlace⟩
  · have := span_fits hBefore
    omega
  · rcases mem_spans_cons.mp hHere with ⟨rfl, _⟩ | ⟨position, hAfter, rfl⟩
    · omega
    · obtain rfl : position = start := by omega
      exact hAfter

end Spans

section Rows

variable {value token tail : List Char} {segment : Segment} {segments before after : List Segment}
  {insert : List Char → List Char}

/-- A match gives way to what does not overlap the text, and the text still occurs as a match only:
what is put in keeps apart what stands before it and what stands after it. -/
theorem OnlySpans.swap_one (nonempty : segment.found ≠ [])
    (only : OnlySpans value (before ++ segment :: after) tail)
    (apart : ¬ Overlaps (insert segment.found) value) :
    OnlySpans value (before ++ segment.swap insert :: after) tail := by
  have hValue : 0 < value.length :=
    List.length_pos_iff.mpr (ne_nil_of_not_overlaps fun h => apart h.symm)
  intro start h
  rw [cover_middle] at h
  rw [mem_spans_append]
  rcases (occursAt_between _ _ _).disjoint h apart with hAfter | hBefore
  · -- The text occurs after what was put in, where nothing has changed.
    rw [← List.length_append] at hAfter
    have hThere := only.behind nonempty _ (h.of_append_right hAfter)
    simp only [List.length_append] at hAfter
    refine Or.inr ⟨_, mem_spans_cons.mpr (Or.inr ⟨_, hThere, rfl⟩), ?_⟩
    simp only [Segment.swap, List.length_append] at hAfter ⊢
    omega
  · -- The text occurs before it, so its match is one of those before.
    rw [List.append_assoc] at h
    have hThere := only start (by
      rw [cover_middle, List.append_assoc]
      exact (h.of_append_left hBefore).append_right _)
    simp only [Segment.swap, List.length_append] at hBefore
    rcases mem_spans_append.mp hThere with hHere | ⟨_, hLater, rfl⟩
    · exact Or.inl hHere
    · rcases mem_spans_cons.mp hLater with ⟨rfl, _⟩ | ⟨position, _, rfl⟩ <;> omega

/-- Matches that give way to what does not overlap the text leave it as matches only. -/
theorem OnlySpans.swap (nonempty : ∀ segment ∈ segments, segment.found ≠ [])
    (only : OnlySpans value (before ++ segments) tail)
    (apart : ∀ segment ∈ segments,
      insert segment.found = segment.found ∨ ¬ Overlaps (insert segment.found) value) :
    OnlySpans value (before ++ segments.map (Segment.swap insert)) tail := by
  induction segments generalizing before with
  | nil => exact only
  | cons segment rest ih =>
      obtain ⟨hNonempty, hRest⟩ := List.forall_mem_cons.mp nonempty
      obtain ⟨hApart, hLater⟩ := List.forall_mem_cons.mp apart
      have hOne : OnlySpans value (before ++ segment.swap insert :: rest) tail := by
        rcases hApart with same | hApart
        · have hSame : segment.swap insert = segment := by rw [Segment.swap, same]
          rwa [hSame]
        · exact only.swap_one hNonempty hApart
      rw [List.append_cons] at hOne
      rw [List.map_cons, List.append_cons]
      exact ih hRest hOne hLater

/-- A replacement of matches equal to the value; all others stay. -/
def matchedBy (value token found : List Char) : List Char :=
  if found = value then token else found

/-- A text that occurs only where it is a match is replaced there and nowhere else. The segments
before are behind, and none of them is a match of it. -/
theorem replaceAll_cover (nonempty : value ≠ []) (only : OnlySpans value (before ++ segments) tail)
    (passed : ∀ segment ∈ before, segment.found ≠ value) :
    replaceAll value token (Segment.cover (before ++ segments) ++ tail) =
      Segment.cover (before ++ segments.map (Segment.swap (matchedBy value token))) ++ tail := by
  induction segments generalizing before with
  | nil =>
      refine replaceAll_absent fun h => ?_
      obtain ⟨start, hStart⟩ := Text.infix_iff_occursAt.mp h
      rw [List.append_nil] at only hStart
      exact not_mem_spans passed (only start hStart)
  | cons segment rest ih =>
      by_cases same : segment.found = value
      · -- This is the first occurrence; what is behind it is gone through afresh.
        have hFirst : FirstAfter value (Segment.cover before ++ segment.gap)
            (Segment.cover rest ++ tail) := by
          intro start hStart
          rw [← same, ← cover_middle, same] at hStart
          rcases mem_spans_append.mp (only start hStart) with hBefore | ⟨_, hHere, rfl⟩
          · exact absurd hBefore (not_mem_spans passed)
          · rw [List.length_append]
            rcases mem_spans_cons.mp hHere with ⟨rfl, _⟩ | ⟨position, _, rfl⟩ <;> omega
        have hBehind : OnlySpans value ([] ++ rest) tail := only.behind (same ▸ nonempty)
        have hRest := ih hBehind fun _ h => absurd h List.not_mem_nil
        rw [List.nil_append, List.nil_append] at hRest
        have hToken : (segment.swap (matchedBy value token)).found = token := if_pos same
        rw [List.map_cons, cover_middle, cover_middle, hToken, same,
          replaceAll_first nonempty hFirst, hRest]
        rfl
      · have hSwap : segment.swap (matchedBy value token) = segment := by
          rw [Segment.swap, matchedBy, if_neg same]
        have hBefore : ∀ piece ∈ before ++ [segment], piece.found ≠ value :=
          List.forall_mem_append.mpr ⟨passed, List.forall_mem_singleton.mpr same⟩
        rw [List.append_cons] at only
        rw [List.map_cons, hSwap, List.append_cons before segment rest,
          List.append_cons before segment (rest.map _)]
        exact ih only hBefore

/-- The token of the first replacement of a text, or the text itself when nothing replaces it. -/
def firstToken : List Replacement → List Char → List Char
  | [], value => value
  | step :: steps, value => if step.value = value then step.token else firstToken steps value

theorem firstToken_eq_or_mem (steps : List Replacement) (value : List Char) :
    firstToken steps value = value ∨ ∃ step ∈ steps, firstToken steps value = step.token := by
  induction steps with
  | nil => exact Or.inl rfl
  | cons step steps ih =>
      rw [firstToken]
      split
      · exact Or.inr ⟨step, List.mem_cons_self, rfl⟩
      · exact ih.imp_right fun ⟨other, hOther, hToken⟩ =>
          ⟨other, List.mem_cons_of_mem step hOther, hToken⟩

theorem firstToken_snoc {steps : List Replacement} {step : Replacement}
    (apart : ∀ other ∈ steps, other.token ≠ step.value) (value : List Char) :
    firstToken (steps ++ [step]) value =
      if firstToken steps value = step.value then step.token else firstToken steps value := by
  induction steps with
  | nil => by_cases same : step.value = value <;> simp [firstToken, same, Ne.symm]
  | cons other steps ih =>
      obtain ⟨hOther, hLater⟩ := List.forall_mem_cons.mp apart
      rw [List.cons_append, firstToken, firstToken]
      by_cases same : other.value = value
      · rw [if_pos same, if_pos same, if_neg hOther]
      · rw [if_neg same, if_neg same, ih hLater]

section Splices

variable {regex : Regex} {text : List Char} {steps : List Replacement}

/-- The text of the step is replaced where it is matched, unless an earlier step has had it: then it
does not occur any more. -/
theorem replaceAll_splice {step : Replacement} {segment : Segment}
    (literal : regex.MatchesLiterally text) (matched : segment ∈ (regex.segments text).1)
    (same : segment.found = step.value)
    (apart : ∀ other ∈ steps, ¬ Overlaps other.token step.value) :
    replaceAll step.value step.token (regex.splice (firstToken steps) text) =
      regex.splice (firstToken (steps ++ [step])) text := by
  have hOriginal : OnlySpans step.value ([] ++ (regex.segments text).1)
      (regex.segments text).2 := by
    intro start hStart
    rw [List.nil_append, cover_segments] at hStart
    exact same ▸ literal.spans segment matched start (same ▸ hStart)
  have hApart : ∀ piece ∈ (regex.segments text).1, firstToken steps piece.found = piece.found ∨
      ¬ Overlaps (firstToken steps piece.found) step.value := by
    intro piece _
    refine (firstToken_eq_or_mem steps piece.found).imp_right ?_
    rintro ⟨other, hOther, hToken⟩
    rw [hToken]
    exact apart other hOther
  have hOnly := hOriginal.swap literal.nonempty hApart
  have hTokens : ∀ other ∈ steps, other.token ≠ step.value := by
    intro other hOther hToken
    exact apart other hOther (hToken ▸ overlaps_self other.token)
  have hSwap : Segment.swap (matchedBy step.value step.token) ∘ Segment.swap (firstToken steps) =
      Segment.swap (firstToken (steps ++ [step])) := by
    funext piece
    exact congrArg (Segment.mk piece.gap) (firstToken_snoc hTokens piece.found).symm
  rw [splice, splice, ← hSwap, ← List.map_map]
  exact replaceAll_cover (same ▸ literal.nonempty segment matched) hOnly fun _ h =>
    absurd h List.not_mem_nil

/-- Replacing all matched texts one after the other comes to the same as putting into the place of
each match the token that its text was given first. -/
theorem rewrite_eq_splice (literal : regex.MatchesLiterally text)
    (values : ∀ step ∈ steps, ∃ segment ∈ (regex.segments text).1, segment.found = step.value)
    (apart : ∀ step ∈ steps, ∀ segment ∈ (regex.segments text).1,
      ¬ Overlaps step.token segment.found) :
    rewrite steps text = regex.splice (firstToken steps) text := by
  induction steps using List.reverseRecOn with
  | nil =>
      have hSame : Segment.swap (firstToken []) = id := rfl
      rw [splice, hSame, List.map_id, cover_segments]
      rfl
  | append_singleton steps step ih =>
      obtain ⟨hValues, hValue⟩ := List.forall_mem_append.mp values
      obtain ⟨hApart, _⟩ := List.forall_mem_append.mp apart
      obtain ⟨segment, matched, same⟩ := hValue step (List.mem_singleton_self step)
      rw [Text.rewrite_append, ih hValues hApart]
      exact replaceAll_splice literal matched same fun other hOther =>
        same ▸ hApart other hOther segment matched

end Splices

end Rows

end Regex

end Masking
