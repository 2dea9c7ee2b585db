import Masking.Store.Key
import Masking.Text.Search

/-! What the text of a key tells. The two directions never share a text, and a text names its
category and value when no colon stands in the category. Two categories share a text only when one
goes on from the other with a colon. -/

namespace Masking

theorem Text.cutAt_append {separator : Char} (before after : List Char)
    (h : separator ∉ before) :
    Text.cutAt separator (before ++ separator :: after) = (before, some after) := by
  induction before with
  | nil => simp [Text.cutAt]
  | cons c rest ih =>
      have hc : ¬ c = separator := fun same => h (by simp [same])
      have hRest : separator ∉ rest := fun member => h (List.mem_cons_of_mem c member)
      simp [Text.cutAt, hc, ih hRest]

namespace Category

/-- No colon stands in the tag of the category. -/
def Plain (category : Category) : Prop := ':' ∉ category.tag.toList

instance (category : Category) : Decidable category.Plain :=
  inferInstanceAs (Decidable (¬ _))

/-- The tag goes on from that of the other category with a colon. -/
def Extends (category shorter : Category) : Prop :=
  ∃ rest, category.tag = shorter.tag ++ ":" ++ rest

/-- Neither tag goes on from the other with a colon. -/
def Apart (first second : Category) : Prop := ¬ first.Extends second ∧ ¬ second.Extends first

theorem Plain.not_extends {category : Category} (plain : category.Plain) (shorter : Category) :
    ¬ category.Extends shorter := by
  rintro ⟨rest, hTag⟩
  apply plain
  rw [hTag]
  simp

theorem Plain.apart {first second : Category} (hFirst : first.Plain) (hSecond : second.Plain) :
    first.Apart second :=
  ⟨hFirst.not_extends second, hSecond.not_extends first⟩

theorem plain_ofField {field : String} (h : ':' ∉ field.toList) : (ofField field).Plain := by
  simp only [Plain, ofField, String.toList_append, List.mem_append, not_or]
  exact ⟨by decide, h⟩

end Category

namespace Store.Key

theorem ofValue_toList (category : Category) (value : String) :
    (ofValue category value).text.toList =
      "mask:".toList ++ (category.tag.toList ++ ':' :: value.toList) := by
  simp [ofValue, text]

theorem ofMasked_toList (category : Category) (masked : String) :
    (ofMasked category masked).text.toList =
      "unmask:".toList ++ (category.tag.toList ++ ':' :: masked.toList) := by
  simp [ofMasked, text]

/-- An entry of one direction is never stored under the key of the other, whatever colons there
are. -/
theorem ofValue_ne_ofMasked (category other : Category) (value masked : String) :
    (ofValue category value).text ≠ (ofMasked other masked).text := by
  intro same
  have h := congrArg String.toList same
  rw [ofValue_toList, ofMasked_toList] at h
  simp at h

/-- The tag and the rest are read off the text when the tag has no colon. -/
private theorem split_inj {tag other : String} {value last : String}
    (hTag : ':' ∉ tag.toList) (hOther : ':' ∉ other.toList)
    (h : tag.toList ++ ':' :: value.toList = other.toList ++ ':' :: last.toList) :
    tag = other ∧ value = last := by
  have hCut := congrArg (Text.cutAt ':') h
  rw [Text.cutAt_append _ _ hTag, Text.cutAt_append _ _ hOther] at hCut
  obtain ⟨hSame, hRest⟩ := Prod.mk.inj hCut
  exact ⟨String.toList_inj.mp hSame, String.toList_inj.mp (Option.some.inj hRest)⟩

theorem ofValue_inj {category other : Category} {value last : String}
    (hCategory : category.Plain) (hOther : other.Plain)
    (h : (ofValue category value).text = (ofValue other last).text) :
    category = other ∧ value = last := by
  have hText := congrArg String.toList h
  rw [ofValue_toList, ofValue_toList] at hText
  obtain ⟨hTag, hValue⟩ := split_inj hCategory hOther (List.append_cancel_left hText)
  exact ⟨by cases category; cases other; exact congrArg Category.mk hTag, hValue⟩

theorem ofMasked_inj {category other : Category} {masked last : String}
    (hCategory : category.Plain) (hOther : other.Plain)
    (h : (ofMasked category masked).text = (ofMasked other last).text) :
    category = other ∧ masked = last := by
  have hText := congrArg String.toList h
  rw [ofMasked_toList, ofMasked_toList] at hText
  obtain ⟨hTag, hValue⟩ := split_inj hCategory hOther (List.append_cancel_left hText)
  exact ⟨by cases category; cases other; exact congrArg Category.mk hTag, hValue⟩

/-- Categories that are not apart may share a text after the direction, and no others do. -/
private theorem category_of_split {first second : Category} {value last : String}
    (apart : first.Apart second)
    (h : first.tag.toList ++ ':' :: value.toList = second.tag.toList ++ ':' :: last.toList) :
    first = second := by
  have hTag : first.tag = second.tag → first = second := by
    intro same
    cases first
    cases second
    exact congrArg Category.mk same
  -- One tag is a prefix of the other, and what comes next in the longer one is the colon.
  rcases List.append_eq_append_iff.mp h with ⟨part, hSecond, hRest⟩ | ⟨part, hFirst, hRest⟩
  · cases part with
    | nil => exact hTag (String.toList_inj.mp (by simpa using hSecond.symm))
    | cons c rest =>
        obtain ⟨rfl, _⟩ := List.cons.inj hRest
        refine absurd ⟨String.ofList rest, ?_⟩ apart.2
        exact String.toList_inj.mp (by simp [hSecond])
  · cases part with
    | nil => exact hTag (String.toList_inj.mp (by simpa using hFirst))
    | cons c rest =>
        obtain ⟨rfl, _⟩ := List.cons.inj hRest
        refine absurd ⟨String.ofList rest, ?_⟩ apart.1
        exact String.toList_inj.mp (by simp [hFirst])

theorem ofValue_ne {first second : Category} (different : first ≠ second)
    (apart : first.Apart second) (value last : String) :
    (ofValue first value).text ≠ (ofValue second last).text := by
  intro same
  have hText := congrArg String.toList same
  rw [ofValue_toList, ofValue_toList] at hText
  exact different (category_of_split apart (List.append_cancel_left hText))

theorem ofMasked_ne {first second : Category} (different : first ≠ second)
    (apart : first.Apart second) (masked last : String) :
    (ofMasked first masked).text ≠ (ofMasked second last).text := by
  intro same
  have hText := congrArg String.toList same
  rw [ofMasked_toList, ofMasked_toList] at hText
  exact different (category_of_split apart (List.append_cancel_left hText))

/-- A token of the longer category is stored where a longer token of the shorter one would be. -/
theorem ofMasked_extends {category shorter : Category} {rest : String}
    (h : category.tag = shorter.tag ++ ":" ++ rest) (masked : String) :
    (ofMasked category masked).text = (ofMasked shorter (rest ++ ":" ++ masked)).text := by
  simp only [ofMasked, text, h, String.append_assoc]

end Store.Key

end Masking
