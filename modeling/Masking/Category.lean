import Masking.Json.Reader

/-! Categories of sensitive values. A category is a tag, so that the two ways of making one, from a
pattern and from an attribute, may meet in the same tag. -/

namespace Masking

/-- The namespace of a sensitive value: the name of a detection pattern, or a tag made from the
name of an attribute. It separates store keys and selects the form of synthesized tokens. -/
structure Category where
  tag : String
deriving DecidableEq, Inhabited

namespace Category

/-- What the tag of an attribute's category begins with. -/
def attributeMarker : String := "attribute_"

/-- The category of a detection pattern: its name. -/
def ofPattern (name : String) : Category := ⟨name⟩

/-- The category of an attribute. -/
def ofField (field : String) : Category := ⟨attributeMarker ++ field⟩

theorem ofField_eq (field : String) : ofField field = ⟨"attribute_" ++ field⟩ := rfl

/-- The attribute name in an attribute's category. The bare marker names no attribute. -/
def fieldName (category : Category) : Option String :=
  match Text.stripLead attributeMarker.toList category.tag.toList with
  | some (c :: rest) => some (String.ofList (c :: rest))
  | _ => none

/-- Whether the category belongs to an attribute. -/
def isAttribute (category : Category) : Bool :=
  category.fieldName.isSome

/-- Reads a category: the text of its tag. -/
def read : Json.Reader Category := fun depth text => do
  let (tag, rest) ← Json.readString depth text
  .ok (⟨tag⟩, rest)

/-- The JSON value of a category. -/
def toJson (category : Category) : Json := .str category.tag

end Category

end Masking
