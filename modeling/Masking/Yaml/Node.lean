/-! Nodes of YAML documents. What a scalar means depends on who reads it, so nodes keep its tag, its
style and its text. -/

namespace Masking.Yaml

/-- How a scalar is written. -/
inductive Style where
  | plain
  /-- Between quotation marks of either kind. -/
  | quoted
  /-- A block whose line breaks are kept. -/
  | literal
  /-- A block whose line breaks are folded. -/
  | folded
deriving DecidableEq, Inhabited

/-- A node of a document, with its tag if it has one. What a plain scalar means is left to the
reader. -/
inductive Node where
  | scalar (tag : Option String) (style : Style) (text : String)
  | sequence (tag : Option String) (items : List Node)
  | mapping (tag : Option String) (members : List (Node × Node))
deriving Inhabited

namespace Node

/-- The node that stands where nothing is written. -/
def empty : Node := .scalar none .plain ""

/-- The node with a tag; without a new tag it keeps the one it has. -/
def withTag (tag : Option String) (node : Node) : Node :=
  match tag, node with
  | none, node => node
  | some tag, .scalar _ style text => .scalar (some tag) style text
  | some tag, .sequence _ items => .sequence (some tag) items
  | some tag, .mapping _ members => .mapping (some tag) members

/-- The text of a scalar. -/
def text? : Node → Option String
  | .scalar _ _ text => some text
  | _ => none

end Node

/-- What the tags of the core types begin with. -/
def coreTag : String := "tag:yaml.org,2002:"

end Masking.Yaml
