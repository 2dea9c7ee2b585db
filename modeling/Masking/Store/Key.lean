import Masking.Category

/-! Keys of the two entries that a token store keeps for each value. -/

namespace Masking.Store

/-- The key of an entry of the mapping between values and tokens. Nothing in it is normalised or
escaped. -/
inductive Key where
  /-- The entry that holds the token of a value. -/
  | forward (category value : String)
  /-- The entry that holds the value behind a token. -/
  | reverse (category masked : String)
deriving DecidableEq, Inhabited

namespace Key

/-- The key under which the token of a value is stored. -/
def ofValue (category : Category) (value : String) : Key :=
  .forward category.tag value

/-- The key under which the value behind a token is stored. -/
def ofMasked (category : Category) (masked : String) : Key :=
  .reverse category.tag masked

/-- The category part of a key. -/
def category : Key → String
  | .forward category _ => category
  | .reverse category _ => category

/-- The text that stands for a key in the store. -/
def text : Key → String
  | .forward category value => "mask:" ++ category ++ ":" ++ value
  | .reverse category masked => "unmask:" ++ category ++ ":" ++ masked

end Key

end Masking.Store
