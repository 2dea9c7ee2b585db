import Masking.Settings.Raw
import Masking.Yaml.Parse

/-! A YAML file as a source of settings. -/

namespace Masking.Raw

open Yaml (Node)

/-- What a plain scalar without a tag means. -/
def ofPlain (text : List Char) : Raw :=
  let word := String.ofList text
  let number : Option Int :=
    match text with
    | '0' :: 'x' :: digits => Text.readSigned64 16 digits
    | '0' :: 'o' :: digits => Text.readSigned64 8 digits
    | '+' :: digits => Text.readSigned64 10 digits
    | _ => none
  match number with
  | some n => .int n
  | none =>
      if word = "" ∨ word = "~" ∨ word = "null" then .nothing
      else if word = "true" then .bool true
      else if word = "false" then .bool false
      else
        match Text.readSigned64 10 text with
        | some n => .int n
        | none =>
            match if text.any Text.isDigit then Binary64.read? text else none with
            | some number => .float number
            | none => .text word

/-- The words that YAML has for what is no finite number. They have no value here. -/
def infiniteWords : List String :=
  [".inf", ".Inf", ".INF", "+.inf", "+.Inf", "+.INF", "-.inf", "-.Inf", "-.INF", ".nan", ".NaN",
   ".NAN"]

/-- What a plain scalar of a core type means. One that does not fit its type means nothing. -/
def ofTagged (type text : String) : Raw :=
  if type = "bool" then
    if text = "true" then .bool true else if text = "false" then .bool false else .nothing
  else if type = "int" then
    match Text.readSigned64 10 text.toList with
    | some n => .int n
    | none => .nothing
  else if type = "float" then
    match if text.toList.any Text.isDigit then Binary64.read? text.toList else none with
    | some number => .float number
    | none => .nothing
  else if type = "null" then .nothing
  else .text text

/-- What a scalar means, if it has a value. -/
def ofScalar (tag : Option String) (style : Yaml.Style) (text : String) : Option Raw :=
  if style = .plain then
    match tag with
    | none => if infiniteWords.contains text then none else some (ofPlain text.toList)
    | some tag =>
        match Text.stripLead Yaml.coreTag.toList tag.toList with
        | some type =>
            if type = "float".toList ∧ infiniteWords.contains text then none
            else some (ofTagged (String.ofList type) text)
        | none => some (.text text)
  else some (.text text)

/-- What a key means, and its text. Keys are equal when they mean the same. -/
def keyOf : Node → Option (String × String)
  | .scalar tag style written => do
      match ← ofScalar tag style written with
      | .text value => some ("text", value)
      | .int n => some ("int", String.ofList (Text.signedDecimal n))
      | .bool value => some ("bool", if value then "true" else "false")
      | .float _ => some ("float", written)
      | _ => none
  | _ => none

mutual

/-- What a node means. -/
def ofNode : Node → Option Raw
  | .scalar tag style written => ofScalar tag style written
  | .sequence _ items => do some (.list (← ofNodes items))
  | .mapping _ members => do
      let members ← ofMembers members
      if (members.map Prod.fst).eraseDups.length < members.length then none
      else
        some (.table (members.foldl
          (fun table (key, value) => update key.2 (fun _ => value) table) []))

/-- What some nodes mean. -/
def ofNodes : List Node → Option (List Raw)
  | [] => some []
  | node :: rest => do some ((← ofNode node) :: (← ofNodes rest))

/-- What the members of a mapping mean. -/
def ofMembers : List (Node × Node) → Option (List ((String × String) × Raw))
  | [] => some []
  | (key, value) :: rest => do
      some ((← keyOf key, ← ofNode value) :: (← ofMembers rest))

end

/-- The members that a settings file has. There may be no more than one document, which has to be a
mapping. -/
def ofFile (text : String) : Option (List (String × Raw)) :=
  match Yaml.parse text with
  | some [] => some []
  | some [document] =>
      match ofNode document with
      | some (.table members) => some members
      | _ => none
  | _ => none

end Masking.Raw
