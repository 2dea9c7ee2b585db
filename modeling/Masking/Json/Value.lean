import Masking.Number.Shortest
import Masking.Text.Search

/-! JSON values and their compact text. Members keep the order in which they are given, and a value
has exactly one text. -/

namespace Masking

/-- A JSON value. An integer that fits 64 bits, signed or unsigned, is kept exactly; every other
number is a binary64 number. Members of an object are written in the order they have here; reading
an object puts them in the order of their names, each name once. -/
inductive Json where
  | null
  | bool (value : Bool)
  | int (value : Int)
  | float (value : Binary64)
  | str (value : String)
  | arr (items : List Json)
  | obj (members : List (String × Json))
deriving Inhabited

namespace Json

/-- The escaped form of one character of a string: quotation marks, backslashes and control
characters need one, everything else stands for itself. -/
def escapeChar (c : Char) : List Char :=
  if c = '"' then ['\\', '"']
  else if c = '\\' then ['\\', '\\']
  else if c.toNat = 8 then ['\\', 'b']
  else if c.toNat = 9 then ['\\', 't']
  else if c.toNat = 10 then ['\\', 'n']
  else if c.toNat = 12 then ['\\', 'f']
  else if c.toNat = 13 then ['\\', 'r']
  else if c.toNat < 32 then
    ['\\', 'u', '0', '0', Text.hexDigit (c.toNat / 16), Text.hexDigit (c.toNat % 16)]
  else [c]

/-- The characters of a string, each escaped where it has to be. -/
def escape : List Char → List Char
  | [] => []
  | c :: rest => escapeChar c ++ escape rest

/-- The JSON text of a string. -/
def quote (text : String) : List Char :=
  '"' :: (escape text.toList ++ ['"'])

mutual

/-- The compact JSON text of a value. -/
def render : Json → List Char
  | .null => ['n', 'u', 'l', 'l']
  | .bool true => ['t', 'r', 'u', 'e']
  | .bool false => ['f', 'a', 'l', 's', 'e']
  | .int value => Text.signedDecimal value
  | .float value => value.jsonText
  | .str value => quote value
  | .arr items => '[' :: renderItems items
  | .obj members => '\x7b' :: renderMembers members

/-- The rest of an array's text, after its opening bracket. -/
def renderItems : List Json → List Char
  | [] => [']']
  | [item] => render item ++ [']']
  | item :: next :: rest => render item ++ ',' :: renderItems (next :: rest)

/-- The rest of an object's text, after its opening brace. -/
def renderMembers : List (String × Json) → List Char
  | [] => ['\x7d']
  | [(name, value)] => quote name ++ ':' :: (render value ++ ['\x7d'])
  | (name, value) :: next :: rest =>
      quote name ++ ':' :: (render value ++ ',' :: renderMembers (next :: rest))

end

/-- The compact JSON text of a value, as a string. -/
def text (value : Json) : String :=
  String.ofList (render value)

/-- A member put in its place by name; one of the same name is replaced. -/
def insertMember (name : String) (value : Json) :
    List (String × Json) → List (String × Json)
  | [] => [(name, value)]
  | (other, old) :: rest =>
      if name = other then (name, value) :: rest
      else if Text.before name.toList other.toList then (name, value) :: (other, old) :: rest
      else (other, old) :: insertMember name value rest

/-- Members in the order of their names; the last of several members of one name is kept. -/
def sortMembers (members : List (String × Json)) : List (String × Json) :=
  members.foldl (fun sorted member => insertMember member.1 member.2 sorted) []

/-- The number of a natural number. -/
def nat (n : Nat) : Json := .int n

/-- A value that may be absent, absence being `null`. -/
def option {α : Type} (encode : α → Json) : Option α → Json
  | some value => encode value
  | none => .null

/-- The member of an object with the given name. -/
def member? (value : Json) (name : String) : Option Json :=
  match value with
  | .obj members => members.lookup name
  | _ => none

/-- The text of a string value. -/
def str? : Json → Option String
  | .str value => some value
  | _ => none

end Json

end Masking
