import Masking.Json.Skip

/-! Readers for JSON text of a known shape. A reader takes a value from the front of a text and
stops at the first fault; readers for structures are put together from readers for their fields. -/

namespace Masking.Json

/-- Reads a value of some type from the front of a text. The number counts the containers that may
still be opened. -/
abbrev Reader (α : Type) := Nat → List Char → Except Fault (α × List Char)

/-- Fuel that is enough for every loop over a text: each step opens a container, or uses up at
least one character. -/
def fuelFor (text : List Char) : Nat :=
  2 * text.length + 2

/-- Why a value that is not of the wanted type is refused. A scalar is read to its end first, so
that a fault in its own text is what counts. -/
def wrongType (text : List Char) : Fault :=
  let after {α : Type} (scan : Except Fault α) : Fault :=
    match scan with
    | .ok _ => .mismatch
    | .error fault => fault
  match text with
  | [] => .truncated
  | 'n' :: rest => after (scanWord ['u', 'l', 'l'] rest)
  | 't' :: rest => after (scanWord ['r', 'u', 'e'] rest)
  | 'f' :: rest => after (scanWord ['a', 'l', 's', 'e'] rest)
  | '"' :: rest => after (scanString rest)
  | '[' :: _ => .mismatch
  | '\x7b' :: _ => .mismatch
  | c :: rest => if startsNumber c then after (scanNumber (c :: rest)) else .malformed

/-- Reads a value of any type. -/
def readValue : Reader Json :=
  fun depth text => scanValue (fuelFor text) depth text

/-- Reads a string. -/
def readString : Reader String :=
  fun _ text =>
    match skipBlanks text with
    | '"' :: rest => scanString rest
    | rest => .error (wrongType rest)

/-- Reads a truth value. -/
def readBool : Reader Bool :=
  fun _ text =>
    match skipBlanks text with
    | 't' :: rest => do .ok (true, ← scanWord ['r', 'u', 'e'] rest)
    | 'f' :: rest => do .ok (false, ← scanWord ['a', 'l', 's', 'e'] rest)
    | rest => .error (wrongType rest)

/-- Reads a number that is an integer. -/
def readInteger : Reader Int :=
  fun _ text =>
    match skipBlanks text with
    | [] => .error .truncated
    | c :: rest =>
        if startsNumber c then do
          match ← scanNumber (c :: rest) with
          | (.natural n, rest) => .ok ((n : Int), rest)
          | (.negative n, rest) => .ok (n, rest)
          | (.float _, _) => .error .mismatch
        else .error (wrongType (c :: rest))

/-- Reads an unsigned integer up to a bound. -/
def readUnsigned (bound : Nat) : Reader Nat :=
  fun depth text => do
    let (n, rest) ← readInteger depth text
    if n < 0 ∨ (bound : Int) < n then .error .mismatch else .ok (n.natAbs, rest)

/-- Reads a signed integer of 64 bits. -/
def readSigned : Reader Int :=
  fun depth text => do
    let (n, rest) ← readInteger depth text
    if (maxSigned : Int) < n then .error .mismatch else .ok (n, rest)

/-- Reads a value that may be `null`. -/
def readOption {α : Type} (read : Reader α) : Reader (Option α) :=
  fun depth text =>
    match skipBlanks text with
    | 'n' :: rest => do .ok (none, ← scanWord ['u', 'l', 'l'] rest)
    | rest => do
        let (value, rest) ← read depth rest
        .ok (some value, rest)

/-- The items of an array that is not empty, after its opening bracket. -/
def readItems {α : Type} (read : Reader α) (depth : Nat) :
    Nat → List Char → Except Fault (List α × List Char)
  | 0, _ => .error .truncated
  | fuel + 1, text => do
      let (item, rest) ← read depth text
      match ← scanSeparator ']' rest with
      | (true, rest) => .ok ([item], rest)
      | (false, rest) =>
          let (items, rest) ← readItems read depth fuel rest
          .ok (item :: items, rest)

/-- Reads an array of values of one type. -/
def readList {α : Type} (read : Reader α) : Reader (List α) :=
  fun depth text =>
    match skipBlanks text with
    | '[' :: rest =>
        match depth with
        | 0 => .error .malformed
        | depth + 1 =>
            match skipBlanks rest with
            | [] => .error .truncated
            | ']' :: rest => .ok ([], rest)
            | rest => readItems read depth (fuelFor rest) rest
    | rest => .error (wrongType rest)

/-- The members of an object that is not empty, as they are written, after its opening brace. -/
def readMembers {α : Type} (read : Reader α) (depth : Nat) :
    Nat → List Char → Except Fault (List (String × α) × List Char)
  | 0, _ => .error .truncated
  | fuel + 1, text => do
      let (name, rest) ← scanName text
      let (value, rest) ← read depth (← scanColon rest)
      match ← scanSeparator '\x7d' rest with
      | (true, rest) => .ok ([(name, value)], rest)
      | (false, rest) =>
          let (members, rest) ← readMembers read depth fuel rest
          .ok ((name, value) :: members, rest)

/-- Reads an object whose values are of one type: its members as they are written. -/
def readMap {α : Type} (read : Reader α) : Reader (List (String × α)) :=
  fun depth text =>
    match skipBlanks text with
    | '\x7b' :: rest =>
        match depth with
        | 0 => .error .malformed
        | depth + 1 =>
            match skipBlanks rest with
            | [] => .error .truncated
            | '\x7d' :: rest => .ok ([], rest)
            | rest => readMembers read depth (fuelFor rest) rest
    | rest => .error (wrongType rest)

/-- A named field of a structure under construction. -/
structure Field (β : Type) where
  name : String
  /-- Whether the field has been read. -/
  isSet : β → Bool
  /-- Reads the field's value into the structure. -/
  read : β → Reader β

/-- The field called `name` of a structure that keeps the value, once read, as an option. -/
def field {α β : Type} (name : String) (get : β → Option α) (set : β → α → β) (read : Reader α) :
    Field β where
  name := name
  isSet built := (get built).isSome
  read built depth text := do
    let (value, rest) ← read depth text
    .ok (set built value, rest)

/-- The members of a structure written as an object that is not empty. A known name that comes
again is refused before its value is looked at; unknown names are passed over. -/
def readFields {β : Type} (fields : List (Field β)) (depth : Nat) :
    Nat → β → List Char → Except Fault (β × List Char)
  | 0, _, _ => .error .truncated
  | fuel + 1, built, text => do
      let (name, rest) ← scanName text
      let (built, rest) ←
        match fields.find? fun field => field.name = name with
        | some field =>
            if field.isSet built then .error .mismatch
            else do field.read built depth (← scanColon rest)
        | none => do
            let rest ← scanColon rest
            .ok (built, ← skipValue (fuelFor rest) rest)
      match ← scanSeparator '\x7d' rest with
      | (true, rest) => .ok (built, rest)
      | (false, rest) => readFields fields depth fuel built rest

/-- The items of a structure written as an array of its fields in order. The array may stop early;
items after the last field are malformed text. -/
def readOrdered {β : Type} (depth : Nat) :
    List (Field β) → β → List Char → Except Fault ((β × Bool) × List Char)
  | [], built, text => .ok ((built, false), text)
  | field :: fields, built, text => do
      let (built, rest) ← field.read built depth text
      match fields with
      | [] => .ok ((built, false), rest)
      | _ :: _ =>
          match ← scanSeparator ']' rest with
          | (true, rest) => .ok ((built, true), rest)
          | (false, rest) => readOrdered depth fields built rest

/-- The closing bracket of a structure written as an array. -/
def scanOrderedEnd (text : List Char) : Except Fault (List Char) :=
  match skipBlanks text with
  | [] => .error .truncated
  | ']' :: rest => .ok rest
  | _ => .error .malformed

/-- Reads a structure, written as an object or as the array of its fields. `finish` gives `none`
when a field that is required is missing. -/
def readStructure {α β : Type} (fields : List (Field β)) (empty : β) (finish : β → Option α) :
    Reader α :=
  let complete (built : β) : Except Fault α :=
    match finish built with
    | some value => .ok value
    | none => .error .mismatch
  fun depth text =>
    match skipBlanks text with
    | '\x7b' :: rest =>
        match depth with
        | 0 => .error .malformed
        | depth + 1 =>
            match skipBlanks rest with
            | [] => .error .truncated
            | '\x7d' :: rest => do .ok (← complete empty, rest)
            | rest => do
                let (built, rest) ← readFields fields depth (fuelFor rest) empty rest
                .ok (← complete built, rest)
    | '[' :: rest =>
        match depth with
        | 0 => .error .malformed
        | depth + 1 =>
            match skipBlanks rest with
            | [] => .error .truncated
            | ']' :: rest => do .ok (← complete empty, rest)
            | rest => do
                let ((built, closed), rest) ← readOrdered depth fields empty rest
                let value ← complete built
                if closed then .ok (value, rest) else .ok (value, ← scanOrderedEnd rest)
    | rest => .error (wrongType rest)

/-- Reads a whole text; only blank characters may follow the value. -/
def readAll {α : Type} (read : Reader α) (text : List Char) : Except Fault α := do
  let (value, rest) ← read maxDepth text
  if (skipBlanks rest).isEmpty then .ok value else .error .malformed

/-- The value that a text denotes. -/
def parse (text : String) : Except Fault Json :=
  readAll readValue text.toList

end Masking.Json
