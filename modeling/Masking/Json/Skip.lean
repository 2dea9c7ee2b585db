import Masking.Json.Scan

/-! JSON text that is passed over. What is not wanted is checked less closely than what is read: its
strings and the size of its numbers do not matter. -/

namespace Masking.Json

/-- The rest of a text after the exponent of a number that is not wanted. -/
def skipExponent (text : List Char) : Except Fault (List Char) :=
  let text :=
    match text with
    | '+' :: rest => rest
    | '-' :: rest => rest
    | _ => text
  match text with
  | [] => .error .malformed
  | c :: rest => if Text.isDigit c then .ok (skipDigits rest) else .error .malformed

/-- The rest of a text after the exponent of a number that is not wanted, if it has one. -/
def skipFloatEnd (text : List Char) : Except Fault (List Char) :=
  match text with
  | 'e' :: rest => skipExponent rest
  | 'E' :: rest => skipExponent rest
  | _ => .ok text

/-- The rest of a text after a number that is not wanted, its sign having been passed. Only the
form of the number is looked at, never its size, and an early end is malformed. -/
def skipNumber (text : List Char) : Except Fault (List Char) :=
  let tail (text : List Char) : Except Fault (List Char) :=
    match text with
    | '.' :: c :: rest =>
        if Text.isDigit c then skipFloatEnd (skipDigits rest) else .error .malformed
    | '.' :: [] => .error .malformed
    | _ => skipFloatEnd text
  match text with
  | [] => .error .malformed
  | '0' :: c :: rest => if Text.isDigit c then .error .malformed else tail (c :: rest)
  | c :: rest => if Text.isDigit c then tail (skipDigits rest) else .error .malformed

/-- The rest of a text after a string that is not wanted, its opening quotation mark having been
passed. Escapes have to be well formed, but they may stand for half a character. -/
def skipString : Nat → List Char → Except Fault (List Char)
  | 0, _ => .error .truncated
  | _ + 1, [] => .error .truncated
  | _ + 1, '"' :: rest => .ok rest
  | _ + 1, '\\' :: [] => .error .truncated
  | fuel + 1, '\\' :: 'u' :: rest => do
      let (_, rest) ← scanHex4 rest
      skipString fuel rest
  | fuel + 1, '\\' :: c :: rest =>
      match simpleEscape c with
      | some _ => skipString fuel rest
      | none => .error .malformed
  | fuel + 1, c :: rest => if c.toNat < 32 then .error .malformed else skipString fuel rest

mutual

/-- The rest of a text after a value that is not wanted. Such values may be nested to any depth. -/
def skipValue : Nat → List Char → Except Fault (List Char)
  | 0, _ => .error .truncated
  | fuel + 1, text =>
      match skipBlanks text with
      | [] => .error .truncated
      | 'n' :: rest => scanWord ['u', 'l', 'l'] rest
      | 't' :: rest => scanWord ['r', 'u', 'e'] rest
      | 'f' :: rest => scanWord ['a', 'l', 's', 'e'] rest
      | '"' :: rest => skipString (rest.length + 1) rest
      | '-' :: rest => skipNumber rest
      | '[' :: rest =>
          match skipBlanks rest with
          | ']' :: rest => .ok rest
          | rest => skipItems fuel rest
      | '\x7b' :: rest =>
          match skipBlanks rest with
          | '\x7d' :: rest => .ok rest
          | rest => skipMembers fuel rest
      | c :: rest => if Text.isDigit c then skipNumber (c :: rest) else .error .malformed

/-- The rest of a text after the items of an array that is not wanted. -/
def skipItems : Nat → List Char → Except Fault (List Char)
  | 0, _ => .error .truncated
  | fuel + 1, text => do
      match ← scanSeparator ']' (← skipValue fuel text) with
      | (true, rest) => .ok rest
      | (false, rest) => skipItems fuel rest

/-- The rest of a text after the members of an object that is not wanted. -/
def skipMembers : Nat → List Char → Except Fault (List Char)
  | 0, _ => .error .truncated
  | fuel + 1, text =>
      match skipBlanks text with
      | [] => .error .truncated
      | '"' :: rest => do
          let rest ← scanColon (← skipString (rest.length + 1) rest)
          match ← scanSeparator '\x7d' (← skipValue fuel rest) with
          | (true, rest) => .ok rest
          | (false, rest) => skipMembers fuel rest
      | _ => .error .malformed

end

end Masking.Json
