import Masking.Json.Value

/-! The tokens of JSON text, and values of any shape. Numbers are read as integers where they fit 64
bits and otherwise as binary64 numbers, with the rounding that `floatOfParts` describes. -/

namespace Masking.Json

/-- Why a text is not the JSON text of a value of the wanted type: it is not well formed, it is
well formed so far but of another shape, or it ended too early. Reading stops at the first of these
that is met. -/
inductive Fault where
  | malformed
  | mismatch
  | truncated
deriving DecidableEq, Inhabited

/-- Whether a character may stand between the tokens of a JSON text. -/
def isBlank (c : Char) : Bool :=
  c = ' ' || c = '\n' || c = '\t' || c = '\r'

/-- The text without the blank characters at its front. -/
def skipBlanks : List Char → List Char
  | [] => []
  | c :: rest => if isBlank c then skipBlanks rest else c :: rest

/-- The rest of a text that has to go on with the given characters. -/
def scanWord : (wanted text : List Char) → Except Fault (List Char)
  | [], text => .ok text
  | _ :: _, [] => .error .truncated
  | c :: wanted, d :: text => if c = d then scanWord wanted text else .error .malformed

/-- The number of bytes that UTF-8 needs for a text, counted up to a limit. -/
def hasBytes : Nat → List Char → Bool
  | 0, _ => true
  | _ + 1, [] => false
  | wanted + 1, c :: rest => hasBytes (wanted + 1 - c.utf8Size) rest

/-- Four hexadecimal digits. Fewer than four bytes left are an early end, whatever they are. -/
def scanHex4 (text : List Char) : Except Fault (Nat × List Char) :=
  if hasBytes 4 text then
    match text with
    | a :: b :: c :: d :: rest =>
        match Text.readInBase 16 [a, b, c, d] with
        | some value => .ok (value, rest)
        | none => .error .malformed
    | _ => .error .malformed
  else .error .truncated

/-- Whether a number is the first half of a surrogate pair. -/
def isLeading (n : Nat) : Bool := 0xD800 ≤ n && n ≤ 0xDBFF

/-- Whether a number is the second half of a surrogate pair. -/
def isTrailing (n : Nat) : Bool := 0xDC00 ≤ n && n ≤ 0xDFFF

/-- The second half of a surrogate pair, escape included. -/
def scanTrailing (text : List Char) : Except Fault (Nat × List Char) :=
  match text with
  | [] => .error .truncated
  | '\\' :: [] => .error .truncated
  | '\\' :: 'u' :: rest => do
      let (n, rest) ← scanHex4 rest
      if isTrailing n then .ok (n, rest) else .error .malformed
  | _ => .error .malformed

/-- The character of a `\u` escape, whose letter has been read; two escapes may make one
character. -/
def scanUnicode (text : List Char) : Except Fault (Char × List Char) := do
  let (n, rest) ← scanHex4 text
  if isTrailing n then .error .malformed
  else if isLeading n then
    let (m, rest) ← scanTrailing rest
    .ok (Char.ofNat (0x10000 + (n - 0xD800) * 0x400 + (m - 0xDC00)), rest)
  else .ok (Char.ofNat n, rest)

/-- The character that a letter stands for after a backslash. -/
def simpleEscape (c : Char) : Option Char :=
  if c = '"' then some '"'
  else if c = '\\' then some '\\'
  else if c = '/' then some '/'
  else if c = 'b' then some (Char.ofNat 8)
  else if c = 'f' then some (Char.ofNat 12)
  else if c = 'n' then some '\n'
  else if c = 'r' then some '\r'
  else if c = 't' then some '\t'
  else none

/-- One piece of a string after its opening quotation mark: a character, or `none` for the closing
mark. -/
def scanStringStep : List Char → Except Fault (Option Char × List Char)
  | [] => .error .truncated
  | '"' :: rest => .ok (none, rest)
  | '\\' :: [] => .error .truncated
  | '\\' :: 'u' :: rest => do
      let (c, rest) ← scanUnicode rest
      .ok (some c, rest)
  | '\\' :: c :: rest =>
      match simpleEscape c with
      | some c => .ok (some c, rest)
      | none => .error .malformed
  | c :: rest => if c.toNat < 32 then .error .malformed else .ok (some c, rest)

/-- The characters of a string after its opening quotation mark. Every step uses up at least one
character, so the length of the text is enough fuel. -/
def scanChars : Nat → List Char → Except Fault (List Char × List Char)
  | 0, _ => .error .truncated
  | fuel + 1, text => do
      match ← scanStringStep text with
      | (none, rest) => .ok ([], rest)
      | (some c, rest) =>
          let (chars, rest) ← scanChars fuel rest
          .ok (c :: chars, rest)

/-- A string after its opening quotation mark. -/
def scanString (text : List Char) : Except Fault (String × List Char) := do
  let (chars, rest) ← scanChars (text.length + 1) text
  .ok (String.ofList chars, rest)

/-- A number as it is read: an integer of at most 64 bits, or a binary64 number. -/
inductive Number where
  | natural (value : Nat)
  | negative (value : Int)
  | float (value : Binary64)
deriving DecidableEq, Inhabited

/-- The value of a number. -/
def Number.toJson : Number → Json
  | .natural value => .int value
  | .negative value => .int value
  | .float value => .float value

/-- The largest unsigned integer of 64 bits. -/
def maxUnsigned : Nat := 18446744073709551615

/-- The largest signed integer of 64 bits. -/
def maxSigned : Nat := 9223372036854775807

/-- The text after the decimal digits at its front. -/
def skipDigits : List Char → List Char
  | [] => []
  | c :: rest => if Text.isDigit c then skipDigits rest else c :: rest

/-- `10 ^ n` as a binary64 number. -/
def powerOfTen (n : Nat) : Binary64 :=
  Binary64.ofDecimal false 1 n

/-- A number brought down in steps of `10 ^ 308` until its exponent is in the table of powers. The
number is zero before the fuel runs out. -/
def scaleDown : Nat → Binary64 → Nat → Binary64
  | 0, value, _ => value
  | fuel + 1, value, exponent =>
      if exponent ≤ 308 then value.div (powerOfTen exponent)
      else if value.isZero then value
      else scaleDown fuel (value.div (powerOfTen 308)) (exponent - 308)

/-- The binary64 number of a significand and a decimal exponent: one rounding for the significand,
one for the power of ten, and one for their product or quotient. A number too large is an error. -/
def floatOfParts (isNegative : Bool) (significand : Nat) (exponent : Int) :
    Except Fault Binary64 :=
  let value := Binary64.ofNat significand
  let signed (v : Binary64) := if isNegative then v.neg else v
  if 0 ≤ exponent then
    if exponent ≤ 308 then
      let product := value.mul (powerOfTen exponent.natAbs)
      if product.isInfinite then .error .malformed else .ok (signed product)
    else if value.isZero then .ok (signed value)
    else .error .malformed
  else .ok (signed (scaleDown 20 value exponent.natAbs))

/-- The digits of an exponent, read onto its first digits; `none` when they exceed 31 bits. -/
def scanExponentDigits : Nat → List Char → Option Nat × List Char
  | value, [] => (some value, [])
  | value, c :: rest =>
      match Text.digitValue c with
      | some d =>
          if 2147483647 < value * 10 + d then (none, rest)
          else scanExponentDigits (value * 10 + d) rest
      | none => (some value, c :: rest)

/-- An exponent kept within 32 signed bits. -/
def clampExponent (exponent : Int) : Int :=
  if exponent < -2147483648 then -2147483648
  else if 2147483647 < exponent then 2147483647
  else exponent

/-- A number from its exponent on, after the letter `e`. -/
def scanExponent (isNegative : Bool) (significand : Nat) (start : Int) (text : List Char) :
    Except Fault (Binary64 × List Char) :=
  let (down, text) :=
    match text with
    | '+' :: rest => (false, rest)
    | '-' :: rest => (true, rest)
    | _ => (false, text)
  match text with
  | [] => .error .truncated
  | c :: rest =>
      match Text.digitValue c with
      | none => .error .malformed
      | some d =>
          match scanExponentDigits d rest with
          | (some exponent, rest) => do
              let shifted := if down then start - exponent else start + exponent
              let value ← floatOfParts isNegative significand (clampExponent shifted)
              .ok (value, rest)
          | (none, rest) =>
              if significand ≠ 0 ∧ ¬ down then .error .malformed
              else .ok (Binary64.zero isNegative, skipDigits rest)

/-- A number whose digits have all been read, up to its exponent if it has one. -/
def scanFloatEnd (isNegative : Bool) (significand : Nat) (exponent : Int) (text : List Char) :
    Except Fault (Binary64 × List Char) :=
  match text with
  | 'e' :: rest => scanExponent isNegative significand exponent rest
  | 'E' :: rest => scanExponent isNegative significand exponent rest
  | _ => do
      let value ← floatOfParts isNegative significand exponent
      .ok (value, text)

/-- The digits of a fraction, read onto a significand as long as it fits 64 bits; further digits
are dropped. The result tells the significand, the number of digits taken, and whether some were
dropped. -/
def scanFraction : Nat → Nat → List Char → (Nat × Nat × Bool) × List Char
  | significand, taken, [] => ((significand, taken, false), [])
  | significand, taken, c :: rest =>
      match Text.digitValue c with
      | some d =>
          if maxUnsigned < significand * 10 + d then
            ((significand, taken, true), skipDigits (c :: rest))
          else scanFraction (significand * 10 + d) (taken + 1) rest
      | none => ((significand, taken, false), c :: rest)

/-- A number from its fraction on, after the point. -/
def scanDecimal (isNegative : Bool) (significand : Nat) (start : Int) (text : List Char) :
    Except Fault (Binary64 × List Char) :=
  let ((significand, taken, dropped), rest) := scanFraction significand 0 text
  if taken = 0 ∧ ¬ dropped then
    if rest.isEmpty then .error .truncated else .error .malformed
  else scanFloatEnd isNegative significand (start - taken) rest

/-- The digits of an integer, read onto a significand as long as it fits 64 bits; further digits
are only counted. -/
def scanIntegerDigits : Nat → List Char → (Nat × Nat) × List Char
  | significand, [] => ((significand, 0), [])
  | significand, c :: rest =>
      match Text.digitValue c with
      | some d =>
          if maxUnsigned < significand * 10 + d then
            let after := skipDigits rest
            ((significand, rest.length - after.length + 1), after)
          else scanIntegerDigits (significand * 10 + d) rest
      | none => ((significand, 0), c :: rest)

/-- A number whose integer part has been read. -/
def scanNumberEnd (isNegative : Bool) (significand : Nat) (dropped : Nat) (text : List Char) :
    Except Fault (Number × List Char) :=
  let float (scan : Except Fault (Binary64 × List Char)) : Except Fault (Number × List Char) := do
    let (value, rest) ← scan
    .ok (.float value, rest)
  match text with
  | '.' :: rest => float (scanDecimal isNegative significand dropped rest)
  | 'e' :: rest => float (scanExponent isNegative significand dropped rest)
  | 'E' :: rest => float (scanExponent isNegative significand dropped rest)
  | _ =>
      if dropped ≠ 0 then float (scanFloatEnd isNegative significand dropped text)
      else if ¬ isNegative then .ok (.natural significand, text)
      else if significand = 0 ∨ maxSigned + 1 < significand then
        .ok (.float (Binary64.ofNat significand).neg, text)
      else .ok (.negative (-(significand : Int)), text)

/-- A number after its sign. -/
def scanUnsigned (isNegative : Bool) (text : List Char) : Except Fault (Number × List Char) :=
  match text with
  | [] => .error .truncated
  | '0' :: rest =>
      match rest with
      | c :: _ =>
          if Text.isDigit c then .error .malformed else scanNumberEnd isNegative 0 0 rest
      | [] => scanNumberEnd isNegative 0 0 []
  | c :: rest =>
      if Text.isDigit c then
        let ((significand, dropped), rest) := scanIntegerDigits 0 (c :: rest)
        scanNumberEnd isNegative significand dropped rest
      else .error .malformed

/-- A number. -/
def scanNumber (text : List Char) : Except Fault (Number × List Char) :=
  match text with
  | '-' :: rest => scanUnsigned true rest
  | _ => scanUnsigned false text

/-- Whether a character can begin a number. -/
def startsNumber (c : Char) : Bool :=
  c = '-' || Text.isDigit c

/-- The separator after an item of a container: `true` when the container is closed, `false` when
another item has to follow, whose first character is then at the front. -/
def scanSeparator (close : Char) (text : List Char) : Except Fault (Bool × List Char) :=
  match skipBlanks text with
  | [] => .error .truncated
  | c :: rest =>
      if c = close then .ok (true, rest)
      else if c = ',' then
        match skipBlanks rest with
        | [] => .error .truncated
        | d :: rest => if d = close then .error .malformed else .ok (false, d :: rest)
      else .error .malformed

/-- The name of a member. -/
def scanName (text : List Char) : Except Fault (String × List Char) :=
  match skipBlanks text with
  | [] => .error .truncated
  | '"' :: rest => scanString rest
  | _ => .error .malformed

/-- The colon between a member's name and its value. -/
def scanColon (text : List Char) : Except Fault (List Char) :=
  match skipBlanks text with
  | [] => .error .truncated
  | ':' :: rest => .ok rest
  | _ => .error .malformed

/-- The greatest number of containers that may be open at once. -/
def maxDepth : Nat := 127

mutual

/-- A value of any kind. `depth` counts the containers that may still be opened. -/
def scanValue : (fuel depth : Nat) → List Char → Except Fault (Json × List Char)
  | 0, _, _ => .error .truncated
  | fuel + 1, depth, text =>
      match skipBlanks text with
      | [] => .error .truncated
      | 'n' :: rest => do .ok (.null, ← scanWord ['u', 'l', 'l'] rest)
      | 't' :: rest => do .ok (.bool true, ← scanWord ['r', 'u', 'e'] rest)
      | 'f' :: rest => do .ok (.bool false, ← scanWord ['a', 'l', 's', 'e'] rest)
      | '"' :: rest => do
          let (value, rest) ← scanString rest
          .ok (.str value, rest)
      | '[' :: rest =>
          match depth with
          | 0 => .error .malformed
          | depth + 1 =>
              match skipBlanks rest with
              | ']' :: rest => .ok (.arr [], rest)
              | rest => do
                  let (items, rest) ← scanItems fuel depth rest
                  .ok (.arr items, rest)
      | '\x7b' :: rest =>
          match depth with
          | 0 => .error .malformed
          | depth + 1 =>
              match skipBlanks rest with
              | '\x7d' :: rest => .ok (.obj [], rest)
              | rest => do
                  let (members, rest) ← scanMembers fuel depth rest
                  .ok (.obj (sortMembers members), rest)
      | c :: rest =>
          if startsNumber c then do
            let (number, rest) ← scanNumber (c :: rest)
            .ok (number.toJson, rest)
          else .error .malformed

/-- The items of an array, at least one, and its closing bracket. -/
def scanItems : (fuel depth : Nat) → List Char → Except Fault (List Json × List Char)
  | 0, _, _ => .error .truncated
  | fuel + 1, depth, text => do
      let (item, rest) ← scanValue fuel depth text
      match ← scanSeparator ']' rest with
      | (true, rest) => .ok ([item], rest)
      | (false, rest) =>
          let (items, rest) ← scanItems fuel depth rest
          .ok (item :: items, rest)

/-- The members of an object as they are written, at least one, and its closing brace. -/
def scanMembers :
    (fuel depth : Nat) → List Char → Except Fault (List (String × Json) × List Char)
  | 0, _, _ => .error .truncated
  | fuel + 1, depth, text => do
      let (name, rest) ← scanName text
      let (value, rest) ← scanValue fuel depth (← scanColon rest)
      match ← scanSeparator '\x7d' rest with
      | (true, rest) => .ok ([(name, value)], rest)
      | (false, rest) =>
          let (members, rest) ← scanMembers fuel depth rest
          .ok ((name, value) :: members, rest)

end

end Masking.Json
