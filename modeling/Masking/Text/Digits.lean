/-! Digits and the numbers they write, in decimal and in hexadecimal. -/

namespace Masking.Text

/-- The value of an ASCII decimal digit. -/
def digitValue (c : Char) : Option Nat :=
  if 48 ≤ c.toNat ∧ c.toNat ≤ 57 then some (c.toNat - 48) else none

/-- Whether a character is an ASCII decimal digit. -/
def isDigit (c : Char) : Bool :=
  (digitValue c).isSome

/-- The value of an ASCII hexadecimal digit of either case. -/
def hexValue (c : Char) : Option Nat :=
  if 48 ≤ c.toNat ∧ c.toNat ≤ 57 then some (c.toNat - 48)
  else if 97 ≤ c.toNat ∧ c.toNat ≤ 102 then some (c.toNat - 87)
  else if 65 ≤ c.toNat ∧ c.toNat ≤ 70 then some (c.toNat - 55)
  else none

/-- The lower-case hexadecimal digit of a number below sixteen. -/
def hexDigit (n : Nat) : Char :=
  if n < 10 then Char.ofNat (48 + n) else Char.ofNat (87 + n)

/-- The upper-case hexadecimal digit of a number below sixteen. -/
def upperHexDigit (n : Nat) : Char :=
  if n < 10 then Char.ofNat (48 + n) else Char.ofNat (55 + n)

/-- The two lower-case hexadecimal digits of a byte. -/
def hexByte (b : UInt8) : List Char :=
  [hexDigit (b.toNat / 16), hexDigit (b.toNat % 16)]

/-- The lower-case hexadecimal digits of some bytes, two for each. -/
def hex : List UInt8 → List Char
  | [] => []
  | b :: rest => hexByte b ++ hex rest

/-- Decimal text of a natural number. -/
def decimal (n : Nat) : List Char :=
  Nat.toDigits 10 n

/-- Decimal text of an integer, with a sign when it is negative. -/
def signedDecimal (n : Int) : List Char :=
  if n < 0 then '-' :: decimal n.natAbs else decimal n.natAbs

/-- Lower-case hexadecimal text of a natural number. -/
def hexadecimal (n : Nat) : List Char :=
  Nat.toDigits 16 n

/-- The number written by digits in a base, read from the left onto what was read before. -/
def readDigits (base : Nat) (value : Char → Option Nat) : Nat → List Char → Option Nat
  | acc, [] => some acc
  | acc, c :: rest =>
      match value c with
      | some d => if d < base then readDigits base value (acc * base + d) rest else none
      | none => none

/-- The number written by a non-empty run of decimal digits. -/
def readDecimal : List Char → Option Nat
  | [] => none
  | c :: rest => readDigits 10 digitValue 0 (c :: rest)

/-- The number written by a non-empty run of digits in a base up to sixteen. -/
def readInBase (base : Nat) : List Char → Option Nat
  | [] => none
  | c :: rest => readDigits base hexValue 0 (c :: rest)

end Masking.Text
