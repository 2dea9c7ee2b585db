import Masking.Number.Binary64
import Masking.Text.Digits
import Masking.Text.Search

/-! Integers and binary64 numbers read from texts of their own, as settings write them. -/

namespace Masking

namespace Text

/-- The number written by digits in a base, which may have a sign. -/
def readSigned (base : Nat) (text : List Char) : Option Int :=
  match text with
  | '-' :: digits => (readInBase base digits).map fun n => -(n : Int)
  | '+' :: digits => (readInBase base digits).map fun n => (n : Int)
  | digits => (readInBase base digits).map fun n => (n : Int)

/-- The number written by digits in a base, which may have a plus sign. -/
def readUnsigned (base : Nat) (text : List Char) : Option Nat :=
  match text with
  | '+' :: digits => readInBase base digits
  | digits => readInBase base digits

/-- The greatest integer of 64 signed bits. -/
def maxSigned64 : Nat := 9223372036854775807

/-- The greatest integer of 64 unsigned bits. -/
def maxUnsigned64 : Nat := 18446744073709551615

/-- Whether an integer has 64 signed bits. -/
def isSigned64 (n : Int) : Bool :=
  -(maxSigned64 : Int) - 1 ≤ n && n ≤ (maxSigned64 : Int)

/-- An integer of 64 signed bits, in a base. -/
def readSigned64 (base : Nat) (text : List Char) : Option Int :=
  (readSigned base text).bind fun n => if isSigned64 n then some n else none

/-- An integer of 64 unsigned bits, in a base. -/
def readUnsigned64 (base : Nat) (text : List Char) : Option Nat :=
  (readUnsigned base text).bind fun n => if n ≤ maxUnsigned64 then some n else none

end Text

namespace Binary64

/-- The digits at the front of a text, and what follows them. -/
def takeDigits (text : List Char) : List Char × List Char :=
  let digits := text.takeWhile Text.isDigit
  (digits, text.drop digits.length)

/-- The power of ten after the digits of a number. -/
def readPower (text : List Char) : Option Int :=
  match text with
  | [] => some 0
  | c :: rest => if c = 'e' ∨ c = 'E' then Text.readSigned 10 rest else none

/-- A number without sign: digits with or without a point, and a power of ten. -/
def readMagnitude (negative : Bool) (text : List Char) : Option Binary64 := do
  let (whole, rest) := takeDigits text
  let (fraction, rest) :=
    match rest with
    | '.' :: rest => takeDigits rest
    | rest => ([], rest)
  let digits ← Text.readDecimal (whole ++ fraction)
  let power ← readPower rest
  some (ofDecimal negative digits (power - fraction.length))

/-- A number without sign, or one of the words for what is no finite number, in letters of either
case. -/
def readUnsigned (negative : Bool) (text : List Char) : Option Binary64 :=
  let word := String.ofList (text.map Text.lowerAscii)
  if word = "inf" ∨ word = "infinity" then some (.infinite negative)
  else if word = "nan" then some .nan
  else readMagnitude negative text

/-- The number that a text stands for. -/
def read? (text : List Char) : Option Binary64 :=
  match text with
  | '-' :: rest => readUnsigned true rest
  | '+' :: rest => readUnsigned false rest
  | rest => readUnsigned false rest

/-- The integer nearest to a number, ties away from zero, or the bound that is nearest to it. What
is not a number counts as zero. -/
def clamp (low high : Int) : Binary64 → Int
  | .nan => 0
  | .infinite negative => if negative then low else high
  | number =>
      match number.round with
      | some n => if n < low then low else if high < n then high else n
      | none => 0

end Binary64

end Masking
