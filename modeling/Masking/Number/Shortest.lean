import Masking.Number.Binary64
import Masking.Text.Digits

/-! The fewest decimal digits that are read back as a binary64 number, and the two forms in which
they are written. -/

namespace Masking.Binary64

/-- The fraction `num / den` divided by a power of ten. -/
def shiftDecimal (num den : Nat) (exponent : Int) : Nat × Nat :=
  if exponent < 0 then (num * Nat.pow 10 exponent.natAbs, den)
  else (num, den * Nat.pow 10 exponent.natAbs)

/-- The integer part of the base-ten logarithm of a positive fraction: the estimate from the
base-two logarithm is off by one at most. -/
def decimalLog (num den : Nat) : Int :=
  let guess : Int := (ratioLog num den * 30103) / 100000
  let (n, d) := shiftDecimal num den (guess + 1)
  if d ≤ n then guess + 1
  else
    let (n, d) := shiftDecimal num den guess
    if n < d then guess - 1 else guess

/-- Among the two decimals with the given last place around a number, those that are read back as
the number, the nearer one first. -/
def decimalCandidate (significand : Nat) (scale : Int) (place : Int) : Option Nat :=
  let (num, den) := ratio significand scale
  let (n, d) := shiftDecimal num den place
  let low := n / d
  let number := Binary64.finite false significand scale
  let lowFits := ofDecimal false low place = number
  let highFits := ofDecimal false (low + 1) place = number
  let lowNearer := 2 * (n % d) < d ∨ (2 * (n % d) = d ∧ low % 2 = 0)
  if lowFits ∧ (lowNearer ∨ ¬ highFits) then some low
  else if highFits then some (low + 1)
  else none

/-- The first of the decimals with 17, 16, ... places left to try that is read back as the
number. -/
def shortestFrom (significand : Nat) (scale : Int) (top : Int) : Nat → Nat × Int
  | 0 =>
      let (num, den) := ratio significand scale
      let (n, d) := shiftDecimal num den (top - 16)
      (n / d, top - 16)
  | left + 1 =>
      let place := top - (16 - (left : Int))
      match decimalCandidate significand scale place with
      | some digits => (digits, place)
      | none => shortestFrom significand scale top left

/-- Trailing zeros of a digit string moved into the exponent. -/
def dropZeros : List Char → Int → List Char × Int
  | [], exponent => ([], exponent)
  | '0' :: rest, exponent => dropZeros rest (exponent + 1)
  | c :: rest, exponent => (c :: rest, exponent)

/-- The shortest decimal digits that are read back as a positive number, and the exponent of the
last digit. -/
def shortest (significand : Nat) (scale : Int) : List Char × Int :=
  let (num, den) := ratio significand scale
  let (digits, place) := shortestFrom significand scale (decimalLog num den) 17
  let (reversed, exponent) := dropZeros (Text.decimal digits).reverse place
  (reversed.reverse, exponent)

/-- Digits with the decimal point after the given number of them, zeros filling the gaps. -/
def positional (digits : List Char) (exponent : Int) (fraction : Bool) : List Char :=
  let point : Int := digits.length + exponent
  if 0 ≤ exponent then
    digits ++ List.replicate exponent.natAbs '0' ++ (if fraction then ['.', '0'] else [])
  else if 0 < point then
    digits.take point.natAbs ++ '.' :: digits.drop point.natAbs
  else '0' :: '.' :: (List.replicate point.natAbs '0' ++ digits)

/-- Digits in scientific form: one digit before the point and a signed exponent. -/
def scientific (digits : List Char) (exponent : Int) : List Char :=
  let power : Int := digits.length + exponent - 1
  let mantissa :=
    match digits with
    | [] => []
    | [d] => [d]
    | d :: rest => d :: '.' :: rest
  mantissa ++ 'e' :: (if power < 0 then '-' else '+') :: Text.decimal power.natAbs

/-- The text of a number in a JSON document: the shortest digits that are read back as it, with a
fraction when the decimal exponent is between -5 and 15 and in scientific form otherwise. Numbers
that are not finite have no JSON text and are written `null`. -/
def jsonText : Binary64 → List Char
  | .finite negative significand scale =>
      let sign := if negative then ['-'] else []
      if significand = 0 then sign ++ ['0', '.', '0']
      else
        let (digits, exponent) := shortest significand scale
        let power : Int := digits.length + exponent - 1
        if -5 ≤ power ∧ power ≤ 15 then sign ++ positional digits exponent true
        else sign ++ scientific digits exponent
  | _ => "null".toList

/-- The text of a number for people: the shortest digits, never in scientific form, and without a
fraction when it is an integer. -/
def plainText : Binary64 → List Char
  | .finite negative significand scale =>
      let sign := if negative then ['-'] else []
      if significand = 0 then sign ++ ['0']
      else
        let (digits, exponent) := shortest significand scale
        sign ++ positional digits exponent false
  | .infinite negative => (if negative then ['-'] else []) ++ "inf".toList
  | .nan => "NaN".toList

end Masking.Binary64
