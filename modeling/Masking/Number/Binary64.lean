/-! Binary64 numbers as exact values in integers, with operations that round once to the nearest
number, ties to even. -/

namespace Masking

/-- A binary64 floating-point number by its exact value: `± significand * 2 ^ scale`, an infinity,
or not a number. Finite numbers are kept in the format's own form: the significand is below
`2 ^ 53`, the scale is at least `-1074`, and a significand below `2 ^ 52` has scale `-1074`. -/
inductive Binary64 where
  | finite (negative : Bool) (significand : Nat) (scale : Int)
  | infinite (negative : Bool)
  | nan
deriving DecidableEq, Inhabited

namespace Binary64

/-- The smallest scale of a finite number. -/
def minScale : Int := -1074

/-- The largest scale of a finite number. -/
def maxScale : Int := 971

/-- `2 ^ 52`, the smallest significand of a normal number. -/
def hidden : Nat := 4503599627370496

/-- Zero with a sign. -/
def zero (negative : Bool) : Binary64 :=
  .finite negative 0 minScale

/-- The quotient of two numbers rounded to the nearest integer, ties to the even one. -/
def roundQuotient (num den : Nat) : Nat :=
  let quotient := num / den
  let twice := 2 * (num % den)
  if den < twice then quotient + 1
  else if twice = den then quotient + quotient % 2
  else quotient

/-- `num / den` times `2 ^ shift`, as a fraction. -/
def scaleRatio (num den : Nat) (shift : Int) : Nat × Nat :=
  if shift < 0 then (num, Nat.shiftLeft den shift.natAbs)
  else (Nat.shiftLeft num shift.natAbs, den)

/-- The integer part of the base-two logarithm of a positive fraction. -/
def ratioLog (num den : Nat) : Int :=
  let guess : Int := (Nat.log2 num : Int) - (Nat.log2 den : Int)
  let (n, d) := scaleRatio num den (-guess)
  if n < d then guess - 1 else guess

/-- The number nearest to a fraction, ties to the even significand; too large a fraction gives an
infinity. -/
def ofRatio (negative : Bool) (num den : Nat) : Binary64 :=
  if num = 0 then zero negative
  else
    let wanted := ratioLog num den - 52
    let scale := if wanted < minScale then minScale else wanted
    let (n, d) := scaleRatio num den (-scale)
    let rounded := roundQuotient n d
    let (significand, scale) :=
      if rounded = 2 * hidden then (hidden, scale + 1) else (rounded, scale)
    if maxScale < scale then .infinite negative else .finite negative significand scale

/-- The number nearest to a natural number. -/
def ofNat (n : Nat) : Binary64 :=
  ofRatio false n 1

/-- The number nearest to `digits * 10 ^ exponent`. Exponents so large or small that the result
is an infinity or zero whatever the digits are never raise ten to a power. -/
def ofDecimal (negative : Bool) (digits : Nat) (exponent : Int) : Binary64 :=
  if digits = 0 then zero negative
  else
    if 400 < exponent then .infinite negative
    else if exponent + (Nat.log2 digits / 3 : Nat) < -400 then zero negative
    else if exponent < 0 then ofRatio negative digits (Nat.pow 10 exponent.natAbs)
    else ofRatio negative (digits * Nat.pow 10 exponent.natAbs) 1

/-- The magnitude of a finite number as a fraction. -/
def ratio (significand : Nat) (scale : Int) : Nat × Nat :=
  scaleRatio significand 1 scale

/-- Whether a number is an infinity. -/
def isInfinite : Binary64 → Bool
  | .infinite _ => true
  | _ => false

/-- Whether a number is zero, of either sign. -/
def isZero : Binary64 → Bool
  | .finite _ significand _ => significand = 0
  | _ => false

/-- The number with the other sign. -/
def neg : Binary64 → Binary64
  | .finite negative significand scale => .finite (!negative) significand scale
  | .infinite negative => .infinite (!negative)
  | .nan => .nan

/-- The rounded product. -/
def mul : Binary64 → Binary64 → Binary64
  | .finite s m e, .finite t n f =>
      let (a, b) := ratio m e
      let (c, d) := ratio n f
      ofRatio (s != t) (a * c) (b * d)
  | .infinite s, .infinite t => .infinite (s != t)
  | .infinite s, .finite t n _ => if n = 0 then .nan else .infinite (s != t)
  | .finite s m _, .infinite t => if m = 0 then .nan else .infinite (s != t)
  | _, _ => .nan

/-- The rounded quotient. -/
def div : Binary64 → Binary64 → Binary64
  | .finite s m e, .finite t n f =>
      if n = 0 then (if m = 0 then .nan else .infinite (s != t))
      else
        let (a, b) := ratio m e
        let (c, d) := ratio n f
        ofRatio (s != t) (a * d) (b * c)
  | .infinite s, .finite t _ _ => .infinite (s != t)
  | .finite s _ _, .infinite t => zero (s != t)
  | _, _ => .nan

/-- The integer nearest to a finite number, ties away from zero; `none` when there is none. -/
def round : Binary64 → Option Int
  | .finite negative significand scale =>
      let (n, d) := ratio significand scale
      let magnitude := (2 * n + d) / (2 * d)
      some (if negative then -(magnitude : Int) else magnitude)
  | _ => none

end Binary64

end Masking
