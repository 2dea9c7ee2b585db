import Masking.Regex.Expr

namespace Masking.Regex.Size

open Unicode (CharSet)

/-! An estimate of the memory that the automaton of an expression takes, in bytes. It is worked out
from the expression alone, so that an expression that is too large is never compiled. -/

/-- The memory of a state. -/
def state : Nat := 32

/-- The memory of one branch of a state with several. -/
def branch : Nat := 4

/-- The memory of one range of a state that tells several apart. -/
def transition : Nat := 8

/-- The greatest memory allowed. -/
def limit : Nat := 10485760

/-- The bytes of a code point in UTF-8. -/
def encode (c : Nat) : List Nat :=
  if c < 0x80 then [c]
  else if c < 0x800 then [0xC0 + c / 64, 0x80 + c % 64]
  else if c < 0x10000 then [0xE0 + c / 4096, 0x80 + c / 64 % 64, 0x80 + c % 64]
  else [0xF0 + c / 262144, 0x80 + c / 4096 % 64, 0x80 + c / 64 % 64, 0x80 + c % 64]

/-- Where a range of code points has to be cut so that, byte by byte, ranges of bytes describe each
piece: first between encodings of different lengths, then at blocks that share their leading
bytes. -/
def cut (low high : Nat) : Option Nat :=
  let lengths := [0x7F, 0x7FF, 0xFFFF].find? fun last => low ≤ last ∧ last < high
  match lengths with
  | some last => some last
  | none =>
      if high < 0x80 then none
      else
        [64, 4096, 262144].findSome? fun block =>
          if low / block = high / block then none
          else if low % block ≠ 0 then some ((low / block + 1) * block - 1)
          else if high % block ≠ block - 1 then some (high / block * block - 1)
          else none

/-- The pieces of a range of code points as sequences of byte ranges. A range is cut at most a few
times on each level. -/
def sequences : Nat → Nat → Nat → List (List (Nat × Nat))
  | 0, _, _ => []
  | fuel + 1, low, high =>
      match cut low high with
      | some last => sequences fuel low last ++ sequences fuel (last + 1) high
      | none => [(encode low).zip (encode high)]

/-- The number of steps after which two sequences differ. -/
def shared : List (Nat × Nat) → List (Nat × Nat) → Nat
  | a :: as, b :: bs => if a = b then shared as bs + 1 else 0
  | _, _ => 0

/-- The number of steps of sequences when each shares its beginning with the one before. -/
def nodes : List (Nat × Nat) → List (List (Nat × Nat)) → Nat
  | _, [] => 0
  | last, sequence :: rest => sequence.length - shared last sequence + nodes sequence rest

/-- The memory of a set of characters. -/
def set (set : CharSet) : Nat :=
  match set with
  | [] => state
  | [(low, high)] =>
      if low = high then state * (encode low).length else many
  | _ => many
where
  many : Nat :=
    if set.isAscii then 2 * state + transition * set.length
    else
      let pieces := set.flatMap fun (low, high) => sequences 64 low high
      2 * state + state * nodes [] pieces + branch * pieces.length

/-- The memory of a repetition of a body of known size. -/
def repetition (min : Nat) (max : Option Nat) (nullable : Bool) (body : Nat) : Nat :=
  let union := state + 2 * branch
  match max with
  | none =>
      if min = 0 then (if nullable then body + 2 * union + state else body + union)
      else min * body + union
  | some max =>
      let needed := if min = 0 then state else min * body
      if max = min then needed else needed + state + (max - min) * (union + body)

/-- The memory of an expression. Alternatives that follow one another share one state. -/
def expr : Expr → Nat
  | .empty => state
  | .set characters => set characters
  | .look _ => state
  | .seq first second => expr first + expr second
  | .alt first (.alt second third) => branch + expr first + expr (.alt second third)
  | .alt first second => 2 * state + 2 * branch + expr first + expr second
  | .repeated min max _ body => repetition min max body.isNullable (expr body)
  | .group body => 2 * state + expr body

/-- Whether an expression is too large to be compiled. -/
def isTooBig (e : Expr) : Bool :=
  limit < expr e

end Masking.Regex.Size
