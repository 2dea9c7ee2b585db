import Masking.Text.Digits
import Masking.Text.Search
import Masking.Unicode.Folding

/-! Sets of characters as ordered ranges of code points, and their closure under case. -/

namespace Masking.Unicode

/-- A set of characters as ranges of code points, ends included. The ranges of a set are in
ascending order and neither overlap nor touch. -/
abbrev CharSet := List (Nat × Nat)

namespace CharSet

/-- Whether a code point is in a set; the search ends at the first range that begins after it. -/
def contains : CharSet → Nat → Bool
  | [], _ => false
  | (low, high) :: rest, c => if c < low then false else c ≤ high || contains rest c

/-- A range put in front of ranges that begin no earlier, joined with those it overlaps or
touches. -/
def joinFront (low high : Nat) : CharSet → CharSet
  | [] => [(low, high)]
  | (nextLow, nextHigh) :: rest =>
      if nextLow ≤ high + 1 then joinFront low (Nat.max high nextHigh) rest
      else (low, high) :: (nextLow, nextHigh) :: rest

/-- Ranges in ascending order of their beginnings as a set. -/
def joinSorted : CharSet → CharSet
  | [] => []
  | (low, high) :: rest => joinFront low high (joinSorted rest)

/-- Any ranges as a set. -/
def ofRanges (ranges : List (Nat × Nat)) : CharSet :=
  joinSorted (ranges.mergeSort fun a b => a.1 ≤ b.1)

/-- The characters of either set. -/
def union (a b : CharSet) : CharSet :=
  joinSorted (a.merge b fun a b => a.1 ≤ b.1)

/-- The code points from `first` on that are in no range. -/
def gaps (first : Nat) : CharSet → CharSet
  | [] => if first ≤ 0x10FFFF then [(first, 0x10FFFF)] else []
  | (low, high) :: rest =>
      if first < low then (first, low - 1) :: gaps (high + 1) rest else gaps (high + 1) rest

/-- The ranges with the surrogates cut out. -/
def cutSurrogates : CharSet → CharSet
  | [] => []
  | (low, high) :: rest =>
      if high < 0xD800 ∨ 0xDFFF < low then (low, high) :: cutSurrogates rest
      else
        (if low < 0xD800 then [(low, 0xD7FF)] else [])
          ++ (if 0xDFFF < high then [(0xE000, high)] else []) ++ cutSurrogates rest

/-- The characters that are not in a set. -/
def complement (set : CharSet) : CharSet :=
  cutSurrogates (gaps 0 set)

/-- The characters of both sets. -/
def intersection (a b : CharSet) : CharSet :=
  complement (union (complement a) (complement b))

/-- The characters of the first set that are not in the second. -/
def difference (a b : CharSet) : CharSet :=
  complement (union (complement a) b)

/-- The characters of exactly one of two sets. -/
def symmetricDifference (a b : CharSet) : CharSet :=
  union (difference a b) (difference b a)

/-- The set of one character. -/
def single (c : Char) : CharSet := [(c.toNat, c.toNat)]

/-- The set of all characters. -/
def everything : CharSet := [(0, 0xD7FF), (0xE000, 0x10FFFF)]

/-- Whether a set has nothing but ASCII characters. -/
def isAscii (set : CharSet) : Bool :=
  set.all fun range => range.2 ≤ 0x7F

/-- A range written as one or two hexadecimal code points. -/
def parseRange (text : List Char) : List (Nat × Nat) :=
  match Text.cutAt '-' text with
  | (low, none) =>
      match Text.readInBase 16 low with
      | some low => [(low, low)]
      | none => []
  | (low, some high) =>
      match Text.readInBase 16 low, Text.readInBase 16 high with
      | some low, some high => [(low, high)]
      | _, _ => []

/-- The set whose ranges are written in ascending order, as words. -/
def parse (text : String) : CharSet :=
  (Text.words text.toList).flatMap parseRange

/-- The members of a run of folding characters with what they fold to, the character at a place
being `step` times as far from the first as the place. -/
def unrollRun (low step target : Nat) : Nat → List (Nat × Nat)
  | 0 => []
  | count + 1 => unrollRun low step target count ++ [(low + count * step, target + count * step)]

/-- Characters that fold to another one, with that one. -/
def foldings : List (Nat × Nat) :=
  Data.foldingRuns.flatMap fun (low, high, step, target) =>
    unrollRun low step target ((high - low) / step + 1)

/-- Characters that fold to the same character, together with it. -/
def orbits : List (List Nat) :=
  let sorted := foldings.mergeSort fun a b => a.2 ≤ b.2
  group sorted
where
  group : List (Nat × Nat) → List (List Nat)
  | [] => []
  | (c, target) :: rest =>
      match group rest with
      | [] => [[c, target]]
      | orbit :: others =>
          if orbit.getLast? = some target then (c :: orbit) :: others
          else [c, target] :: orbit :: others

/-- A set with every character that has the same folding as one of its members. -/
def closeUnderCase (set : CharSet) : CharSet :=
  let added := orbits.flatMap fun orbit =>
    if orbit.any set.contains then orbit.map fun c => (c, c) else []
  ofRanges (set ++ added)

end CharSet

end Masking.Unicode
