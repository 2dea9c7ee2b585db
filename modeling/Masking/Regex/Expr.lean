import Masking.Unicode.Classes

/-! Regular expressions when all switches have been applied: sets of characters, conditions on
places, and the ways to put expressions together. -/

namespace Masking.Regex

open Unicode (CharSet)

/-- A condition on a place in a text, given by the characters before and after it. -/
inductive Look where
  | start
  | finish
  | startLine
  | endLine
  | startLineCrlf
  | endLineCrlf
  | wordBoundary (unicode : Bool)
  | notWordBoundary (unicode : Bool)
  | wordStart (unicode : Bool)
  | wordEnd (unicode : Bool)
  | wordStartHalf (unicode : Bool)
  | wordEndHalf (unicode : Bool)
deriving DecidableEq, Inhabited

/-- The ASCII characters of words. -/
def asciiWord : CharSet := [(0x30, 0x39), (0x41, 0x5A), (0x5F, 0x5F), (0x61, 0x7A)]

/-- Whether there is a character and it belongs to a word. -/
def isWord (unicode : Bool) : Option Char → Bool
  | some c => if unicode then Unicode.word.contains c.toNat else asciiWord.contains c.toNat
  | none => false

/-- Whether a condition holds between two characters; none stands for an end of the text. -/
def Look.holds (look : Look) (before after : Option Char) : Bool :=
  match look with
  | .start => before.isNone
  | .finish => after.isNone
  | .startLine => before.isNone || before = some '\n'
  | .endLine => after.isNone || after = some '\n'
  | .startLineCrlf =>
      before.isNone || before = some '\n' || (before = some '\r' && after != some '\n')
  | .endLineCrlf =>
      after.isNone || after = some '\r' || (after = some '\n' && before != some '\r')
  | .wordBoundary unicode => isWord unicode before != isWord unicode after
  | .notWordBoundary unicode => isWord unicode before == isWord unicode after
  | .wordStart unicode => !isWord unicode before && isWord unicode after
  | .wordEnd unicode => isWord unicode before && !isWord unicode after
  | .wordStartHalf unicode => !isWord unicode before
  | .wordEndHalf unicode => !isWord unicode after

/-- A regular expression whose switches and names have been resolved. -/
inductive Expr where
  | empty
  /-- One character of a set. -/
  | set (set : CharSet)
  | look (look : Look)
  | seq (first second : Expr)
  /-- The first alternative is preferred. -/
  | alt (first second : Expr)
  /-- A greedy repetition prefers more copies of the body, any other one prefers fewer. -/
  | repeated (min : Nat) (max : Option Nat) (greedy : Bool) (body : Expr)
  /-- A group with a number. -/
  | group (body : Expr)
deriving Inhabited

namespace Expr

/-- Whether every match is empty. -/
def isZeroWidth : Expr → Bool
  | .empty => true
  | .set _ => false
  | .look _ => true
  | .seq first second => first.isZeroWidth && second.isZeroWidth
  | .alt first second => first.isZeroWidth && second.isZeroWidth
  | .repeated _ max _ body => max = some 0 || body.isZeroWidth
  | .group body => body.isZeroWidth

/-- Whether an empty match is not excluded. -/
def isNullable : Expr → Bool
  | .empty => true
  | .set characters => characters.isEmpty
  | .look _ => true
  | .seq first second => first.isNullable && second.isNullable
  | .alt first second => first.isNullable || second.isNullable
  | .repeated min _ _ body => min = 0 || body.isNullable
  | .group body => body.isNullable

/-- A repetition. Repeating an empty match does not make it longer, so one copy is enough. -/
def repetition (min : Nat) (max : Option Nat) (greedy : Bool) (body : Expr) : Expr :=
  let zeroWidth := body.isZeroWidth
  let low := if zeroWidth then Nat.min min 1 else min
  let high := if zeroWidth then some (Nat.min (max.getD 1) 1) else max
  if high = some 0 then .empty
  else if low = 1 ∧ high = some 1 then body
  else .repeated low high greedy body

/-- Two expressions in a row. -/
def append : Expr → Expr → Expr
  | .empty, second => second
  | first, .empty => first
  | first, second => .seq first second

end Expr

end Masking.Regex
