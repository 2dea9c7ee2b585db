import Masking.Regex.Machine
import Masking.Regex.Reading
import Masking.Regex.Resolve
import Masking.Regex.Size

/-! Compiled regular expressions, and the matches they find in a text: from left to right, without
overlap, and together with the text between them. -/

namespace Masking

/-- A compiled regular expression: its text, and the machine that finds its matches. -/
structure Regex where
  source : String
  machine : Regex.Machine
deriving Inhabited

namespace Regex

/-- Why a regular expression is refused. -/
inductive Fault where
  | syntaxError
  | tooBig
deriving DecidableEq, Inhabited

/-- The regular expression that a text is. -/
def compile (source : String) : Except Fault Regex :=
  match (parse source).bind (resolve standardFlags) with
  | none => .error .syntaxError
  | some (expr, _) =>
      if Size.isTooBig expr then .error .tooBig else .ok ⟨source, Machine.ofExpr expr⟩

/-- A match and the text between the match before and it. -/
structure Segment where
  gap : List Char
  found : List Char
deriving DecidableEq, Inhabited

/-- The text that segments cover. -/
def Segment.cover : List Segment → List Char
  | [] => []
  | segment :: rest => segment.gap ++ segment.found ++ Segment.cover rest

/-- The last character of a text, or else the one before it. -/
def lastOr (before : Option Char) (text : List Char) : Option Char :=
  match text.getLast? with
  | some c => some c
  | none => before

/-- All matches from a place on, from left to right and without overlap, with the text between
them, and the text after the last one. An empty match directly after another match does not count:
the search goes on one character later. `gap` is what has been passed since the last match. -/
def segmentsFrom (regex : Regex) :
    Nat → (before : Option Char) → (afterMatch : Bool) → (gap text : List Char) →
      List Segment × List Char
  | 0, _, _, gap, text => ([], gap ++ text)
  | fuel + 1, before, afterMatch, gap, text =>
      match regex.machine.search before text with
      | none => ([], gap ++ text)
      | some (start, finish) =>
          if afterMatch ∧ finish = 0 then
            match text with
            | [] => ([], gap)
            | c :: rest => segmentsFrom regex fuel (some c) false (gap ++ [c]) rest
          else
            let skipped := text.take start
            let found := (text.drop start).take (finish - start)
            let before := lastOr (lastOr before skipped) found
            let (segments, tail) :=
              segmentsFrom regex fuel before true [] ((text.drop start).drop (finish - start))
            (⟨gap ++ skipped, found⟩ :: segments, tail)

/-- All matches in a text with the text between them, and the text after the last one. Each match
ends later than the one before, and so does each empty match that does not count. -/
def segments (regex : Regex) (text : List Char) : List Segment × List Char :=
  segmentsFrom regex (2 * text.length + 2) none false [] text

/-- The matched texts from left to right. -/
def findAll (regex : Regex) (text : String) : List String :=
  (regex.segments text.toList).1.map fun segment => String.ofList segment.found

end Regex

end Masking
