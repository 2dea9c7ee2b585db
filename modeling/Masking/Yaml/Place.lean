import Masking.Text.Digits
import Masking.Text.Search

/-! Places in a text with their line and column, and the steps over what separates words there. -/

namespace Masking.Yaml

/-- A place in a text: what follows it, its line and column, and whether only blanks stand before it
on its line. -/
structure Place where
  rest : List Char
  line : Nat
  column : Nat
  fresh : Bool
deriving Inhabited

namespace Place

/-- The place before a text. -/
def start (text : List Char) : Place := ⟨text, 0, 0, true⟩

/-- The place after some characters of the same line. -/
def past (place : Place) (count : Nat) : Place :=
  { place with rest := place.rest.drop count, column := place.column + count, fresh := false }

end Place

/-- Whether a character separates words within a line. -/
def isGapChar (c : Char) : Bool :=
  c = ' ' || c = '\t'

/-- Whether a word ends before a text. -/
def endsWord : List Char → Bool
  | [] => true
  | c :: _ => isGapChar c || c = '\n'

/-- The character of which the document marker at the start of a text consists: a dash where a
document begins, a dot where one ends. -/
def markerOf : List Char → Option Char
  | a :: b :: c :: rest =>
      if (a = '-' ∨ a = '.') ∧ b = a ∧ c = a ∧ endsWord rest then some a else none
  | _ => none

/-- Whether there is nothing more of the document at a place. -/
def Place.atEnd (place : Place) : Bool :=
  place.rest.isEmpty || (place.column = 0 && (markerOf place.rest).isSome)

/-- The next place that is not a blank, part of a comment or a line end. A tab at the start of a
line is refused outside brackets, and so is one where `tabs` is not set. -/
def skipFrom (flow : Bool) : (tabs comment : Bool) → (line column : Nat) → (fresh : Bool) →
    List Char → Option Place
  | _, _, line, column, fresh, [] => some ⟨[], line, column, fresh⟩
  | tabs, comment, line, column, fresh, c :: rest =>
      if c = '\n' then skipFrom flow flow false (line + 1) 0 true rest
      else if comment ∨ c = ' ' then skipFrom flow tabs comment line (column + 1) fresh rest
      else if c = '\t' then
        if tabs then skipFrom flow tabs false line (column + 1) fresh rest else none
      else if c = '#' then skipFrom flow tabs true line (column + 1) fresh rest
      else some ⟨c :: rest, line, column, fresh⟩

/-- The next place that is not filling. -/
def Place.skip (place : Place) (flow tabs : Bool) : Option Place :=
  skipFrom flow tabs false place.line place.column place.fresh place.rest

/-- The next place on the same line that is not a blank. -/
def Place.skipGap (place : Place) : Place :=
  let gap := place.rest.takeWhile isGapChar
  { place with rest := place.rest.drop gap.length, column := place.column + gap.length }

/-- What lies between two characters of a scalar. -/
inductive Gap where
  | none
  /-- Blanks, the last one first. -/
  | blanks (held : List Char)
  /-- Line breaks, with the blanks around them. -/
  | lines (count : Nat)
  /-- A line break that does not count, and those after it. -/
  | joined (count : Nat)
deriving DecidableEq, Inhabited

namespace Gap

/-- The gap with one more blank. Blanks beside a line break do not count. -/
def blank (c : Char) : Gap → Gap
  | .none => .blanks [c]
  | .blanks held => .blanks (c :: held)
  | gap => gap

/-- The gap with one more line break. -/
def newline : Gap → Gap
  | .none => .lines 1
  | .blanks _ => .lines 1
  | .lines count => .lines (count + 1)
  | .joined count => .joined (count + 1)

/-- Whether the gap extends over a line break. -/
def isLines : Gap → Bool
  | .lines _ => true
  | .joined _ => true
  | _ => false

/-- What a gap stands for: a single line break is a blank, and of more than one the first is
dropped. -/
def text : Gap → List Char
  | .none => []
  | .blanks held => held.reverse
  | .lines count => if count = 1 then [' '] else List.replicate (count - 1) '\n'
  | .joined count => List.replicate count '\n'

end Gap

end Masking.Yaml
