import Masking.Yaml.Place

/-! Scalars of YAML in all their styles, with the folding of their line breaks. -/

namespace Masking.Yaml

/-- The characters that end a plain scalar within brackets. -/
def isBracketChar (c : Char) : Bool :=
  c = ',' || c = '[' || c = ']' || c = '\x7b' || c = '\x7d'

/-- Whether a plain scalar may begin with a text. -/
def startsPlain (flow : Bool) : List Char → Bool
  | [] => false
  | c :: rest =>
      if c = '-' then !endsWord rest && !(flow && (rest.head?.any isBracketChar))
      else if c = '?' ∨ c = ':' then !flow && !endsWord rest
      else !("#&*!|>\x27\"%@\x60".toList.contains c || isBracketChar c || c = '\n' || isGapChar c)

/-- Whether a plain scalar ends before a character, after a gap. -/
def endsPlain (flow : Bool) (floor : Nat) (gap : Gap) (column : Nat) (c : Char)
    (rest : List Char) : Bool :=
  (gap.isLines && ((!flow && column < floor) || (column = 0 && (markerOf (c :: rest)).isSome)))
    || (c = '#' && gap ≠ .none) || (c = ':' && endsWord rest) || (flow && isBracketChar c)

/-- The rest of a plain scalar, after a gap. Its lines stand at or right of the column `floor`. -/
def plainFrom (flow : Bool) (floor : Nat) : Gap → (line column : Nat) → List Char →
    Option (List Char × Place)
  | gap, line, column, [] => some ([], ⟨[], line, column, gap.isLines⟩)
  | gap, line, column, c :: rest =>
      if c = '\n' then plainFrom flow floor gap.newline (line + 1) 0 rest
      else if isGapChar c then
        if c = '\t' ∧ gap.isLines ∧ column < floor then none
        else plainFrom flow floor (gap.blank c) line (column + 1) rest
      else if endsPlain flow floor gap column c rest then
        some ([], ⟨c :: rest, line, column, gap.isLines⟩)
      else if flow ∧ c = ':' ∧ rest.head?.any (fun d => isBracketChar d || d = '?') then none
      else do
        let (text, place) ← plainFrom flow floor .none line (column + 1) rest
        some (gap.text ++ c :: text, place)

/-- The rest of a scalar in single quotation marks, of which two stand for one. -/
def singleFrom : Gap → (line column : Nat) → List Char → Option (List Char × Place)
  | _, _, _, [] => none
  | gap, line, column, c :: rest =>
      if c = '\n' then singleFrom gap.newline (line + 1) 0 rest
      else if isGapChar c then singleFrom (gap.blank c) line (column + 1) rest
      else if column = 0 ∧ (markerOf (c :: rest)).isSome then none
      else if c = '\x27' then
        match rest with
        | '\x27' :: rest => do
            let (text, place) ← singleFrom .none line (column + 2) rest
            some (gap.text ++ '\x27' :: text, place)
        | rest => some (gap.text, ⟨rest, line, column + 1, false⟩)
      else do
        let (text, place) ← singleFrom .none line (column + 1) rest
        some (gap.text ++ c :: text, place)

/-- The character that a letter stands for after a backslash. -/
def escaped (c : Char) : Option Char :=
  [('0', '\x00'), ('a', '\x07'), ('b', '\x08'), ('t', '\t'), ('\t', '\t'), ('n', '\n'),
   ('v', '\x0b'), ('f', '\x0c'), ('r', '\r'), ('e', '\x1b'), (' ', ' '), ('"', '"'),
   ('/', '/'), ('\\', '\\'), ('\x27', '\x27'), ('N', '\u0085'), ('_', '\u00a0'), ('L', '\u2028'),
   ('P', '\u2029')].lookup c

/-- The number of hexadecimal digits that follow a letter after a backslash. -/
def escapeWidth (c : Char) : Option Nat :=
  [('x', 2), ('u', 4), ('U', 8)].lookup c

/-- The character with a number, which may not be half of a surrogate pair. -/
def charOf (n : Nat) : Option Char :=
  if n < 0xD800 ∨ (0xDFFF < n ∧ n < 0x110000) then some (Char.ofNat n) else none

/-- The rest of a scalar in double quotation marks. The fuel is spent one for each step. -/
def doubleFrom : Nat → Gap → (line column : Nat) → List Char → Option (List Char × Place)
  | 0, _, _, _, _ => none
  | _, _, _, _, [] => none
  | fuel + 1, gap, line, column, c :: rest =>
      if c = '\n' then doubleFrom fuel gap.newline (line + 1) 0 rest
      else if isGapChar c then doubleFrom fuel (gap.blank c) line (column + 1) rest
      else if column = 0 ∧ (markerOf (c :: rest)).isSome then none
      else if c = '"' then some (gap.text, ⟨rest, line, column + 1, false⟩)
      else if c = '\\' then
        match rest with
        | [] => none
        | '\n' :: rest => do
            let (text, place) ← doubleFrom fuel (.joined 0) (line + 1) 0 rest
            some (gap.text ++ text, place)
        | e :: rest =>
            match escapeWidth e with
            | some width => do
                let digits := rest.take width
                if digits.length < width then none
                else
                  let c ← charOf (← Text.readInBase 16 digits)
                  let (text, place) ←
                    doubleFrom fuel .none line (column + 2 + width) (rest.drop width)
                  some (gap.text ++ c :: text, place)
            | none => do
                let c ← escaped e
                let (text, place) ← doubleFrom fuel .none line (column + 2) rest
                some (gap.text ++ c :: text, place)
      else do
        let (text, place) ← doubleFrom fuel .none line (column + 1) rest
        some (gap.text ++ c :: text, place)

/-- What becomes of the line breaks at the end of a block. -/
inductive Chomping where
  | strip
  | clip
  | keep
deriving DecidableEq, Inhabited

/-- The head of a block: how its end is treated, and how far it is indented if that is said. -/
structure BlockHead where
  chomping : Chomping
  indent : Option Nat

/-- One mark of the head of a block. -/
def BlockHead.mark (head : BlockHead) (c : Char) : Option BlockHead :=
  if c = '-' ∧ head.chomping = .clip then some { head with chomping := .strip }
  else if c = '+' ∧ head.chomping = .clip then some { head with chomping := .keep }
  else if '1' ≤ c ∧ c ≤ '9' ∧ head.indent.isNone then
    some { head with indent := some (c.toNat - 48) }
  else none

/-- The head of a block, from the first line after the sign that opens it. -/
def readBlockHead (line : List Char) : Option BlockHead :=
  let marks := line.takeWhile fun c => !isGapChar c && c ≠ '#'
  let after := (line.drop marks.length).dropWhile isGapChar
  if after.isEmpty || after.head? = some '#' then
    marks.foldlM BlockHead.mark ⟨.clip, none⟩
  else none

/-- The number of blanks at the start of a line. -/
def indentOf (line : List Char) : Nat :=
  (line.takeWhile fun c => c = ' ').length

/-- How far a block is indented that does not say so: as far as the first line that is not blank, or
as the farthest of the blank lines before it. A tab in that place is refused. -/
def detectIndent : Nat → List (List Char) → Option Nat
  | widest, [] => some widest
  | widest, line :: rest =>
      let indent := indentOf line
      match line.drop indent with
      | [] => detectIndent (Nat.max widest indent) rest
      | c :: _ => if c = '\t' then none else some (Nat.max widest indent)

/-- The lines of a block, blank ones as `none`, and the lines after it. -/
def blockLines (indent : Nat) : List (List Char) →
    Option (List (Option (List Char)) × List (List Char))
  | [] => some ([], [])
  | line :: rest =>
      let lead := Nat.min (indentOf line) indent
      match line.drop lead with
      | [] =>
          match rest with
          | [] => some ([], [line])
          | _ => do
              let (lines, after) ← blockLines indent rest
              some (none :: lines, after)
      | c :: text =>
          if lead < indent then
            if c = '\t' then none else some ([], line :: rest)
          else do
            let (lines, after) ← blockLines indent rest
            some (some (c :: text) :: lines, after)

/-- The text of a block. `ended` tells whether a line break is due, `blank` whether the line before
it begins with a blank, and `skipped` is the number of blank lines since. -/
def blockText (literal : Bool) (chomping : Chomping) (closed : Bool) :
    (ended blank : Bool) → (skipped : Nat) → List (Option (List Char)) → List Char
  | ended, _, skipped, [] =>
      let ending := if ended then ['\n'] else []
      match chomping with
      | .strip => []
      | .clip => ending
      | .keep => ending ++ List.replicate skipped '\n'
  | ended, blank, skipped, none :: rest =>
      blockText literal chomping closed ended blank (skipped + 1) rest
  | ended, blank, skipped, some text :: rest =>
      let indented := text.head?.any isGapChar
      let separator :=
        if !ended then []
        else if literal || blank || indented then ['\n']
        else if skipped = 0 then [' '] else []
      separator ++ List.replicate skipped '\n' ++ text
        ++ blockText literal chomping closed (closed || !rest.isEmpty) indented 0 rest

/-- A block scalar after the sign that opens it, and the place after it. Its lines stand at or right
of the column `floor`. -/
def readBlock (literal : Bool) (floor : Nat) (place : Place) : Option (List Char × Place) :=
  match Text.splitOn '\n' place.rest with
  | [] => none
  | headLine :: lines => do
      let head ← readBlockHead headLine
      let indent ←
        match head.indent with
        | some indent => some (floor - 1 + indent)
        | none => (detectIndent 0 lines).map fun indent => Nat.max (Nat.max indent floor) 1
      let (content, after) ← blockLines indent lines
      let line := place.line + 1 + (lines.length - after.length)
      some (blockText literal head.chomping (!after.isEmpty) false false 0 content,
        ⟨Text.join ['\n'] after, line, 0, true⟩)

end Masking.Yaml
