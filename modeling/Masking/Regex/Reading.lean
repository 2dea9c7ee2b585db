import Masking.Regex.Syntax
import Masking.Text.Digits
import Masking.Unicode.Classes

/-! The text of a regular expression read into its syntax. Every construct has a reader of its own;
a reader that cannot go on makes the whole text a syntax error. -/

namespace Masking.Regex

/-- Where reading an expression has come to: the characters ahead, whether blanks and comments are
passed over, and the names of groups so far. -/
structure Cursor where
  ahead : List Char
  verbose : Bool
  names : List String

/-- Reads a piece of an expression; `none` is a syntax error. -/
abbrev Read := StateT Cursor Option

namespace Read

/-- The text after blanks and comments. -/
def skipComments : (inComment : Bool) → List Char → List Char
  | _, [] => []
  | true, c :: rest => skipComments (c != '\n') rest
  | false, c :: rest =>
      if Unicode.isWhiteSpace c then skipComments false rest
      else if c = '#' then skipComments true rest
      else c :: rest

/-- Pass over blanks and comments where they do not count. -/
def space : Read Unit :=
  modify fun cursor =>
    if cursor.verbose then { cursor with ahead := skipComments false cursor.ahead } else cursor

/-- The next character, if there is one. -/
def peek : Read (Option Char) := do
  return (← get).ahead.head?

/-- The next character, which there has to be. -/
def next : Read Char := do
  match (← get).ahead with
  | c :: _ => return c
  | [] => failure

/-- Pass over the next character. -/
def bump : Read Unit :=
  modify fun cursor => { cursor with ahead := cursor.ahead.drop 1 }

/-- Pass over the next character and blanks after it. -/
def bumpSpace : Read Unit := do
  bump
  space

/-- Pass over a text if it comes next, and tell whether it did. -/
def accept (text : String) : Read Bool := do
  let cursor ← get
  if text.toList.isPrefixOf cursor.ahead then
    set { cursor with ahead := cursor.ahead.drop text.length }
    return true
  else return false

/-- The character after the next one and the blanks that do not count. -/
def peekSpace : Read (Option Char) := do
  let cursor ← get
  let after := cursor.ahead.drop 1
  return (if cursor.verbose then skipComments false after else after).head?

/-- The characters ahead as long as they satisfy a test. -/
def takeWhile (test : Char → Bool) : Read (List Char) := do
  let cursor ← get
  set { cursor with ahead := cursor.ahead.dropWhile test }
  return cursor.ahead.takeWhile test

/-- Characters with what blanks and comments come after each, as long as they satisfy a test. -/
def takeSpaced (test : Char → Bool) : Nat → Read (List Char)
  | 0 => return []
  | fuel + 1 => do
      match ← peek with
      | some c =>
          if test c then do
            bumpSpace
            return c :: (← takeSpaced test fuel)
          else return []
      | none => return []

/-- Enough fuel for a loop over the characters ahead. -/
def fuel : Read Nat := do
  return (← get).ahead.length + 1

end Read

open Read

/-- Whether a character has a meaning of its own, so that a backslash takes it away. -/
def isMeta (c : Char) : Bool :=
  ['\\', '.', '+', '*', '?', '(', ')', '|', '[', ']', '\x7b', '\x7d', '^', '$', '#', '&', '-',
    '~'].contains c

/-- Whether a character is an ASCII letter or digit. -/
def isAsciiAlphanumeric (c : Char) : Bool :=
  Text.isDigit c || (97 ≤ (Text.lowerAscii c).toNat && (Text.lowerAscii c).toNat ≤ 122)

/-- Whether a backslash before a character is allowed without giving it another meaning. -/
def isEscapable (c : Char) : Bool :=
  isMeta c || (c.toNat < 128 && !isAsciiAlphanumeric c && c != '<' && c != '>')

/-- The character of a number, when it is one. -/
def scalar (n : Nat) : Read Char :=
  if n < 0xD800 ∨ (0xDFFF < n ∧ n ≤ 0x10FFFF) then return Char.ofNat n else failure

/-- The number written by hexadecimal digits. -/
def hexNumber (digits : List Char) : Read Nat :=
  match Text.readInBase 16 digits with
  | some n => return n
  | none => failure

/-- A fixed number of hexadecimal digits, with blanks between them where those do not count. -/
def fixedHex : Nat → Read (List Char)
  | 0 => return []
  | count + 1 => do
      let c ← next
      if (Text.hexValue c).isNone then failure
      bumpSpace
      return c :: (← fixedHex count)

/-- A character given by its number, the letter of the escape being next. -/
def hexEscape : Read Literal := do
  let letter ← next
  bumpSpace
  if (← next) = '\x7b' then
    bumpSpace
    let digits ← takeSpaced (fun c => (Text.hexValue c).isSome) (← fuel)
    if (← next) ≠ '\x7d' then failure
    bumpSpace
    return ⟨← scalar (← hexNumber digits), false⟩
  else
    let count := if letter = 'x' then 2 else if letter = 'u' then 4 else 8
    let digits ← fixedHex count
    return ⟨← scalar (← hexNumber digits), letter = 'x'⟩

/-- A property's name and value out of the text between braces. -/
def propertyQuery (name : List Char) : PropertyQuery × Bool :=
  let value (before after : List Char) : PropertyQuery :=
    .value (String.ofList before) (String.ofList after)
  match cutAtNotEqual name with
  | some (before, after) => (value before after, true)
  | none =>
      match Text.cutAt ':' name with
      | (before, some after) => (value before after, false)
      | _ =>
          match Text.cutAt '=' name with
          | (before, some after) => (value before after, false)
          | _ => (.name (String.ofList name), false)
where
  cutAtNotEqual : List Char → Option (List Char × List Char)
  | '!' :: '=' :: rest => some ([], rest)
  | c :: rest => (cutAtNotEqual rest).map fun (before, after) => (c :: before, after)
  | [] => none

/-- A class of a Unicode property, its letter being next. -/
def propertyEscape : Read (PropertyQuery × Bool) := do
  let negated := (← next) = 'P'
  bumpSpace
  let c ← next
  if c = '\x7b' then
    bumpSpace
    let name ← takeSpaced (fun c => c != '\x7d') (← fuel)
    if (← peek).isNone then failure
    bump
    let (query, unequal) := propertyQuery name
    return (query, negated != unequal)
  else if c = '\\' then failure
  else
    bumpSpace
    return (.name (String.singleton c), negated)

/-- A word boundary of a special kind, an opening brace being next. Braces that begin otherwise are
left for a repetition. -/
def specialBoundary : Read Anchor := do
  let start ← get
  bumpSpace
  let isPart (c : Char) := c = '-' || (isAsciiAlphanumeric c && !Text.isDigit c)
  if !isPart (← next) then
    set start
    return .wordBoundary
  let name := String.ofList (← takeSpaced isPart (← fuel))
  if (← next) ≠ '\x7d' then failure
  bump
  if name = "start" then return .wordStart
  else if name = "end" then return .wordEnd
  else if name = "start-half" then return .wordStartHalf
  else if name = "end-half" then return .wordEndHalf
  else failure

/-- The class of a letter after a backslash. -/
def shorthand? (c : Char) : Option (Shorthand × Bool) :=
  if c = 'd' then some (.digit, false)
  else if c = 'D' then some (.digit, true)
  else if c = 's' then some (.space, false)
  else if c = 'S' then some (.space, true)
  else if c = 'w' then some (.word, false)
  else if c = 'W' then some (.word, true)
  else none

/-- The control character of a letter after a backslash. -/
def controlEscape (c : Char) : Option Char :=
  if c = 'a' then some (Char.ofNat 7)
  else if c = 'f' then some (Char.ofNat 12)
  else if c = 't' then some '\t'
  else if c = 'n' then some '\n'
  else if c = 'r' then some '\r'
  else if c = 'v' then some (Char.ofNat 11)
  else none

/-- The place that a character after a backslash stands for. -/
def anchorEscape (c : Char) : Option Anchor :=
  if c = 'A' then some .textStart
  else if c = 'z' then some .textEnd
  else if c = 'b' then some .wordBoundary
  else if c = 'B' then some .notWordBoundary
  else if c = '<' then some .wordStart
  else if c = '>' then some .wordEnd
  else none

/-- What a backslash begins. -/
def escape : Read Ast := do
  bump
  let c ← next
  if ['x', 'u', 'U'].contains c then return .literal (← hexEscape)
  if ['p', 'P'].contains c then
    let (query, negated) ← propertyEscape
    return .property query negated
  bump
  match shorthand? c with
  | some (kind, negated) => return .shorthand kind negated
  | none =>
      if isEscapable c then return .literal ⟨c, false⟩
      match controlEscape c with
      | some control => return .literal ⟨control, false⟩
      | none =>
          match anchorEscape c with
          | some .wordBoundary =>
              if (← peek) = some '\x7b' then return .anchor (← specialBoundary)
              else return .anchor .wordBoundary
          | some anchor => return .anchor anchor
          | none => failure

/-- The names of the ASCII classes. -/
def asciiNames : List String :=
  ["alnum", "alpha", "ascii", "blank", "cntrl", "digit", "graph", "lower", "print", "punct", "space",
    "upper", "word", "xdigit"]

/-- An ASCII class such as `[:alpha:]`, if one comes next. -/
def asciiClass : Read (Option ClassSet) := do
  let start ← get
  match start.ahead with
  | '[' :: ':' :: rest =>
      let (negated, rest) :=
        match rest with
        | '^' :: rest => (true, rest)
        | _ => (false, rest)
      match Text.cutAt ':' rest with
      | (name, some (']' :: rest)) =>
          if asciiNames.contains (String.ofList name) then
            set { start with ahead := rest }
            return some (.ascii (String.ofList name) negated)
          else return none
      | _ => return none
  | _ => return none

/-- One end of a range, or a member of a class. -/
def classMember : Read Ast := do
  let c ← next
  if c = '\\' then escape
  else
    bump
    return .literal ⟨c, false⟩

/-- A piece of syntax as a member of a class. -/
def asClass : Ast → Read ClassSet
  | .literal literal => return .literal literal
  | .property query negated => return .property query negated
  | .shorthand kind negated => return .shorthand kind negated
  | _ => failure

/-- A member of a class or a range. A hyphen before the closing bracket or another hyphen does not
make a range. -/
def classRange : Read ClassSet := do
  let first ← classMember
  space
  let c ← next
  let after ← peekSpace
  if c ≠ '-' ∨ after = some ']' ∨ after = some '-' then asClass first
  else
    bumpSpace
    match first, ← classMember with
    | .literal first, .literal last =>
        if last.char.toNat < first.char.toNat then failure
        else return .range first last
    | _, _ => failure

/-- Hyphens at the front of a class stand for themselves. -/
def leadingHyphens : Nat → Read (List ClassSet)
  | 0 => return []
  | fuel + 1 => do
      if (← next) = '-' then
        bumpSpace
        return .literal ⟨'-', false⟩ :: (← leadingHyphens fuel)
      else return []

/-- The operation that comes next, if one does. -/
def setOperation : Read (Option SetOperation) := do
  if ← accept "&&" then return some .intersection
  if ← accept "--" then return some .difference
  if ← accept "~~" then return some .symmetricDifference
  return none

/-- A class combined with what stands left of the last operation. -/
def combine (left : Option (SetOperation × ClassSet)) (right : ClassSet) : ClassSet :=
  match left with
  | some (operation, left) => .operation operation left right
  | none => right

mutual

/-- A class in brackets, the opening one being next. -/
def bracketed : Nat → Read (Bool × ClassSet)
  | 0 => failure
  | fuel + 1 => do
      bumpSpace
      let negated := (← next) = '^'
      if negated then bumpSpace
      let hyphens ← leadingHyphens (← Read.fuel)
      let members ←
        if hyphens.isEmpty ∧ (← next) = ']' then do
          bumpSpace
          pure [ClassSet.literal ⟨']', false⟩]
        else pure hyphens.reverse
      let _ ← next
      return (negated, ← classRest fuel none members)

/-- The rest of a class, up to its closing bracket. The members since the last operation are kept in
reverse. -/
def classRest : Nat → Option (SetOperation × ClassSet) → List ClassSet → Read ClassSet
  | 0, _, _ => failure
  | fuel + 1, left, members => do
      space
      let c ← next
      if c = ']' then
        bump
        return combine left (.ofMembers members.reverse)
      else if c = '[' then
        match ← asciiClass with
        | some set => classRest fuel left (set :: members)
        | none =>
            let (negated, set) ← bracketed fuel
            classRest fuel left (.bracketed negated set :: members)
      else
        match ← setOperation with
        | some operation =>
            classRest fuel (some (operation, combine left (.ofMembers members.reverse))) []
        | none =>
            let member ← classRange
            classRest fuel left (member :: members)

end

/-- The letters of a group's switches, up to a colon or a closing parenthesis. -/
def groupFlags : Nat → (seen : List Char) → (lastHyphen : Bool) → Flags → Read (List Char × Flags)
  | 0, _, _, _ => failure
  | fuel + 1, seen, lastHyphen, flags => do
      let c ← next
      if c = ':' ∨ c = ')' then
        if lastHyphen then failure else return (seen, flags)
      else if seen.contains c then failure
      else if c = '-' then
        bump
        groupFlags fuel (c :: seen) true flags
      else
        match flags.set c (!seen.contains '-') with
        | some flags =>
            bump
            groupFlags fuel (c :: seen) false flags
        | none => failure

/-- Whether a character may begin the name of a group. -/
def startsName (c : Char) : Bool :=
  c = '_' || Unicode.alphabetic.contains c.toNat

/-- Whether a character may stand in the name of a group. -/
def isNamePart (c : Char) : Bool :=
  startsName c || c = '.' || c = '[' || c = ']' || Unicode.numeric.contains c.toNat

/-- The name of a group and the bracket after it. A name is used only once. -/
def groupName : Read Unit := do
  let name ← takeWhile fun c => c != '>'
  let _ ← next
  bump
  match name with
  | [] => failure
  | first :: rest =>
      if !startsName first ∨ !rest.all isNamePart then failure
      let cursor ← get
      let name := String.ofList name
      if cursor.names.contains name then failure
      set { cursor with names := name :: cursor.names }

/-- What an opening parenthesis begins: switches for what follows, or a group. -/
inductive Opening where
  | switches (flags : Flags)
  | group (capturing : Bool) (flags : Flags)

/-- The beginning of a group, the parenthesis being next. Looking around is not supported. -/
def opening : Read Opening := do
  bumpSpace
  for lookaround in ["?=", "?!", "?<=", "?<!"] do
    if lookaround.toList.isPrefixOf (← get).ahead then failure
  if ← accept "?P<" then
    groupName
    return .group true .none
  if ← accept "?<" then
    groupName
    return .group true .none
  if ← accept "?" then
    let (letters, flags) ← groupFlags (← fuel) [] false .none
    let close ← next
    bump
    if close = ')' then
      if letters.isEmpty then failure else return .switches flags
    else return .group false flags
  else return .group true .none

/-- The greatest number of repetitions that can be written. -/
def maxCount : Nat := 4294967295

/-- A decimal number with blanks around it; `none` when there are no digits. -/
def count : Read (Option Nat) := do
  let _ ← takeWhile Unicode.isWhiteSpace
  let digits ← takeSpaced Text.isDigit (← fuel)
  let _ ← takeWhile Unicode.isWhiteSpace
  match digits, Text.readDecimal digits with
  | [], _ => return none
  | _, some n => if n ≤ maxCount then return some n else failure
  | _, none => failure

/-- A number that has to be there. -/
def wantCount (count : Option Nat) : Read Nat :=
  match count with
  | some n => return n
  | none => failure

/-- The bounds of a counted repetition, its brace being next. -/
def bounds : Read (Nat × Option Nat) := do
  bumpSpace
  let _ ← next
  let low ← count
  let bounds ←
    if (← next) = ',' then do
      bumpSpace
      if (← next) ≠ '\x7d' then do
        let low ← wantCount low
        let high ← wantCount (← count)
        pure (low, some high)
      else pure (← wantCount low, none)
    else do
      let low ← wantCount low
      pure (low, some low)
  if (← next) ≠ '\x7d' then failure
  match bounds with
  | (low, some high) => if high < low then failure else return bounds
  | _ => return bounds

/-- The repetition whose operator is next: its bounds, and whether it is greedy. -/
def repetition (operator : Char) : Read (Nat × Option Nat × Bool) := do
  let (low, high) ←
    if operator = '?' then pure (0, some 1)
    else if operator = '*' then pure (0, none)
    else if operator = '+' then pure (1, none)
    else bounds
  if operator = '\x7b' then bumpSpace else bump
  if (← peek) = some '?' then
    bump
    return (low, high, false)
  else return (low, high, true)

/-- Whether a repetition may follow a piece of syntax. -/
def isRepeatable : Ast → Bool
  | .empty => false
  | .flags _ => false
  | _ => true

/-- A single character, dot, anchor or escape. -/
def primitive : Read Ast := do
  let c ← next
  if c = '\\' then escape
  else
    bump
    if c = '.' then return .dot
    else if c = '^' then return .anchor .lineStart
    else if c = '$' then return .anchor .lineEnd
    else return .literal ⟨c, false⟩

/-- The alternation of a branch and the branches before it, all kept in reverse. -/
def closeBranches (parts branches : List Ast) : Ast :=
  .ofBranches ((Ast.ofParts parts.reverse :: branches).reverse)

/-- The branches of an alternation up to the end of the text or, inside a group, to its closing
parenthesis. The parts of the branch that is being read and the branches before it are kept in
reverse. -/
def alternatives : (fuel : Nat) → (inGroup : Bool) → (parts branches : List Ast) → Read Ast
  | 0, _, _, _ => failure
  | fuel + 1, inGroup, parts, branches => do
      space
      match ← peek with
      | none => if inGroup then failure else return closeBranches parts branches
      | some ')' =>
          if inGroup then
            bump
            return closeBranches parts branches
          else failure
      | some '|' =>
          bump
          alternatives fuel inGroup [] (Ast.ofParts parts.reverse :: branches)
      | some '(' =>
          let verbose := (← get).verbose
          match ← opening with
          | .switches flags =>
              modify fun cursor => { cursor with verbose := flags.verbose.getD verbose }
              alternatives fuel inGroup (.flags flags :: parts) branches
          | .group capturing flags =>
              modify fun cursor => { cursor with verbose := flags.verbose.getD verbose }
              let body ← alternatives fuel true [] []
              modify fun cursor => { cursor with verbose := verbose }
              alternatives fuel inGroup (.group capturing flags body :: parts) branches
      | some '[' =>
          let (negated, set) ← bracketed (← Read.fuel)
          alternatives fuel inGroup (.bracketed negated set :: parts) branches
      | some c =>
          if ['?', '*', '+', '\x7b'].contains c then
            match parts with
            | [] => failure
            | part :: parts =>
                if isRepeatable part then
                  let (low, high, greedy) ← repetition c
                  alternatives fuel inGroup (.repeated low high greedy part :: parts) branches
                else failure
          else
            let part ← primitive
            alternatives fuel inGroup (part :: parts) branches

/-- The expression that a text is, if it is one. -/
def parse (text : String) : Option Ast :=
  let start : Cursor := ⟨text.toList, false, []⟩
  match alternatives (2 * text.length + 2) false [] [] start with
  | some (ast, _) => if ast.depth ≤ maxDepth then some ast else none
  | none => none

end Masking.Regex
