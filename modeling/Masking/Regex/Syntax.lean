/-! Regular expressions as they are written, before switches and names are looked at, and how deep
they are nested. -/

namespace Masking.Regex

/-- The switches of a regular expression. An absent value leaves a switch as it was. -/
structure Flags where
  caseInsensitive : Option Bool
  multiLine : Option Bool
  dotNewline : Option Bool
  swapGreed : Option Bool
  unicode : Option Bool
  crlf : Option Bool
  verbose : Option Bool
deriving DecidableEq, Inhabited

namespace Flags

/-- No switch set. -/
def none : Flags :=
  ⟨Option.none, Option.none, Option.none, Option.none, Option.none, Option.none, Option.none⟩

/-- The switches of `new`, and those of `old` where `new` leaves them. -/
def orElse (new old : Flags) : Flags where
  caseInsensitive := new.caseInsensitive.or old.caseInsensitive
  multiLine := new.multiLine.or old.multiLine
  dotNewline := new.dotNewline.or old.dotNewline
  swapGreed := new.swapGreed.or old.swapGreed
  unicode := new.unicode.or old.unicode
  crlf := new.crlf.or old.crlf
  verbose := new.verbose.or old.verbose

/-- The switches with the one of a letter set; `none` when the letter has no switch. -/
def set (flags : Flags) (letter : Char) (value : Bool) : Option Flags :=
  if letter = 'i' then some { flags with caseInsensitive := some value }
  else if letter = 'm' then some { flags with multiLine := some value }
  else if letter = 's' then some { flags with dotNewline := some value }
  else if letter = 'U' then some { flags with swapGreed := some value }
  else if letter = 'u' then some { flags with unicode := some value }
  else if letter = 'R' then some { flags with crlf := some value }
  else if letter = 'x' then some { flags with verbose := some value }
  else Option.none

end Flags

/-- Places in a text, as the syntax names them. -/
inductive Anchor where
  | lineStart
  | lineEnd
  | textStart
  | textEnd
  | wordBoundary
  | notWordBoundary
  | wordStart
  | wordEnd
  | wordStartHalf
  | wordEndHalf
deriving DecidableEq, Inhabited

/-- The classes of a backslash and a letter. -/
inductive Shorthand where
  | digit
  | space
  | word
deriving DecidableEq, Inhabited

/-- Operations on classes. -/
inductive SetOperation where
  | intersection
  | difference
  | symmetricDifference
deriving DecidableEq, Inhabited

/-- How a class of a Unicode property is named. -/
inductive PropertyQuery where
  | name (name : String)
  | value (property value : String)
deriving DecidableEq, Inhabited

/-- A character as it is written: `byte` tells that it is given by two hexadecimal digits, which
stand for a byte when Unicode is switched off. -/
structure Literal where
  char : Char
  byte : Bool
deriving DecidableEq, Inhabited

/-- What may stand between the brackets of a class. -/
inductive ClassSet where
  | empty
  | literal (literal : Literal)
  | range (first last : Literal)
  | ascii (name : String) (negated : Bool)
  | property (query : PropertyQuery) (negated : Bool)
  | shorthand (kind : Shorthand) (negated : Bool)
  | bracketed (negated : Bool) (set : ClassSet)
  | union (sets : List ClassSet)
  | operation (kind : SetOperation) (left right : ClassSet)
deriving Inhabited

/-- A regular expression as it is written. -/
inductive Ast where
  | empty
  | flags (flags : Flags)
  | literal (literal : Literal)
  | dot
  | anchor (anchor : Anchor)
  | property (query : PropertyQuery) (negated : Bool)
  | shorthand (kind : Shorthand) (negated : Bool)
  | bracketed (negated : Bool) (set : ClassSet)
  | repeated (min : Nat) (max : Option Nat) (greedy : Bool) (body : Ast)
  /-- A group; `capturing` tells that it has a number, and flags hold inside it. -/
  | group (capturing : Bool) (flags : Flags) (body : Ast)
  | alternation (branches : List Ast)
  | concat (parts : List Ast)
deriving Inhabited

namespace Ast

/-- Parts in a row; a single one stands for itself. -/
def ofParts : List Ast → Ast
  | [] => .empty
  | [part] => part
  | parts => .concat parts

/-- Alternatives; a single one stands for itself. -/
def ofBranches : List Ast → Ast
  | [branch] => branch
  | branches => .alternation branches

end Ast

/-- Members of a class; a single one stands for itself. -/
def ClassSet.ofMembers : List ClassSet → ClassSet
  | [] => .empty
  | [member] => member
  | members => .union members

mutual

/-- How deep classes and operations on them are nested. -/
def ClassSet.depth : ClassSet → Nat
  | .bracketed _ set => set.depth + 1
  | .union sets => ClassSet.depths sets + 1
  | .operation _ left right => Nat.max left.depth right.depth + 1
  | _ => 0

/-- The greatest depth among classes. -/
def ClassSet.depths : List ClassSet → Nat
  | [] => 0
  | set :: rest => Nat.max set.depth (ClassSet.depths rest)

end

mutual

/-- How deep an expression is nested. Brackets, repetitions, groups, alternations and rows count,
single characters and anchors do not. -/
def Ast.depth : Ast → Nat
  | .bracketed _ set => set.depth + 1
  | .repeated _ _ _ body => body.depth + 1
  | .group _ _ body => body.depth + 1
  | .alternation branches => Ast.depths branches + 1
  | .concat parts => Ast.depths parts + 1
  | _ => 0

/-- The greatest depth among expressions. -/
def Ast.depths : List Ast → Nat
  | [] => 0
  | ast :: rest => Nat.max ast.depth (Ast.depths rest)

end

/-- The greatest depth of an expression that is accepted. -/
def maxDepth : Nat := 250

end Masking.Regex
