import Masking.Regex.Expr
import Masking.Regex.Syntax

/-! Names, switches and letters of the syntax resolved into sets of characters and conditions.
Switches act from where they are set to the end of their group. -/

namespace Masking.Regex

open Unicode (CharSet)

/-- The switches as they are at the start: only Unicode is on. -/
def standardFlags : Flags :=
  { Flags.none with unicode := some true }

/-- Whether letters match in either case. -/
def Flags.ignoresCase (flags : Flags) : Bool := flags.caseInsensitive.getD false

/-- Whether classes and boundaries go by Unicode; otherwise everything has to stay in ASCII. -/
def Flags.isUnicode (flags : Flags) : Bool := flags.unicode.getD true

/-- The white space of ASCII. -/
def asciiSpace : CharSet := [(9, 13), (32, 32)]

/-- The characters of a named ASCII class. -/
def asciiSet (name : String) : CharSet :=
  if name = "alnum" then [(0x30, 0x39), (0x41, 0x5A), (0x61, 0x7A)]
  else if name = "alpha" then [(0x41, 0x5A), (0x61, 0x7A)]
  else if name = "ascii" then [(0, 0x7F)]
  else if name = "blank" then [(9, 9), (32, 32)]
  else if name = "cntrl" then [(0, 0x1F), (0x7F, 0x7F)]
  else if name = "digit" then [(0x30, 0x39)]
  else if name = "graph" then [(0x21, 0x7E)]
  else if name = "lower" then [(0x61, 0x7A)]
  else if name = "print" then [(0x20, 0x7E)]
  else if name = "punct" then [(0x21, 0x2F), (0x3A, 0x40), (0x5B, 0x60), (0x7B, 0x7E)]
  else if name = "space" then asciiSpace
  else if name = "upper" then [(0x41, 0x5A)]
  else if name = "word" then asciiWord
  else [(0x30, 0x39), (0x41, 0x46), (0x61, 0x66)]

/-- The characters of a class of a backslash and a letter. -/
def shorthandRanges (unicode : Bool) : Shorthand → CharSet
  | .digit => if unicode then Unicode.digit else [(0x30, 0x39)]
  | .space => if unicode then Unicode.whiteSpace else asciiSpace
  | .word => if unicode then Unicode.word else asciiWord

/-- A set with both cases of the ASCII letters in it. -/
def closeAscii (set : CharSet) : CharSet :=
  let upper := CharSet.intersection set [(0x41, 0x5A)]
  let lower := CharSet.intersection set [(0x61, 0x7A)]
  CharSet.ofRanges (set ++ upper.map (fun (a, b) => (a + 32, b + 32))
    ++ lower.map fun (a, b) => (a - 32, b - 32))

/-- A set closed under case where case is ignored. -/
def closeCase (flags : Flags) (set : CharSet) : CharSet :=
  if flags.ignoresCase then
    if flags.isUnicode then set.closeUnderCase else closeAscii set
  else set

/-- A set closed under case and, where that is asked for, turned into its complement. Without
Unicode the complement is one of bytes, and only ASCII may be left. -/
def closeAndNegate (flags : Flags) (negated : Bool) (set : CharSet) : Option CharSet :=
  let closed := closeCase flags set
  if flags.isUnicode then some (if negated then closed.complement else closed)
  else
    let bytes := if negated then CharSet.difference [(0, 0xFF)] closed else closed
    if bytes.isAscii then some bytes else none

/-- A name in lower case without separators and without a leading `is`. The name `isc` is kept,
since it is one of its own. -/
def normalizeName (name : String) : String :=
  let clean (text : List Char) : List Char :=
    (text.filter fun c => c ≠ ' ' ∧ c ≠ '_' ∧ c ≠ '-' ∧ c.toNat ≤ 0x7F).map Text.lowerAscii
  match name.toList with
  | i :: s :: rest =>
      if Text.lowerAscii i = 'i' ∧ Text.lowerAscii s = 's' then
        let tail := clean rest
        if tail = ['c'] then "isc" else String.ofList tail
      else String.ofList (clean (i :: s :: rest))
  | text => String.ofList (clean text)

/-- The characters of a property that is named alone. A binary property comes before a general
category and that before a script, but three short names are those of categories. -/
def namedSet (name : String) : Option CharSet :=
  let name := normalizeName name
  let binary :=
    if ["cf", "sc", "lc"].contains name then none else Unicode.propertyNamed name
  binary.orElse fun _ => (Unicode.categoryNamed name).orElse fun _ => Unicode.scriptNamed name

/-- The characters for which a property has a value. -/
def valueSet (property value : String) : Option CharSet :=
  let property := normalizeName property
  if ["gc", "generalcategory"].contains property then Unicode.categoryNamed (normalizeName value)
  else if ["sc", "script"].contains property then Unicode.scriptNamed (normalizeName value)
  else none

/-- The characters of a property, which only Unicode has. -/
def propertySet (flags : Flags) (query : PropertyQuery) (negated : Bool) : Option CharSet :=
  if flags.isUnicode then
    match query with
    | .name name => (namedSet name).bind (closeAndNegate flags negated)
    | .value property value => (valueSet property value).bind (closeAndNegate flags negated)
  else none

/-- The characters of a class of a backslash and a letter; case does not matter to them. -/
def shorthandSet (flags : Flags) (kind : Shorthand) (negated : Bool) : Option CharSet :=
  closeAndNegate { flags with caseInsensitive := some false } negated
    (shorthandRanges flags.isUnicode kind)

/-- The character of a literal in a class. Without Unicode it has to be an ASCII one. -/
def classChar (flags : Flags) (literal : Literal) : Option Char :=
  if flags.isUnicode ∨ literal.char.toNat ≤ 0x7F then some literal.char else none

/-- The result of an operation on sets. -/
def operate : SetOperation → CharSet → CharSet → CharSet
  | .intersection => CharSet.intersection
  | .difference => CharSet.difference
  | .symmetricDifference => CharSet.symmetricDifference

mutual

/-- The characters of what stands in a class. -/
def resolveSet (flags : Flags) : ClassSet → Option CharSet
  | .empty => some []
  | .literal literal => (classChar flags literal).map CharSet.single
  | .range first last => do
      let first ← classChar flags first
      let last ← classChar flags last
      some (CharSet.cutSurrogates [(first.toNat, last.toNat)])
  | .ascii name negated => closeAndNegate flags negated (asciiSet name)
  | .property query negated => propertySet flags query negated
  | .shorthand kind negated => shorthandSet flags kind negated
  | .bracketed negated set => (resolveSet flags set).bind (closeAndNegate flags negated)
  | .union sets => resolveSets flags sets
  | .operation kind left right => do
      let left ← resolveSet flags left
      let right ← resolveSet flags right
      some (operate kind (closeCase flags left) (closeCase flags right))

/-- The characters of any of several things in a class. -/
def resolveSets (flags : Flags) : List ClassSet → Option CharSet
  | [] => some []
  | set :: rest => do
      let first ← resolveSet flags set
      let others ← resolveSets flags rest
      some (first.union others)

end

/-- A character outside classes. Without Unicode, a byte given by its number has to be ASCII, and
only ASCII letters have another case. -/
def resolveLiteral (flags : Flags) (literal : Literal) : Option Expr :=
  if ¬ flags.isUnicode ∧ literal.byte ∧ 0x7F < literal.char.toNat then none
  else some (.set (closeCase flags (CharSet.single literal.char)))

/-- Any character, except line ends where the switches say so. -/
def resolveDot (flags : Flags) : Option Expr :=
  if ¬ flags.isUnicode then none
  else if flags.dotNewline.getD false then some (.set CharSet.everything)
  else if flags.crlf.getD false then some (.set (CharSet.complement [(10, 10), (13, 13)]))
  else some (.set (CharSet.complement [(10, 10)]))

/-- The condition of an anchor. -/
def resolveAnchor (flags : Flags) (anchor : Anchor) : Look :=
  let unicode := flags.isUnicode
  let crlf := flags.crlf.getD false
  let multiLine := flags.multiLine.getD false
  match anchor with
  | .lineStart => if multiLine then (if crlf then .startLineCrlf else .startLine) else .start
  | .lineEnd => if multiLine then (if crlf then .endLineCrlf else .endLine) else .finish
  | .textStart => .start
  | .textEnd => .finish
  | .wordBoundary => .wordBoundary unicode
  | .notWordBoundary => .notWordBoundary unicode
  | .wordStart => .wordStart unicode
  | .wordEnd => .wordEnd unicode
  | .wordStartHalf => .wordStartHalf unicode
  | .wordEndHalf => .wordEndHalf unicode

mutual

/-- An expression with its switches resolved, and the switches after it. Switches set inside a group
last to its end, through all alternatives that follow. -/
def resolve (flags : Flags) : Ast → Option (Expr × Flags)
  | .empty => some (.empty, flags)
  | .flags new => some (.empty, new.orElse flags)
  | .literal literal => (resolveLiteral flags literal).map fun expr => (expr, flags)
  | .dot => (resolveDot flags).map fun expr => (expr, flags)
  | .anchor anchor => some (.look (resolveAnchor flags anchor), flags)
  | .property query negated =>
      (propertySet flags query negated).map fun set => (.set set, flags)
  | .shorthand kind negated => (shorthandSet flags kind negated).map fun set => (.set set, flags)
  | .bracketed negated set =>
      ((resolveSet flags set).bind (closeAndNegate flags negated)).map fun set => (.set set, flags)
  | .repeated min max greedy body => do
      let (body, after) ← resolve flags body
      let greedy := greedy != flags.swapGreed.getD false
      some (Expr.repetition min max greedy body, after)
  | .group capturing new body => do
      let (body, _) ← resolve (new.orElse flags) body
      some (if capturing then .group body else body, flags)
  | .alternation branches => resolveBranches flags branches
  | .concat parts => resolveParts flags parts

/-- Alternatives with their switches resolved. -/
def resolveBranches (flags : Flags) : List Ast → Option (Expr × Flags)
  | [] => some (.set [], flags)
  | [branch] => resolve flags branch
  | branch :: next :: rest => do
      let (first, flags) ← resolve flags branch
      let (others, flags) ← resolveBranches flags (next :: rest)
      some (.alt first others, flags)

/-- Parts in a row with their switches resolved. -/
def resolveParts (flags : Flags) : List Ast → Option (Expr × Flags)
  | [] => some (.empty, flags)
  | part :: rest => do
      let (first, flags) ← resolve flags part
      let (others, flags) ← resolveParts flags rest
      some (first.append others, flags)

end

end Masking.Regex
