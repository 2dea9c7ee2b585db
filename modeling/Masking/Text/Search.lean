/-! Finding, replacing and cutting in lists of characters. Replacement goes from left to right and
never looks at what it has inserted. -/

namespace Masking.Text

/-- What follows `lead` in `text`, when `text` begins with `lead`. -/
def stripLead : (lead text : List Char) → Option (List Char)
  | [], text => some text
  | _ :: _, [] => none
  | c :: lead, d :: text => if c = d then stripLead lead text else none

/-- Whether `part` occurs somewhere in the text as a block of consecutive characters. -/
def occursIn (part : List Char) : List Char → Bool
  | [] => part.isEmpty
  | c :: rest => (stripLead part (c :: rest)).isSome || occursIn part rest

/-- Left-to-right replacement of a non-empty block. The counter is the number of characters still
to be dropped because they belong to the occurrence replaced last. -/
def replaceScan (found token : List Char) : Nat → List Char → List Char
  | _, [] => []
  | skip + 1, _ :: rest => replaceScan found token skip rest
  | 0, c :: rest =>
      match stripLead found (c :: rest) with
      | some _ => token ++ replaceScan found token (found.length - 1) rest
      | none => c :: replaceScan found token 0 rest

/-- `token` before every character and once more at the end: every place where the empty block
occurs. -/
def replaceEmpty (token : List Char) : List Char → List Char
  | [] => token
  | c :: rest => token ++ c :: replaceEmpty token rest

/-- Every occurrence of `found` replaced by `token`, left to right, without looking again at what
was inserted. -/
def replaceAll (found token text : List Char) : List Char :=
  match found with
  | [] => replaceEmpty token text
  | c :: cs => replaceScan (c :: cs) token 0 text

/-- `replaceAll` on strings. -/
def replace (text found token : String) : String :=
  String.ofList (replaceAll found.toList token.toList text.toList)

/-- Whether `part` occurs in `text`. -/
def contains (text part : String) : Bool :=
  occursIn part.toList text.toList

/-- The pieces of a text between the separators; a text with `n` separators has `n + 1` pieces. -/
def splitOn (separator : Char) : List Char → List (List Char)
  | [] => [[]]
  | c :: rest =>
      if c = separator then [] :: splitOn separator rest
      else
        match splitOn separator rest with
        | [] => [[c]]
        | first :: others => (c :: first) :: others

/-- The words of a text: its pieces between blanks and line ends, the empty ones left out. -/
def words : List Char → List (List Char)
  | [] => []
  | c :: rest =>
      if c = ' ' ∨ c = '\n' then words rest
      else
        match rest with
        | [] => [[c]]
        | d :: _ =>
            if d = ' ' ∨ d = '\n' then [c] :: words rest
            else
              match words rest with
              | [] => [[c]]
              | first :: others => (c :: first) :: others

/-- The text before the first separator, and what follows it if there is one. -/
def cutAt (separator : Char) : List Char → List Char × Option (List Char)
  | [] => ([], none)
  | c :: rest =>
      if c = separator then ([], some rest)
      else
        let (before, after) := cutAt separator rest
        (c :: before, after)

/-- Pieces joined with a separator between neighbours. -/
def join (separator : List Char) : List (List Char) → List Char
  | [] => []
  | [piece] => piece
  | piece :: rest => piece ++ separator ++ join separator rest

/-- Lexicographic comparison by code point, which is also the order of the UTF-8 encodings. -/
def before : List Char → List Char → Bool
  | _, [] => false
  | [], _ :: _ => true
  | c :: cs, d :: ds =>
      if c.toNat < d.toNat then true
      else if d.toNat < c.toNat then false
      else before cs ds

/-- Upper-case ASCII letters made lower case; every other character is kept. -/
def lowerAscii (c : Char) : Char :=
  if 65 ≤ c.toNat ∧ c.toNat ≤ 90 then Char.ofNat (c.toNat + 32) else c

end Masking.Text
