import Masking.Text.Search

/-! The types that the `content-type` header may name, and which of them are JSON. -/

namespace Masking.Http

/-- The media type of a body, in lower case. The suffix is what follows the last plus sign of the
kind of content. -/
structure MediaType where
  family : List Char
  content : List Char
  suffix : Option (List Char)
deriving DecidableEq, Inhabited

namespace MediaType

/-- Whether a character may stand in a word of a media type. -/
def isWordChar (c : Char) : Bool :=
  let n := c.toNat
  (48 ≤ n && n ≤ 57) || (65 ≤ n && n ≤ 90) || (97 ≤ n && n ≤ 122)
    || ['!', '#', '$', '%', '&', '\x27', '*', '+', '-', '.', '^', '_', '\x60', '|', '~'].contains c

/-- Whether a character may stand between quotation marks. -/
def isQuotedChar (c : Char) : Bool :=
  31 < c.toNat && c.toNat != 127

/-- Where in the list of parameters a reader is. The flag of a part tells whether some of it has
been read. -/
inductive Place where
  /-- In the name of a parameter. -/
  | name (begun : Bool)
  /-- In a value without quotation marks. -/
  | value (begun : Bool)
  /-- In a value within quotation marks. -/
  | quoted (begun : Bool)
  /-- After a value within quotation marks. -/
  | closed
deriving DecidableEq, Inhabited

/-- The place after one more character of the parameters, if it may stand there. -/
def Place.step (place : Place) (c : Char) : Option Place :=
  match place with
  | .name begun =>
      if c = ' ' ∧ ¬ begun then some (.name false)
      else if isWordChar c then some (.name true)
      else if c = '=' ∧ begun then some (.value false)
      else none
  | .value begun =>
      if c = '"' ∧ ¬ begun then some (.quoted false)
      else if isWordChar c then some (.value true)
      else if c = ';' ∧ begun then some (.name false)
      else none
  | .quoted begun =>
      if c = '"' ∧ begun then some .closed
      else if isQuotedChar c then some (.quoted true)
      else none
  | .closed =>
      if c = ';' then some (.name false)
      else if c = ' ' then some .closed
      else none

/-- Whether the parameters may end at a place. -/
def Place.isEnd : Place → Bool
  | .name begun => !begun
  | .value _ => true
  | .quoted _ => false
  | .closed => true

/-- Whether a text is a list of parameters. -/
def areParameters : Place → List Char → Bool
  | place, [] => place.isEnd
  | place, c :: rest =>
      match place.step c with
      | some place => areParameters place rest
      | none => false

/-- A word at the start of a text, and what follows it. -/
def takeWord : List Char → List Char × List Char
  | [] => ([], [])
  | c :: rest =>
      if isWordChar c then
        let (word, rest) := takeWord rest
        (c :: word, rest)
      else ([], c :: rest)

/-- A word cut at its last plus sign, unless that is its first character. -/
def cutSuffix (word : List Char) : List Char × Option (List Char) :=
  let suffix := (word.reverse.takeWhile fun c => c ≠ '+').reverse
  if suffix.length + 1 < word.length then
    (word.take (word.length - suffix.length - 1), some suffix)
  else (word, none)

/-- The media type that a text names. -/
def read? (text : List Char) : Option MediaType :=
  let (family, rest) := takeWord (text.map Text.lowerAscii)
  match family, rest with
  | [], _ => none
  | _ :: _, '/' :: rest =>
      let (word, rest) := takeWord rest
      let (content, suffix) := cutSuffix word
      match rest with
      | [] => some ⟨family, content, suffix⟩
      | ';' :: rest =>
          if word.isEmpty then none
          else if areParameters (.name false) rest then some ⟨family, content, suffix⟩
          else none
      | _ :: _ => none
  | _, _ => none

/-- Whether a media type stands for JSON: `application/json`, or a kind of application data that is
written in JSON. -/
def isJson (type : MediaType) : Bool :=
  type.family = "application".toList
    && (type.content = "json".toList || type.suffix = some "json".toList)

end MediaType

/-- Whether the value of a header consists of visible ASCII characters, blanks and tabs. -/
def isVisible (value : List Char) : Bool :=
  value.all fun c => c = '\t' || (32 ≤ c.toNat && c.toNat < 127)

/-- Whether a header value names JSON as the type of a body. -/
def namesJson (value : String) : Bool :=
  isVisible value.toList && (MediaType.read? value.toList).any MediaType.isJson

end Masking.Http
