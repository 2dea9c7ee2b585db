import Masking.Category
import Masking.Json.Reader
import Masking.SetupError
import Masking.Synthesizer
import Masking.Text.Quoted

/-! Detection patterns: a name, a regular expression, and what the tokens of its matches begin with.
Patterns are compiled together or not at all, and keep their order. -/

namespace Masking

/-- A detection pattern as it is configured. -/
structure PatternConfig where
  /-- The name of the pattern, which is also the category of what it finds. -/
  name : String
  regex : String
  /-- What tokens of the pattern begin with. -/
  tokenLead : String
deriving DecidableEq, Inhabited

namespace PatternConfig

/-- The fields of a pattern as it is read. -/
structure Draft where
  name : Option String
  regex : Option String
  tokenLead : Option String

/-- Reads a pattern. What its tokens begin with may be missing. -/
def read : Json.Reader PatternConfig :=
  Json.readStructure
    [Json.field "name" Draft.name (fun draft value => { draft with name := some value })
      Json.readString,
     Json.field "regex" Draft.regex (fun draft value => { draft with regex := some value })
      Json.readString,
     Json.field "masked_prefix" Draft.tokenLead
      (fun draft value => { draft with tokenLead := some value }) Json.readString]
    ⟨none, none, none⟩
    fun draft => do
      some ⟨← draft.name, ← draft.regex, draft.tokenLead.getD ""⟩

/-- The JSON value of a pattern. -/
def toJson (config : PatternConfig) : Json :=
  .obj [("name", .str config.name), ("regex", .str config.regex),
    ("masked_prefix", .str config.tokenLead)]

end PatternConfig

/-- The patterns that are used when none are configured: IPv4 addresses, then host names with at
least one dot. -/
def defaultPatterns : List PatternConfig :=
  [{ name := "ipv4"
     regex := "\\b(?:\\d\x7b1,3\x7d\\.)\x7b3\x7d\\d\x7b1,3\x7d\\b"
     tokenLead := "IP-" },
   { name := "hostname"
     regex := "\\b(?:[a-zA-Z0-9](?:[a-zA-Z0-9-]\x7b0,61\x7d[a-zA-Z0-9])?\\.)+[a-zA-Z]\x7b2,63\x7d\\b"
     tokenLead := "HOST-" }]

/-- A compiled detection pattern. -/
structure Pattern where
  name : String
  regex : Regex
  tokenLead : String
deriving Inhabited

namespace Pattern

/-- The pattern of a configuration. -/
def compile (config : PatternConfig) : Except SetupError Pattern :=
  match Regex.compile config.regex with
  | .ok regex => .ok ⟨config.name, regex, config.tokenLead⟩
  | .error fault => .error (.patternCompilation config.name fault)

/-- The category of what the pattern finds. -/
def category (pattern : Pattern) : Category := .ofPattern pattern.name

/-- Every matched text, from left to right, as often as it occurs. -/
def findAll (pattern : Pattern) (text : String) : List String :=
  pattern.regex.findAll text

/-- The configuration that the pattern was compiled from. -/
def config (pattern : Pattern) : PatternConfig :=
  ⟨pattern.name, pattern.regex.source, pattern.tokenLead⟩

/-- What a pattern shows of itself. -/
def describe (pattern : Pattern) : String :=
  "Pattern \x7b name: " ++ Text.quoted pattern.name ++ ", regex: "
    ++ Text.quoted pattern.regex.source ++ ", masked_prefix: " ++ Text.quoted pattern.tokenLead
    ++ " \x7d"

end Pattern

/-- Compiled patterns in the order in which they are applied, with a table of what the tokens of
each name begin with. -/
structure PatternSet where
  patterns : List Pattern
  prefixes : Synthesizer.Prefixes
deriving Inhabited

namespace PatternSet

/-- No patterns. -/
def empty : PatternSet := ⟨[], []⟩

/-- The set with one more pattern, which is applied last. Of patterns with one name the first
decides what their tokens begin with. -/
def push (set : PatternSet) (pattern : Pattern) : PatternSet where
  patterns := set.patterns ++ [pattern]
  prefixes := set.prefixes.enter pattern.name pattern.tokenLead

/-- The set with the pattern of one more configuration, unless that is refused. -/
def add (set : PatternSet) (config : PatternConfig) : Except SetupError PatternSet :=
  (Pattern.compile config).map set.push

/-- All configurations compiled, in order; the first that is refused is the error. -/
def compile (configs : List PatternConfig) : Except SetupError PatternSet :=
  configs.foldlM add empty

/-- The number of patterns. -/
def size (set : PatternSet) : Nat := set.patterns.length

/-- What the tokens of patterns with a name begin with. -/
def prefixFor (set : PatternSet) (name : String) : Option String :=
  set.prefixes.lookup name

/-- The synthesizer for the tokens of these patterns. -/
def synthesizer (set : PatternSet) : Synthesizer :=
  Synthesizer.sha256 set.prefixes

end PatternSet

end Masking
