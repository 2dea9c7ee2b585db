import Masking.Unicode.Categories
import Masking.Unicode.CharSet
import Masking.Unicode.Properties
import Masking.Unicode.Scripts

/-! The classes of characters that the tables describe, by their names. -/

namespace Masking.Unicode

open CharSet

/-- The characters of any of several sets. -/
def unions (sets : List CharSet) : CharSet :=
  sets.foldl CharSet.union []

/-- General categories by their names, in lower case and without separators. -/
def categories : List (List String × CharSet) :=
  [(["lu", "uppercaseletter"], parse Data.upperLetter),
   (["ll", "lowercaseletter"], parse Data.lowerLetter),
   (["lt", "titlecaseletter"], parse Data.titleLetter),
   (["lm", "modifierletter"], parse Data.modifierLetter),
   (["lo", "otherletter"], parse Data.otherLetter),
   (["mn", "nonspacingmark"], parse Data.nonspacingMark),
   (["mc", "spacingmark"], parse Data.spacingMark),
   (["me", "enclosingmark"], parse Data.enclosingMark),
   (["nd", "decimalnumber", "digit"], parse Data.decimalNumber),
   (["nl", "letternumber"], parse Data.letterNumber),
   (["no", "othernumber"], parse Data.otherNumber),
   (["pc", "connectorpunctuation"], parse Data.connectorPunctuation),
   (["pd", "dashpunctuation"], parse Data.dashPunctuation),
   (["ps", "openpunctuation"], parse Data.openPunctuation),
   (["pe", "closepunctuation"], parse Data.closePunctuation),
   (["pi", "initialpunctuation"], parse Data.initialPunctuation),
   (["pf", "finalpunctuation"], parse Data.finalPunctuation),
   (["po", "otherpunctuation"], parse Data.otherPunctuation),
   (["sm", "mathsymbol"], parse Data.mathSymbol),
   (["sc", "currencysymbol"], parse Data.currencySymbol),
   (["sk", "modifiersymbol"], parse Data.modifierSymbol),
   (["so", "othersymbol"], parse Data.otherSymbol),
   (["zs", "spaceseparator"], parse Data.spaceSeparator),
   (["zl", "lineseparator"], parse Data.lineSeparator),
   (["zp", "paragraphseparator"], parse Data.paragraphSeparator),
   (["cc", "control", "cntrl"], parse Data.control),
   (["cf", "format"], parse Data.formatControl),
   (["co", "privateuse"], parse Data.privateUse)]

/-- The set of the first entry of a table that has a name. -/
def find (name : String) : List (List String × CharSet) → Option CharSet
  | [] => none
  | (names, set) :: rest => if names.contains name then some set else find name rest

/-- The characters of a general category by its short name. -/
def category (name : String) : CharSet :=
  (find name categories).getD []

/-- Letters. -/
def letter : CharSet :=
  unions [category "lu", category "ll", category "lt", category "lm", category "lo"]

/-- Marks. -/
def mark : CharSet :=
  unions [category "mn", category "mc", category "me"]

/-- Decimal digits. -/
def digit : CharSet := category "nd"

/-- Assigned characters. -/
def assigned : CharSet :=
  unions (categories.map Prod.snd)

/-- Alphabetic characters. -/
def alphabetic : CharSet :=
  unions [letter, category "nl", parse Data.otherAlphabetic]

/-- Numeric characters. -/
def numeric : CharSet :=
  unions [category "nd", category "nl", category "no"]

/-- White space. -/
def whiteSpace : CharSet := parse Data.whiteSpace

/-- Zero-width characters that join their neighbours or keep them apart. -/
def joinControl : CharSet := [(0x200C, 0x200D)]

/-- The characters of words: alphabetic ones, marks, digits, connectors, and join controls. -/
def word : CharSet :=
  unions [alphabetic, mark, digit, category "pc", joinControl]

/-- Characters that extend the grapheme before them. -/
def graphemeExtend : CharSet :=
  unions [category "mn", category "me", parse Data.otherGraphemeExtend]

/-- Characters that may begin an identifier. -/
def idStart : CharSet :=
  difference (unions [letter, category "nl", parse Data.otherIdStart]) [(0x2E2F, 0x2E2F)]

/-- Characters that may go on an identifier. -/
def idContinue : CharSet :=
  unions [idStart, category "mn", category "mc", digit, category "pc", parse Data.otherIdContinue]

/-- Lower-case characters. -/
def lowercase : CharSet :=
  union (category "ll") (parse Data.otherLowercase)

/-- Upper-case characters. -/
def uppercase : CharSet :=
  union (category "lu") (parse Data.otherUppercase)

/-- Groups of general categories by their names. -/
def categoryGroup (name : String) : Option CharSet :=
  if ["l", "letter"].contains name then some letter
  else if ["lc", "casedletter"].contains name then
    some (unions [category "lu", category "ll", category "lt"])
  else if ["m", "mark", "combiningmark"].contains name then some mark
  else if ["n", "number"].contains name then some numeric
  else if ["p", "punctuation", "punct"].contains name then
    some (unions (["pc", "pd", "ps", "pe", "pi", "pf", "po"].map category))
  else if ["s", "symbol"].contains name then some (unions (["sm", "sc", "sk", "so"].map category))
  else if ["z", "separator"].contains name then some (unions (["zs", "zl", "zp"].map category))
  else if ["c", "other"].contains name then
    some (unions [category "cc", category "cf", category "co", complement assigned])
  else if ["cn", "unassigned"].contains name then some (complement assigned)
  else if ["cs", "surrogate"].contains name then some []
  else if name = "any" then some everything
  else if name = "assigned" then some assigned
  else if name = "ascii" then some [(0, 0x7F)]
  else none

/-- The characters of a general category or of a group of them. -/
def categoryNamed (name : String) : Option CharSet :=
  match find name categories with
  | some set => some set
  | none => categoryGroup name

/-- The set of the first entry of a table of texts that has a name. -/
def findText (name : String) : List (String × String) → Option CharSet
  | [] => none
  | (names, text) :: rest =>
      if (Text.words names.toList).contains name.toList then some (parse text)
      else findText name rest

/-- The characters of a script. -/
def scriptNamed (name : String) : Option CharSet :=
  if ["zzzz", "unknown"].contains name then
    some (complement (unions (Data.scripts.map fun entry => parse entry.2)))
  else findText name Data.scripts

/-- The characters of a binary property that is put together from others. -/
def derivedProperty (name : String) : Option CharSet :=
  if ["alpha", "alphabetic"].contains name then some alphabetic
  else if ["lower", "lowercase"].contains name then some lowercase
  else if ["upper", "uppercase"].contains name then some uppercase
  else if name = "cased" then some (unions [lowercase, uppercase, category "lt"])
  else if ["ci", "caseignorable"].contains name then
    some (unions [category "mn", category "me", category "cf", category "lm", category "sk",
      parse Data.otherCaseIgnorable])
  else if name = "math" then some (union (category "sm") (parse Data.otherMath))
  else if ["grext", "graphemeextend"].contains name then some graphemeExtend
  else if ["grbase", "graphemebase"].contains name then
    some (difference assigned (unions [category "cc", category "cf", category "co", category "zl",
      category "zp", graphemeExtend]))
  else if ["ids", "idstart"].contains name then some idStart
  else if ["idc", "idcontinue"].contains name then some idContinue
  else if ["xids", "xidstart"].contains name then
    some (difference idStart (parse Data.notXidStart))
  else if ["xidc", "xidcontinue"].contains name then
    some (difference idContinue (parse Data.notXidContinue))
  else none

/-- The characters of a binary property. -/
def propertyNamed (name : String) : Option CharSet :=
  match derivedProperty name with
  | some set => some set
  | none => findText name Data.properties

/-- The characters that show as themselves: neither control, format, private-use or unassigned
characters nor white space, except the blank. -/
def printable : CharSet :=
  union [(0x20, 0x20)]
    (difference assigned (unions (["cc", "cf", "co", "zl", "zp", "zs"].map category)))

/-- Whether a character is white space. -/
def isWhiteSpace (c : Char) : Bool :=
  whiteSpace.contains c.toNat

/-- Whether a text has no character but white space. -/
def isBlank (text : String) : Bool :=
  text.toList.all isWhiteSpace

end Masking.Unicode
