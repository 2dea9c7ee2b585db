import Masking.Settings.Raw

/-! Environment variables as a source of settings. -/

namespace Masking

/-- Environment variables with their values. -/
abbrev Environment := List (String × String)

namespace Environment

/-- A character of a variable's name in lower case. Beyond ASCII the Kelvin sign is the only character
whose lower case is the letter of a known name. No setting has a name with any other one in it, so
these are left as they are. -/
def lowerInName (c : Char) : Char :=
  if c = '\u212a' then 'k' else Text.lowerAscii c

/-- The key of a setting that a variable is for. Names are compared in lower case, and two
underscores separate the steps of a path. -/
def keyOf (name : String) : Option String :=
  (Text.stripLead "redmask_".toList (name.toList.map lowerInName)).map fun rest =>
    String.ofList (Text.replaceAll ['_', '_'] ['.'] rest)

/-- What the value of a variable means. It is tried as a truth value, an integer and a number before
it is taken for a text; of a list the items are separated by commas. -/
def valueOf (key text : String) : Raw :=
  let word := String.ofList (text.toList.map Text.lowerAscii)
  if word = "true" then .bool true
  else if word = "false" then .bool false
  else
    match Text.readSigned64 10 text.toList with
    | some n => .int n
    | none =>
        match Binary64.read? text.toList with
        | some number => .float number
        | none =>
            if key = "fields_to_mask" then
              .list ((Text.splitOn ',' text.toList).map fun item => .text (String.ofList item))
            else .text text

/-- The settings that are made by variables. -/
def source (environment : Environment) : List (String × Raw) :=
  environment.filterMap fun (name, text) =>
    (keyOf name).map fun key => (key, valueOf key text)

end Environment

end Masking
