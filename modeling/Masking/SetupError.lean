import Masking.Regex.Matching

/-! What can be wrong with a configuration. -/

namespace Masking

/-- Why an engine cannot be set up from its settings. -/
inductive SetupError where
  /-- The regular expression of a pattern is refused. -/
  | patternCompilation (name : String) (fault : Regex.Fault)
  /-- A setting has a value that is not allowed. -/
  | invalidConfig (field message : String)
deriving DecidableEq, Inhabited

namespace SetupError

/-- The text of an error; what is wrong with a regular expression is left to the reader. -/
def text : SetupError → String
  | .patternCompilation name _ => "failed to compile regex pattern '" ++ name ++ "': "
  | .invalidConfig field message => "invalid configuration for '" ++ field ++ "': " ++ message

/-- Whether a pattern is at fault. -/
def isPatternError : SetupError → Bool
  | .patternCompilation .. => true
  | _ => false

/-- Whether a setting is at fault. -/
def isConfigError : SetupError → Bool
  | .invalidConfig .. => true
  | _ => false

end SetupError

end Masking
