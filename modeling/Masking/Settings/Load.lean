import Masking.Settings.Environment
import Masking.Settings.File

/-! Settings of a process: its file, with the environment laid over it, converted and validated. -/

namespace Masking

/-- The variable that names the settings file. -/
def configPathVariable : String := "REDMASK_CONFIG"

/-- The settings file when none is named. -/
def defaultConfigPath : String := "redmask.yaml"

/-- Where a settings file is looked for, and what is found there. -/
inductive SettingsFile where
  /-- None is looked for. -/
  | unnamed
  /-- There is none, which may or may not be allowed. -/
  | missing (required : Bool)
  /-- There is one. -/
  | found (text : String)
deriving DecidableEq, Inhabited

namespace Settings

/-- The members of a settings file. -/
def fileSource : SettingsFile → Option (List (String × Raw))
  | .unnamed => some []
  | .missing required => if required then none else some []
  | .found text => Raw.ofFile text

/-- The settings of a file with those of the environment laid over them, before they are
validated. -/
def gather (file : SettingsFile) (environment : Environment) : Option Settings := do
  let members ← fileSource file
  ((Raw.layer (.table []) members).layer environment.source).toSettings

/-- The settings of a file with those of the environment laid over them. -/
def loadFrom (file : SettingsFile) (environment : Environment) : Except SettingsError Settings :=
  finish .load (gather file environment)

/-- The settings of a process. A file that is named has to be there, the default one need not. -/
def load (environment : Environment) (readFile : String → Option String) :
    Except SettingsError Settings :=
  let file : SettingsFile :=
    match environment.lookup configPathVariable with
    | some path =>
        match readFile path with
        | some text => .found text
        | none => .missing true
    | none =>
        match readFile defaultConfigPath with
        | some text => .found text
        | none => .missing false
  loadFrom file environment

end Settings

end Masking
