/-! Lines of the log, with the fields and the piece of work they show. -/

namespace Masking

/-- How serious a log line is. -/
inductive Level where
  | error
  | warn
  | info
  | debug
  | trace
deriving DecidableEq, Inhabited

/-- The name of a level, as log lines show it. -/
def Level.name : Level → String
  | .error => "ERROR"
  | .warn => "WARN"
  | .info => "INFO"
  | .debug => "DEBUG"
  | .trace => "TRACE"

/-- The work that a log line belongs to. -/
structure Span where
  name : String
  fields : List (String × String)
deriving DecidableEq, Inhabited

/-- One line of the log. Fields are in the order in which they are shown. -/
structure LogLine where
  level : Level
  message : String
  fields : List (String × String)
  span : Option Span
deriving DecidableEq, Inhabited

namespace LogLine

/-- Named values, each after a blank. -/
def showFields : List (String × String) → String
  | [] => ""
  | (name, value) :: rest => " " ++ name ++ "=" ++ value ++ showFields rest

/-- The text of a line: level, message, its fields, and after a bar the work it belongs to. -/
def text (line : LogLine) : String :=
  let event := line.level.name ++ " " ++ line.message ++ showFields line.fields
  match line.span with
  | some span => event ++ " | " ++ span.name ++ showFields span.fields
  | none => event

end LogLine

end Masking
