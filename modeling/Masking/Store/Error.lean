/-! Failures of a store, by their cause. -/

namespace Masking.Store

/-- A failure of a store backend. An absent key is not one. -/
inductive Error where
  /-- The store could not be reached at startup. -/
  | connection (backend address message : String)
  /-- An operation failed on its way to the store or in it. -/
  | transport (backend operation message : String)
  /-- The caller cancelled the operation. -/
  | cancelled (operation : String)
  /-- The caller's deadline passed before the operation ended. -/
  | deadlineExceeded (operation : String)
deriving DecidableEq, Inhabited

namespace Error

/-- The text of an error. -/
def text : Error → String
  | .connection backend address message =>
      "failed to connect to " ++ backend ++ " store at " ++ address ++ ": " ++ message
  | .transport backend operation message => backend ++ " " ++ operation ++ " failed: " ++ message
  | .cancelled operation => "store " ++ operation ++ " cancelled"
  | .deadlineExceeded operation => "store " ++ operation ++ " exceeded the caller deadline"

/-- The name of the kind of an error. -/
def kind : Error → String
  | .connection .. => "Connection"
  | .transport .. => "Transport"
  | .cancelled _ => "Cancelled"
  | .deadlineExceeded _ => "DeadlineExceeded"

/-- Whether an error has to end the startup. -/
def isFatal : Error → Bool
  | .connection .. => true
  | _ => false

/-- Whether the caller gave up on the operation. -/
def isInterrupted : Error → Bool
  | .cancelled _ => true
  | .deadlineExceeded _ => true
  | _ => false

end Error

end Masking.Store
