import Masking.Engine
import Masking.Store.Config

/-! Engines started from their configuration. A backend that has been handed over is closed on every
way that does not lead to an engine. -/

namespace Masking

open Store (Error Program)

/-- Everything needed to start an engine. -/
structure EngineConfig where
  fieldsToMask : List String
  patterns : List PatternConfig
  store : Store.Config
deriving Inhabited

/-- Why an engine does not start. -/
inductive StartupError where
  | setup (error : SetupError)
  | store (error : Error)
deriving DecidableEq, Inhabited

/-- The text of an error. -/
def StartupError.text : StartupError → String
  | .setup error => error.text
  | .store error => error.text

namespace MaskingEngine

/-- The engine of a configuration whose patterns have been compiled, over a backend of a name. -/
def ofConfig (config : EngineConfig) (patterns : PatternSet) (backend : String) : MaskingEngine :=
  ⟨config.fieldsToMask, patterns, ⟨backend, patterns.synthesizer, config.store.expiry⟩⟩

/-- Close a backend on which startup has failed. That closing fails too is only logged. -/
def closeAfterFailure : Program Unit := do
  match ← Program.release with
  | .ok () => pure ()
  | .error error =>
      Program.log .warn "Failed to close store after startup failure" [("error", error.text)]

/-- Start an engine whose patterns have been compiled: the backend has to answer a ping, and is
closed when it does not. -/
def launch (config : EngineConfig) (patterns : PatternSet) (backend : String) :
    Program (Except StartupError MaskingEngine) := do
  match ← Program.check with
  | .error error =>
      closeAfterFailure
      pure (.error (.store (.connection backend config.store.backend.address error.text)))
  | .ok () =>
      let number (n : Nat) : String := String.ofList (Text.decimal n)
      Program.log .info "Masking engine started"
        [("backend", backend), ("patterns", number patterns.size),
         ("fields", number config.fieldsToMask.length),
         ("ttl_seconds", number config.store.tokenTtl)]
      pure (.ok (.ofConfig config patterns backend))

/-- Start an engine over a backend that is open already. The backend belongs to the engine from
here on: it is closed when a pattern is refused or the backend does not answer. -/
def startWithBackend (config : EngineConfig) (backend : String) :
    Program (Except StartupError MaskingEngine) := do
  match PatternSet.compile config.patterns with
  | .error error =>
      closeAfterFailure
      pure (.error (.setup error))
  | .ok patterns => launch config patterns backend

end MaskingEngine

end Masking
