import Masking.Store.Key
import Masking.Store.Program
import Masking.Synthesizer

/-! The mapping between values and tokens over a backend: a token is looked up by its value, made
where there is none, and written back together with the entry that leads from it to the value. -/

namespace Masking

open Store (Error Key Program Duration)

/-- A store of tokens over a key-value backend. What the backend holds is used first, so that
everyone who shares it gets the same tokens; what it does not hold is synthesized and written
back. -/
structure TokenStore where
  /-- The name of the backend, for the log. -/
  backend : String
  synthesizer : Synthesizer
  /-- The lifetime of both entries of a mapping; without one they never expire. -/
  ttl : Option Duration

namespace TokenStore

/-- Write the token of a value. A failure is logged and otherwise ignored. -/
def writeForward (store : TokenStore) (category : Category) (value masked : String) :
    Program Unit := do
  match ← Program.write (Key.ofValue category value).text masked store.ttl with
  | .ok () => pure ()
  | .error error =>
      Program.tell (.writeFailure .forward)
      Program.log .warn "Failed to store masked value, using synthesized value"
        [("category", category.tag), ("backend", store.backend), ("error", error.text)]
  Program.tell (.timed "set_forward")

/-- Write the value behind a token. A failure is logged and otherwise ignored. -/
def writeReverse (store : TokenStore) (category : Category) (value masked : String) :
    Program Unit := do
  match ← Program.write (Key.ofMasked category masked).text value store.ttl with
  | .ok () => pure ()
  | .error error =>
      Program.tell (.writeFailure .reverse)
      Program.log .debug "Reverse mapping not stored"
        [("category", category.tag), ("error", error.text)]
  Program.tell (.timed "set_reverse")

/-- The token of a value in a category, made when the store has none. It fails only when the store
cannot be read; entries that cannot be written are lost without harm, because synthesis gives the
same token again. -/
def getOrCreate (store : TokenStore) (value : String) (category : Category) :
    Program (Except Error String) := do
  let cached ← Program.read (Key.ofValue category value).text
  Program.tell (.timed "get")
  match cached with
  | .error error =>
      Program.tell .readError
      pure (.error error)
  | .ok (some masked) =>
      Program.tell .hit
      Program.log .trace "Store hit" [("category", category.tag)]
      pure (.ok masked)
  | .ok none =>
      Program.tell .miss
      Program.tell .synthesized
      let masked := store.synthesizer value category
      store.writeForward category value masked
      store.writeReverse category value masked
      pure (.ok masked)

/-- The value behind a token, if the store still has it. -/
def lookupValue (masked : String) (category : Category) :
    Program (Except Error (Option String)) :=
  Program.read (Key.ofMasked category masked).text

end TokenStore

end Masking
