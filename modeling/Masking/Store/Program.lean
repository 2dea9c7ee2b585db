import Masking.Log
import Masking.Store.Error

/-! Programs that talk to a key-value backend. A program is a tree: each operation branches on how
it ended, so nothing is assumed of the backend. -/

namespace Masking.Store

/-- A span of time in milliseconds. -/
abbrev Duration := Nat

/-- Which of the two entries of a mapping a write was for. -/
inductive Entry where
  | forward
  | reverse
deriving DecidableEq, Inhabited

/-- The name of an entry in metrics. -/
def Entry.name : Entry → String
  | .forward => "forward"
  | .reverse => "reverse"

/-- What a masking unit is: an attribute, or a match found in a body. -/
inductive UnitKind where
  | field
  | found
deriving DecidableEq, Inhabited

/-- The name of a kind of unit in metrics. -/
def UnitKind.name : UnitKind → String
  | .field => "field"
  | .found => "match"

/-- Something a program tells about itself besides its result: a line of its log, or a count. -/
inductive Event where
  | log (line : LogLine)
  /-- A token was found in the store. -/
  | hit
  /-- No token was found in the store. -/
  | miss
  /-- Looking for a token failed. -/
  | readError
  /-- An entry could not be written. -/
  | writeFailure (entry : Entry)
  /-- A store operation has ended. -/
  | timed (operation : String)
  /-- The synthesizer ran. -/
  | synthesized
  /-- A masking unit has been dealt with. -/
  | unit (kind : UnitKind) (masked : Bool)
deriving DecidableEq, Inhabited

/-- The same event; a log line is made to belong to a piece of work. -/
def Event.within (span : Span) : Event → Event
  | .log line => .log { line with span := some span }
  | event => event

/-- A computation that talks to a key-value backend. Every operation may fail, and what follows
depends on how it ended. -/
inductive Program (α : Type) where
  | done (value : α)
  | get (key : String) (next : Except Error (Option String) → Program α)
  | set (key value : String) (ttl : Option Duration) (next : Except Error Unit → Program α)
  | ping (next : Except Error Unit → Program α)
  | close (next : Except Error Unit → Program α)
  | emit (event : Event) (next : Program α)

namespace Program

/-- The program that goes on with the result of another one. -/
def bind {α β : Type} (program : Program α) (next : α → Program β) : Program β :=
  match program with
  | .done value => next value
  | .get key rest => .get key fun answer => bind (rest answer) next
  | .set key value ttl rest => .set key value ttl fun answer => bind (rest answer) next
  | .ping rest => .ping fun answer => bind (rest answer) next
  | .close rest => .close fun answer => bind (rest answer) next
  | .emit event rest => .emit event (bind rest next)

instance : Monad Program where
  pure := Program.done
  bind := Program.bind

/-- Read a key. -/
def read (key : String) : Program (Except Error (Option String)) :=
  .get key .done

/-- Write a key; without a lifetime the entry never expires. -/
def write (key value : String) (ttl : Option Duration) : Program (Except Error Unit) :=
  .set key value ttl .done

/-- Ask whether the backend can be reached. -/
def check : Program (Except Error Unit) :=
  .ping .done

/-- Give up the backend's connection. -/
def release : Program (Except Error Unit) :=
  .close .done

/-- Tell an event. -/
def tell (event : Event) : Program Unit :=
  .emit event (.done ())

/-- Write a line to the log. -/
def log (level : Level) (message : String) (fields : List (String × String)) : Program Unit :=
  tell (.log ⟨level, message, fields, none⟩)

end Program

end Masking.Store
