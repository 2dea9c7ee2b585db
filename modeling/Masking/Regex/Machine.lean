import Masking.Regex.Expr

/-! Matching by a machine that tries all ways at once, one character at a time. Threads are kept in
order of preference, so the match is the one that a search with backtracking would find first, and
the time it takes is bounded by the code and the text. -/

namespace Masking.Regex

open Unicode (CharSet)

/-- An instruction of a matching machine; numbers are places in its code. -/
inductive Instruction where
  /-- Go on after one character of a set. -/
  | char (set : CharSet) (next : Nat)
  /-- Go on at both places, preferably at the first. -/
  | split (first second : Nat)
  /-- Go on if a condition holds. -/
  | look (look : Look) (next : Nat)
  /-- A match ends here. -/
  | accept
  /-- No match goes through here. -/
  | fail
deriving Inhabited

/-- The code of a machine. -/
abbrev Code := Array Instruction

/-- Adds code that goes on at a place, and tells where it begins. -/
abbrev Emit := Nat → Code → Nat × Code

namespace Code

/-- A split that prefers going on with the body when it is greedy. -/
def branch (greedy : Bool) (body exit : Nat) : Instruction :=
  if greedy then .split body exit else .split exit body

/-- Code for a number of copies in a row. -/
def copies (body : Emit) : Nat → Emit
  | 0, next, code => (next, code)
  | count + 1, next, code =>
      let (entry, code) := copies body count next code
      body entry code

/-- Code for at most a number of copies: before each one the rest may be left out. -/
def optional (greedy : Bool) (body : Emit) : Nat → Emit
  | 0, next, code => (next, code)
  | count + 1, next, code =>
      let (rest, code) := optional greedy body count next code
      let (entry, code) := body rest code
      (code.size, code.push (branch greedy entry next))

/-- Code for at least one copy. -/
def plus (greedy : Bool) (body : Emit) : Emit := fun next code =>
  let loop := code.size
  let (entry, code) := body loop (code.push .fail)
  (entry, code.set! loop (branch greedy entry next))

/-- Code for any number of copies. When the body may match nothing, going round again must not be
preferred to what an earlier choice offers, so the loop is an option of at least one copy. -/
def star (greedy nullable : Bool) (body : Emit) : Emit := fun next code =>
  if nullable then
    let (entry, code) := plus greedy body next code
    (code.size, code.push (branch greedy entry next))
  else
    let loop := code.size
    let (entry, code) := body loop (code.push .fail)
    (loop, code.set! loop (branch greedy entry next))

/-- Code for an expression. -/
def emit : Expr → Emit
  | .empty, next, code => (next, code)
  | .set set, next, code => (code.size, code.push (.char set next))
  | .look look, next, code => (code.size, code.push (.look look next))
  | .seq first second, next, code =>
      let (entry, code) := emit second next code
      emit first entry code
  | .alt first second, next, code =>
      let (b, code) := emit second next code
      let (a, code) := emit first next code
      (code.size, code.push (.split a b))
  | .repeated 0 none greedy body, next, code =>
      star greedy body.isNullable (fun next code => emit body next code) next code
  | .repeated (min + 1) none greedy body, next, code =>
      let (entry, code) := plus greedy (fun next code => emit body next code) next code
      copies (fun next code => emit body next code) min entry code
  | .repeated min (some max) greedy body, next, code =>
      let (entry, code) :=
        optional greedy (fun next code => emit body next code) (max - min) next code
      copies (fun next code => emit body next code) min entry code
  | .group body, next, code => emit body next code

end Code

/-- A matching machine: its code, and where it starts. -/
structure Machine where
  code : Code
  start : Nat
deriving Inhabited

namespace Machine

/-- The machine of an expression. -/
def ofExpr (e : Expr) : Machine :=
  let (start, code) := Code.emit e 0 #[.accept]
  ⟨code, start⟩

/-- A place in the code that a match being tried has come to, and where in the text it began. -/
structure Thread where
  place : Nat
  origin : Nat

/-- For each place of the code, the position of the text for which it was reached last. -/
abbrev Marks := Array Nat

/-- Follow all instructions that take no character from the places on a stack, the one on top first.
A place that has been reached at this position is not followed again: what reached it first is
preferred. The threads found so far are kept in reverse. -/
def follow (code : Code) (before after : Option Char) (stamp origin : Nat) :
    Nat → List Nat → Marks → List Thread → List Thread × Marks
  | 0, _, marks, found => (found, marks)
  | _ + 1, [], marks, found => (found, marks)
  | fuel + 1, place :: stack, marks, found =>
      if marks.getD place 0 = stamp then follow code before after stamp origin fuel stack marks found
      else
        let marks := marks.setIfInBounds place stamp
        match code.getD place .fail with
        | .split first second =>
            follow code before after stamp origin fuel (first :: second :: stack) marks found
        | .look look next =>
            if look.holds before after then
              follow code before after stamp origin fuel (next :: stack) marks found
            else follow code before after stamp origin fuel stack marks found
        | .fail => follow code before after stamp origin fuel stack marks found
        | _ => follow code before after stamp origin fuel stack marks (⟨place, origin⟩ :: found)

/-- Enough fuel to follow one place: each place is followed once and puts two on the stack. -/
def followFuel (code : Code) : Nat := 2 * code.size + 2

/-- Let the threads, in order of preference, take a character, or reach the end of a match. The
match found, if there is one, drops all threads after it. The result has the places to be followed
at the next position. -/
def advance (code : Code) (after : Option Char) : List Thread → List Thread × Option Nat
  | [] => ([], none)
  | thread :: rest =>
      match code.getD thread.place .fail with
      | .accept => ([], some thread.origin)
      | .char set next =>
          let (threads, found) := advance code after rest
          match after with
          | some c =>
              if set.contains c.toNat then (⟨next, thread.origin⟩ :: threads, found)
              else (threads, found)
          | none => (threads, found)
      | _ => advance code after rest

/-- Follow all threads from the places they have come to. -/
def followAll (code : Code) (before after : Option Char) (stamp : Nat) :
    List Thread → Marks → List Thread → List Thread × Marks
  | [], marks, found => (found, marks)
  | thread :: rest, marks, found =>
      let (found, marks) :=
        follow code before after stamp thread.origin (followFuel code) [thread.place] marks found
      followAll code before after stamp rest marks found

/-- Run through the text from a position on. `threads` are the places reached, in order of
preference; as long as no match has been found, one may also begin here, less preferred than all
others. The result is the beginning and the end of the match that is preferred. -/
def scan (machine : Machine) :
    (position : Nat) → (before : Option Char) → (threads : List Thread) → Marks →
      (best : Option (Nat × Nat)) → List Char → Option (Nat × Nat)
  | position, before, threads, marks, best, text =>
      let after := text.head?
      let all :=
        match best with
        | none => threads ++ [⟨machine.start, position⟩]
        | some _ => threads
      let (reached, marks) := followAll machine.code before after (position + 1) all marks []
      let (threads, found) := advance machine.code after reached.reverse
      let best :=
        match found with
        | some origin => some (origin, position)
        | none => best
      match text with
      | [] => best
      | c :: rest =>
          if threads.isEmpty ∧ best.isSome then best
          else scan machine (position + 1) (some c) threads marks best rest

/-- The leftmost match in a text, where alternatives that are tried first are preferred: how many
characters come before it, and the number of characters up to its end. `before` is the character
before the text. -/
def search (machine : Machine) (before : Option Char) (text : List Char) : Option (Nat × Nat) :=
  scan machine 0 before [] (Array.replicate machine.code.size 0) none text

end Machine

end Masking.Regex
