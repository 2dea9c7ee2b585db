import Masking.Proofs.Json.Numbers
import Masking.Proofs.Json.Strings

/-! Rows of pieces, with commas between them and a closing character at the end. The items of an
array, the members of an object and the fields of a structure are such rows, and one loop goes over
all of them: of a piece it only matters how it is read where a value may end. -/

namespace Masking.Json

section Fronts

variable {text rest : List Char} {c close : Char}

/-- The text begins as the text of a value does: with no blank, and with nothing that ends a
container. -/
def Begins : List Char → Prop
  | [] => False
  | c :: _ => isBlank c = false ∧ c ≠ ']' ∧ c ≠ '\x7d'

theorem Begins.append (h : Begins text) (rest : List Char) : Begins (text ++ rest) := by
  cases text with
  | nil => exact h.elim
  | cons c text => exact h

theorem Begins.skipBlanks (h : Begins text) : skipBlanks text = text := by
  cases text with
  | nil => rfl
  | cons c text => rw [Json.skipBlanks, if_neg (by rw [h.1]; exact Bool.false_ne_true)]

theorem begins_quote (text : String) : Begins (quote text) :=
  ⟨by decide, by decide, by decide⟩

/-- The character ends a container. -/
def Closes (c : Char) : Prop := c = ']' ∨ c = '\x7d'

theorem Closes.ended (closes : Closes close) (rest : List Char) : Ended (close :: rest) :=
  Or.inr closes

theorem scanSeparator_close (closes : Closes close) (rest : List Char) :
    scanSeparator close (close :: rest) = .ok (true, rest) := by
  rcases closes with rfl | rfl <;> rfl

theorem scanSeparator_comma (closes : Closes close) (h : Begins text) :
    scanSeparator close (',' :: text) = .ok (false, text) := by
  have hSkip : skipBlanks (',' :: text) = ',' :: text := rfl
  cases text with
  | nil => exact h.elim
  | cons c text =>
      obtain ⟨_, hBracket, hBrace⟩ := id h
      rw [scanSeparator, hSkip]
      rcases closes with rfl | rfl
      · simp [h.skipBlanks, hBracket]
      · simp [h.skipBlanks, hBrace]

end Fronts

/-- The text of a row of pieces, its closing character included. -/
def row (close : Char) : List (List Char) → List Char
  | [] => [close]
  | [piece] => piece ++ [close]
  | piece :: next :: later => piece ++ ',' :: row close (next :: later)

theorem begins_row {close : Char} {piece : List Char} (h : Begins piece)
    (later : List (List Char)) : Begins (row close (piece :: later)) := by
  cases later <;> exact h.append _

/-- The text is read as the value with fuel for the length of it, whatever comes after it where it
ends. -/
def ReadsBack {α : Type} (read : Nat → List Char → Except Fault (α × List Char))
    (text : List Char) (value : α) : Prop :=
  ∀ fuel rest, 2 * text.length ≤ fuel → Ended rest → read fuel (text ++ rest) = .ok (value, rest)

section Folds

variable {β : Type}

/-- Goes over a row that is not empty. Each piece takes the state to the next one. -/
def foldRow (close : Char) (step : β → Nat → List Char → Except Fault (β × List Char)) :
    Nat → β → List Char → Except Fault (β × List Char)
  | 0, _, _ => .error .truncated
  | fuel + 1, state, text => do
      let (next, rest) ← step state fuel text
      match ← scanSeparator close rest with
      | (true, rest) => .ok (next, rest)
      | (false, rest) => foldRow close step fuel next rest

/-- The pieces of a row take one state to another. -/
inductive Folds (step : β → Nat → List Char → Except Fault (β × List Char)) :
    β → List (List Char) → β → Prop
  | done {state : β} : Folds step state [] state
  | next {state middle final : β} {piece : List Char} {later : List (List Char)}
      (begins : Begins piece) (reads : ReadsBack (step state) piece middle)
      (goes : Folds step middle later final) : Folds step state (piece :: later) final

variable {close : Char} {step : β → Nat → List Char → Except Fault (β × List Char)}
  {state final : β} {pieces : List (List Char)} {text rest : List Char} {fuel : Nat}

/-- The loop goes over a row as its pieces say, with fuel for the length of the row. -/
theorem Folds.foldRow (h : Folds step state pieces final) (closes : Closes close)
    (nonempty : pieces ≠ []) (enough : 2 * (row close pieces).length ≤ fuel) :
    foldRow close step fuel state (row close pieces ++ rest) = .ok (final, rest) := by
  induction h generalizing fuel with
  | done => exact absurd rfl nonempty
  | @next state middle final piece later begins reads goes ih =>
      cases later with
      | nil =>
          cases goes
          rw [row, List.length_append, List.length_singleton] at enough
          obtain ⟨fuel, rfl⟩ := Nat.exists_eq_add_one_of_ne_zero (show fuel ≠ 0 by omega)
          have hFirst := reads fuel (close :: rest) (by omega) (closes.ended rest)
          rw [row, List.append_assoc, List.singleton_append, Json.foldRow, hFirst]
          simp only [bind, Except.bind, scanSeparator_close closes]
      | cons next later =>
          rw [row, List.length_append, List.length_cons] at enough
          obtain ⟨fuel, rfl⟩ := Nat.exists_eq_add_one_of_ne_zero (show fuel ≠ 0 by omega)
          have hRest := ih (List.cons_ne_nil _ _) (show _ ≤ fuel by omega)
          have hNext : Begins (row close (next :: later) ++ rest) := by
            cases goes with
            | next begins => exact (begins_row begins later).append rest
          have hFirst := reads fuel (',' :: (row close (next :: later) ++ rest)) (by omega)
            (Or.inl rfl)
          rw [row, List.append_assoc, List.cons_append, Json.foldRow, hFirst]
          simp only [bind, Except.bind, scanSeparator_comma closes hNext, hRest]

/-- What every piece keeps, with the fuel that is left for it, holds in the end. -/
theorem foldRow_keeps {P : β → Prop}
    (keeps : ∀ less state text next rest, less < fuel → P state →
      step state less text = .ok (next, rest) → P next)
    (holds : P state) (h : foldRow close step fuel state text = .ok (final, rest)) : P final := by
  induction fuel generalizing state text with
  | zero => cases h
  | succ fuel ih =>
      obtain ⟨⟨next, _⟩, hStep, h⟩ := bind_eq_ok_iff.mp h
      have hNext := keeps fuel state text next _ (Nat.lt_succ_self fuel) holds hStep
      obtain ⟨⟨closed, _⟩, _, h⟩ := bind_eq_ok_iff.mp h
      cases closed with
      | true =>
          cases h
          exact hNext
      | false =>
          refine ih (fun less state text next rest hLess => ?_) hNext h
          exact keeps less state text next rest (Nat.lt_succ_of_lt hLess)

end Folds

section Lists

variable {α ι : Type}

/-- Reads the pieces of a row that is not empty. -/
def readRow (close : Char) (read : Nat → List Char → Except Fault (α × List Char)) :
    Nat → List Char → Except Fault (List α × List Char)
  | 0, _ => .error .truncated
  | fuel + 1, text => do
      let (item, rest) ← read fuel text
      match ← scanSeparator close rest with
      | (true, rest) => .ok ([item], rest)
      | (false, rest) =>
          let (items, rest) ← readRow close read fuel rest
          .ok (item :: items, rest)

/-- Puts the next item of a row behind those that have been read. -/
def push (read : Nat → List Char → Except Fault (α × List Char)) (items : List α) (fuel : Nat)
    (text : List Char) : Except Fault (List α × List Char) := do
  let (item, rest) ← read fuel text
  .ok (items ++ [item], rest)

variable {close : Char} {read : Nat → List Char → Except Fault (α × List Char)} {fuel : Nat}
  {text rest : List Char}

theorem foldRow_push (items : List α) :
    foldRow close (push read) fuel items text =
      (readRow close read fuel text).map fun done => (items ++ done.1, done.2) := by
  induction fuel generalizing items text with
  | zero => rfl
  | succ fuel ih =>
      rw [foldRow, readRow, push]
      cases read fuel text with
      | error fault => rfl
      | ok first =>
          obtain ⟨item, middle⟩ := first
          simp only [bind, Except.bind]
          cases scanSeparator close middle with
          | error fault => rfl
          | ok separator =>
              obtain ⟨closed, later⟩ := separator
              cases closed with
              | true => rfl
              | false =>
                  simp only [ih]
                  cases readRow close read fuel later with
                  | error fault => rfl
                  | ok done => simp [Except.map]

theorem readRow_eq_foldRow :
    readRow close read fuel text = foldRow close (push read) fuel [] text := by
  rw [foldRow_push]
  cases readRow close read fuel text <;> rfl

theorem ReadsBack.push {piece : List Char} {value : α} (h : ReadsBack read piece value)
    (items : List α) :
    ReadsBack (Json.push read items) piece (items ++ [value]) := by
  intro fuel rest enough ended
  simp only [Json.push, h fuel rest enough ended, bind, Except.bind]

theorem folds_push {items : List ι} {piece : ι → List Char} {value : ι → α}
    (begins : ∀ item ∈ items, Begins (piece item))
    (each : ∀ item ∈ items, ReadsBack read (piece item) (value item)) (done : List α) :
    Folds (push read) done (items.map piece) (done ++ items.map value) := by
  induction items generalizing done with
  | nil =>
      rw [List.map_nil, List.map_nil, List.append_nil]
      exact .done
  | cons item later ih =>
      obtain ⟨hBegins, hLaterBegin⟩ := List.forall_mem_cons.mp begins
      obtain ⟨hItem, hLater⟩ := List.forall_mem_cons.mp each
      rw [List.map_cons, List.map_cons, List.append_cons]
      exact .next hBegins (hItem.push done) (ih hLaterBegin hLater _)

/-- A row is read back when its pieces are. -/
theorem readRow_row {items : List ι} {piece : ι → List Char} {value : ι → α}
    (closes : Closes close) (nonempty : items ≠ [])
    (begins : ∀ item ∈ items, Begins (piece item))
    (each : ∀ item ∈ items, ReadsBack read (piece item) (value item))
    (enough : 2 * (row close (items.map piece)).length ≤ fuel) :
    readRow close read fuel (row close (items.map piece) ++ rest) =
      .ok (items.map value, rest) := by
  rw [readRow_eq_foldRow]
  exact (folds_push begins each []).foldRow closes (by simpa using nonempty) enough

/-- What holds of every piece that is read, with the fuel that is left for it, holds of all items of
a row that is read. -/
theorem forall_of_readRow {P : α → Prop} {items : List α}
    (each : ∀ less text item rest, less < fuel → read less text = .ok (item, rest) → P item)
    (h : readRow close read fuel text = .ok (items, rest)) : ∀ item ∈ items, P item := by
  rw [readRow_eq_foldRow] at h
  refine foldRow_keeps (P := fun items => ∀ item ∈ items, P item) ?_ ?_ h
  · intro less items text next rest hLess hItems hPush
    obtain ⟨⟨item, _⟩, hRead, hDone⟩ := bind_eq_ok_iff.mp hPush
    cases hDone
    exact List.forall_mem_append.mpr
      ⟨hItems, List.forall_mem_singleton.mpr (each less text item _ hLess hRead)⟩
  · exact fun item member => absurd member List.not_mem_nil

end Lists

section Members

variable {α : Type}

/-- The text of a member. -/
def memberText (name : String) (value : List Char) : List Char :=
  quote name ++ ':' :: value

theorem begins_memberText (name : String) (value : List Char) : Begins (memberText name value) :=
  (begins_quote name).append _

theorem scanName_quote (name : String) (rest : List Char) :
    scanName (quote name ++ rest) = .ok (name, rest) := by
  rw [quote_append]
  exact scanName_escape name rest

theorem scanName_memberText (name : String) (value rest : List Char) :
    scanName (memberText name value ++ rest) = .ok (name, ':' :: (value ++ rest)) := by
  rw [memberText, List.append_assoc, scanName_quote]
  rfl

/-- Reads a member: its name, the colon and its value. -/
def readMember (read : Nat → List Char → Except Fault (α × List Char)) (fuel : Nat)
    (text : List Char) : Except Fault ((String × α) × List Char) := do
  let (name, rest) ← scanName text
  let (value, rest) ← read fuel (← scanColon rest)
  .ok ((name, value), rest)

theorem exists_of_readMember {read : Nat → List Char → Except Fault (α × List Char)}
    {fuel : Nat} {text rest : List Char} {member : String × α}
    (h : readMember read fuel text = .ok (member, rest)) :
    ∃ later, read fuel later = .ok (member.2, rest) := by
  obtain ⟨_, _, h⟩ := bind_eq_ok_iff.mp h
  obtain ⟨later, _, h⟩ := bind_eq_ok_iff.mp h
  obtain ⟨_, hValue, hDone⟩ := bind_eq_ok_iff.mp h
  cases hDone
  exact ⟨later, hValue⟩

theorem ReadsBack.member {read : Nat → List Char → Except Fault (α × List Char)}
    {text : List Char} {value : α} (h : ReadsBack read text value) (name : String) :
    ReadsBack (readMember read) (memberText name text) (name, value) := by
  intro fuel rest enough ended
  have hLength : (memberText name text).length = (quote name).length + (text.length + 1) := by
    rw [memberText, List.length_append, List.length_cons]
  have hValue := h fuel rest (by omega) ended
  rw [readMember, scanName_memberText]
  simp only [bind, Except.bind, scanColon_colon, hValue]

end Members

end Masking.Json
