import Masking.Proofs.Json.Skipping

/-! Readers that read back what is written. A structure is read back from an object whose members
it knows, each once, whatever else is in the object; and what is read into a structure has every
property that the readers of its fields keep. -/

namespace Masking.Json

/-- The value is read from the text, whatever comes after it where it ends. -/
def Reads {α : Type} (read : Reader α) (depth : Nat) (text : List Char) (value : α) : Prop :=
  ∀ rest, Ended rest → read depth (text ++ rest) = .ok (value, rest)

section Scalars

variable {α : Type} {read : Reader α} {depth n bound : Nat} {text rest : List Char} {value : Json}
  {i : Int}

theorem length_le_fuelFor (text rest : List Char) : 2 * text.length ≤ fuelFor (text ++ rest) := by
  rw [fuelFor, List.length_append]
  omega

/-- A canonical value without floats is read back. -/
theorem Canonical.reads (canonical : Canonical depth value) (free : FloatFree value) :
    Reads readValue depth (render value) value :=
  fun rest ended => canonical.scansBack free _ rest (length_le_fuelFor _ rest) ended

theorem reads_string (depth : Nat) (text : String) :
    Reads readString depth (render (.str text)) text := by
  intro rest _
  rw [readString, render, skipBlanks_quote, quote_append]
  exact scanString_escape text rest

theorem reads_integer (depth : Nat) (fits : FitsWord i) :
    Reads readInteger depth (render (.int i)) i := by
  intro rest ended
  obtain ⟨c, digits, hText, hFirst⟩ := startsNumber_signedDecimal i
  have hBegins := (begins_signedDecimal i).append rest
  have hNumber := scanNumber_signedDecimal fits ended
  rw [readInteger, render, hBegins.skipBlanks]
  rw [hText, List.cons_append] at hNumber ⊢
  simp only [hFirst, if_true, hNumber, bind, Except.bind, Number.ofInt]
  split
  next same =>
    split at same
    next => cases same
    next hNatural =>
      cases same
      rw [Int.toNat_of_nonneg (Int.not_lt.mp hNatural)]
  next same =>
    split at same
    next =>
      cases same
      rfl
    next => cases same
  next same => split at same <;> cases same

theorem reads_unsigned (depth : Nat) (small : n ≤ bound) (word : bound ≤ maxUnsigned) :
    Reads (readUnsigned bound) depth (render (.nat n)) n := by
  intro rest ended
  have hSigned : (maxSigned : Int) = 9223372036854775807 := rfl
  have fits : FitsWord (n : Int) := ⟨by omega, by omega⟩
  have hInteger := reads_integer depth fits rest ended
  have hRange : ¬ ((n : Int) < 0 ∨ (bound : Int) < n) := by omega
  rw [readUnsigned]
  simp only [Json.nat, hInteger, bind, Except.bind, if_neg hRange, Int.natAbs_natCast]

theorem reads_signed (depth : Nat) (low : -(maxSigned + 1 : Int) ≤ i) (high : i ≤ maxSigned) :
    Reads readSigned depth (render (.int i)) i := by
  intro rest ended
  have hSigned : (maxSigned : Int) = 9223372036854775807 := rfl
  have hUnsigned : (maxUnsigned : Int) = 18446744073709551615 := rfl
  have hInteger := reads_integer depth (show FitsWord i from ⟨low, by omega⟩) rest ended
  rw [readSigned]
  simp only [hInteger, bind, Except.bind, if_neg (Int.not_lt.mpr high)]

/-- Only null is written with the letter `n` in front. -/
theorem FloatFree.head_ne (free : FloatFree value) (h : value ≠ .null) (rest later : List Char) :
    render value ++ rest ≠ 'n' :: later := by
  cases free with
  | null => exact absurd rfl h
  | minusZero => exact fun same => absurd (List.cons.inj same).1 (by decide)
  | @bool value => cases value <;> exact fun same => absurd (List.cons.inj same).1 (by decide)
  | @int value =>
      obtain ⟨c, digits, hText, hFirst⟩ := startsNumber_signedDecimal value
      rw [render, hText]
      rintro same
      obtain ⟨rfl, _⟩ := List.cons.inj same
      cases hFirst
  | str => exact fun same => absurd (List.cons.inj same).1 (by decide)
  | arr => exact fun same => absurd (List.cons.inj same).1 (by decide)
  | obj => exact fun same => absurd (List.cons.inj same).1 (by decide)

/-- A value that is there and is not null is read as it is. -/
theorem Reads.option {value : Json} {read : Reader Json} (h : Reads read depth (render value) value)
    (free : FloatFree value) (hNull : value ≠ .null) :
    Reads (readOption read) depth (render value) (some value) := by
  intro rest ended
  rw [readOption, (free.begins.append rest).skipBlanks]
  split
  next same => exact absurd same (free.head_ne hNull rest _)
  next =>
    rw [h rest ended]
    rfl

theorem skipBlanks_skipBlanks (text : List Char) :
    skipBlanks (skipBlanks text) = skipBlanks text := by
  induction text with
  | nil => rfl
  | cons c text ih =>
      by_cases hBlank : isBlank c = true
      · rw [skipBlanks, if_pos hBlank, ih]
      · have hSame : skipBlanks (c :: text) = c :: text := if_neg hBlank
        rw [hSame, hSame]

/-- A value that is read where there may be null is canonical and not null. -/
theorem canonical_of_readOption (h : readOption readValue depth text = .ok (some value, rest)) :
    Canonical depth value ∧ value ≠ .null := by
  rw [readOption] at h
  split at h
  next =>
    obtain ⟨_, _, hDone⟩ := bind_eq_ok_iff.mp h
    cases hDone
  next hOther =>
    obtain ⟨⟨found, _⟩, hValue, hDone⟩ := bind_eq_ok_iff.mp h
    cases hDone
    refine ⟨canonical_of_readValue hValue, ?_⟩
    rintro rfl
    obtain ⟨later, hLater⟩ := begins_of_readValue hValue
    rw [skipBlanks_skipBlanks] at hLater
    exact hOther later hLater

theorem Reads.readAll {value : α} (h : Reads read maxDepth text value) :
    readAll read text = .ok value := by
  have hWhole := h [] trivial
  rw [List.append_nil] at hWhole
  rw [Json.readAll, hWhole]
  rfl

theorem exists_of_readAll {value : α} (h : Json.readAll read text = .ok value) :
    ∃ rest, read maxDepth text = .ok (value, rest) := by
  obtain ⟨⟨found, rest⟩, hRead, h⟩ := bind_eq_ok_iff.mp h
  dsimp only at h
  split at h
  next =>
    cases h
    exact ⟨rest, hRead⟩
  next => cases h

end Scalars

section Lists

variable {α : Type} {read : Reader α} {encode : α → Json} {depth fuel : Nat} {items : List α}
  {rest : List Char}

theorem Reads.readsBack {text : List Char} {value : α} (h : Reads read depth text value) :
    ReadsBack (fun _ => read depth) text value :=
  fun _ rest _ ended => h rest ended

theorem readItems_eq_readRow (fuel : Nat) (text : List Char) :
    readItems read depth fuel text = readRow ']' (fun _ => read depth) fuel text := by
  induction fuel generalizing text with
  | zero => rfl
  | succ fuel ih =>
      simp only [readItems, ih]
      rfl

theorem readItems_renderItems (nonempty : items ≠ [])
    (begins : ∀ item ∈ items, Begins (render (encode item)))
    (each : ∀ item ∈ items, Reads read depth (render (encode item)) item)
    (enough : 2 * (renderItems (items.map encode)).length ≤ fuel) :
    readItems read depth fuel (renderItems (items.map encode) ++ rest) = .ok (items, rest) := by
  have hText : renderItems (items.map encode) =
      row ']' (items.map fun item => render (encode item)) := by
    rw [renderItems_eq_row, List.map_map]
    rfl
  rw [hText] at enough ⊢
  rw [readItems_eq_readRow, readRow_row (Or.inl rfl) nonempty begins
    (fun item member => (each item member).readsBack) enough, List.map_id']

/-- A list is read back when its items are. -/
theorem reads_list (begins : ∀ item ∈ items, Begins (render (encode item)))
    (each : ∀ item ∈ items, Reads read depth (render (encode item)) item) :
    Reads (readList read) (depth + 1) (render (.arr (items.map encode))) items := by
  intro rest _
  cases items with
  | nil => rfl
  | cons item later =>
      have hBegins : Begins (renderItems ((item :: later).map encode) ++ rest) :=
        (begins_renderItems (begins item List.mem_cons_self) (later.map encode)).append rest
      have hItems : readItems read depth
          (fuelFor (renderItems ((item :: later).map encode) ++ rest))
          (renderItems ((item :: later).map encode) ++ rest) = .ok (item :: later, rest) :=
        readItems_renderItems (List.cons_ne_nil item later) begins each (length_le_fuelFor _ rest)
      have hOpens : ∀ text, skipBlanks ('[' :: text) = '[' :: text := fun _ => rfl
      simp only [readList, render, List.cons_append, hOpens, hBegins.skipBlanks]
      split
      next same =>
        rw [same] at hBegins
        exact hBegins.elim
      next same =>
        rw [same] at hBegins
        exact absurd rfl hBegins.2.1
      next => exact hItems

theorem forall_of_readItems {P : α → Prop} {text : List Char}
    (each : ∀ {text item rest}, read depth text = .ok (item, rest) → P item)
    (h : readItems read depth fuel text = .ok (items, rest)) : ∀ item ∈ items, P item := by
  rw [readItems_eq_readRow] at h
  exact forall_of_readRow (fun _ _ _ _ _ => each) h

/-- What holds of every item that is read holds of the items of a list that is read. -/
theorem forall_of_readList {P : α → Prop} {text : List Char}
    (each : ∀ {text item rest}, read depth text = .ok (item, rest) → P item)
    (h : readList read (depth + 1) text = .ok (items, rest)) : ∀ item ∈ items, P item := by
  unfold readList at h
  split at h
  next =>
    dsimp only at h
    split at h
    next => cases h
    next =>
      cases h
      exact fun _ member => absurd member List.not_mem_nil
    next => exact forall_of_readItems each h
  next => cases h

end Lists

section Maps

variable {depth fuel : Nat} {members : List (String × Json)} {rest : List Char}

theorem readMembers_eq_readRow {α : Type} {read : Reader α} (fuel : Nat) (text : List Char) :
    readMembers read depth fuel text =
      readRow '\x7d' (readMember fun _ => read depth) fuel text := by
  induction fuel generalizing text with
  | zero => rfl
  | succ fuel ih =>
      rw [readRow, readMember, bind_assoc]
      simp only [readMembers, ih]
      refine congrArg _ (funext fun named => ?_)
      rw [bind_assoc]
      refine congrArg _ (funext fun later => ?_)
      rw [bind_assoc]
      rfl

theorem readMembers_renderMembers (nonempty : members ≠ [])
    (each : ∀ member ∈ members, Reads readValue depth (render member.2) member.2)
    (enough : 2 * (renderMembers members).length ≤ fuel) :
    readMembers readValue depth fuel (renderMembers members ++ rest) = .ok (members, rest) := by
  rw [renderMembers_eq_row] at enough ⊢
  rw [readMembers_eq_readRow, readRow_row (Or.inr rfl) nonempty (fun _ _ => begins_memberText _ _)
    (fun member hMember => (each member hMember).readsBack.member member.1) enough, List.map_id']

/-- An object that is not empty begins with the name of its first member. -/
theorem renderMembers_cons (member : String × Json) (later : List (String × Json))
    (rest : List Char) : ∃ inner, renderMembers (member :: later) ++ rest = '"' :: inner := by
  cases later <;> exact ⟨_, rfl⟩

/-- Values by name are read back, in their order. -/
theorem reads_map (each : ∀ member ∈ members, Reads readValue depth (render member.2) member.2) :
    Reads (readMap readValue) (depth + 1) (render (.obj members)) members := by
  intro rest _
  cases members with
  | nil => rfl
  | cons member later =>
      have hMembers : readMembers readValue depth
          (fuelFor (renderMembers (member :: later) ++ rest))
          (renderMembers (member :: later) ++ rest) = .ok (member :: later, rest) :=
        readMembers_renderMembers (List.cons_ne_nil member later) each (length_le_fuelFor _ rest)
      obtain ⟨inner, hOpens⟩ := renderMembers_cons member later rest
      rw [render, List.cons_append, hOpens]
      rw [hOpens] at hMembers
      exact hMembers

theorem forall_of_readMembers {α : Type} {read : Reader α} {P : α → Prop}
    {members : List (String × α)} {text : List Char}
    (each : ∀ {text value rest}, read depth text = .ok (value, rest) → P value)
    (h : readMembers read depth fuel text = .ok (members, rest)) :
    ∀ member ∈ members, P member.2 := by
  rw [readMembers_eq_readRow] at h
  refine forall_of_readRow (fun _ _ member _ _ hMember => ?_) h
  obtain ⟨_, hValue⟩ := exists_of_readMember hMember
  exact each hValue

/-- What holds of every value that is read holds of the values of an object that is read. -/
theorem forall_of_readMap {α : Type} {read : Reader α} {P : α → Prop}
    {members : List (String × α)} {text : List Char}
    (each : ∀ {text value rest}, read depth text = .ok (value, rest) → P value)
    (h : readMap read (depth + 1) text = .ok (members, rest)) :
    ∀ member ∈ members, P member.2 := by
  unfold readMap at h
  split at h
  next =>
    dsimp only at h
    split at h
    next => cases h
    next =>
      cases h
      exact fun _ member => absurd member List.not_mem_nil
    next => exact forall_of_readMembers each h
  next => cases h

end Maps

section Structures

/-- Members take a structure from one state of its construction to another: each is a field that
has not been read yet and is read from it, or has a name that the structure does not know. -/
inductive Builds {β : Type} (fields : List (Field β)) (depth : Nat) :
    β → List (String × Json) → β → Prop
  | done {built : β} : Builds fields depth built [] built
  | known {built next final : β} {name : String} {value : Json} {later : List (String × Json)}
      {field : Field β} (found : (fields.find? fun field => field.name = name) = some field)
      (unset : field.isSet built = false)
      (reads : Reads (field.read built) depth (render value) next)
      (goes : Builds fields depth next later final) :
      Builds fields depth built ((name, value) :: later) final
  | unknown {built final : β} {name : String} {value : Json} {later : List (String × Json)}
      (missing : (fields.find? fun field => field.name = name) = none) (free : FloatFree value)
      (goes : Builds fields depth built later final) :
      Builds fields depth built ((name, value) :: later) final

variable {α β : Type} {fields : List (Field β)} {empty built final : β} {finish : β → Option α}
  {depth fuel : Nat} {members : List (String × Json)} {rest : List Char} {value : α}

/-- Members that a structure does not know leave it as it is. -/
theorem Builds.others
    (other : ∀ member ∈ members,
      (fields.find? fun field => field.name = member.1) = none ∧ FloatFree member.2) :
    Builds fields depth built members built := by
  induction members with
  | nil => exact .done
  | cons member later ih =>
      obtain ⟨⟨hMissing, hFree⟩, hLater⟩ := List.forall_mem_cons.mp other
      exact .unknown hMissing hFree (ih hLater)

theorem reads_field {name : String} {get : β → Option α} {set : β → α → β} {read : Reader α}
    {text : List Char} (h : Reads read depth text value) (built : β) :
    Reads ((field name get set read).read built) depth text (set built value) :=
  fun rest ended => read_field (h rest ended)

theorem exists_of_readField {name : String} {get : β → Option α} {set : β → α → β}
    {read : Reader α} {text : List Char}
    (h : (field name get set read).read built depth text = .ok (final, rest)) :
    ∃ value, read depth text = .ok (value, rest) ∧ final = set built value := by
  obtain ⟨⟨value, _⟩, hRead, hDone⟩ := bind_eq_ok_iff.mp h
  cases hDone
  exact ⟨value, hRead, rfl⟩

/-- One member of a structure: a field that is not set yet, or a name that is passed over. -/
def readOnto (fields : List (Field β)) (depth : Nat) (built : β) (_ : Nat) (text : List Char) :
    Except Fault (β × List Char) := do
  let (name, rest) ← scanName text
  match fields.find? fun field => field.name = name with
  | some field =>
      if field.isSet built then .error .mismatch
      else do field.read built depth (← scanColon rest)
  | none => do
      let rest ← scanColon rest
      .ok (built, ← skipValue (fuelFor rest) rest)

theorem readFields_eq_foldRow (fuel : Nat) (built : β) (text : List Char) :
    readFields fields depth fuel built text =
      foldRow '\x7d' (readOnto fields depth) fuel built text := by
  induction fuel generalizing built text with
  | zero => rfl
  | succ fuel ih =>
      rw [foldRow, readOnto, bind_assoc]
      simp only [readFields, ih]
      refine congrArg _ (funext fun named => ?_)
      cases fields.find? fun field => field.name = named.1 with
      | none =>
          dsimp only
          rw [bind_assoc]
          refine congrArg _ (funext fun later => ?_)
          exact (bind_assoc (skipValue (fuelFor later) later)
            (fun rest => .ok (built, rest)) _).symm
      | some field =>
          dsimp only
          cases field.isSet built with
          | true => rfl
          | false => exact (bind_assoc (scanColon named.2) (field.read built depth) _).symm

theorem Builds.folds (builds : Builds fields depth built members final) :
    Folds (readOnto fields depth) built
      (members.map fun member => memberText member.1 (render member.2)) final := by
  induction builds with
  | done => exact .done
  | known found unset reads goes ih =>
      refine .next (begins_memberText _ _) (fun fuel rest _ ended => ?_) ih
      rw [readOnto, scanName_memberText]
      simp only [bind, Except.bind, found, unset, scanColon_colon, reads rest ended,
        Bool.false_eq_true, if_false]
  | @unknown built final name value later missing free goes ih =>
      refine .next (begins_memberText _ _) (fun fuel rest _ ended => ?_) ih
      have hSkip := free.skipsOver _ rest (length_le_fuelFor _ rest) ended
      rw [readOnto, scanName_memberText]
      simp only [bind, Except.bind, missing, scanColon_colon, hSkip]

theorem readFields_renderMembers (builds : Builds fields depth built members final)
    (nonempty : members ≠ []) (enough : 2 * (renderMembers members).length ≤ fuel) :
    readFields fields depth fuel built (renderMembers members ++ rest) = .ok (final, rest) := by
  rw [renderMembers_eq_row] at enough ⊢
  rw [readFields_eq_foldRow]
  exact builds.folds.foldRow (Or.inr rfl) (by simpa using nonempty) enough

/-- A structure is read back from members that build it. -/
theorem reads_structure (builds : Builds fields depth empty members final)
    (complete : finish final = some value) :
    Reads (readStructure fields empty finish) (depth + 1) (render (.obj members)) value := by
  intro rest _
  cases members with
  | nil =>
      cases builds
      have hOpens : skipBlanks ('\x7b' :: '\x7d' :: rest) = '\x7b' :: '\x7d' :: rest := rfl
      have hCloses : skipBlanks ('\x7d' :: rest) = '\x7d' :: rest := rfl
      simp only [readStructure, render, renderMembers, List.cons_append, List.nil_append, hOpens,
        hCloses, complete, bind, Except.bind]
  | cons member later =>
      have hFields : readFields fields depth (fuelFor (renderMembers (member :: later) ++ rest))
          empty (renderMembers (member :: later) ++ rest) = .ok (final, rest) :=
        readFields_renderMembers builds (List.cons_ne_nil member later) (length_le_fuelFor _ rest)
      obtain ⟨inner, hOpens⟩ := renderMembers_cons member later rest
      rw [render, List.cons_append, hOpens]
      rw [hOpens] at hFields
      change Except.bind (readFields fields depth (fuelFor _) empty _) _ = _
      rw [hFields]
      simp only [Except.bind, bind, complete]

variable {P : β → Prop} {text : List Char}

theorem readFields_keeps
    (keeps : ∀ field ∈ fields, ∀ {built text next rest}, P built →
      field.read built depth text = .ok (next, rest) → P next)
    (holds : P built) (h : readFields fields depth fuel built text = .ok (final, rest)) :
    P final := by
  rw [readFields_eq_foldRow] at h
  refine foldRow_keeps (fun _ built text next rest _ hBuilt hStep => ?_) holds h
  obtain ⟨_, _, hStep⟩ := bind_eq_ok_iff.mp hStep
  dsimp only at hStep
  split at hStep
  next field found =>
    split at hStep
    next => cases hStep
    next =>
      obtain ⟨_, _, hRead⟩ := bind_eq_ok_iff.mp hStep
      exact keeps field (List.mem_of_find?_eq_some found) hBuilt hRead
  next =>
    obtain ⟨_, _, hStep⟩ := bind_eq_ok_iff.mp hStep
    obtain ⟨_, _, hSame⟩ := bind_eq_ok_iff.mp hStep
    cases hSame
    exact hBuilt

theorem readOrdered_keeps {closed : Bool}
    (keeps : ∀ field ∈ fields, ∀ {built text next rest}, P built →
      field.read built depth text = .ok (next, rest) → P next)
    (holds : P built) (h : readOrdered depth fields built text = .ok ((final, closed), rest)) :
    P final := by
  induction fields generalizing built text with
  | nil =>
      cases h
      exact holds
  | cons field fields ih =>
      obtain ⟨hField, hFields⟩ := List.forall_mem_cons.mp keeps
      obtain ⟨⟨next, _⟩, hRead, h⟩ := bind_eq_ok_iff.mp h
      have hNext := hField holds hRead
      cases fields with
      | nil =>
          cases h
          exact hNext
      | cons second fields =>
          obtain ⟨⟨closed, _⟩, _, h⟩ := bind_eq_ok_iff.mp h
          cases closed with
          | true =>
              cases h
              exact hNext
          | false => exact ih hFields hNext h

/-- What every field keeps, as it is read, holds of the structure that is read in the end. -/
theorem exists_of_readStructure
    (keeps : ∀ field ∈ fields, ∀ {built text next rest}, P built →
      field.read built depth text = .ok (next, rest) → P next)
    (holds : P empty)
    (h : readStructure fields empty finish (depth + 1) text = .ok (value, rest)) :
    ∃ built, P built ∧ finish built = some value := by
  unfold readStructure at h
  dsimp only at h
  split at h
  next =>
    split at h
    next => cases h
    next =>
      obtain ⟨_, hDone, h⟩ := bind_eq_ok_iff.mp h
      cases h
      split at hDone
      next complete =>
        cases hDone
        exact ⟨empty, holds, complete⟩
      next => cases hDone
    next =>
      obtain ⟨⟨built, _⟩, hFields, h⟩ := bind_eq_ok_iff.mp h
      obtain ⟨_, hDone, h⟩ := bind_eq_ok_iff.mp h
      cases h
      split at hDone
      next complete =>
        cases hDone
        exact ⟨built, readFields_keeps keeps holds hFields, complete⟩
      next => cases hDone
  next =>
    split at h
    next => cases h
    next =>
      obtain ⟨_, hDone, h⟩ := bind_eq_ok_iff.mp h
      cases h
      split at hDone
      next complete =>
        cases hDone
        exact ⟨empty, holds, complete⟩
      next => cases hDone
    next =>
      obtain ⟨⟨⟨built, closed⟩, _⟩, hOrdered, h⟩ := bind_eq_ok_iff.mp h
      obtain ⟨done, hDone, h⟩ := bind_eq_ok_iff.mp h
      have hBuilt := readOrdered_keeps keeps holds hOrdered
      split at hDone
      next complete =>
        cases hDone
        refine ⟨built, hBuilt, complete.trans (congrArg some ?_)⟩
        cases closed with
        | true =>
            cases h
            rfl
        | false =>
            obtain ⟨_, _, h⟩ := bind_eq_ok_iff.mp h
            cases h
            rfl
      next => cases hDone
  next => cases h

end Structures

end Masking.Json
