import Masking.Store.Memory
import Masking.Proofs.Store.Interruption

/-! Backends as maps of entries. Entries may be lost at any time, but none appears that was not
written, so that what all writers agree on holds of every entry, whatever becomes of single
operations. -/

namespace Masking.Store

/-- The entries that a state of a backend holds at an instant, by key. -/
abbrev Entries (σ : Type) := Instant → σ → String → Option String

section Maps

variable {σ β : Type}

/-- Every entry of the second state was in the first one, or may be added. -/
def Adds (entries : Entries σ) (now : Instant) (adds : String → String → Prop)
    (before after : σ) : Prop :=
  ∀ key value, entries now after key = some value →
    entries now before key = some value ∨ adds key value

/-- The backend is a map of entries. It may lose any of them at any time, for one by expiry or
eviction. An entry that was not there before is the one that was written, or comes from others, who
write legal entries only. -/
structure Backend.Holds (backend : Backend σ) (entries : Entries σ)
    (legal : String → String → Prop) : Prop where
  lasting : ∀ {now later store key value}, now ≤ later →
    entries later store key = some value → entries now store key = some value
  found : ∀ {now store key value}, (backend.get now store key).finish.1 = .ok (some value) →
    entries now store key = some value ∨ legal key value
  getStarted : ∀ now store key, Adds entries now legal store (backend.get now store key).started
  getFinished : ∀ now store key,
    Adds entries now legal store (backend.get now store key).finish.2
  setStarted : ∀ now store key value ttl,
    Adds entries now (fun other found => other = key ∧ found = value ∨ legal other found) store
      (backend.set now store key value ttl).started
  setFinished : ∀ now store key value ttl,
    Adds entries now (fun other found => other = key ∧ found = value ∨ legal other found) store
      (backend.set now store key value ttl).finish.2

/-- Every entry of the world is legal. -/
def Within (entries : Entries σ) (legal : String → String → Prop) (world : World σ) : Prop :=
  ∀ key value, entries world.now world.store key = some value → legal key value

variable {backend : Backend σ} {entries : Entries σ} {legal more adds : String → String → Prop}
  {context : CallContext} {world after : World σ} {key value : String}

/-- Entries stay legal over an operation, however it ends, when those that it adds are legal. -/
theorem Within.of_ended {attempt : Instant → σ → Attempt σ β} {answer : Except Error β}
    (lasting : ∀ {now later store key value}, now ≤ later →
      entries later store key = some value → entries now store key = some value)
    (started : Adds entries world.now adds world.store (attempt world.now world.store).started)
    (finished : Adds entries world.now adds world.store (attempt world.now world.store).finish.2)
    (within : Within entries legal world) (added : ∀ key value, adds key value → legal key value)
    (ended : Ended context attempt world answer after) : Within entries legal after := by
  intro key value hAfter
  have hNow := lasting ended.now_le hAfter
  cases ended with
  | refused => exact within key value hNow
  | completed => exact (finished key value hNow).elim (within key value) (added key value)
  | cut => exact (started key value hNow).elim (within key value) (added key value)

/-- Over a map of legal entries a read finds a legal entry, if it finds one, and what is left is
legal. -/
theorem Backend.Holds.read (h : backend.Holds entries legal) (within : Within entries legal world)
    {answer : Except Error (Option String)}
    (read : readIn backend context key world = some (answer, after)) :
    (∀ value, answer = .ok (some value) → legal key value) ∧ Within entries legal after := by
  have hEnded := run_ended read
  constructor
  · rintro value rfl
    exact (h.found hEnded.of_ok.1).elim (within key value) id
  · exact within.of_ended h.lasting (h.getStarted _ _ _) (h.getFinished _ _ _) (fun _ _ => id)
      hEnded

/-- A write of a legal entry leaves a map of legal entries, even when it fails. -/
theorem Backend.Holds.write (h : backend.Holds entries legal) (within : Within entries legal world)
    {ttl : Option Duration} {answer : Except Error Unit}
    (hLegal : legal key value)
    (write : writeIn backend context key value ttl world = some (answer, after)) :
    Within entries legal after := by
  refine within.of_ended h.lasting (h.setStarted _ _ _ _ _) (h.setFinished _ _ _ _ _) ?_
    (run_ended write)
  rintro other found (⟨rfl, rfl⟩ | hOther)
  · exact hLegal
  · exact hOther

theorem Backend.Holds.mono (h : backend.Holds entries legal)
    (larger : ∀ key value, legal key value → more key value) : backend.Holds entries more where
  lasting := h.lasting
  found hFound := (h.found hFound).imp_right (larger _ _)
  getStarted now store key other found hEntry :=
    (h.getStarted now store key other found hEntry).imp_right (larger _ _)
  getFinished now store key other found hEntry :=
    (h.getFinished now store key other found hEntry).imp_right (larger _ _)
  setStarted now store key value ttl other found hEntry :=
    (h.setStarted now store key value ttl other found hEntry).imp_right
      (Or.imp_right (larger _ _))
  setFinished now store key value ttl other found hEntry :=
    (h.setFinished now store key value ttl other found hEntry).imp_right
      (Or.imp_right (larger _ _))

/-- A map of entries that others do not write to. What it does not find is not there, and a write
that ends well has replaced the entry. -/
structure Backend.Exact (backend : Backend σ) (entries : Entries σ) : Prop where
  holds : backend.Holds entries fun _ _ => False
  missed : ∀ {now store key}, (backend.get now store key).finish.1 = .ok none →
    entries now (backend.get now store key).finish.2 key = none
  stored : ∀ {now store key value ttl}, (backend.set now store key value ttl).finish.1 = .ok () →
    ∀ found, entries now (backend.set now store key value ttl).finish.2 key = some found →
      found = value

namespace Backend.Exact

/-- A read of an exact map finds an entry that is there, or leaves none. -/
theorem read (exact : backend.Exact entries) (within : Within entries legal world)
    {answer : Except Error (Option String)}
    (read : readIn backend context key world = some (answer, after)) :
    (∀ value, answer = .ok (some value) → legal key value) ∧ Within entries legal after ∧
      (answer = .ok none → entries after.now after.store key = none) := by
  have holds : backend.Holds entries legal := exact.holds.mono fun _ _ => False.elim
  obtain ⟨hFound, hAfter⟩ := holds.read within read
  refine ⟨hFound, hAfter, ?_⟩
  rintro rfl
  have hEnded := run_ended read
  obtain ⟨hAnswer, hStore⟩ := hEnded.of_ok
  rw [hStore]
  refine Option.eq_none_iff_forall_ne_some.mpr fun value hValue => ?_
  have hNow := exact.holds.lasting hEnded.now_le hValue
  rw [exact.missed hAnswer] at hNow
  cases hNow

/-- A write to an exact map adds its entry at most, and when it ends well it leaves no other one
under its key. -/
theorem write (exact : backend.Exact entries) (within : Within entries legal world)
    {ttl : Option Duration} {answer : Except Error Unit}
    (write : writeIn backend context key value ttl world = some (answer, after)) :
    Within entries (fun other found => other = key ∧ found = value ∨ legal other found) after ∧
      (answer = .ok () → ∀ found, entries after.now after.store key = some found →
        found = value) := by
  have holds : backend.Holds entries
      (fun other found => other = key ∧ found = value ∨ legal other found) :=
    exact.holds.mono fun _ _ => False.elim
  have hWithin : Within entries
      (fun other found => other = key ∧ found = value ∨ legal other found) world :=
    fun other found hEntry => Or.inr (within other found hEntry)
  refine ⟨holds.write hWithin (Or.inl ⟨rfl, rfl⟩) write, ?_⟩
  rintro rfl found hFound
  have hEnded := run_ended write
  obtain ⟨hAnswer, hStore⟩ := hEnded.of_ok
  rw [hStore] at hFound
  exact exact.stored hAnswer found (exact.holds.lasting hEnded.now_le hFound)

end Backend.Exact

end Maps

/-- The action is not a read that fails. -/
def Action.ReadsSucceed : Action → Prop
  | .get _ (.error _) => False
  | _ => True

/-- The action is not an operation that fails. -/
def Action.Succeeds : Action → Prop
  | .get _ answer => answer.toBool = true
  | .set _ _ answer => answer.toBool = true
  | .ping answer => answer.toBool = true
  | .close answer => answer.toBool = true
  | .emit _ => True

theorem Action.Succeeds.readsSucceed {action : Action} (h : action.Succeeds) :
    action.ReadsSucceed := by
  cases action with
  | get key answer =>
      cases answer with
      | error error => cases h
      | ok found => trivial
  | set => trivial
  | ping => trivial
  | close => trivial
  | emit => trivial

namespace Memory

theorem lookup_remove_other {items : List (String × Item)} {key other : String}
    (hOther : other ≠ key) : (remove key items).lookup other = items.lookup other := by
  have hKey : (other == key) = false := beq_eq_false_iff_ne.mpr hOther
  induction items with
  | nil => rfl
  | cons entry rest ih =>
      obtain ⟨name, item⟩ := entry
      by_cases hName : name = key
      · subst hName
        simp [remove, List.lookup_cons, hKey] at ih ⊢
        exact ih
      · simp [remove, List.lookup_cons, hName] at ih ⊢
        rw [ih]

/-- What is written now with this lifetime is alive at the later instant. -/
def Lasts (ttl : Option Duration) (now later : Instant) : Prop :=
  ∀ duration, ttl = some duration → later < now + duration

theorem lookup_insert_self {now later : Instant} {state : State} {key value found : String}
    {ttl : Option Duration} :
    lookup later (insert now state key value ttl) key = some found ↔
      found = value ∧ Lasts ttl now later := by
  cases ttl with
  | none => simp [lookup, insert_eq, Item.alive, Lasts, eq_comm]
  | some duration =>
      by_cases hAlive : later < now + duration
      · simp [lookup, insert_eq, Item.alive, Lasts, hAlive, eq_comm]
      · simp [lookup, insert_eq, Item.alive, Lasts, hAlive]

theorem lookup_insert_other {now later : Instant} {state : State} {key value other : String}
    {ttl : Option Duration} (hOther : other ≠ key) :
    lookup later (insert now state key value ttl) other = lookup later state other := by
  have hKey : (other == key) = false := beq_eq_false_iff_ne.mpr hOther
  simp only [lookup, insert_eq, List.lookup_cons, hKey, lookup_remove_other hOther]

/-- Beside the entries of before a write leaves its own one, for as long as its lifetime lasts. -/
theorem lookup_insert_cases {now later : Instant} {state : State} {key value other found : String}
    {ttl : Option Duration} (h : lookup later (insert now state key value ttl) other = some found) :
    lookup later state other = some found ∨
      (other = key ∧ found = value) ∧ Lasts ttl now later := by
  by_cases hKey : other = key
  · subst hKey
    obtain ⟨hFound, hLasts⟩ := lookup_insert_self.mp h
    exact Or.inr ⟨⟨rfl, hFound⟩, hLasts⟩
  · rw [lookup_insert_other hKey] at h
    exact Or.inl h

theorem lookup_insert_of_some {now : Instant} {state : State} {key value other found : String}
    {ttl : Option Duration} (h : lookup now (insert now state key value ttl) other = some found) :
    lookup now state other = some found ∨ other = key ∧ found = value :=
  (lookup_insert_cases h).imp_right And.left

/-- No key loses its entry by a write whose own entry is alive. -/
theorem lookup_insert_isSome {now later : Instant} {state : State} {key value other : String}
    {ttl : Option Duration} (lasts : Lasts ttl now later)
    (h : (lookup later state other).isSome = true) :
    (lookup later (insert now state key value ttl) other).isSome = true := by
  by_cases hKey : other = key
  · subst hKey
    exact Option.isSome_iff_exists.mpr ⟨value, lookup_insert_self.mpr ⟨rfl, lasts⟩⟩
  · rwa [lookup_insert_other hKey]

/-- The store in the process is a map of entries, each until it expires. -/
theorem backend_holds (legal : String → String → Prop) : backend.Holds lookup legal where
  lasting := by
    intro now later state key value hLater h
    simp only [lookup] at h ⊢
    split at h
    next item hItem =>
      split at h
      next hAlive =>
        have hBefore : item.alive now = true := by
          unfold Item.alive at hAlive ⊢
          split
          next instant hExpiry =>
            simp only [hExpiry, decide_eq_true_eq] at hAlive ⊢
            exact Nat.lt_of_le_of_lt hLater hAlive
          next => rfl
        rw [if_pos hBefore]
        exact h
      next => cases h
    next => cases h
  found h := Or.inl (Except.ok.inj h)
  getStarted _ _ _ _ _ h := Or.inl h
  getFinished _ _ _ _ _ h := Or.inl h
  setStarted _ _ _ _ _ _ _ h := (lookup_insert_of_some h).imp_right Or.inl
  setFinished _ _ _ _ _ _ _ h := (lookup_insert_of_some h).imp_right Or.inl

theorem backend_exact : backend.Exact lookup where
  holds := backend_holds _
  missed h := Except.ok.inj h
  stored _ _ h := (lookup_insert_self.mp h).1

section Operations

variable {context : CallContext} {world : World State}

theorem readIn_free (free : ¬ context.Interrupted world.tokens world.now) (key : String) :
    readIn backend context key world = some (.ok (lookup world.now world.store key), world) := by
  rw [readIn, run_free free]
  rfl

theorem writeIn_free (free : ¬ context.Interrupted world.tokens world.now) (key value : String)
    (ttl : Option Duration) :
    writeIn backend context key value ttl world =
      some (.ok (), { world with store := insert world.now world.store key value ttl }) := by
  rw [writeIn, run_free free]
  rfl

/-- No operation on the store in the process fails of itself, and none of them takes time. -/
theorem ends_free {α : Type} {program : Program α} (only : program.EntriesOnly)
    (free : ¬ context.Interrupted world.tokens world.now) :
    Ends backend context Action.Succeeds program world := by
  induction program generalizing world with
  | done value => trivial
  | get key next ih => exact ⟨_, _, readIn_free free key, rfl, ih _ (only _) free⟩
  | set key value ttl next ih =>
      exact ⟨_, _, writeIn_free free key value ttl, rfl, ih _ (only _) free⟩
  | ping => exact False.elim only
  | close => exact False.elim only
  | emit event next ih => exact ih only free

end Operations

theorem ends_succeeding {α : Type} {program : Program α} (only : program.EntriesOnly)
    (world : World State) : Ends backend .unbounded Action.Succeeds program world :=
  ends_free only (not_interrupted_unbounded _ _)

theorem ends_unbounded {α : Type} {program : Program α} (only : program.EntriesOnly)
    (world : World State) : Ends backend .unbounded Action.ReadsSucceed program world :=
  (ends_succeeding only world).mono fun _ => Action.Succeeds.readsSucceed

end Memory

end Masking.Store
