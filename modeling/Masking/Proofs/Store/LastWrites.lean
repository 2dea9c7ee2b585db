import Masking.Proofs.Store.Entries
import Mathlib.Data.List.Induction

/-! The store in the process as a map of last writes. Whatever has been done with it, a key has the
value of the last write to it until it is evicted, or until the lifetime of that write has passed.
Nothing else that is done shows, and neither does the time at which the store drops what has
expired. -/

namespace Masking.Store.Memory

/-- The store after it has dropped the item of a key, if that one has expired. The store does this
by itself, for whichever key and whenever it likes. -/
def purge (now : Instant) (state : State) (key : String) : State :=
  match state.items.lookup key with
  | some item => if item.alive now then state else evict state key
  | none => state

/-- One step in the life of a store. -/
inductive Step where
  | set (key value : String) (ttl : Option Duration)
  | get (key : String)
  | evict (key : String)
  | count
  | purge (key : String)
  | wait (duration : Duration)
deriving DecidableEq

namespace Step

/-- The key that the step gives a value, or takes its value from. -/
def changed : Step → Option String
  | set key _ _ => some key
  | evict key => some key
  | _ => none

/-- The time that passes in the step. -/
def duration : Step → Duration
  | wait duration => duration
  | _ => 0

/-- The world after the step. -/
def act (world : World State) : Step → World State
  | set key value ttl =>
      { world with store := (backend.set world.now world.store key value ttl).finish.2 }
  | get key => { world with store := (backend.get world.now world.store key).finish.2 }
  | evict key => { world with store := Memory.evict world.store key }
  | count => { world with store := Memory.count world.now world.store }
  | purge key => { world with store := Memory.purge world.now world.store key }
  | wait duration => world.advance duration

end Step

/-- The world after some steps. -/
def live (world : World State) (steps : List Step) : World State :=
  steps.foldl Step.act world

/-- What a read of a key answers. -/
def answer (world : World State) (key : String) : Except Error (Option String) :=
  (backend.get world.now world.store key).finish.1

/-- The time that passes in some steps. -/
def elapsed : List Step → Duration
  | [] => 0
  | step :: rest => step.duration + elapsed rest

/-- What is written with this lifetime is not as old as that yet. -/
def Young (ttl : Option Duration) (age : Duration) : Prop :=
  ∀ lifetime, ttl = some lifetime → age < lifetime

/-- The last step that changes the key writes the value, whose lifetime has not passed since, and
will not have passed after some more time. -/
def StandsFor (more : Duration) (steps : List Step) (key value : String) : Prop :=
  ∃ before ttl later, steps = before ++ .set key value ttl :: later ∧
    (∀ step ∈ later, step.changed ≠ some key) ∧ Young ttl (elapsed later + more)

/-- The last step that changes the key writes the value, whose lifetime has not passed since. -/
def Stands (steps : List Step) (key value : String) : Prop :=
  StandsFor 0 steps key value

section Items

variable {now later : Instant} {state : State} {key other : String}

theorem lookup_remove_self (items : List (String × Item)) : (remove key items).lookup key = none := by
  rw [List.lookup_eq_none_iff]
  intro entry member
  obtain ⟨_, hOther⟩ := List.mem_filter.mp member
  have hEntry : entry.1 ≠ key := of_decide_eq_true hOther
  exact bne_iff_ne.mpr hEntry.symm

theorem lookup_evict_self : lookup now (evict state key) key = none := by
  rw [lookup, evict, lookup_remove_self]

theorem lookup_evict_other (hOther : other ≠ key) :
    lookup now (evict state key) other = lookup now state other := by
  rw [lookup, evict, lookup_remove_other hOther, lookup]

/-- What is found at an instant was there at any earlier one. -/
theorem lookup_lasting {value : String} (hLater : now ≤ later)
    (h : lookup later state key = some value) : lookup now state key = some value :=
  (backend_holds fun _ _ => False).lasting hLater h

/-- From now on nobody can tell whether something that has expired has been dropped. -/
theorem lookup_purge (hLater : now ≤ later) :
    lookup later (purge now state key) other = lookup later state other := by
  unfold purge
  split
  next item hItem =>
    split
    next => rfl
    next hDead =>
      by_cases hKey : other = key
      · subst hKey
        have hNow : lookup now state other = none := by rw [lookup, hItem]; exact if_neg hDead
        have hGone : lookup later state other = none := by
          refine Option.eq_none_iff_forall_ne_some.mpr fun value hValue => ?_
          rw [lookup_lasting hLater hValue] at hNow
          cases hNow
        rw [lookup_evict_self, hGone]
      · exact lookup_evict_other hKey
  next => rfl

end Items

section Steps

variable {world : World State} {steps before later : List Step} {step : Step}
  {key value found : String} {ttl : Option Duration} {more : Duration}

theorem answer_eq (world : World State) (key : String) :
    answer world key = .ok (lookup world.now world.store key) :=
  rfl

theorem live_snoc (world : World State) (steps : List Step) (step : Step) :
    live world (steps ++ [step]) = step.act (live world steps) := by
  rw [live, List.foldl_append]
  rfl

theorem elapsed_append (before later : List Step) :
    elapsed (before ++ later) = elapsed before + elapsed later := by
  induction before with
  | nil => exact (Nat.zero_add _).symm
  | cons step rest ih => rw [List.cons_append, elapsed, elapsed, ih, Nat.add_assoc]

theorem young_iff_lasts {now : Instant} : Young ttl more ↔ Lasts ttl now (now + more) :=
  forall₂_congr fun _ _ => (Nat.add_lt_add_iff_left).symm

/-- All that one step does: it writes a key, or takes its value from it, or lets time pass. -/
theorem lookup_act :
    lookup ((step.act world).now + more) (step.act world).store key = some value ↔
      (∃ ttl, step = .set key value ttl ∧ Young ttl more) ∨
        step.changed ≠ some key ∧
          lookup (world.now + (step.duration + more)) world.store key = some value := by
  cases step with
  | set other written ttl =>
      have hSet : Step.act world (.set other written ttl) =
        { world with store := insert world.now world.store other written ttl } := rfl
      rw [hSet]
      by_cases hKey : key = other
      · subst hKey
        rw [lookup_insert_self, ← young_iff_lasts]
        constructor
        · rintro ⟨rfl, young⟩
          exact Or.inl ⟨ttl, rfl, young⟩
        · rintro (⟨_, hStep, young⟩ | ⟨apart, _⟩)
          · cases hStep
            exact ⟨rfl, young⟩
          · exact absurd rfl apart
      · rw [lookup_insert_other hKey]
        simp [Step.changed, Step.duration, Ne.symm hKey]
  | get other => simp [Step.act, Step.changed, Step.duration, backend, instantly]
  | evict other =>
      by_cases hKey : key = other
      · subst hKey
        simp [Step.act, Step.changed, lookup_evict_self]
      · simp [Step.act, Step.changed, Step.duration, Ne.symm hKey, lookup_evict_other hKey]
  | count =>
      have hCount : lookup (world.now + more) (count world.now world.store) key =
        lookup (world.now + more) world.store key := rfl
      simp [Step.act, Step.changed, Step.duration, hCount]
  | purge other =>
      have hLater : world.now ≤ world.now + more := Nat.le_add_right _ _
      simp [Step.act, Step.changed, Step.duration, lookup_purge hLater]
  | wait duration =>
      simp [Step.act, Step.changed, Step.duration, World.advance, Nat.add_assoc]

/-- A value stands after one step more when that step writes it, or it stood before and the step
leaves its key alone. -/
theorem standsFor_snoc :
    StandsFor more (steps ++ [step]) key value ↔
      (∃ ttl, step = .set key value ttl ∧ Young ttl more) ∨
        step.changed ≠ some key ∧ StandsFor (step.duration + more) steps key value := by
  constructor
  · rintro ⟨before, ttl, later, hSteps, apart, young⟩
    -- The last step is the write itself, or it is the end of what comes after the write.
    rcases later.eq_nil_or_concat with rfl | ⟨later, last, rfl⟩
    · obtain ⟨_, hStep⟩ := List.append_inj' hSteps rfl
      exact Or.inl ⟨ttl, List.head_eq_of_cons_eq hStep, by simpa [elapsed] using young⟩
    · rw [List.concat_eq_append, ← List.cons_append, ← List.append_assoc] at hSteps
      obtain ⟨hBefore, hStep⟩ := List.append_inj' hSteps rfl
      obtain rfl := List.head_eq_of_cons_eq hStep
      rw [List.concat_eq_append] at apart young
      refine Or.inr ⟨apart _ (by simp), before, ttl, later, hBefore, ?_, ?_⟩
      · exact fun other member => apart other (List.mem_append_left _ member)
      · simpa [elapsed_append, elapsed, Nat.add_assoc] using young
  · rintro (⟨ttl, rfl, young⟩ | ⟨hStep, before, ttl, later, rfl, apart, young⟩)
    · exact ⟨steps, ttl, [], rfl, by simp, by simpa [elapsed] using young⟩
    · refine ⟨before, ttl, later ++ [step], by simp, ?_, ?_⟩
      · intro other member
        rcases List.mem_append.mp member with hBefore | hLast
        · exact apart other hBefore
        · rwa [List.mem_singleton.mp hLast]
      · simpa [elapsed_append, elapsed, Nat.add_assoc] using young

/-- After any steps from an empty store, the values that are found are those that stand, now and at
every later instant. -/
theorem lookup_live (capacity : Nat) (start : Instant) (tokens : Tokens) (steps : List Step) :
    lookup ((live ⟨start, tokens, empty capacity⟩ steps).now + more)
        (live ⟨start, tokens, empty capacity⟩ steps).store key = some value ↔
      StandsFor more steps key value := by
  -- A last step that waits moves the instant of the read, which is why time may still pass.
  induction steps using List.reverseRecOn generalizing more with
  | nil => simp [live, empty, lookup, StandsFor]
  | append_singleton steps step ih => rw [live_snoc, lookup_act, standsFor_snoc, ih]

/-- Steps that neither change the key nor take time do not matter to it. -/
theorem standsFor_filter :
    StandsFor more (steps.filter fun step => step.changed = some key ∨ 0 < step.duration) key value ↔
      StandsFor more steps key value := by
  induction steps using List.reverseRecOn generalizing more with
  | nil => rfl
  | append_singleton steps step ih =>
      rw [List.filter_append, standsFor_snoc]
      by_cases hMatters : step.changed = some key ∨ 0 < step.duration
      · rw [List.filter_cons_of_pos (by simpa using hMatters), List.filter_nil, standsFor_snoc, ih]
      · obtain ⟨hChanged, hDuration⟩ := not_or.mp hMatters
        have hWrites : ∀ ttl, step ≠ .set key value ttl := by
          rintro ttl rfl
          exact hChanged rfl
        rw [List.filter_cons_of_neg (by simpa using hMatters), List.filter_nil, List.append_nil, ih,
          Nat.eq_zero_of_not_pos hDuration, Nat.zero_add]
        simp [hWrites, hChanged]

/-- After a write that nothing has changed since, its value stands until its lifetime has passed,
and nothing else stands. -/
theorem standsFor_since (apart : ∀ step ∈ later, step.changed ≠ some key) :
    StandsFor more (before ++ .set key value ttl :: later) key found ↔
      found = value ∧ Young ttl (elapsed later + more) := by
  induction later using List.reverseRecOn generalizing more with
  | nil =>
      rw [standsFor_snoc]
      simp [Step.changed, elapsed, eq_comm]
  | append_singleton later step ih =>
      have hStep : step.changed ≠ some key := apart step (by simp)
      have hWrites : ∀ ttl, step ≠ .set key found ttl := by
        rintro ttl rfl
        exact hStep rfl
      have hLater : ∀ step ∈ later, step.changed ≠ some key :=
        fun step member => apart step (List.mem_append_left _ member)
      rw [← List.cons_append, ← List.append_assoc, standsFor_snoc, ih hLater, elapsed_append]
      simp [hWrites, hStep, elapsed, Nat.add_assoc]

end Steps

/-- The store in the process is a map of last writes, each with a lifetime of its own. After any
steps from an empty store, a read succeeds and finds exactly the value that stands. A write replaces
value and lifetime of the one before it, whether that one had a lifetime, had expired or had been
dropped; and leaving out all reads, and all that is done to other keys, changes no answer. -/
theorem answer_last_write (capacity : Nat) (start : Instant) (tokens : Tokens) (steps : List Step)
    (key : String) :
    (∃ found, answer (live ⟨start, tokens, empty capacity⟩ steps) key = .ok found ∧
      ∀ value, found = some value ↔ Stands steps key value) ∧
    (∀ before value ttl later, steps = before ++ .set key value ttl :: later →
      (∀ step ∈ later, step.changed ≠ some key) →
        ∀ found, answer (live ⟨start, tokens, empty capacity⟩ steps) key = .ok (some found) ↔
          found = value ∧ Young ttl (elapsed later)) ∧
    answer (live ⟨start, tokens, empty capacity⟩
        (steps.filter fun step => step.changed = some key ∨ 0 < step.duration)) key =
      answer (live ⟨start, tokens, empty capacity⟩ steps) key := by
  refine ⟨⟨_, answer_eq _ _, fun value => ?_⟩, ?_, ?_⟩
  · rw [← Nat.add_zero (live _ _).now, lookup_live]
    rfl
  · rintro before value ttl later rfl apart found
    rw [answer_eq, Except.ok.injEq, ← Nat.add_zero (live _ _).now, lookup_live,
      standsFor_since apart]
    rfl
  · rw [answer_eq, answer_eq]
    refine congrArg Except.ok (Option.ext fun value => ?_)
    rw [← Nat.add_zero (live _ _).now, lookup_live, standsFor_filter,
      ← Nat.add_zero (live _ steps).now, lookup_live]

/-- The steps before and after the write that counts for `k`, which replaces an entry of `k` that has
expired without having been dropped. -/
def expiredSteps : List Step :=
  [.set "k" "old" (some 100), .get "k", .wait 400, .get "k"]

def laterSteps : List Step :=
  [.purge "k", .set "other" "x" (some 5), .wait 1000000, .evict "other", .get "k"]

theorem answer_last_write_replaced :
    (∀ step ∈ laterSteps, step.changed ≠ some "k") ∧ Young none (elapsed laterSteps) ∧
      answer (live ⟨0, .none, empty 10⟩ expiredSteps) "k" = .ok none ∧
      answer (live ⟨0, .none, empty 10⟩
        (expiredSteps ++ .set "k" "new" none :: laterSteps)) "k" = .ok (some "new") := by
  have apart : ∀ step ∈ laterSteps, step.changed ≠ some "k" := by decide
  have young : Young none (elapsed laterSteps) := fun lifetime never => by cases never
  have hLast := (answer_last_write 10 0 .none (expiredSteps ++ .set "k" "new" none :: laterSteps)
    "k").2.1 expiredSteps "new" none laterSteps rfl apart
  exact ⟨apart, young, by decide +kernel, (hLast "new").mpr ⟨rfl, young⟩⟩

end Masking.Store.Memory
