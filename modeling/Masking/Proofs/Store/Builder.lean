import Masking.Store.Config
import Mathlib.Data.List.DropRight

/-! What becomes of the settings made on a store configuration. A password and the index of a
database count when they are set after the last choice of a backend. Before it they are lost, and so
they are when no backend is chosen at all, although Redis is built then. -/

namespace Masking.Store

namespace Setting

/-- The backend that the setting chooses, with nothing set on it. -/
def chosen : Setting → Option BackendConfig
  | .redis address => some (.redis address none 0)
  | .memory capacity => some (.memory capacity)
  | _ => none

def givenAddress : Setting → Option String
  | .redis address => some address
  | _ => none

def givenPassword : Setting → Option String
  | .password given => some given
  | _ => none

def givenDatabase : Setting → Option Int
  | .database index => some index
  | _ => none

end Setting

namespace Builder

/-- What the last setting of a kind gives. -/
def last {α : Type} (given : Setting → Option α) (settings : List Setting) : Option α :=
  (settings.filterMap given).getLast?

/-- The settings after the last choice of a backend. -/
def sinceChoice (settings : List Setting) : List Setting :=
  settings.rtakeWhile fun setting => setting.chosen.isNone

/-- The settings that act on the backend: those after the last choice. Without a choice none does. -/
def effective (settings : List Setting) : List Setting :=
  if (last Setting.chosen settings).isSome then sinceChoice settings else []

/-- A chosen backend with what has been set since. -/
def complete (settings : List Setting) : BackendConfig → BackendConfig
  | .redis address _ _ =>
      .redis address (last Setting.givenPassword settings)
        ((last Setting.givenDatabase settings).getD 0)
  | .memory capacity => .memory capacity

/-- A backend after a setting that chooses none. -/
def amend : Setting → BackendConfig → BackendConfig
  | .password given, .redis address _ database => .redis address (some given) database
  | .database index, .redis address password _ => .redis address password index
  | _, backend => backend

/-- Of settings from which Redis is built nothing is lost: its address, its password and its database
are the last ones given, wherever among the settings that was. -/
def Keeps (settings : List Setting) : Prop :=
  ∀ address password database,
    (ofSettings settings).backend = .redis address password database →
      address = (last Setting.givenAddress settings).getD defaultRedisAddress ∧
        password = last Setting.givenPassword settings ∧
        database = (last Setting.givenDatabase settings).getD 0

section Sequences

variable {α : Type} {given : Setting → Option α} {settings later : List Setting} {setting : Setting}

theorem last_snoc (given : Setting → Option α) (settings : List Setting) (setting : Setting) :
    last given (settings ++ [setting]) = (given setting).or (last given settings) := by
  cases hGiven : given setting with
  | none => simp [last, List.filterMap_append, hGiven]
  | some value => simp [last, List.filterMap_append, hGiven]

/-- What is given at the end of a sequence is given last in the whole of it. -/
theorem last_of_suffix (suffix : later <:+ settings) {value : α}
    (h : last given later = some value) : last given settings = some value := by
  obtain ⟨before, rfl⟩ := suffix
  rw [last] at h ⊢
  rw [List.filterMap_append, List.getLast?_append, h, Option.some_or]

theorem effective_suffix (settings : List Setting) : effective settings <:+ settings := by
  unfold effective
  split
  · exact List.rtakeWhile_suffix _ _
  · exact List.nil_suffix

theorem sinceChoice_choice {backend : BackendConfig} (h : setting.chosen = some backend) :
    sinceChoice (settings ++ [setting]) = [] := by
  rw [sinceChoice, List.rtakeWhile_concat_neg]
  simp [h]

theorem sinceChoice_other (h : setting.chosen = none) :
    sinceChoice (settings ++ [setting]) = sinceChoice settings ++ [setting] := by
  rw [sinceChoice, List.rtakeWhile_concat_pos]
  · rfl
  · simp [h]

/-- The last choice of Redis is the one that gives the address. -/
theorem last_address_of_chosen {address : String} {password : Option String} {database : Int}
    (h : last Setting.chosen settings = some (.redis address password database)) :
    last Setting.givenAddress settings = some address := by
  induction settings using List.reverseRecOn with
  | nil => cases h
  | append_singleton settings setting ih =>
      rw [last_snoc] at h ⊢
      cases setting with
      | redis other =>
          cases h
          rfl
      | memory => cases h
      | password => exact ih h
      | database => exact ih h
      | tokenTtl => exact ih h

theorem last_address_of_unchosen (h : last Setting.chosen settings = none) :
    last Setting.givenAddress settings = none := by
  rw [last, List.getLast?_eq_none_iff, List.filterMap_eq_nil_iff] at h ⊢
  intro setting member
  have hChosen := h setting member
  cases setting with
  | redis => cases hChosen
  | _ => rfl

end Sequences

section Backends

variable {builder : Builder} {settings : List Setting} {setting : Setting} {backend : BackendConfig}

theorem set_choice (h : setting.chosen = some backend) :
    (builder.set setting).backend = some (complete [] backend) := by
  cases setting with
  | redis => cases h; rfl
  | memory => cases h; rfl
  | password => cases h
  | database => cases h
  | tokenTtl => cases h

theorem set_other (h : setting.chosen = none) :
    (builder.set setting).backend = builder.backend.map (amend setting) := by
  obtain ⟨backend, ttl⟩ := builder
  cases setting with
  | redis => cases h
  | memory => cases h
  | password given => rcases backend with _ | _ | _ <;> rfl
  | database index => rcases backend with _ | _ | _ <;> rfl
  | tokenTtl => rcases backend with _ | _ | _ <;> rfl

theorem complete_snoc (h : setting.chosen = none) :
    complete (settings ++ [setting]) backend = amend setting (complete settings backend) := by
  cases backend with
  | memory => cases setting <;> rfl
  | redis address password database =>
      rw [complete, last_snoc, last_snoc]
      cases setting with
      | redis => cases h
      | memory => cases h
      | _ => rfl

/-- After any settings the builder holds the backend that was chosen last, with what has been set
since. -/
theorem backend_foldl (settings : List Setting) :
    (settings.foldl set empty).backend =
      (last Setting.chosen settings).map (complete (sinceChoice settings)) := by
  -- From the last setting, because a choice undoes all that has been set before it.
  induction settings using List.reverseRecOn with
  | nil => rfl
  | append_singleton settings setting ih =>
      rw [List.foldl_append, List.foldl_cons, List.foldl_nil, last_snoc]
      cases hChosen : setting.chosen with
      | some backend => rw [set_choice hChosen, sinceChoice_choice hChosen]; rfl
      | none =>
          rw [set_other hChosen, ih, sinceChoice_other hChosen, Option.none_or, Option.map_map]
          exact Option.map_congr fun backend _ => (complete_snoc hChosen).symm

/-- What is built: a store in the process, if that is chosen last, and Redis otherwise, with what has
been set on it. -/
theorem backend_ofSettings (settings : List Setting) :
    (∃ capacity, (ofSettings settings).backend = .memory capacity) ∨
      (ofSettings settings).backend =
        .redis ((last Setting.givenAddress settings).getD defaultRedisAddress)
          (last Setting.givenPassword (effective settings))
          ((last Setting.givenDatabase (effective settings)).getD 0) := by
  rw [ofSettings, build, backend_foldl, effective]
  cases hChosen : last Setting.chosen settings with
  | none =>
      rw [last_address_of_unchosen hChosen]
      exact Or.inr rfl
  | some backend =>
      cases backend with
      | memory capacity => exact Or.inl ⟨capacity, rfl⟩
      | redis address password database =>
          rw [last_address_of_chosen hChosen]
          exact Or.inr rfl

end Backends

section Losses

variable {α : Type} {settings later : List Setting}

/-- The last of all is the last at the end exactly when nothing is given, or something is at the
end. -/
theorem last_suffix_eq_iff (given : Setting → Option α) (suffix : later <:+ settings) :
    last given later = last given settings ↔
      last given settings = none ∨ last given later ≠ none := by
  cases hLater : last given later with
  | some value => simp [last_of_suffix suffix hLater]
  | none => simp [eq_comm]

theorem last_suffix_getD_eq_iff (given : Setting → Option α) (suffix : later <:+ settings)
    (standard : α) :
    (last given later).getD standard = (last given settings).getD standard ↔
      (last given settings).getD standard = standard ∨ last given later ≠ none := by
  cases hLater : last given later with
  | some value => simp [last_of_suffix suffix hLater]
  | none => simp [eq_comm]

end Losses

/-- Nothing is lost of a sequence of settings exactly when it builds a store in the process, or its
password, if it has one, and its database, if that is not the standard one, are among the settings
after the last choice of a backend. What is built on Redis is the last address of all, with the last
password and the last database of those settings alone. -/
theorem keeps_iff (settings : List Setting) :
    (Keeps settings ↔
      (∃ capacity, (ofSettings settings).backend = .memory capacity) ∨
        (last Setting.givenPassword settings = none ∨
            last Setting.givenPassword (effective settings) ≠ none) ∧
          ((last Setting.givenDatabase settings).getD 0 = 0 ∨
            last Setting.givenDatabase (effective settings) ≠ none)) ∧
    ∀ address password database,
      (ofSettings settings).backend = .redis address password database →
        address = (last Setting.givenAddress settings).getD defaultRedisAddress ∧
          password = last Setting.givenPassword (effective settings) ∧
          database = (last Setting.givenDatabase (effective settings)).getD 0 := by
  have suffix := effective_suffix settings
  rw [← last_suffix_eq_iff _ suffix, ← last_suffix_getD_eq_iff _ suffix]
  rcases backend_ofSettings settings with ⟨capacity, hMemory⟩ | hRedis
  · simp [Keeps, hMemory]
  · simp [Keeps, hRedis]

/-- A password is lost when no backend is chosen, when Redis is chosen after it, and when another
address is given after it; a database is lost likewise. -/
theorem keeps_fails_before_choice :
    ofSettings [.password "x"] = ⟨.redis "localhost:6379" none 0, 0⟩ ∧ ¬ Keeps [.password "x"] ∧
      ofSettings [.password "x", .database 2, .redis "a:1"] = ⟨.redis "a:1" none 0, 0⟩ ∧
      ¬ Keeps [.password "x", .database 2, .redis "a:1"] ∧
      ofSettings [.redis "a:1", .password "x", .redis "b:2"] = ⟨.redis "b:2" none 0, 0⟩ ∧
      ¬ Keeps [.redis "a:1", .password "x", .redis "b:2"] := by
  refine ⟨by decide, fun keeps => ?_, by decide, fun keeps => ?_, by decide, fun keeps => ?_⟩
  · cases (keeps "localhost:6379" none 0 (by decide)).2.1
  · cases (keeps "a:1" none 0 (by decide)).2.1
  · cases (keeps "b:2" none 0 (by decide)).2.1

end Builder

end Masking.Store
