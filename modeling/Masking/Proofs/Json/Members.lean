import Masking.Json.Value
import Mathlib.Data.String.Basic

/-! Members in the order of their names. Putting members in order keeps the last of each name, and
members that are in order already stay as they are. -/

namespace Masking

/-- The order of texts is that of their code points. -/
theorem Text.before_iff (first second : String) :
    Text.before first.toList second.toList = true ↔ first < second := by
  rw [String.lt_iff_toList_lt]
  generalize first.toList = first
  generalize second.toList = second
  induction first generalizing second with
  | nil => cases second <;> simp [Text.before]
  | cons c first ih =>
      cases second with
      | nil => simp [Text.before]
      | cons d second =>
          have hLess : c < d ↔ c.toNat < d.toNat := Iff.rfl
          have hSame : c = d ↔ c.toNat = d.toNat := Char.toNat_inj.symm
          rw [Text.before, List.cons_lt_cons_iff, hLess, hSame, ← ih]
          split
          next hFirst => simp [hFirst]
          next hFirst =>
            split
            next hSecond => simp [hFirst, Nat.ne_of_gt hSecond]
            next hSecond =>
              simp [Nat.le_antisymm (Nat.not_lt.mp hSecond) (Nat.not_lt.mp hFirst)]

namespace Json

/-- Members in the order of their names, each name once. -/
def Ordered (members : List (String × Json)) : Prop :=
  members.Pairwise fun first second => first.1 < second.1

variable {name : String} {value : Json} {member : String × Json} {members : List (String × Json)}

theorem mem_of_mem_insertMember (h : member ∈ insertMember name value members) :
    member = (name, value) ∨ member ∈ members := by
  induction members with
  | nil => exact Or.inl (List.mem_singleton.mp h)
  | cons head rest ih =>
      rw [insertMember] at h
      split at h
      next =>
        rcases List.mem_cons.mp h with hNew | hOld
        · exact Or.inl hNew
        · exact Or.inr (List.mem_cons_of_mem _ hOld)
      next =>
        split at h
        next => exact List.mem_cons.mp h
        next =>
          rcases List.mem_cons.mp h with rfl | hLater
          · exact Or.inr List.mem_cons_self
          · exact (ih hLater).imp_right (List.mem_cons_of_mem _)

theorem ordered_insertMember (h : Ordered members) (name : String) (value : Json) :
    Ordered (insertMember name value members) := by
  induction members with
  | nil => exact List.pairwise_singleton _ _
  | cons head rest ih =>
      obtain ⟨other, old⟩ := head
      obtain ⟨hFirst, hRest⟩ := List.pairwise_cons.mp h
      rw [insertMember]
      split
      next same =>
        exact List.pairwise_cons.mpr ⟨fun member hMember => same ▸ hFirst member hMember, hRest⟩
      next hOther =>
        split
        next hBefore =>
          have hLess := (Text.before_iff name other).mp hBefore
          refine List.pairwise_cons.mpr ⟨?_, h⟩
          exact List.forall_mem_cons.mpr
            ⟨hLess, fun member hMember => lt_trans hLess (hFirst member hMember)⟩
        next hAfter =>
          have hLess : other < name :=
            lt_of_le_of_ne (not_lt.mp fun hLess => hAfter ((Text.before_iff name other).mpr hLess))
              (Ne.symm hOther)
          refine List.pairwise_cons.mpr ⟨fun member hMember => ?_, ih hRest⟩
          rcases mem_of_mem_insertMember hMember with rfl | hOld
          · exact hLess
          · exact hFirst member hOld

/-- A member whose name comes after all others goes to the end. -/
theorem insertMember_last (h : ∀ member ∈ members, member.1 < name) :
    insertMember name value members = members ++ [(name, value)] := by
  induction members with
  | nil => rfl
  | cons head rest ih =>
      obtain ⟨other, old⟩ := head
      obtain ⟨hFirst, hRest⟩ := List.forall_mem_cons.mp h
      have hBefore : ¬ Text.before name.toList other.toList = true :=
        fun hBefore => lt_asymm hFirst ((Text.before_iff name other).mp hBefore)
      rw [insertMember, if_neg (ne_of_gt hFirst), if_neg hBefore, ih hRest]
      rfl

theorem ordered_sortMembers (members : List (String × Json)) : Ordered (sortMembers members) :=
  List.foldlRecOn members _ List.Pairwise.nil
    fun _ ordered member _ => ordered_insertMember ordered member.1 member.2

theorem mem_of_mem_sortMembers (h : member ∈ sortMembers members) : member ∈ members := by
  refine List.foldlRecOn (motive := fun sorted => ∀ member ∈ sorted, member ∈ members) members
    (fun sorted member => insertMember member.1 member.2 sorted)
    (fun _ h => absurd h List.not_mem_nil)
    (fun sorted kept new hNew member hMember => ?_) member h
  rcases mem_of_mem_insertMember hMember with rfl | hOld
  · exact hNew
  · exact kept member hOld

/-- Members that are in order stay as they are. -/
theorem sortMembers_of_ordered (h : Ordered members) : sortMembers members = members := by
  -- What has been sorted so far comes before the rest.
  have hStep : ∀ rest sorted, Ordered (sorted ++ rest) →
      rest.foldl (fun sorted member => insertMember member.1 member.2 sorted) sorted =
        sorted ++ rest := by
    intro rest
    induction rest with
    | nil => exact fun sorted _ => (List.append_nil sorted).symm
    | cons member rest ih =>
        intro sorted hOrdered
        obtain ⟨_, _, hAcross⟩ := List.pairwise_append.mp hOrdered
        have hNext := ih (sorted ++ [member]) (by rwa [← List.append_cons])
        rw [List.foldl_cons, insertMember_last fun old hOld =>
          hAcross old hOld member List.mem_cons_self, List.append_cons sorted member rest]
        exact hNext
  exact hStep members [] h

end Json

end Masking
