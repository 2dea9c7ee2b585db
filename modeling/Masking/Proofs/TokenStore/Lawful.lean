import Masking.Proofs.Store.Entries
import Masking.Proofs.Store.Keys
import Masking.Proofs.TokenStore.Calls

/-! Token calls over a store that already holds entries. When every entry under the key of a value
is the one that the synthesizer makes, calls answer what the synthesizer says and leave only such
entries, whichever writes fail and whichever entries are lost. -/

namespace Masking

open Store (Action Backend CallContext Entries Error Key Within World)

/-- An entry as the synthesizer makes it. Under the key of a value stands its token, if no colon is
in the category; under any other key may stand anything. -/
def Lawful (synthesizer : Synthesizer) (key found : String) : Prop :=
  ∀ (value : String) (category : Category), category.Plain →
    key = (Key.ofValue category value).text → found = synthesizer value category

theorem lawful_forward (synthesizer : Synthesizer) {value : String} {category : Category}
    (plain : category.Plain) :
    Lawful synthesizer (Key.ofValue category value).text (synthesizer value category) := by
  intro other last hOther same
  obtain ⟨rfl, rfl⟩ := Key.ofValue_inj plain hOther same
  rfl

theorem lawful_reverse (synthesizer : Synthesizer) (category : Category) (masked value : String) :
    Lawful synthesizer (Key.ofMasked category masked).text value :=
  fun last other _ same => absurd same.symm (Key.ofValue_ne_ofMasked other category last masked)

section Calls

variable {σ : Type} {backend : Backend σ} {context : CallContext} {store : TokenStore}
  {entries : Entries σ}

/-- A call over lawful entries whose read does not fail answers the synthesized token, and leaves
lawful entries. -/
theorem TokenCall.Made.lawful {call : TokenCall σ}
    (made : call.Made backend context Action.ReadsSucceed store)
    (holds : backend.Holds entries (Lawful store.synthesizer))
    (within : Within entries (Lawful store.synthesizer) call.before)
    (plain : call.category.Plain) :
    call.result = .ok (store.synthesizer call.value call.category) ∧
      Within entries (Lawful store.synthesizer) call.after := by
  obtain ⟨events, hRun⟩ := made.run
  obtain ⟨found, middle, hEnds, hAllowed, _⟩ := made.ends
  have hAnswers := (TokenStore.answers_of_execute hRun).1
  generalize call.result = result at hAnswers ⊢
  generalize call.after = after at hAnswers ⊢
  cases hAnswers with
  | failed read =>
      cases hEnds.symm.trans read
      exact False.elim hAllowed
  | hit read =>
      obtain ⟨hFound, hAfter⟩ := holds.read within read
      exact ⟨congrArg Except.ok (hFound _ rfl _ _ plain rfl), hAfter⟩
  | miss read first second =>
      have hMiddle := (holds.read within read).2
      have hBetween := holds.write hMiddle (lawful_forward store.synthesizer plain) first
      exact ⟨rfl, holds.write hBetween (lawful_reverse store.synthesizer _ _ _) second⟩

/-- All calls of a chain that starts over lawful entries answer the synthesized tokens. -/
theorem CallChain.lawful {world after : World σ} {calls : List (TokenCall σ)}
    (chain : CallChain backend context Action.ReadsSucceed store world calls after)
    (holds : backend.Holds entries (Lawful store.synthesizer))
    (within : Within entries (Lawful store.synthesizer) world)
    (plain : ∀ call ∈ calls, call.category.Plain) :
    ∀ call ∈ calls, call.result = .ok (store.synthesizer call.value call.category) := by
  induction chain with
  | nil => exact fun call member => absurd member List.not_mem_nil
  | cons made _ ih =>
      obtain ⟨hResult, hAfter⟩ := made.lawful holds within (plain _ List.mem_cons_self)
      intro call member
      rcases List.mem_cons.mp member with rfl | later
      · exact hResult
      · exact ih hAfter (fun other hOther => plain other (List.mem_cons_of_mem _ hOther)) call later

end Calls

end Masking
