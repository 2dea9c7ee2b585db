import Masking.Synthesizer
import Masking.Proofs.Text.Digits
import Mathlib.Data.List.Basic

/-! Tokens that fall together. A token shows the first bytes of a digest in a form that depends on
its category alone, and every such form can be read back: two values have one token exactly when
their digests agree in the bytes that are shown. -/

namespace Masking.Synthesizer

open Text (decimal hex hex_injective readIpv4 readIpv4_showIpv4 showIpv4)

/-- How many bytes of a digest the tokens of a category show. -/
def shownBytes (category : Category) : Nat :=
  if category.tag = "ipv4" then 3
  else if category.tag = "hostname" then 4
  else 6

section Forms

variable {prefixes : Prefixes} {category : Category}

theorem shownBytes_ipv4 (h : category.tag = ipv4Category) : shownBytes category = 3 :=
  if_pos h

theorem shownBytes_hostname (h : category.tag = hostnameCategory) : shownBytes category = 4 := by
  rw [shownBytes, h]
  rfl

theorem shownBytes_other (h : category.tag ≠ ipv4Category)
    (hHost : category.tag ≠ hostnameCategory) : shownBytes category = 6 :=
  (if_neg h).trans (if_neg hHost)

/-- A digest is long enough for an address. -/
theorem exists_octets (digest : Sha256.Digest) :
    ∃ b c d : UInt8, digest.toList.take 3 = [b, c, d] := by
  have hLength : (digest.toList.take 3).length = 3 := by simp
  exact List.length_eq_three.mp hLength

/-- Tokens of the address category are addresses, whose first number is that of the network. -/
theorem format_ipv4 (h : category.tag = ipv4Category) (digest : Sha256.Digest) :
    (format prefixes category digest).toList =
      showIpv4 (ipv4Network :: (digest.toList.take 3).map UInt8.toNat) := by
  rw [format, if_pos h, String.toList_ofList, showIpv4, List.map_cons, List.map_map]
  rfl

theorem readIpv4_format (h : category.tag = ipv4Category) (digest : Sha256.Digest) :
    readIpv4 (format prefixes category digest).toList =
      some (ipv4Network :: (digest.toList.take 3).map UInt8.toNat) := by
  obtain ⟨b, c, d, hOctets⟩ := exists_octets digest
  rw [format_ipv4 h, hOctets]
  apply readIpv4_showIpv4
  · decide
  · exact b.toNat_lt
  · exact c.toNat_lt
  · exact d.toNat_lt

/-- Everywhere else the digits of the bytes shown stand between two texts that the category
determines. -/
theorem exists_frame (h : category.tag ≠ ipv4Category) :
    ∃ before after : String, ∀ digest : Sha256.Digest, format prefixes category digest =
      before ++ String.ofList (hex (digest.toList.take (shownBytes category))) ++ after := by
  by_cases hHost : category.tag = hostnameCategory
  · refine ⟨"host-", "." ++ hostDomain, fun digest => ?_⟩
    rw [format, if_neg h, if_pos hHost, shownBytes_hostname hHost, String.append_assoc]
    rfl
  · simp only [format, if_neg h, if_neg hHost, shownBytes_other h hHost]
    cases category.fieldName with
    | some field => exact ⟨field ++ "-", "", fun digest => by simp [Vector.toList]⟩
    | none =>
        cases prefixes.lookup category.tag with
        | some lead => exact ⟨lead, "", fun digest => by simp [Vector.toList]⟩
        | none => exact ⟨"", "", fun digest => by simp [Vector.toList]⟩

/-- The form of a token loses nothing of the bytes that it shows. -/
theorem format_eq_iff (first second : Sha256.Digest) :
    format prefixes category first = format prefixes category second ↔
      first.toList.take (shownBytes category) = second.toList.take (shownBytes category) := by
  by_cases h : category.tag = ipv4Category
  · rw [shownBytes_ipv4 h]
    constructor
    · intro same
      have hRead := congrArg (fun token : String => readIpv4 token.toList) same
      simp only [readIpv4_format h, Option.some.injEq, List.cons.injEq, true_and] at hRead
      exact List.map_injective_iff.mpr (fun _ _ => UInt8.toNat_inj.mp) hRead
    · intro same
      apply String.toList_inj.mp
      rw [format_ipv4 h, format_ipv4 h, same]
  · obtain ⟨before, after, hFrame⟩ := @exists_frame prefixes category h
    rw [hFrame, hFrame]
    constructor
    · intro same
      apply hex_injective
      simpa [← String.toList_inj] using same
    · intro same
      rw [same]

end Forms

/-- The bytes that are hashed are those of the value, followed by those of the category's tag. Two
values of a category have one token exactly when the digests of these bytes agree as far as tokens of
the category show them, whatever the table of leads is; and every token of the address category reads
as an address of the masked network, followed by the first three bytes of its digest. -/
theorem tokens_collide_iff (digest : List UInt8 → Sha256.Digest) (prefixes : Prefixes) :
    (∀ (category : Category) (first second : String),
      ofDigest digest prefixes first category = ofDigest digest prefixes second category ↔
        (digest (first.toUTF8.data.toList ++ category.tag.toUTF8.data.toList)).toList.take
            (shownBytes category) =
          (digest (second.toUTF8.data.toList ++ category.tag.toUTF8.data.toList)).toList.take
            (shownBytes category)) ∧
    ∀ value : String, ∃ b c d : UInt8,
      (digest (value.toUTF8.data.toList ++ "ipv4".toUTF8.data.toList)).toList.take 3 = [b, c, d] ∧
        readIpv4 (ofDigest digest prefixes value ⟨"ipv4"⟩).toList =
          some [10, b.toNat, c.toNat, d.toNat] := by
  refine ⟨fun category first second => format_eq_iff _ _, fun value => ?_⟩
  obtain ⟨b, c, d, hOctets⟩ := exists_octets (digest (preimage value ⟨ipv4Category⟩))
  refine ⟨b, c, d, hOctets, ?_⟩
  have hRead := @readIpv4_format prefixes ⟨ipv4Category⟩ rfl (digest (preimage value ⟨ipv4Category⟩))
  rw [hOctets] at hRead
  exact hRead

end Masking.Synthesizer
