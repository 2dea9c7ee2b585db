import Masking.Text.Percent

/-! Percent signs in URLs. Every text can be written as a part of a URL, in characters that no
address treats in a way of its own, and is given back when the part is decoded. -/

namespace Masking.Text

/-- The byte of an ASCII character. -/
def byteOf (c : Char) : UInt8 :=
  UInt8.ofNat c.toNat

/-- The character may stand for itself in a URL, or opens an escape. -/
def IsPlain (c : Char) : Prop :=
  c.toNat < 128 ∧ (c = '%' ∨ isUnreserved (byteOf c) = true)

section Characters

theorem upperHexDigit_value : ∀ n < 16,
    hexValue (Char.ofNat (byteOf (upperHexDigit n)).toNat) = some n := by
  decide

theorem upperHexDigit_plain : ∀ n < 16, IsPlain (upperHexDigit n) := by
  unfold IsPlain
  decide

theorem percent_plain : IsPlain '%' :=
  ⟨by decide, Or.inl rfl⟩

theorem ofNat_toNat_ascii : ∀ n < 128, (Char.ofNat n).toNat = n := by
  decide

theorem unreserved_bounds {b : UInt8} (h : isUnreserved b = true) :
    b.toNat < 128 ∧ b.toNat ≠ 37 := by
  simp only [isUnreserved, Bool.or_eq_true, Bool.and_eq_true, decide_eq_true_eq] at h
  omega

theorem byteOf_ofNat {b : UInt8} (h : b.toNat < 128) : byteOf (Char.ofNat b.toNat) = b := by
  rw [byteOf, ofNat_toNat_ascii _ h]
  exact UInt8.ofNat_toNat

theorem plain_ofNat {b : UInt8} (h : isUnreserved b = true) : IsPlain (Char.ofNat b.toNat) := by
  obtain ⟨hSmall, _⟩ := unreserved_bounds h
  refine ⟨?_, Or.inr ?_⟩
  · rw [ofNat_toNat_ascii _ hSmall]
    exact hSmall
  · rw [byteOf_ofNat hSmall]
    exact h

theorem IsPlain.apart {c : Char} (h : IsPlain c) : c ≠ '/' ∧ c ≠ '?' ∧ c ≠ '#' := by
  obtain ⟨_, rfl | hFree⟩ := h
  · decide
  · refine ⟨?_, ?_, ?_⟩ <;> rintro rfl <;> cases hFree

end Characters

section Bytes

theorem percentBytes_plain (bytes : List UInt8) : ∀ c ∈ percentBytes bytes, IsPlain c := by
  induction bytes with
  | nil => exact fun c member => absurd member List.not_mem_nil
  | cons b rest ih =>
      have hSize := b.toNat_lt
      rw [percentBytes]
      split
      next hFree => exact List.forall_mem_cons.mpr ⟨plain_ofNat hFree, ih⟩
      next =>
        refine List.forall_mem_cons.mpr ⟨percent_plain, List.forall_mem_cons.mpr ⟨?_, ?_⟩⟩
        · exact upperHexDigit_plain _ (by omega)
        · exact List.forall_mem_cons.mpr ⟨upperHexDigit_plain _ (by omega), ih⟩

/-- A byte that is no percent sign stands for itself. -/
theorem percentDecode_other {b : UInt8} (h : b.toNat ≠ 37) (rest : List UInt8) :
    percentDecode (b :: rest) = b :: percentDecode rest := by
  match rest with
  | [] => rfl
  | [_] => rfl
  | high :: low :: rest =>
      rw [percentDecode]
      split
      · rw [if_neg h]
      · rfl

theorem percentDecode_escape {high low : Char} {x y : Nat}
    (hHigh : hexValue (Char.ofNat (byteOf high).toNat) = some x)
    (hLow : hexValue (Char.ofNat (byteOf low).toNat) = some y) (rest : List UInt8) :
    percentDecode (byteOf '%' :: byteOf high :: byteOf low :: rest) =
      UInt8.ofNat (16 * x + y) :: percentDecode rest := by
  rw [percentDecode]
  simp only [hHigh, hLow]
  rfl

theorem percentDecode_percentBytes (bytes : List UInt8) :
    percentDecode ((percentBytes bytes).map byteOf) = bytes := by
  induction bytes with
  | nil => rfl
  | cons b rest ih =>
      have hSize := b.toNat_lt
      rw [percentBytes]
      split
      next hFree =>
        obtain ⟨hSmall, hPercent⟩ := unreserved_bounds hFree
        rw [List.map_cons, byteOf_ofNat hSmall, percentDecode_other hPercent, ih]
      next =>
        have hByte : 16 * (b.toNat / 16) + b.toNat % 16 = b.toNat := Nat.div_add_mod _ _
        rw [List.map_cons, List.map_cons, List.map_cons,
          percentDecode_escape (upperHexDigit_value _ (by omega)) (upperHexDigit_value _ (by omega)),
          hByte, UInt8.ofNat_toNat, ih]

theorem percentBytes_ne_nil {bytes : List UInt8} (h : bytes ≠ []) : percentBytes bytes ≠ [] := by
  cases bytes with
  | nil => exact absurd rfl h
  | cons b rest =>
      rw [percentBytes]
      split <;> exact List.cons_ne_nil _ _

end Bytes

section Texts

theorem utf8_ofList (chars : List Char) :
    utf8 (String.ofList chars) = chars.flatMap String.utf8EncodeChar := by
  rw [utf8, String.toUTF8, String.toByteArray_ofList, List.utf8Encode]
  simp

theorem utf8_ascii {chars : List Char} (h : ∀ c ∈ chars, c.toNat < 128) :
    utf8 (String.ofList chars) = chars.map byteOf := by
  rw [utf8_ofList]
  induction chars with
  | nil => rfl
  | cons c rest ih =>
      obtain ⟨hFirst, hRest⟩ := List.forall_mem_cons.mp h
      have hByte : String.utf8EncodeChar c = [byteOf c] :=
        if_pos (Nat.le_of_lt_succ hFirst)
      rw [List.flatMap_cons, List.map_cons, ih hRest, hByte]
      rfl

theorem fromUtf8_utf8 (text : String) : fromUtf8 (utf8 text) = some text :=
  dif_pos text.isValidUTF8

/-- What is written as a part of a URL is given back by decoding. -/
theorem percentDecode_percentEncode (text : String) :
    fromUtf8 (percentDecode (utf8 (percentEncode text))) = some text := by
  have hAscii : ∀ c ∈ percentBytes (utf8 text), c.toNat < 128 :=
    fun c member => (percentBytes_plain _ c member).1
  rw [percentEncode, utf8_ascii hAscii, percentDecode_percentBytes, fromUtf8_utf8]

end Texts

end Masking.Text
