import Masking.Text.Address
import Mathlib.Logic.Function.Basic

/-! Digits, and what is written with them. Hexadecimal digits tell bytes apart, a text is cut at
its separators into the pieces that were joined, and so an IPv4 address is read back as it was
written, although its numbers are not padded. -/

namespace Masking.Text

section Pieces

variable {separator : Char} {piece : List Char}

theorem splitOn_append (h : separator ∉ piece) (rest : List Char) :
    splitOn separator (piece ++ separator :: rest) = piece :: splitOn separator rest := by
  induction piece with
  | nil => simp [splitOn]
  | cons c piece ih =>
      obtain ⟨hFirst, hRest⟩ := List.ne_and_not_mem_of_not_mem_cons h
      rw [List.cons_append, splitOn, if_neg (Ne.symm hFirst), ih hRest]

theorem splitOn_single (h : separator ∉ piece) : splitOn separator piece = [piece] := by
  induction piece with
  | nil => rfl
  | cons c piece ih =>
      obtain ⟨hFirst, hRest⟩ := List.ne_and_not_mem_of_not_mem_cons h
      rw [splitOn, if_neg (Ne.symm hFirst), ih hRest]

/-- The pieces of a text, joined again, are the text. -/
theorem join_splitOn (separator : Char) (text : List Char) :
    join [separator] (splitOn separator text) = text := by
  induction text with
  | nil => rfl
  | cons c rest ih =>
      have hNonempty : ∃ first others, splitOn separator rest = first :: others := by
        cases rest with
        | nil => exact ⟨[], [], rfl⟩
        | cons d rest =>
            rw [splitOn]
            split
            · exact ⟨_, _, rfl⟩
            · split <;> exact ⟨_, _, rfl⟩
      obtain ⟨first, others, hSplit⟩ := hNonempty
      rw [splitOn]
      split
      next same => rw [hSplit] at ih ⊢; simp [join, ih, same]
      next =>
        rw [hSplit] at ih ⊢
        cases others with
        | nil => simpa [join] using ih
        | cons second others => simpa [join] using ih

/-- Pieces that do not have the separator in them are found again after they have been joined. -/
theorem splitOn_join {first : List Char} {others : List (List Char)} (h : separator ∉ first)
    (plain : ∀ piece ∈ others, separator ∉ piece) :
    splitOn separator (join [separator] (first :: others)) = first :: others := by
  induction others generalizing first with
  | nil => exact splitOn_single h
  | cons second others ih =>
      obtain ⟨hSecond, hOthers⟩ := List.forall_mem_cons.mp plain
      show splitOn separator (first ++ [separator] ++ join [separator] (second :: others)) = _
      rw [List.append_assoc, List.singleton_append, splitOn_append h, ih hSecond hOthers]

end Pieces

section Hexadecimal

theorem hexDigit_value : ∀ n < 16, hexValue (hexDigit n) = some n := by
  decide

theorem hexDigit_inj {m n : Nat} (hm : m < 16) (hn : n < 16) (h : hexDigit m = hexDigit n) :
    m = n := by
  have hValue := hexDigit_value m hm
  rw [h, hexDigit_value n hn] at hValue
  exact (Option.some.inj hValue).symm

theorem length_hex (bytes : List UInt8) : (hex bytes).length = 2 * bytes.length := by
  induction bytes with
  | nil => rfl
  | cons b rest ih =>
      rw [hex, List.length_append, ih, List.length_cons, Nat.mul_add_one, Nat.add_comm]
      rfl

theorem hex_ne_nil {bytes : List UInt8} (h : bytes ≠ []) : hex bytes ≠ [] := by
  cases bytes with
  | nil => exact absurd rfl h
  | cons b rest => simp [hex, hexByte]

/-- Bytes are told by their digits: each byte has two, so digits never run together. -/
theorem hex_injective : Function.Injective hex := by
  intro first second same
  induction first generalizing second with
  | nil =>
      cases second with
      | nil => rfl
      | cons b rest => exact absurd same.symm (hex_ne_nil (List.cons_ne_nil b rest))
  | cons b first ih =>
      cases second with
      | nil => exact absurd same (hex_ne_nil (List.cons_ne_nil b first))
      | cons d second =>
          have hb := b.toNat_lt
          have hd := d.toNat_lt
          simp only [hex, hexByte, List.cons_append, List.nil_append, List.cons.injEq] at same
          obtain ⟨hHigh, hLow, hRest⟩ := same
          have high : b.toNat / 16 = d.toNat / 16 := by apply hexDigit_inj <;> omega
          have low : b.toNat % 16 = d.toNat % 16 := by apply hexDigit_inj <;> omega
          have hByte : b = d := by
            apply UInt8.toNat_inj.mp
            omega
          rw [hByte, ih hRest]

end Hexadecimal

section Addresses

theorem readOctet_decimal : ∀ n < 256, readOctet (decimal n) = some n := by
  decide +kernel

theorem dot_not_mem_decimal : ∀ n < 256, '.' ∉ decimal n := by
  decide +kernel

/-- An address is read back as the numbers it was written from. -/
theorem readIpv4_showIpv4 {a b c d : Nat} (ha : a < 256) (hb : b < 256) (hc : c < 256)
    (hd : d < 256) : readIpv4 (showIpv4 [a, b, c, d]) = some [a, b, c, d] := by
  have hPieces : splitOn '.' (showIpv4 [a, b, c, d]) =
      [decimal a, decimal b, decimal c, decimal d] := by
    apply splitOn_join (dot_not_mem_decimal a ha)
    simp [dot_not_mem_decimal, hb, hc, hd]
  rw [readIpv4, hPieces]
  simp [readOctet_decimal, ha, hb, hc, hd]

end Addresses

end Masking.Text
