import Masking.Text.Digits

/-! Texts as they stand in a URL, where bytes may be written by a percent sign and two digits. -/

namespace Masking.Text

/-- The UTF-8 bytes of a text. -/
def utf8 (text : String) : List UInt8 :=
  text.toUTF8.data.toList

/-- Whether a byte stands for itself in every part of a URL: a letter, a digit, or one of `-_.~`. -/
def isUnreserved (b : UInt8) : Bool :=
  let n := b.toNat
  (48 ≤ n && n ≤ 57) || (65 ≤ n && n ≤ 90) || (97 ≤ n && n ≤ 122) || n = 45 || n = 46 || n = 95
    || n = 126

/-- Bytes with every reserved one as a percent sign and two hexadecimal digits. -/
def percentBytes : List UInt8 → List Char
  | [] => []
  | b :: rest =>
      if isUnreserved b then Char.ofNat b.toNat :: percentBytes rest
      else '%' :: upperHexDigit (b.toNat / 16) :: upperHexDigit (b.toNat % 16) :: percentBytes rest

/-- A text in the form in which it may stand in a URL. -/
def percentEncode (text : String) : String :=
  String.ofList (percentBytes (utf8 text))

/-- Bytes with percent signs and the two digits after them taken for the byte they stand for. A
percent sign that is not followed by two digits stands for itself. -/
def percentDecode : List UInt8 → List UInt8
  | [] => []
  | [a] => [a]
  | [a, b] => [a, b]
  | a :: high :: low :: rest =>
      match hexValue (Char.ofNat high.toNat), hexValue (Char.ofNat low.toNat) with
      | some x, some y =>
          if a.toNat = 37 then UInt8.ofNat (16 * x + y) :: percentDecode rest
          else a :: percentDecode (high :: low :: rest)
      | _, _ => a :: percentDecode (high :: low :: rest)

/-- The text of UTF-8 bytes, if they are valid. -/
def fromUtf8 (bytes : List UInt8) : Option String :=
  String.fromUTF8? ⟨bytes.toArray⟩

end Masking.Text
