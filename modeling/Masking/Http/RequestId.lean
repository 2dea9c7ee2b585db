import Masking.Http.Response
import Masking.Text.Digits

/-! Names of requests: taken over from the sender when they are fit to be shown in a log, made up
from entropy otherwise. -/

namespace Masking.Http

/-- The header that carries the name of a request. -/
def requestIdHeader : String := "x-request-id"

namespace RequestId

/-- The greatest length of a name that is taken over from a request. -/
def maxLength : Nat := 128

/-- Whether a character is visible ASCII, the blank excluded. -/
def isGraphic (c : Char) : Bool :=
  32 < c.toNat && c.toNat < 127

/-- Whether a name is taken over from a request: visible characters, not too many of them. -/
def isAcceptable (id : String) : Bool :=
  id.toList ≠ [] && id.toList.length ≤ maxLength && id.toList.all isGraphic

/-- The lowest bytes of a number, the lowest one first. -/
def lowBytes : Nat → Nat → List UInt8
  | 0, _ => []
  | count + 1, value => UInt8.ofNat (value % 256) :: lowBytes count (value / 256)

/-- Bytes with the marks of a random UUID: the version in the seventh byte, the variant in the
ninth. -/
def stamp (bytes : List UInt8) : List UInt8 :=
  (bytes.modify 6 fun b => UInt8.ofNat (b.toNat % 16 + 64)).modify 8 fun b =>
    UInt8.ofNat (b.toNat % 64 + 128)

/-- A random UUID made from some entropy, of which 122 bits are used. -/
def generate (entropy : Nat) : String :=
  let bytes := stamp (lowBytes 16 entropy)
  let group (start count : Nat) : List Char := Text.hex ((bytes.drop start).take count)
  String.ofList (group 0 4 ++ '-' :: group 4 2 ++ '-' :: group 6 2 ++ '-' :: group 8 2
    ++ '-' :: group 10 6)

/-- The name of a request: the first one it carries when that is acceptable, otherwise a new one. -/
def choose (entropy : Nat) (headers : Headers) : String :=
  match headers.find requestIdHeader with
  | some id => if isAcceptable id then id else generate entropy
  | none => generate entropy

end RequestId

end Masking.Http
