import Masking.Category
import Masking.Digest.Sha256
import Masking.Text.Digits

/-! Tokens made from values. A token is a digest of value and category, cut short and put into a
form that suits the category, so that everyone makes the same token of the same value. -/

namespace Masking

/-- Gives the token of a value in a category. -/
abbrev Synthesizer := String → Category → String

namespace Synthesizer

/-- A table of token prefixes by category. -/
abbrev Prefixes := List (String × String)

/-- The table with what the tokens of a name begin with. A name that has an entry keeps it. -/
def Prefixes.enter (prefixes : Prefixes) (name lead : String) : Prefixes :=
  match prefixes.lookup name with
  | some _ => prefixes
  | none => (name, lead) :: prefixes

/-- The category whose tokens look like IPv4 addresses. -/
def ipv4Category : String := "ipv4"

/-- The category whose tokens look like host names. -/
def hostnameCategory : String := "hostname"

/-- The first octet of synthesized addresses. -/
def ipv4Network : Nat := 10

/-- The domain of synthesized host names. -/
def hostDomain : String := "masked.local"

/-- The bytes a token is derived from: the value followed by the category's tag. -/
def preimage (value : String) (category : Category) : List UInt8 :=
  value.toUTF8.data.toList ++ category.tag.toUTF8.data.toList

/-- The token of a category whose digest is known. Addresses keep three bytes of the digest, host
names four, and every other category six. -/
def format (prefixes : Prefixes) (category : Category) (digest : Sha256.Digest) : String :=
  let bytes := digest.toArray.toList
  if category.tag = ipv4Category then
    String.ofList (Text.join ['.']
      (Text.decimal ipv4Network :: (bytes.take 3).map fun b => Text.decimal b.toNat))
  else if category.tag = hostnameCategory then
    "host-" ++ String.ofList (Text.hex (bytes.take 4)) ++ "." ++ hostDomain
  else
    let mark := String.ofList (Text.hex (bytes.take 6))
    match category.fieldName with
    | some field => field ++ "-" ++ mark
    | none =>
        match prefixes.lookup category.tag with
        | some lead => lead ++ mark
        | none => mark

/-- The synthesizer that formats a digest of value and category. It is pure: the same value and
category always get the same token. -/
def ofDigest (digest : List UInt8 → Sha256.Digest) (prefixes : Prefixes) : Synthesizer :=
  fun value category => format prefixes category (digest (preimage value category))

/-- The synthesizer over SHA-256. -/
def sha256 (prefixes : Prefixes) : Synthesizer :=
  ofDigest Sha256.hash prefixes

/-- The synthesizer that gives every value the same token. -/
def const (token : String) : Synthesizer :=
  fun _ _ => token

end Synthesizer

end Masking
