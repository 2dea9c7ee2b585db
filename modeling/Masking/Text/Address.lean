import Masking.Text.Digits
import Masking.Text.Search

/-! IP addresses with ports, read from text and written in their usual form. -/

namespace Masking.Text

/-- One number of an IPv4 address: at most three digits, no zero in front of others, at most 255. -/
def readOctet (text : List Char) : Option Nat :=
  match text with
  | [] => none
  | c :: rest =>
      if 3 < text.length ∨ (c = '0' ∧ rest ≠ []) then none
      else (readDecimal text).bind fun n => if n ≤ 255 then some n else none

/-- The numbers of an IPv4 address. -/
def readIpv4 (text : List Char) : Option (List Nat) :=
  match splitOn '.' text with
  | [a, b, c, d] => do
      some [← readOctet a, ← readOctet b, ← readOctet c, ← readOctet d]
  | _ => none

/-- One group of an IPv6 address: one to four hexadecimal digits. -/
def readGroup (text : List Char) : Option Nat :=
  if 4 < text.length then none else readInBase 16 text

/-- Groups in a row; the last one may be an IPv4 address, which makes two groups. -/
def readGroups : List (List Char) → Option (List Nat)
  | [] => some []
  | [last] =>
      match readIpv4 last with
      | some [a, b, c, d] => some [256 * a + b, 256 * c + d]
      | _ => (readGroup last).map fun group => [group]
  | first :: rest => do
      let group ← readGroup first
      some (group :: (← readGroups rest))

/-- The groups of a side of a double colon. -/
def readSide (text : List Char) : Option (List Nat) :=
  if text.isEmpty then some [] else readGroups (splitOn ':' text)

/-- A text cut at its first double colon. -/
def cutAtGap : List Char → Option (List Char × List Char)
  | ':' :: ':' :: rest => some ([], rest)
  | c :: rest => (cutAtGap rest).map fun (before, after) => (c :: before, after)
  | [] => none

/-- Whether the last piece of a side is an IPv4 address, which may only end an address. -/
def endsInIpv4 (text : List Char) : Bool :=
  text.contains '.'

/-- The eight groups of an IPv6 address; a double colon stands for at least one group of zero. -/
def readIpv6 (text : List Char) : Option (List Nat) :=
  match cutAtGap text with
  | none => do
      let groups ← readGroups (splitOn ':' text)
      if groups.length = 8 then some groups else none
  | some (before, after) => do
      if endsInIpv4 before then none
      else
        let left ← readSide before
        let right ← readSide after
        let missing := 8 - (left.length + right.length)
        if missing = 0 then none else some (left ++ List.replicate missing 0 ++ right)

/-- The text of an IPv4 address. -/
def showIpv4 (octets : List Nat) : List Char :=
  join ['.'] (octets.map decimal)

/-- The number of zeros at the front. -/
def zeroRun : List Nat → Nat
  | 0 :: rest => zeroRun rest + 1
  | _ => 0

/-- The first of the longest runs of zeros: where it begins, and how long it is. -/
def longestZeros : Nat → List Nat → Nat × Nat
  | _, [] => (0, 0)
  | place, group :: rest =>
      let here := zeroRun (group :: rest)
      let (start, length) := longestZeros (place + 1) rest
      if length ≤ here then (place, here) else (start, length)

/-- The text of an IPv6 address. The longest run of at least two groups of zero is left out, and an
address that stands for an IPv4 address shows it. -/
def showIpv6 (groups : List Nat) : List Char :=
  match groups with
  | [0, 0, 0, 0, 0, 0xFFFF, a, b] =>
      "::ffff:".toList ++ showIpv4 [a / 256, a % 256, b / 256, b % 256]
  | _ =>
      let side (part : List Nat) : List Char := join [':'] (part.map hexadecimal)
      let (start, length) := longestZeros 0 groups
      if 1 < length then side (groups.take start) ++ [':', ':'] ++ side (groups.drop (start + length))
      else side groups

/-- A port: decimal digits, at most 65535. -/
def readPort (text : List Char) : Option Nat :=
  (readDecimal text).bind fun port => if port ≤ 65535 then some port else none

/-- The last colon of a text and what stands on its sides. -/
def cutAtLastColon (text : List Char) : Option (List Char × List Char) :=
  match cutAt ':' text.reverse with
  | (_, none) => none
  | (after, some before) => some (before.reverse, after.reverse)

/-- A socket address in its usual form: an IPv4 address or an IPv6 address in brackets, a colon, and
a port. An IPv6 address may name its zone by a number, of which zero is not shown. `none` when a
text is no such address. -/
def normalizeSocketAddress (text : List Char) : Option (List Char) := do
  let (host, port) ← cutAtLastColon text
  let port ← readPort port
  match host with
  | '[' :: rest =>
      match rest.reverse with
      | ']' :: inner =>
          let (address, zone) := cutAt '%' inner.reverse
          let groups ← readIpv6 address
          let zone ←
            match zone with
            | some digits => (readDecimal digits).bind fun zone =>
                if zone ≤ 4294967295 then some zone else none
            | none => some 0
          let shownZone := if zone = 0 then [] else '%' :: decimal zone
          some ('[' :: showIpv6 groups ++ shownZone ++ "]:".toList ++ decimal port)
      | _ => none
  | _ =>
      let octets ← readIpv4 host
      some (showIpv4 octets ++ ':' :: decimal port)

end Masking.Text
