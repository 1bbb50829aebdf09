/-!
# Octets and little-endian words

Byte strings are lists of octets.  Numbers are written with the least octet first in a fixed
number of octets, and texts are written in UTF-8.

## Main definitions

* `Bytes.ofNat` : the `count` low octets of a number.
* `Bytes.toNat` : the number that a list of octets spells.
* `Bytes.ofString` : the UTF-8 octets of a text.
-/

namespace Schemata.Bytes

/-- The `count` low octets of `value`, least first. -/
def ofNat : (count value : Nat) → List UInt8
  | 0, _ => []
  | count + 1, value => UInt8.ofNat value :: ofNat count (value / 256)

/-- The number spelled by `bytes`, least octet first. -/
def toNat (bytes : List UInt8) : Nat :=
  bytes.foldr (fun byte rest => byte.toNat + 256 * rest) 0

/-- The UTF-8 octets of `text`. -/
def ofString (text : String) : List UInt8 :=
  text.toUTF8.toList

/-- The digits of an octet in lower-case hexadecimal. -/
def hexDigits (byte : UInt8) : List Char :=
  [Nat.digitChar (byte.toNat / 16), Nat.digitChar (byte.toNat % 16)]

/-- Two lower-case hexadecimal digits per octet. -/
def toHex (bytes : List UInt8) : String :=
  String.ofList (bytes.flatMap hexDigits)

/-- The value of a hexadecimal digit of either case. -/
def hexValue? (c : Char) : Option Nat :=
  if '0' ≤ c ∧ c ≤ '9' then some (c.toNat - '0'.toNat)
  else if 'a' ≤ c ∧ c ≤ 'f' then some (c.toNat - 'a'.toNat + 10)
  else if 'A' ≤ c ∧ c ≤ 'F' then some (c.toNat - 'A'.toNat + 10)
  else none

/-- Reads pairs of hexadecimal digits; refuses an odd digit and any other character. -/
def ofHex? : List Char → Option (List UInt8)
  | [] => some []
  | high :: low :: rest => do
    let h ← hexValue? high
    let l ← hexValue? low
    let bytes ← ofHex? rest
    return UInt8.ofNat (16 * h + l) :: bytes
  | [_] => none

end Schemata.Bytes
