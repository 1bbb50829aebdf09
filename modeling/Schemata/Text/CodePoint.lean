import Schemata.Bytes

/-!
# Code points

Characters given by their number.

## Main definitions

* `CodePoint.ofHex?` : the number that hexadecimal digits spell.
* `CodePoint.toChar?` : the character with a number.
-/

namespace Schemata.CodePoint

/-- The value of a list of hexadecimal digits. -/
def ofHex? (digits : List Char) : Option Nat :=
  digits.foldlM (fun n c => (Bytes.hexValue? c).map (16 * n + ·)) 0

/-- The character of a code point, which is at most 0x10FFFF and no surrogate. -/
def toChar? (code : Nat) : Option Char :=
  if h : code.isValidChar then some ⟨code.toUInt32, by
    have hlt : code < 2 ^ 32 := by
      rcases h with h | h
      · exact Nat.lt_trans h (by decide)
      · exact Nat.lt_trans h.2 (by decide)
    have : code.toUInt32.toNat = code := by
      simp only [Nat.toUInt32, UInt32.toNat_ofNat']
      exact Nat.mod_eq_of_lt hlt
    simpa [UInt32.isValidChar, this] using h⟩
  else none

end Schemata.CodePoint
