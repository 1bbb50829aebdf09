/-!
# UTF-8

The octets of code points, and ranges of code points as sequences of ranges of octets.

## Main definitions

* `Utf8.encode` : the octets of a code point.
* `Utf8.sequences` : a range of code points, cut so that each part is a sequence of octet ranges.
-/

namespace Schemata.Utf8

/-- The octets of a code point. -/
def encode (code : Nat) : List Nat :=
  if code < 0x80 then [code]
  else if code < 0x800 then [0xC0 + code / 64, 0x80 + code % 64]
  else if code < 0x10000 then
    [0xE0 + code / 4096, 0x80 + code / 64 % 64, 0x80 + code % 64]
  else
    [0xF0 + code / 262144, 0x80 + code / 4096 % 64, 0x80 + code / 64 % 64, 0x80 + code % 64]

/-- The octets of a text. -/
def encodeAll (cs : List Char) : List Nat :=
  cs.flatMap fun c => encode c.toNat

/-- A range of octets, both ends included. -/
structure OctetRange where
  first : Nat
  last : Nat
deriving DecidableEq, Repr

/-- Where codes of more octets start. -/
def widths : List Nat :=
  [0x80, 0x800, 0x10000]

/-- Where a range has to be cut so that whole blocks of codes with the same leading octets are
parted from incomplete ones. -/
def blockCut? (first last block : Nat) : Option Nat :=
  if first / block = last / block then none
  else if first % block ≠ 0 then some ((first / block + 1) * block)
  else if (last + 1) % block ≠ 0 then some (last / block * block)
  else none

/-- Where a range of code points is cut first: the first code of the second part. -/
def cut? (first last : Nat) : Option Nat :=
  match widths.find? fun width => decide (first < width) && decide (width ≤ last) with
  | some width => some width
  | none =>
    if last < 0x80 then none
    else blockCut? first last 64 <|> blockCut? first last 4096 <|> blockCut? first last 262144

/-- The range of code points as sequences of octet ranges, in order.  The ends of a range that need
not be cut have equally many octets, and each octet runs from the one end to the other. -/
def sequences (first last : Nat) : List (List OctetRange) :=
  match cut? first last with
  | some cut =>
    if _h : first < cut ∧ cut ≤ last then sequences first (cut - 1) ++ sequences cut last
    else []
  | none => [List.zipWith OctetRange.mk (encode first) (encode last)]
termination_by last - first
decreasing_by all_goals omega

end Schemata.Utf8
