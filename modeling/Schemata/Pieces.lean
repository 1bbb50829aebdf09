/-!
# Pieces of a list

## Main definitions

* `pieces` : cuts a list into pieces of equal size.
-/

namespace Schemata

/-- Cuts a list into pieces of `size` elements; the last piece may be shorter. -/
def pieces {α : Type} (size : Nat) (items : List α) : List (List α) :=
  go items.length items
where
  go : Nat → List α → List (List α)
  | 0, _ => []
  | fuel + 1, items =>
    if items.isEmpty then []
    else items.take size :: go fuel (items.drop size)

end Schemata
