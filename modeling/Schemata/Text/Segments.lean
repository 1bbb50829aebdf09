/-!
# Segments of a text

A separator cuts a text into segments, one more than there are separators.

## Main definitions

* `Segments.split` : the segments of a text.
-/

namespace Schemata.Segments

/-- Cuts a text at every `sep`. -/
def split (sep : Char) : List Char → List (List Char)
  | [] => [[]]
  | c :: rest =>
    if c = sep then [] :: split sep rest
    else
      match split sep rest with
      | [] => [[c]]
      | first :: others => (c :: first) :: others

end Schemata.Segments
