import Schemata.Text.Segments

/-!
# Paths

A path is kept as it was written.  Two paths are the same when they have the same parts, so
repeated separators, a separator at the end and single dots inside a path do not count.

## Main definitions

* `Path` : a path as written.
* `Path.parts` : what it is compared by.
* `Path.le` : the order of paths.
* `Path.parent?`, `Path.join`, `Path.extension?` : the directory around a path, a path inside a
  directory, and the ending of a name.
-/

namespace Schemata

/-- A path as it was written. -/
structure Path where
  text : String
deriving DecidableEq, Repr

/-- A step of a path. -/
inductive PathPart
  | root
  /-- A single dot at the start. -/
  | here
  | up
  | name (text : String)
deriving DecidableEq, Repr

namespace PathPart

/-- The place of a kind of part in the order of parts. -/
def rank : PathPart → Nat
  | root => 0
  | here => 1
  | up => 2
  | name _ => 3

/-- The order of parts: by kind, and names by their text. -/
def le : PathPart → PathPart → Bool
  | name a, name b => a ≤ b
  | a, b => a.rank ≤ b.rank

/-- The part that stands for a piece of text between separators, if the piece counts. -/
def ofSegment? (segment : String) : Option PathPart :=
  if segment = "" ∨ segment = "." then none
  else if segment = ".." then some up
  else some (name segment)

end PathPart

namespace Path

/-- The pieces between separators. -/
def segments (path : Path) : List String :=
  (Segments.split '/' path.text.toList).map String.ofList

/-- Does the path start at the root? -/
def isAbsolute (path : Path) : Bool :=
  path.text.toList.head? = some '/'

/-- What a path is compared by. -/
def parts (path : Path) : List PathPart :=
  let segments := path.segments
  let first :=
    if path.isAbsolute then [PathPart.root]
    else if segments.head? = some "." then [PathPart.here]
    else []
  first ++ segments.filterMap PathPart.ofSegment?

/-- The order of lists of parts: part by part, the shorter one first. -/
def lePartLists : List PathPart → List PathPart → Bool
  | [], _ => true
  | _ :: _, [] => false
  | a :: as, b :: bs => if a = b then lePartLists as bs else a.le b

/-- The order of paths. -/
def le (a b : Path) : Bool :=
  lePartLists a.parts b.parts

/-- Drops separators and single dots at the end, but not a dot that is the whole path. -/
def trimEnd : List String → List String
  | segments =>
    let kept := (segments.reverse.dropWhile fun s => s = "" || s = ".").reverse
    if kept.isEmpty then segments.take 1 else kept

/-- The path without its last part; there is none around a root or an empty path. -/
def parent? (path : Path) : Option Path :=
  match path.parts.getLast? with
  | none | some .root => none
  | some _ =>
    let inner := trimEnd (trimEnd path.segments).dropLast
    let text := "/".intercalate inner
    some ⟨if path.isAbsolute && text = "" then "/" else text⟩

/-- The path `inner` as seen from the directory `outer`. -/
def join (outer inner : Path) : Path :=
  if inner.isAbsolute || outer.text = "" then inner
  else if outer.text.toList.getLast? = some '/' then ⟨outer.text ++ inner.text⟩
  else ⟨outer.text ++ "/" ++ inner.text⟩

/-- The name at the end of the path. -/
def fileName? (path : Path) : Option String :=
  match path.parts.getLast? with
  | some (.name text) => some text
  | _ => none

/-- What follows the last dot of the name; a dot at its start does not count. -/
def extension? (path : Path) : Option String := do
  let name ← path.fileName?
  match Segments.split '.' name.toList with
  | [_] | [[], _] => none
  | pieces => pieces.getLast?.map String.ofList

end Path

end Schemata
