import Schemata.Text.CharSet

/-!
# Maps over all code points

A map that is constant on runs of code points is written as a text of names, each followed by the
length of its run unless that is one, from code point zero on.  Two names with a bar between them
take turns.

## Main definitions

* `Unicode.CodeMap.find?` : the name at a code point.
* `Unicode.CodeMap.preimage` : the characters with a name that is asked for.
-/

namespace Schemata.Unicode

/-- A map from all code points to names, constant on runs. -/
structure CodeMap where
  starts : Array Nat
  values : Array String

namespace CodeMap

/-- Adds a run of some length to the starts and names of runs; if there is a `second` name, it takes
turns with the first. -/
def addRun (first second : List Char) (place length : Nat) (runs : Array Nat × Array String) :
    Array Nat × Array String :=
  let add (runs : Array Nat × Array String) (start : Nat) (name : List Char) :=
    (runs.1.push start, runs.2.push (String.ofList name))
  if second.isEmpty then add runs place first
  else
    (List.range length).foldl
      (fun runs i => add runs (place + i) (if i % 2 = 0 then first else second)) runs

/-- Reads runs, each a name or two followed by a length. -/
def ofRuns (lines : List String) : CodeMap :=
  let (_, starts, values) := (lines.flatMap words).foldl
    (fun (place, runs) word =>
      let names := word.takeWhile (fun c => !c.isDigit)
      let digits := word.dropWhile (fun c => !c.isDigit)
      let length := if digits.isEmpty then 1 else decimal digits
      let second := (names.dropWhile (· ≠ '|')).drop 1
      (place + length, addRun (names.takeWhile (· ≠ '|')) second place length runs))
    (0, #[], #[])
  ⟨starts, values⟩

/-- The name at a code point. -/
def find? (map : CodeMap) (code : Nat) : Option String :=
  map.values[countUpTo map.starts code 0 map.starts.size - 1]?

/-- The places where the runs with a wanted name start and end; `inside` tells of the run
before. -/
def preimageBounds (wanted : String → Bool) (inside : Bool) (out : Array Nat) :
    List (Nat × String) → Array Nat
  | [] => if inside then out.push 0x110000 else out
  | (start, name) :: rest =>
    preimageBounds wanted (wanted name) (CharSet.mark inside (wanted name) start out) rest

/-- The characters with a wanted name. -/
def preimage (map : CodeMap) (wanted : String → Bool) : CharSet :=
  .intersection .all
    ⟨preimageBounds wanted false #[] (map.starts.toList.zip map.values.toList)⟩

end CodeMap

end Schemata.Unicode
