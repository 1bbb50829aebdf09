/-!
# Sets of characters

A set of characters is kept by the code points at which membership changes, in order.  Two sets are
combined by one sweep over both lists.  A set may be written as a text of run lengths that starts
outside of it at code point zero.

## Main definitions

* `CharSet.contains` : membership.
* `CharSet.combine` : the set whose membership is computed from that in two others.
* `CharSet.ranges` : the ranges of a set in order.
-/

namespace Schemata

/-- The number of entries of the sorted array `bounds` that are at most `code`, searched between
`low` and `high`. -/
def countUpTo (bounds : Array Nat) (code low high : Nat) : Nat :=
  if high ≤ low then low
  else
    let middle := (low + high) / 2
    if bounds.getD middle 0 ≤ code then countUpTo bounds code (middle + 1) high
    else countUpTo bounds code low middle
termination_by high - low
decreasing_by all_goals omega

/-- The words of a text that are parted by single blanks. -/
def words (text : String) : List (List Char) :=
  let (last, done) := text.toList.foldr
    (fun c (current, done) => if c = ' ' then ([], current :: done) else (c :: current, done))
    ([], [])
  last :: done

/-- The number that a digit list spells. -/
def decimal (digits : List Char) : Nat :=
  digits.foldl (fun n c => 10 * n + (c.toNat - '0'.toNat)) 0

/-- A set of characters, given by the sorted code points at which membership changes. -/
structure CharSet where
  bounds : Array Nat
deriving DecidableEq

namespace CharSet

/-- The set without members. -/
def empty : CharSet :=
  ⟨#[]⟩

/-- All characters: all code points but the surrogates. -/
def all : CharSet :=
  ⟨#[0, 0xD800, 0xE000, 0x110000]⟩

/-- Reads alternating run lengths, the first one outside the set. -/
def ofRuns (lines : List String) : CharSet :=
  let (_, bounds) := (lines.flatMap words).foldl
    (fun (place, bounds) word =>
      let next := place + decimal word
      (next, bounds.push next))
    (0, #[])
  ⟨bounds⟩

/-- Is the character in the set? -/
def contains (set : CharSet) (c : Char) : Bool :=
  countUpTo set.bounds c.toNat 0 set.bounds.size % 2 = 1

/-- Notes `place` if membership changes there. -/
def mark (before after : Bool) (place : Nat) (out : Array Nat) : Array Nat :=
  if before = after then out else out.push place

/-- Sweeps over the places where membership in two sets changes; `inA` and `inB` say where the
sweep stands. -/
def sweep (keep : Bool → Bool → Bool) (inA inB : Bool) (a b : List Nat) (out : Array Nat) :
    Array Nat :=
  let go (nextA nextB : Bool) (place : Nat) : Array Nat :=
    mark (keep inA inB) (keep nextA nextB) place out
  match a, b with
  | [], [] => out
  | x :: a, [] => sweep keep (!inA) inB a [] (go (!inA) inB x)
  | [], y :: b => sweep keep inA (!inB) [] b (go inA (!inB) y)
  | x :: a, y :: b =>
    if x < y then sweep keep (!inA) inB a (y :: b) (go (!inA) inB x)
    else if y < x then sweep keep inA (!inB) (x :: a) b (go inA (!inB) y)
    else sweep keep (!inA) (!inB) a b (go (!inA) (!inB) x)
termination_by a.length + b.length

/-- The characters that `keep` takes, by their membership in two sets; what is in neither set is
not taken. -/
def combine (keep : Bool → Bool → Bool) (a b : CharSet) : CharSet :=
  ⟨sweep keep false false a.bounds.toList b.bounds.toList #[]⟩

/-- The characters in either set. -/
def union : CharSet → CharSet → CharSet :=
  combine (· || ·)

/-- The characters in both sets. -/
def intersection : CharSet → CharSet → CharSet :=
  combine (· && ·)

/-- The characters in the first set only. -/
def difference : CharSet → CharSet → CharSet :=
  combine fun a b => a && !b

/-- The characters in just one of the sets. -/
def symmetricDifference : CharSet → CharSet → CharSet :=
  combine (· != ·)

/-- The characters outside the set. -/
def complement (set : CharSet) : CharSet :=
  difference all set

/-- The characters from `low` to `high`. -/
def range (low high : Char) : CharSet :=
  intersection all ⟨#[low.toNat, high.toNat + 1]⟩

/-- The set of one character. -/
def single (c : Char) : CharSet :=
  range c c

/-- The union of a list of sets. -/
def unions (sets : List CharSet) : CharSet :=
  sets.foldl union empty

/-- Notes where a sorted list of code points starts and ends a run; `close` is the end of the run
that is still open. -/
def boundsOf (out : Array Nat) : Option Nat → List Nat → Array Nat
  | none, [] => out
  | some close, [] => out.push close
  | none, code :: rest => boundsOf (out.push code) (some (code + 1)) rest
  | some close, code :: rest =>
    if code < close then boundsOf out (some close) rest
    else if code = close then boundsOf out (some (code + 1)) rest
    else boundsOf ((out.push close).push code) (some (code + 1)) rest

/-- The set of a list of code points. -/
def ofCodes (codes : List Nat) : CharSet :=
  ⟨boundsOf #[] none codes.mergeSort⟩

/-- The first and last code points of the ranges between successive bounds. -/
def rangesOf : List Nat → List (Nat × Nat)
  | first :: next :: rest => (first, next - 1) :: rangesOf rest
  | _ => []

/-- The first and last code points of the ranges of the set, in order. -/
def ranges (set : CharSet) : List (Nat × Nat) :=
  rangesOf set.bounds.toList

/-- Has the set no members? -/
def isEmpty (set : CharSet) : Bool :=
  set.bounds.isEmpty

/-- The only member of a set that has just one. -/
def only? (set : CharSet) : Option Char :=
  match set.bounds.toList with
  | [first, next] => if next = first + 1 then some (Char.ofNat first) else none
  | _ => none

end CharSet

end Schemata
