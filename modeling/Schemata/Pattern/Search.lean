import Schemata.Pattern.Assembly

/-!
# Searching texts

An automaton is run on a text by following all states at once.  A match may start before each
character, and conditions are tried between characters only.

## Main definitions

* `Automaton.spread` : the states that are reached without reading.
* `Automaton.isMatch` : does an automaton match some part of a text?
-/

namespace Schemata.Automaton

/-- Where a run stands: the states that read the next octet, and whether a match was found. -/
structure Front where
  /-- The last round in which each state was reached. -/
  seen : Array Nat
  round : Nat
  readers : List State
  found : Bool

/-- The number of ways that lead from state to state without reading. -/
def ways (a : Automaton) : Nat :=
  a.states.foldl (fun n state =>
    match state with
    | .pass _ => n + 1
    | .look _ _ => n + 1
    | .fork nexts => n + nexts.length
    | _ => n) 0

/-- Follows the ways that need no reading from the states in `todo`; `allows` says which
conditions hold.  Each way is gone once, so `fuel` is to be their number and that of `todo`. -/
def spread (a : Automaton) (allows : Look → Bool) (round : Nat) :
    Nat → List Nat → Array Nat → List State → Bool → Front
  | 0, _, seen, readers, found => ⟨seen, round, readers, found⟩
  | _, [], seen, readers, found => ⟨seen, round, readers, found⟩
  | fuel + 1, number :: todo, seen, readers, found =>
    if seen.getD number 0 = round then spread a allows round fuel todo seen readers found
    else
      let seen := seen.setIfInBounds number round
      match a.states[number]? with
      | some (.pass next) => spread a allows round fuel (next :: todo) seen readers found
      | some (.look condition next) =>
        spread a allows round fuel (if allows condition then next :: todo else todo)
          seen readers found
      | some (.fork nexts) => spread a allows round fuel (nexts ++ todo) seen readers found
      | some .final => spread a allows round fuel todo seen readers true
      | some state => spread a allows round fuel todo seen (state :: readers) found
      | none => spread a allows round fuel todo seen readers found

/-- The state that an arrow leads to by an octet. -/
def arrowNext? (octet : Nat) (arrow : Arrow) : Option Nat :=
  if arrow.range.first ≤ octet ∧ octet ≤ arrow.range.last then some arrow.next else none

/-- The state that is reached by reading an octet. -/
def State.next? (octet : Nat) : State → Option Nat
  | read arrow => arrowNext? octet arrow
  | branch arrows => arrows.findSome? (arrowNext? octet)
  | _ => none

/-- Reads the octets of a character; no condition holds between them. -/
def readOctets (a : Automaton) (fuel : Nat) (front : Front) : List Nat → List Nat × Front
  | [] => ([], front)
  | [octet] => (front.readers.filterMap (State.next? octet), front)
  | octet :: octets =>
    let live := front.readers.filterMap (State.next? octet)
    let front := spread a (fun _ => false) (front.round + 1) (fuel + live.length) live front.seen
      [] false
    readOctets a fuel front octets

/-- Searches the rest of a text; `live` was reached by what was read, which ended in `before`. -/
def search (a : Automaton) (fuel : Nat) (before : Option Char) (live : List Nat) (front : Front) :
    List Char → Bool
  | [] =>
    (spread a (·.holds before none) (front.round + 1) (fuel + live.length + 1) (a.start :: live)
      front.seen [] false).found
  | c :: rest =>
    let front := spread a (·.holds before (some c)) (front.round + 1) (fuel + live.length + 1)
      (a.start :: live) front.seen [] false
    if front.found then true
    else
      let (live, front) := readOctets a fuel front (Utf8.encode c.toNat)
      search a fuel (some c) live front rest

/-- Does the automaton match some part of the text? -/
def isMatch (a : Automaton) (text : String) : Bool :=
  search a a.ways none [] ⟨.replicate a.states.size 0, 0, [], false⟩ text.toList

end Schemata.Automaton
