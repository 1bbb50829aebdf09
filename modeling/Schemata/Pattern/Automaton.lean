import Schemata.Pattern.Look
import Schemata.Text.Utf8

/-!
# Automata that read octets

An automaton is an array of states that are built one after the other.  Its size is measured by the
states and by the arrows that leave them, and building stops when it grows beyond a limit.

## Main definitions

* `Automaton` : numbered states, one of which is the start.
* `Automaton.Build` : actions that add states, within the limit of size.
* `Automaton.Fragment` : a part with a first state and a last one, from which it is continued.
-/

namespace Schemata

/-- A range of octets and the state it leads to. -/
structure Arrow where
  range : Utf8.OctetRange
  next : Nat
deriving DecidableEq, Repr

namespace Automaton

/-- A state of an automaton. -/
inductive State
  /-- Goes on without reading. -/
  | pass (next : Nat)
  /-- Goes on if a condition holds. -/
  | look (condition : Look) (next : Nat)
  /-- Reads one octet. -/
  | read (arrow : Arrow)
  /-- Reads one octet, in one of several ranges. -/
  | branch (arrows : List Arrow)
  /-- Goes on to any of some states without reading. -/
  | fork (nexts : List Nat)
  /-- The text has been matched. -/
  | final
deriving Inhabited

namespace State

/-- The room that a state takes besides its place in the array. -/
def extra : State → Nat
  | branch arrows => 8 * arrows.length
  | fork nexts => 4 * nexts.length
  | _ => 0

/-- Leads the state to `next`; a fork gets one way more. -/
def leadTo (next : Nat) : State → State
  | pass _ => pass next
  | look condition _ => look condition next
  | read arrow => read { arrow with next := next }
  | branch arrows => branch arrows
  | fork nexts => fork (next :: nexts)
  | final => final

/-- Is the state a fork? -/
def isFork : State → Bool
  | fork _ => true
  | _ => false

end State

/-- The states built so far, with the sum of the room that they take besides their places. -/
structure Draft where
  states : Array State
  extra : Nat

namespace Draft

/-- Nothing has been built. -/
def empty : Draft :=
  ⟨#[], 0⟩

/-- The size of what has been built. -/
def size (draft : Draft) : Nat :=
  32 * draft.states.size + draft.extra

/-- An automaton may have this size. -/
def sizeLimit : Nat :=
  10 * 1024 * 1024

/-- The draft itself, unless it is too big. -/
def within? (draft : Draft) : Option Draft :=
  if draft.size ≤ sizeLimit then some draft else none

end Draft

/-- An action that adds states and fails when there are too many. -/
abbrev Build :=
  StateT Draft Option

/-- Adds a state and gives its number. -/
def add (state : State) : Build Nat := fun draft =>
  let number := draft.states.size
  let grown : Draft := ⟨draft.states.push state, draft.extra + state.extra⟩
  grown.within?.map fun grown => (number, grown)

/-- Leads a state to another one. -/
def link (source target : Nat) : Build Unit := fun draft =>
  let room := if (draft.states.getD source .final).isFork then 4 else 0
  let grown : Draft := ⟨draft.states.modify source (·.leadTo target), draft.extra + room⟩
  grown.within?.map fun grown => ((), grown)

/-- A part of an automaton: where it is entered, and the state from which it is continued. -/
structure Fragment where
  first : Nat
  last : Nat

/-- A state as a fragment. -/
def one (state : State) : Build Fragment := do
  let number ← add state
  return ⟨number, number⟩

/-- The fragment that goes on without reading. -/
def pass : Build Fragment :=
  one (.pass 0)

/-- Continues a fragment by others. -/
def follow (fragment : Fragment) : List (Build Fragment) → Build Fragment
  | [] => return fragment
  | piece :: pieces => do
    let next ← piece
    link fragment.last next.first
    follow ⟨fragment.first, next.last⟩ pieces

/-- One fragment after the other. -/
def chain : List (Build Fragment) → Build Fragment
  | [] => pass
  | piece :: pieces => do follow (← piece) pieces

/-- Continues a fragment by copies of a piece. -/
def followCopies (piece : Build Fragment) (fragment : Fragment) : Nat → Build Fragment
  | 0 => return fragment
  | count + 1 => do
    let next ← piece
    link fragment.last next.first
    followCopies piece ⟨fragment.first, next.last⟩ count

/-- A number of copies of a piece. -/
def copies (piece : Build Fragment) : Nat → Build Fragment
  | 0 => pass
  | count + 1 => do followCopies piece (← piece) count

/-- A piece or nothing. -/
def optional (piece : Build Fragment) : Build Fragment := do
  let fork ← add (.fork [])
  let body ← piece
  let stop ← add (.pass 0)
  link fork body.first
  link fork stop
  link body.last stop
  return ⟨fork, stop⟩

/-- A piece that reads something, any number of times. -/
def loop (piece : Build Fragment) : Build Fragment := do
  let fork ← add (.fork [])
  let body ← piece
  link fork body.first
  link body.last fork
  return ⟨fork, fork⟩

/-- A piece at least once. -/
def loopOnce (piece : Build Fragment) : Build Fragment := do
  let body ← piece
  let fork ← add (.fork [])
  link body.last fork
  link fork body.first
  return ⟨body.first, fork⟩

/-- A piece that may read nothing, any number of times. -/
def loopOptional (piece : Build Fragment) : Build Fragment := do
  let body ← piece
  let again ← add (.fork [])
  link body.last again
  link again body.first
  let enter ← add (.fork [])
  let stop ← add (.pass 0)
  link enter body.first
  link enter stop
  link again stop
  return ⟨enter, stop⟩

/-- A piece at least `min` times; `reads` says that it cannot read nothing. -/
def atLeast (piece : Build Fragment) (reads : Bool) : Nat → Build Fragment
  | 0 => if reads then loop piece else loopOptional piece
  | 1 => loopOnce piece
  | min + 2 => do
    let start ← copies piece (min + 1)
    let more ← loopOnce piece
    link start.last more.first
    return ⟨start.first, more.last⟩

/-- Continues from `last` by up to `count` pieces, each of which may be the last. -/
def upTo (piece : Build Fragment) (stop last : Nat) : Nat → Build Nat
  | 0 => return last
  | count + 1 => do
    let fork ← add (.fork [])
    let body ← piece
    link last fork
    link fork body.first
    link fork stop
    upTo piece stop body.last count

/-- A piece at least `min` and at most `max` times. -/
def between (piece : Build Fragment) (min max : Nat) : Build Fragment := do
  let start ← copies piece min
  let stop ← add (.pass 0)
  let last ← upTo piece stop start.last (max - min)
  link last stop
  return ⟨start.first, stop⟩

/-- Leads a fork to more pieces that all end at `stop`. -/
def moreOptions (fork stop : Nat) : List (Build Fragment) → Build Unit
  | [] => return ()
  | piece :: pieces => do
    let option ← piece
    link fork option.first
    link option.last stop
    moreOptions fork stop pieces

/-- One of several pieces. -/
def oneOf : List (Build Fragment) → Build Fragment
  | [] => one (.branch [])
  | [piece] => piece
  | first :: second :: pieces => do
    let first ← first
    let second ← second
    let fork ← add (.fork [])
    let stop ← add (.pass 0)
    link fork first.first
    link first.last stop
    link fork second.first
    link second.last stop
    moreOptions fork stop pieces
    return ⟨fork, stop⟩

end Automaton

/-- An automaton: its states by number, and the one it starts in. -/
structure Automaton where
  states : Array Automaton.State
  start : Nat

end Schemata
