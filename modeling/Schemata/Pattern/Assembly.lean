import Schemata.Pattern.Automaton
import Schemata.Pattern.Regex
import Std.Data.HashMap

/-!
# Automata of expressions

An expression is assembled piece by piece into an automaton that reads the octets of a text.  It can
also be assembled backwards, from its end to its start; such an automaton is only measured, since an
expression is refused if it is too big in either direction.

## Main definitions

* `Automaton.ofChars` : the piece that reads one character of a set.
* `Automaton.Trie` : texts that share their starts.
* `Regex.assemble` : the piece of an expression.
* `Automaton.ofRegex?` : the automaton of an expression, within the limit of size.
-/

namespace Schemata

namespace Automaton

/-! ### Sets of characters -/

/-- Finished states by what they read.  There is a slot for each hash value only, and the last
state that was put into a slot is the one that is found there. -/
structure Finished (κ : Type) where
  slots : Std.HashMap Nat (κ × Nat) := ∅

namespace Finished

variable {κ : Type}

/-- The slot among `count` ones for a list of numbers. -/
def slot (count : Nat) (numbers : List Nat) : Nat :=
  let hash : UInt64 := numbers.foldl (fun hash n => (hash ^^^ n.toUInt64) * 1099511628211)
    14695981039346656037
  hash.toNat % count

/-- The state in a slot, if it is the one for `key`. -/
def find? [DecidableEq κ] (finished : Finished κ) (slot : Nat) (key : κ) : Option Nat :=
  match finished.slots[slot]? with
  | some (found, number) => if found = key then some number else none
  | none => none

/-- Puts a state into a slot. -/
def put (finished : Finished κ) (slot : Nat) (key : κ) (number : Nat) : Finished κ :=
  ⟨finished.slots.insert slot (key, number)⟩

end Finished

/-- The arrows of a state that is not finished, last ones first, and the range of one more arrow
that does not lead anywhere yet. -/
structure OpenState where
  arrows : List Arrow
  pending : Option Utf8.OctetRange

/-- Leads the pending arrow to a state. -/
def OpenState.settle (state : OpenState) (next : Nat) : OpenState :=
  match state.pending with
  | some range => ⟨⟨range, next⟩ :: state.arrows, none⟩
  | none => state

/-- The states of a set of characters while its sequences of octets come in, in order.  The open
states lie on the way of the last sequence, the deepest one first. -/
structure Reading where
  path : List OpenState
  finished : Finished (List Arrow)

namespace Reading

/-- Finishes a state: the same arrows make the same state, if it is still found. -/
def finish (reading : Reading) (arrows : List Arrow) : Build (Nat × Reading) := do
  let slot := Finished.slot 10000 <|
    arrows.flatMap fun arrow => [arrow.range.first, arrow.range.last, arrow.next]
  match reading.finished.find? slot arrows with
  | some number => return (number, reading)
  | none =>
    let number ← add (.branch arrows)
    return (number, { reading with finished := reading.finished.put slot arrows number })

/-- Finishes the deepest `count` open states, and settles the one above them. -/
def finishDeepest (reading : Reading) (next : Nat) : Nat → Build Reading
  | 0 =>
    match reading.path with
    | [] => return reading
    | top :: path => return { reading with path := top.settle next :: path }
  | count + 1 =>
    match reading.path with
    | [] => return reading
    | top :: path => do
      let (number, reading) ←
        finish { reading with path := path } (top.settle next).arrows.reverse
      finishDeepest reading number count

/-- Adds a sequence: states on its way that the last sequence shares stay open. -/
def addSequence (stop : Nat) (reading : Reading) (sequence : List Utf8.OctetRange) :
    Build Reading := do
  let shared := ((sequence.zip reading.path.reverse).takeWhile fun (range, state) =>
    state.pending == some range).length
  let reading ← reading.finishDeepest stop (reading.path.length - 1 - shared)
  match sequence.drop shared, reading.path with
  | range :: ranges, top :: path =>
    let deeper := ranges.foldl (fun path range => ⟨[], some range⟩ :: path)
      ({ top with pending := some range } :: path)
    return { reading with path := deeper }
  | _, _ => return reading

end Reading

/-- The sequences of octet ranges of a set. -/
def sequencesOf (set : CharSet) : List (List Utf8.OctetRange) :=
  set.ranges.flatMap fun (first, last) => Utf8.sequences first last

/-- Reads one character of a set, its first octet first: equal ends of sequences are shared. -/
def ofCharsForward (set : CharSet) : Build Fragment := do
  let stop ← add (.pass 0)
  let reading ← (sequencesOf set).foldlM (Reading.addSequence stop) ⟨[⟨[], none⟩], {}⟩
  let reading ← reading.finishDeepest stop (reading.path.length - 1)
  let root := (reading.path.head?.map (·.arrows.reverse)).getD []
  let (start, _) ← reading.finish root
  return ⟨start, stop⟩

/-- A state that reads a range, by where it leads. -/
structure RangeStep where
  next : Nat
  range : Utf8.OctetRange
deriving DecidableEq

/-- Adds the state of a step, unless it is found. -/
def addStep (finished : Finished RangeStep) (step : RangeStep) :
    Build (Nat × Finished RangeStep) := do
  let slot := Finished.slot 1000 [step.next, step.range.first, step.range.last]
  match finished.find? slot step with
  | some number => return (number, finished)
  | none =>
    let number ← add (.read ⟨step.range, step.next⟩)
    return (number, finished.put slot step number)

/-- Reads one character of a set, its last octet first: equal starts of sequences are shared. -/
def ofCharsBackward (set : CharSet) : Build Fragment := do
  let fork ← add (.fork [])
  let stop ← add (.pass 0)
  let addSequence (finished : Finished RangeStep) (sequence : List Utf8.OctetRange) :
      Build (Finished RangeStep) := do
    let (start, finished) ← sequence.foldlM
      (fun (next, finished) range => addStep finished ⟨next, range⟩) (stop, finished)
    link fork start
    return finished
  let _ ← (sequencesOf set).foldlM addSequence {}
  return ⟨fork, stop⟩

/-- Reads one ASCII character of a set. -/
def ofAscii (set : CharSet) : Build Fragment := do
  let stop ← add (.pass 0)
  let start ← add (.branch (set.ranges.map fun (first, last) => ⟨⟨first, last⟩, stop⟩))
  return ⟨start, stop⟩

/-- Reads one character of a set. -/
def ofChars (backward : Bool) (set : CharSet) : Build Fragment :=
  if set.bounds.back?.getD 0 ≤ 0x80 then ofAscii set
  else if backward then ofCharsBackward set
  else ofCharsForward set

/-! ### Texts -/

/-- Reads fixed octets. -/
def ofOctets (octets : List Nat) : Build Fragment :=
  chain (octets.map fun octet => one (.read ⟨⟨octet, octet⟩, 0⟩))

/-- Texts that share their starts: what may follow at a place, in the order of preference.  An end
of a text parts what comes before it from what comes after it. -/
inductive Trie
  | leaf
  | octet (octet : Nat) (deeper rest : Trie)
  | stop (rest : Trie)

namespace Trie

/-- Does a text end here? -/
def hasStop : Trie → Bool
  | leaf => false
  | octet _ _ rest => rest.hasStop
  | stop _ => true

/-- Does no text go on here? -/
def isDone : Trie → Bool
  | leaf => true
  | octet _ _ _ => false
  | stop rest => rest.isDone

/-- Puts an end after all that was said before. -/
def appendStop : Trie → Trie
  | leaf => stop leaf
  | octet o deeper rest => octet o deeper rest.appendStop
  | stop rest => stop rest.appendStop

/-- Notes that a text ends here; where nothing else happens this is noted once. -/
def addStop (trie : Trie) : Trie :=
  if trie.isDone && trie.hasStop then trie else trie.appendStop

/-- Changes what follows an octet, among the octets after the last end, which are in order. -/
def update (o : Nat) (change : Trie → Trie) : Trie → Trie
  | leaf => octet o (change leaf) leaf
  | stop rest => stop (update o change rest)
  | octet p deeper rest =>
    if rest.hasStop || decide (p < o) then octet p deeper (update o change rest)
    else if o = p then octet p (change deeper) rest
    else octet o (change leaf) (octet p deeper rest)

/-- Adds a text. -/
def insert : List Nat → Trie → Trie
  | [], trie => trie.addStop
  | o :: os, trie => trie.update o (insert os)

/-- Adds the state of the octets between two ends to the ways that lead on. -/
def closeChunk (arrows : List Arrow) (nexts : List Nat) : Build (List Nat) :=
  match arrows with
  | [] => return nexts
  | [arrow] => do return (← add (.read arrow)) :: nexts
  | arrows => do return (← add (.branch arrows.reverse)) :: nexts

/-- Adds the states of a place; `arrows` and `nexts` were collected there before. -/
def assemble (goal : Nat) (arrows : List Arrow) (nexts : List Nat) : Trie → Build Nat
  | leaf => do add (.fork (← closeChunk arrows nexts))
  | stop rest => do
    let nexts ← closeChunk arrows nexts
    rest.assemble goal [] (goal :: nexts)
  | octet o deeper rest => do
    let next ← if deeper.isDone then pure goal else deeper.assemble goal [] []
    rest.assemble goal (⟨⟨o, o⟩, next⟩ :: arrows) nexts

end Trie

/-- Reads one of several texts. -/
def ofTexts (texts : List (List Nat)) : Build Fragment := do
  let stop ← add (.pass 0)
  let trie := texts.foldl (fun trie text => trie.insert text) Trie.leaf
  let start ← trie.assemble stop [] []
  return ⟨start, stop⟩

end Automaton

/-! ### Expressions -/

namespace Regex

open Automaton

/-- The octets of a text in the order in which they are read. -/
def octets (backward : Bool) (chars : List Char) : List Nat :=
  if backward then (Utf8.encodeAll chars).reverse else Utf8.encodeAll chars

/-- The fixed text of an expression that is one. -/
def text? : Regex → Option (List Char)
  | text cs => some cs
  | _ => none

/-- Repeats a piece. -/
def assembleTimes (piece : Build Fragment) (reads : Bool) (min : Nat) :
    Option Nat → Build Fragment
  | none => atLeast piece reads min
  | some max =>
    if min = 0 ∧ max = 1 then optional piece
    else if min = max then copies piece min
    else between piece min max

mutual

/-- The piece of an expression. -/
def assemble (backward : Bool) : Regex → Build Fragment
  | empty => pass
  | text cs => ofOctets (octets backward cs)
  | chars set => ofChars backward set
  | look condition => one (.look condition 0)
  | group body =>
    if backward then assemble backward body
    else chain [pass, assemble backward body, pass]
  | times body min max _ =>
    let reads := match body.minLength with
      | some length => decide (0 < length)
      | none => false
    assembleTimes (assemble backward body) reads min max
  | seq parts =>
    let pieces := assembleAll backward parts
    chain (if backward then pieces.reverse else pieces)
  | alt options =>
    match options.mapM text? with
    | some texts => ofTexts (texts.map (octets backward))
    | none => oneOf (assembleAll backward options)

/-- The pieces of several expressions. -/
def assembleAll (backward : Bool) : List Regex → List (Build Fragment)
  | [] => []
  | r :: rs => assemble backward r :: assembleAll backward rs

end

/-- Is an expression matched only at that end of a text at which reading starts? -/
def isAnchored (backward : Bool) (r : Regex) : Bool :=
  if backward then r.ends .textEnd else r.starts .textStart

/-- What is passed over before a match. -/
def assembleLead (anchored : Bool) : Build Fragment :=
  if anchored then pass
  else loop do
    let stop ← add (.pass 0)
    let start ← add (.branch [⟨⟨0, 255⟩, stop⟩])
    return ⟨start, stop⟩

/-- The whole automaton; gives the number of the state in which a match starts. -/
def assembleWhole (backward : Bool) (r : Regex) : Build Nat := do
  let lead ← assembleLead (r.isAnchored backward)
  let body ← assemble backward (.group r)
  let final ← add .final
  link body.last final
  link lead.last body.first
  return body.first

end Regex

/-- The automaton of an expression, unless it is too big. -/
def Automaton.ofRegex? (backward : Bool) (r : Regex) : Option Automaton :=
  (r.assembleWhole backward .empty).map fun (start, draft) => ⟨draft.states, start⟩

end Schemata
