import Schemata.Pattern.Escape

/-!
# Bracketed classes

A class lists characters, ranges and other classes between brackets.  Lists are joined, and the
operators between lists bind to the left with equal strength.

## Main definitions

* `Pattern.ClassLevel` : what has been read since a bracket was opened.
* `Pattern.readClass?` : reads what follows an opening bracket.
-/

namespace Schemata.Pattern

/-- An operator between the lists of a class. -/
inductive ClassOp
  | intersection
  | difference
  | symmetricDifference
deriving DecidableEq, Repr

/-- The set an operator makes. -/
def ClassOp.apply : ClassOp → CharSet → CharSet → CharSet
  | intersection => .intersection
  | difference => .difference
  | symmetricDifference => .symmetricDifference

/-- A set with the depth of the brackets, lists and operators in it. -/
structure NestedSet where
  set : CharSet
  depth : Nat

/-- What has been read of a class since its bracket was opened. -/
structure ClassLevel where
  negated : Bool
  /-- Nothing but hyphens has been read. -/
  fresh : Bool
  /-- The number of items of the current list. -/
  count : Nat
  /-- The current list. -/
  items : NestedSet
  /-- The operator before the current list, with what stands before it. -/
  pending : Option (ClassOp × NestedSet)

namespace ClassLevel

/-- A class of which nothing has been read. -/
def new (negated : Bool) : ClassLevel :=
  ⟨negated, true, 0, ⟨.empty, 0⟩, none⟩

/-- Adds an item to the current list. -/
def add (level : ClassLevel) (item : NestedSet) : ClassLevel :=
  { level with
    fresh := false
    count := level.count + 1
    items := ⟨.union level.items.set item.set, Nat.max level.items.depth item.depth⟩ }

/-- All that has been read as one set. -/
def value (flags : Flags) (level : ClassLevel) : NestedSet :=
  let right : NestedSet :=
    ⟨level.items.set, if level.count < 2 then level.items.depth else level.items.depth + 1⟩
  match level.pending with
  | none => right
  | some (op, left) =>
    ⟨op.apply (flags.fold left.set) (flags.fold right.set), Nat.max left.depth right.depth + 1⟩

/-- Starts a new list after an operator. -/
def operator (flags : Flags) (level : ClassLevel) (op : ClassOp) : ClassLevel :=
  ⟨level.negated, false, 0, ⟨.empty, 0⟩, some (op, level.value flags)⟩

/-- The class when its bracket is closed. -/
def close? (flags : Flags) (level : ClassLevel) : Option NestedSet := do
  let value := level.value flags
  let set ← flags.negate? level.negated (flags.fold value.set)
  return ⟨set, value.depth + 1⟩

end ClassLevel

/-- Reads what follows an opening bracket up to the first item. -/
def openClass (flags : Flags) (cs : List Char) : ClassLevel × List Char :=
  match skipBlanks flags cs with
  | '^' :: rest => (ClassLevel.new true, rest)
  | cs => (ClassLevel.new false, cs)

/-- An ASCII class by its name, with or without a sign that negates it. -/
structure AsciiClass where
  set : CharSet
  negated : Bool

/-- Reads the name of an ASCII class between colons; `cs` follows an opening bracket. -/
def readAsciiClass? (cs : List Char) : Option (AsciiClass × List Char) :=
  match cs with
  | ':' :: rest =>
    let (negated, rest) := match rest with
      | '^' :: rest => (true, rest)
      | rest => (false, rest)
    match rest.dropWhile (· != ':') with
    | ':' :: ']' :: after =>
      (CharClass.ascii? (String.ofList (rest.takeWhile (· != ':')))).map fun set =>
        (⟨set, negated⟩, after)
    | _ => none
  | _ => none

/-- Reads one end of a range, or a class of its own. -/
def readClassItem? (flags : Flags) : List Char → Option (Escape × List Char)
  | [] => none
  | '\\' :: rest => readEscape? flags rest
  | c :: rest => some (.char c, rest)

/-- A character that may stand in a class. -/
def classChar? (flags : Flags) : Escape → Option Char
  | .char c => if flags.unicode || c.toNat < 128 then some c else none
  | _ => none

/-- The set of a single item. -/
def classSet? (flags : Flags) : Escape → Option CharSet
  | .chars set => some set
  | item => (classChar? flags item).map CharSet.single

/-- The next character that counts after a hyphen. -/
def afterHyphen (flags : Flags) (cs : List Char) : Option Char :=
  if flags.spaced then
    match cs.dropWhile isBlank with
    | '#' :: rest => (rest.dropWhile isBlank).head?
    | rest => rest.head?
  else cs.head?

/-- Reads an item or a range. -/
def readClassRange? (flags : Flags) (cs : List Char) : Option (CharSet × List Char) := do
  let (first, rest) ← readClassItem? flags cs
  let rest := skipBlanks flags rest
  match rest with
  | '-' :: after =>
    if afterHyphen flags after = some ']' ∨ afterHyphen flags after = some '-' then
      return (← classSet? flags first, rest)
    else
      let (last, rest) ← readClassItem? flags (skipBlanks flags after)
      let low ← classChar? flags first
      let high ← classChar? flags last
      guard (low ≤ high)
      return (.range low high, rest)
  | _ => return (← classSet? flags first, rest)

/-- The operator of a doubled sign. -/
def classOp? : Char → Option ClassOp
  | '&' => some .intersection
  | '-' => some .difference
  | '~' => some .symmetricDifference
  | _ => none

/-- What comes next inside a class. -/
inductive ClassStep
  | level (level : ClassLevel) (outer : List ClassLevel) (rest : List Char)
  | done (set : NestedSet) (rest : List Char)

/-- Reads one item, operator or bracket. -/
def classStep? (flags : Flags) (level : ClassLevel) (outer : List ClassLevel) (c : Char)
    (rest : List Char) : Option ClassStep := do
  let item (set : CharSet) (rest : List Char) : ClassStep :=
    .level (level.add ⟨set, 0⟩) outer rest
  if level.fresh ∧ c = '-' then
    return .level { level.add ⟨.single c, 0⟩ with fresh := true } outer rest
  else if level.fresh ∧ level.count = 0 ∧ c = ']' then
    return item (.single c) rest
  else if c = '[' then
    match readAsciiClass? rest with
    | some (named, rest) =>
      return item (← flags.negate? named.negated (flags.fold named.set)) rest
    | none =>
      let (inner, rest) := openClass flags rest
      return .level inner (level :: outer) rest
  else if c = ']' then
    let value ← level.close? flags
    match outer with
    | [] => return .done value rest
    | parent :: outer => return .level (parent.add value) outer rest
  else
    match classOp? c with
    | some op =>
      if rest.head? = some c then
        return .level (level.operator flags op) outer rest.tail
      else
        let (set, rest) ← readClassRange? flags (c :: rest)
        return item set rest
    | none =>
      let (set, rest) ← readClassRange? flags (c :: rest)
      return item set rest

/-- Reads a class to its closing bracket in at most `steps` steps, each of which reads a
character. -/
def readClassLevels? (flags : Flags) (steps : Nat) (level : ClassLevel) (outer : List ClassLevel)
    (cs : List Char) : Option (NestedSet × List Char) :=
  match skipBlanks flags cs, steps with
  | [], _ => none
  | _ :: _, 0 => none
  | c :: rest, steps + 1 =>
    match classStep? flags level outer c rest with
    | none => none
    | some (.done set rest) => some (set, rest)
    | some (.level level outer rest) => readClassLevels? flags steps level outer rest

/-- Reads what follows an opening bracket in at most `steps` steps. -/
def readClass? (flags : Flags) (steps : Nat) (cs : List Char) : Option (NestedSet × List Char) :=
  let (level, rest) := openClass flags cs
  readClassLevels? flags steps level [] rest

end Schemata.Pattern
