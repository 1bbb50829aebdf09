import Schemata.Pattern.Look

/-!
# Regular expressions

Expressions are kept in a simplified form: nested sequences and choices are flattened, neighbouring
texts are joined, a choice between characters is one set, and a start that all alternatives share
is taken out of the choice.

## Main definitions

* `Regex` : the expressions.
* `Regex.repeated`, `Regex.sequence`, `Regex.choice` : the simplifying constructors.
* `Regex.minLength`, `Regex.maxLength` : bounds on the octets that an expression matches.
* `Regex.starts`, `Regex.ends` : conditions under which each match starts and ends.
-/

namespace Schemata

/-- A regular expression. -/
inductive Regex
  | empty
  /-- A fixed text. -/
  | text (chars : List Char)
  /-- One character of a set. -/
  | chars (set : CharSet)
  | look (condition : Look)
  /-- A group that is remembered. -/
  | group (body : Regex)
  /-- At least `min` and, if there is a bound, at most `max` times; few times first if `lazy`. -/
  | times (body : Regex) (min : Nat) (max : Option Nat) (lazy : Bool)
  | seq (parts : List Regex)
  | alt (options : List Regex)

namespace Regex

mutual

/-- Are two expressions the same?  Two groups never are, since each is remembered on its own. -/
def same : Regex → Regex → Bool
  | empty, empty => true
  | text a, text b => a == b
  | chars a, chars b => decide (a = b)
  | look a, look b => decide (a = b)
  | times a min max lazy, times b min' max' lazy' =>
    min == min' && max == max' && lazy == lazy' && same a b
  | seq a, seq b => allSame a b
  | alt a, alt b => allSame a b
  | _, _ => false

/-- Are two lists of expressions the same? -/
def allSame : List Regex → List Regex → Bool
  | [], [] => true
  | a :: as, b :: bs => same a b && allSame as bs
  | _, _ => false

end

/-- The longest number of octets of a character of the set. -/
def octetsOfLast (set : CharSet) : Nat :=
  (Char.ofNat (set.bounds.back?.getD 1 - 1)).utf8Size

/-- The shortest number of octets of a character of the set. -/
def octetsOfFirst (set : CharSet) : Nat :=
  (Char.ofNat (set.bounds[0]?.getD 0)).utf8Size

/-- The number of octets of a text. -/
def textLength (chars : List Char) : Nat :=
  chars.foldl (fun n c => n + c.utf8Size) 0

mutual

/-- The least number of octets that a match has; none if there is no match. -/
def minLength : Regex → Option Nat
  | empty => some 0
  | text cs => some (textLength cs)
  | chars set => if set.isEmpty then none else some (octetsOfFirst set)
  | look _ => some 0
  | group body => minLength body
  | times body min _ _ => (minLength body).map (· * min)
  | seq parts => minLengthSum parts
  | alt options => minLengthLeast options

/-- The least number of octets in a sequence. -/
def minLengthSum : List Regex → Option Nat
  | [] => some 0
  | part :: parts => do return (← minLength part) + (← minLengthSum parts)

/-- The least number of octets in a choice. -/
def minLengthLeast : List Regex → Option Nat
  | [] => none
  | [option] => minLength option
  | option :: options => do return Nat.min (← minLength option) (← minLengthLeast options)

end

mutual

/-- The greatest number of octets that a match has, if there is a bound. -/
def maxLength : Regex → Option Nat
  | empty => some 0
  | text cs => some (textLength cs)
  | chars set => if set.isEmpty then none else some (octetsOfLast set)
  | look _ => some 0
  | group body => maxLength body
  | times body _ max _ => do return (← maxLength body) * (← max)
  | seq parts => maxLengthSum parts
  | alt options => maxLengthMost options

/-- The greatest number of octets in a sequence. -/
def maxLengthSum : List Regex → Option Nat
  | [] => some 0
  | part :: parts => do return (← maxLength part) + (← maxLengthSum parts)

/-- The greatest number of octets in a choice. -/
def maxLengthMost : List Regex → Option Nat
  | [] => some 0
  | option :: options => do return Nat.max (← maxLength option) (← maxLengthMost options)

end

/-- Does the expression match nothing but the empty text? -/
def isVoid (r : Regex) : Bool :=
  maxLength r == some 0

mutual

/-- Does each match start under the condition? -/
def starts (condition : Look) : Regex → Bool
  | look c => decide (c = condition)
  | group body => starts condition body
  | times body min _ _ => decide (0 < min) && starts condition body
  | seq parts => startsSeq condition parts
  | alt options => startsAll condition options
  | _ => false

/-- Does each match of a sequence start under the condition? -/
def startsSeq (condition : Look) : List Regex → Bool
  | [] => false
  | part :: parts => starts condition part || (isVoid part && startsSeq condition parts)

/-- Does each match of any alternative start under the condition? -/
def startsAll (condition : Look) : List Regex → Bool
  | [] => true
  | option :: options => starts condition option && startsAll condition options

end

mutual

/-- Does each match end under the condition? -/
def ends (condition : Look) : Regex → Bool
  | look c => decide (c = condition)
  | group body => ends condition body
  | times body min _ _ => decide (0 < min) && ends condition body
  | seq parts => endsSeq condition parts
  | alt options => endsAll condition options
  | _ => false

/-- Does each match of a sequence end under the condition? -/
def endsSeq (condition : Look) : List Regex → Bool
  | [] => false
  | part :: parts => endsSeq condition parts || (parts.all isVoid && ends condition part)

/-- Does each match of any alternative end under the condition? -/
def endsAll (condition : Look) : List Regex → Bool
  | [] => true
  | option :: options => ends condition option && endsAll condition options

end

/-- One character of a set; a set of one character is a text. -/
def ofSet (set : CharSet) : Regex :=
  match set.only? with
  | some c => text [c]
  | none => chars set

/-- A repetition; what matches only the empty text is not repeated. -/
def repeated (body : Regex) (min : Nat) (max : Option Nat) (lazy : Bool) : Regex :=
  let (min, max) :=
    if body.isVoid then (Nat.min min 1, some (Nat.min (max.getD 1) 1)) else (min, max)
  if max = some 0 then empty
  else if min = 1 ∧ max = some 1 then body
  else times body min max lazy

/-- Puts a part in front of others; texts are joined. -/
def cons (part : Regex) (parts : List Regex) : List Regex :=
  match part, parts with
  | empty, parts => parts
  | text a, text b :: parts => text (a ++ b) :: parts
  | part, parts => part :: parts

/-- The parts of a sequence. -/
def partsOf : Regex → List Regex
  | seq parts => parts
  | part => [part]

/-- One expression after the other. -/
def sequence (parts : List Regex) : Regex :=
  match (parts.flatMap partsOf).foldr cons [] with
  | [] => empty
  | [part] => part
  | parts => seq parts

/-- The alternatives of a choice. -/
def optionsOf : Regex → List Regex
  | alt options => options
  | option => [option]

/-- The character of a text of one character. -/
def single? : Regex → Option Char
  | text [c] => some c
  | _ => none

/-- The set of an expression that is one. -/
def set? : Regex → Option CharSet
  | chars set => some set
  | _ => none

/-- A choice between alternatives that share no start. -/
def plainChoice (options : List Regex) : Regex :=
  match options.flatMap optionsOf with
  | [] => chars .empty
  | [option] => option
  | options =>
    match options.mapM single? with
    | some cs => ofSet (.ofCodes (cs.map Char.toNat))
    | none =>
      match options.mapM set? with
      | some sets => ofSet (.unions sets)
      | none => alt options

/-- The number of expressions at the front of two lists that are the same. -/
def sharedLength : List Regex → List Regex → Nat
  | a :: as, b :: bs => if same a b then sharedLength as bs + 1 else 0
  | _, _ => 0

/-- The parts of an expression that is a sequence. -/
def seqParts? : Regex → Option (List Regex)
  | seq parts => some parts
  | _ => none

/-- A choice; a start that all alternatives share is taken out of it. -/
def choice (options : List Regex) : Regex :=
  match plainChoice options with
  | alt options =>
    match options.mapM seqParts? with
    | some (first :: others) =>
      let shared := others.foldl (fun n parts => Nat.min n (sharedLength first parts)) first.length
      if shared = 0 then alt options
      else
        let rests := (first :: others).map fun parts => sequence (parts.drop shared)
        sequence (first.take shared ++ [plainChoice rests])
    | _ => alt options
  | whole => whole

end Regex

end Schemata
