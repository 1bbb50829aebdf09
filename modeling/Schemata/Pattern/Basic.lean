import Schemata.Pattern.Class
import Schemata.Pattern.Search
import Schemata.Text.Unicode.Recent

/-!
# Patterns

A pattern is the text of a regular expression that could be read and whose automaton, built in
either direction, is not too big.

## Main definitions

* `Pattern.compile?` : reads a pattern; refuses texts that are none.
* `Pattern.isMatch` : does a pattern match some part of a text?
-/

namespace Schemata

/-- The text of a regular expression with its automaton. -/
structure Pattern where
  source : String
  automaton : Automaton

namespace Pattern

/-- A part of a pattern, with the depth of what is nested in it. -/
structure Part where
  regex : Regex
  depth : Nat
  /-- A directive changes flags and cannot be repeated. -/
  directive : Bool

namespace Part

/-- A part that holds no other one. -/
def leaf (regex : Regex) : Part :=
  ⟨regex, 0, false⟩

/-- Several parts as one; a single part stands for itself. -/
def joined (join : List Regex → Regex) : List Part → Part
  | [] => leaf .empty
  | [part] => { part with directive := false }
  | parts =>
    ⟨join (parts.map (·.regex)),
      parts.foldl (fun depth part => Nat.max depth part.depth) 0 + 1, false⟩

end Part

/-- The alternatives of a group as far as they have been read. -/
structure Branch where
  /-- The finished alternatives, last first. -/
  options : List Part
  /-- The parts of the current alternative, last first. -/
  parts : List Part

namespace Branch

/-- Nothing has been read. -/
def new : Branch :=
  ⟨[], []⟩

/-- Adds a part to the current alternative. -/
def add (branch : Branch) (part : Part) : Branch :=
  { branch with parts := part :: branch.parts }

/-- Ends the current alternative. -/
def bar (branch : Branch) : Branch :=
  ⟨Part.joined .sequence branch.parts.reverse :: branch.options, []⟩

/-- All alternatives as one part. -/
def close (branch : Branch) : Part :=
  Part.joined .choice branch.bar.options.reverse

end Branch

/-- What stands around an open group. -/
structure Outer where
  /-- What was read before the group. -/
  branch : Branch
  /-- The flags outside the group. -/
  flags : Flags
  /-- Is the group remembered? -/
  remembered : Bool

/-- The state of reading a pattern. -/
structure Reading where
  flags : Flags
  branch : Branch
  /-- The open groups around the current one, inner ones first. -/
  outer : List Outer
  /-- The names given to groups. -/
  names : List (List Char)

namespace Reading

/-- Adds a part that has been read. -/
def add (s : Reading) (part : Part) : Reading :=
  { s with branch := s.branch.add part }

/-- Opens a group in which `flags` hold. -/
def openWith (s : Reading) (flags : Flags) (remembered : Bool) : Reading :=
  { s with
    flags := flags
    branch := Branch.new
    outer := ⟨s.branch, s.flags, remembered⟩ :: s.outer }

/-- Closes the innermost group. -/
def closeGroup? (s : Reading) : Option Reading :=
  match s.outer with
  | [] => none
  | around :: outer =>
    let body := s.branch.close
    let regex := if around.remembered then .group body.regex else body.regex
    some { s with
      flags := around.flags
      branch := around.branch.add ⟨regex, body.depth + 1, false⟩
      outer := outer }

/-- Repeats the last part; a mark changes which match is preferred. -/
def repeat? (s : Reading) (min : Nat) (max : Option Nat) (marked : Bool) : Option Reading :=
  match s.branch.parts with
  | [] => none
  | part :: parts =>
    if part.directive then none
    else
      let regex := Regex.repeated part.regex min max (s.flags.lazy != marked)
      let part := ⟨regex, part.depth + 1, false⟩
      some { s with branch := { s.branch with parts := part :: parts } }

end Reading

/-- May the character start the name of a group? -/
def isNameStart (c : Char) : Bool :=
  c = '_' || Unicode.isLetter c

/-- May the character go on in the name of a group? -/
def isNamePart (c : Char) : Bool :=
  isNameStart c || c = '.' || c = '[' || c = ']' || Unicode.isNumber c

/-- Reads the name of a group up to an angle bracket. -/
def readName? (cs : List Char) : Option (List Char × List Char) :=
  match cs.dropWhile (· != '>') with
  | [] => none
  | _ :: rest =>
    match cs.takeWhile (· != '>') with
    | [] => none
    | c :: more =>
      if isNameStart c && more.all isNamePart then some (c :: more, rest) else none

/-- Reads what follows an opening parenthesis: a group, or a directive that sets flags. -/
def readGroup? (s : Reading) (cs : List Char) : Option (Reading × List Char) :=
  let named (rest : List Char) : Option (Reading × List Char) := do
    let (name, rest) ← readName? rest
    guard (!s.names.contains name)
    return ({ s.openWith s.flags true with names := name :: s.names }, rest)
  match skipBlanks s.flags cs with
  | '?' :: '=' :: _ => none
  | '?' :: '!' :: _ => none
  | '?' :: '<' :: '=' :: _ => none
  | '?' :: '<' :: '!' :: _ => none
  | '?' :: 'P' :: '<' :: rest => named rest
  | '?' :: '<' :: rest => named rest
  | '?' :: rest =>
    match readFlags? false false [] rest with
    | none => none
    | some (switches, ')' :: rest) =>
      if switches.isEmpty then none
      else some ({ s with flags := s.flags.setAll switches }.add ⟨.empty, 0, true⟩, rest)
    | some (switches, rest) => some (s.openWith (s.flags.setAll switches) false, rest.tail)
  | rest => some (s.openWith s.flags true, rest)

/-- Repeats the last part; a question mark may follow. -/
def repeatMarked? (s : Reading) (min : Nat) (max : Option Nat) :
    List Char → Option (Reading × List Char)
  | '?' :: rest => (s.repeat? min max true).map (·, rest)
  | rest => (s.repeat? min max false).map (·, rest)

/-- The digits at the front; between them blanks and comments may be passed over. -/
def takeDigits (spaced inComment : Bool) : List Char → List Char × List Char
  | [] => ([], [])
  | c :: rest =>
    if inComment then takeDigits spaced (c != '\n') rest
    else if c.isDigit then
      let (digits, rest) := takeDigits spaced false rest
      (c :: digits, rest)
    else if spaced && isBlank c then takeDigits spaced false rest
    else if spaced && c = '#' then takeDigits spaced true rest
    else ([], c :: rest)

/-- Reads a number with blanks around it; `none` if there are no digits or too many. -/
def readCount (flags : Flags) (cs : List Char) : Option Nat × List Char :=
  let (digits, rest) := takeDigits flags.spaced false (cs.dropWhile isBlank)
  let value := decimal digits
  (if digits.isEmpty ∨ Nat.pow 2 32 ≤ value then none else some value, rest.dropWhile isBlank)

/-- Reads the counts of a repetition; `cs` follows the opening brace. -/
def readBounds? (flags : Flags) (cs : List Char) : Option ((Nat × Option Nat) × List Char) := do
  let (first, rest) := readCount flags (skipBlanks flags cs)
  match rest with
  | '\x7d' :: rest =>
    let count ← first
    return ((count, some count), rest)
  | ',' :: rest =>
    match skipBlanks flags rest with
    | '\x7d' :: rest => return ((← first, none), rest)
    | rest =>
      let min ← first
      let (last, rest) := readCount flags rest
      let max ← last
      match rest with
      | '\x7d' :: rest =>
        guard (min ≤ max)
        return ((min, some max), rest)
      | _ => none
  | _ => none

/-- The expression of the dot. -/
def dot? (flags : Flags) : Option Regex :=
  if !flags.unicode then none
  else if flags.dotAll then some (.ofSet .all)
  else if flags.returns then
    some (.ofSet (.complement (.union (.single '\r') (.single '\n'))))
  else some (.ofSet (.complement (.single '\n')))

/-- The condition of a caret. -/
def caret (flags : Flags) : Look :=
  if flags.multiLine then .lineStart flags.returns else .textStart

/-- The condition of a dollar sign. -/
def dollar (flags : Flags) : Look :=
  if flags.multiLine then .lineEnd flags.returns else .textEnd

/-- The expression of an escape. -/
def Escape.toRegex (flags : Flags) : Escape → Regex
  | .char c => .ofSet (flags.fold (.single c))
  | .chars set => .ofSet set
  | .look condition => .look condition

/-- Reads one part, operator or bracket; a class takes at most `steps` steps. -/
def step? (steps : Nat) (s : Reading) (c : Char) (rest : List Char) :
    Option (Reading × List Char) := do
  match c with
  | '(' => readGroup? s rest
  | ')' => return (← s.closeGroup?, rest)
  | '|' => return ({ s with branch := s.branch.bar }, rest)
  | '[' =>
    let (nested, rest) ← readClass? s.flags steps rest
    return (s.add ⟨.ofSet nested.set, nested.depth, false⟩, rest)
  | '?' => repeatMarked? s 0 (some 1) rest
  | '*' => repeatMarked? s 0 none rest
  | '+' => repeatMarked? s 1 none rest
  | '\x7b' =>
    let ((min, max), rest) ← readBounds? s.flags rest
    repeatMarked? s min max (skipBlanks s.flags rest)
  | '\\' =>
    let (escape, rest) ← readEscape? s.flags rest
    return (s.add (.leaf (escape.toRegex s.flags)), rest)
  | '.' => return (s.add (.leaf (← dot? s.flags)), rest)
  | '^' => return (s.add (.leaf (.look (caret s.flags))), rest)
  | '$' => return (s.add (.leaf (.look (dollar s.flags))), rest)
  | c => return (s.add (.leaf ((Escape.char c).toRegex s.flags)), rest)

/-- Reads a pattern to its end in at most `steps` steps, each of which reads a character. -/
def run? (steps : Nat) (s : Reading) (cs : List Char) : Option Reading :=
  match skipBlanks s.flags cs, steps with
  | [], _ => some s
  | _ :: _, 0 => none
  | c :: rest, steps + 1 =>
    match step? steps s c rest with
    | none => none
    | some (s, rest) => run? steps s rest

/-- Parts may be nested so deep. -/
def depthLimit : Nat :=
  250

/-- Reads a pattern. -/
def compile? (source : String) : Option Pattern := do
  let cs := source.toList
  let s ← run? cs.length ⟨{}, Branch.new, [], []⟩ cs
  guard s.outer.isEmpty
  let whole := s.branch.close
  guard (whole.depth ≤ depthLimit)
  let automaton ← Automaton.ofRegex? false whole.regex
  guard (Automaton.ofRegex? true whole.regex).isSome
  return ⟨source, automaton⟩

/-- Does the pattern match some part of the text? -/
def isMatch (pattern : Pattern) (text : String) : Bool :=
  pattern.automaton.isMatch text

end Pattern

end Schemata
