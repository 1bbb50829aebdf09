import Schemata.Pattern.Regex

/-!
# Flags of patterns

Flags change how the rest of a group is read.  They are switched by single letters.

## Main definitions

* `Pattern.Flags` : the switches.
* `Pattern.readFlags?` : the letters of a directive.
* `Pattern.skipBlanks` : what is passed over where blanks do not count.
-/

namespace Schemata.Pattern

/-- The switches that steer how a pattern is read. -/
structure Flags where
  /-- Letters stand for all their case variants. -/
  ignoreCase : Bool := false
  /-- Line ends count as text ends. -/
  multiLine : Bool := false
  /-- The dot stands for line ends too. -/
  dotAll : Bool := false
  /-- Classes hold all characters and not only ASCII ones. -/
  unicode : Bool := true
  /-- Carriage returns end lines too. -/
  returns : Bool := false
  /-- Blanks and comments do not count. -/
  spaced : Bool := false
  /-- Repetitions are tried few times first, unless they are marked. -/
  lazy : Bool := false
deriving DecidableEq, Repr

namespace Flags

/-- The letters of the flags. -/
def letters : List Char :=
  ['i', 'm', 's', 'U', 'u', 'R', 'x']

/-- Sets the flag of a letter. -/
def set (flags : Flags) (letter : Char) (on : Bool) : Flags :=
  match letter with
  | 'i' => { flags with ignoreCase := on }
  | 'm' => { flags with multiLine := on }
  | 's' => { flags with dotAll := on }
  | 'U' => { flags with lazy := on }
  | 'u' => { flags with unicode := on }
  | 'R' => { flags with returns := on }
  | 'x' => { flags with spaced := on }
  | _ => flags

/-- Sets several flags. -/
def setAll (flags : Flags) (switches : List (Char × Bool)) : Flags :=
  switches.foldl (fun flags switch => flags.set switch.1 switch.2) flags

/-- Adds case variants if letters stand for them. -/
def fold (flags : Flags) (set : CharSet) : CharSet :=
  if flags.ignoreCase then CharClass.withCaseVariants flags.unicode set else set

/-- The complement of a set; there is none where classes hold ASCII characters only. -/
def negate? (flags : Flags) (negated : Bool) (set : CharSet) : Option CharSet :=
  if !negated then some set
  else if flags.unicode then some (.complement set)
  else none

end Flags

/-- Reads flag letters up to a colon or a closing bracket.  No letter comes twice, and a hyphen,
of which there is at most one, switches off what follows it. -/
def readFlags? (off dangling : Bool) (seen : List (Char × Bool)) :
    List Char → Option (List (Char × Bool) × List Char)
  | [] => none
  | c :: rest =>
    if c = ':' ∨ c = ')' then
      if dangling then none else some (seen, c :: rest)
    else if c = '-' then
      if off then none else readFlags? true true seen rest
    else if Flags.letters.contains c && !(seen.map Prod.fst).contains c then
      readFlags? off false (seen ++ [(c, !off)]) rest
    else none

/-- Is the character a blank or a line break? -/
def isBlank (c : Char) : Bool :=
  Unicode.whiteSpace.holds c

/-- Passes over blanks, and over comments, which go from a hash sign to the end of the line. -/
def dropComments (inComment : Bool) : List Char → List Char
  | [] => []
  | c :: rest =>
    if inComment then dropComments (c != '\n') rest
    else if isBlank c then dropComments false rest
    else if c = '#' then dropComments true rest
    else c :: rest

/-- Passes over blanks and comments if they do not count. -/
def skipBlanks (flags : Flags) (cs : List Char) : List Char :=
  if flags.spaced then dropComments false cs else cs

end Schemata.Pattern
