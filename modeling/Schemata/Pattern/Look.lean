import Schemata.Pattern.CharClass

/-!
# Conditions on positions

A condition holds at a position of a text by the characters on both sides of it.

## Main definitions

* `Look` : the conditions.
* `Look.holds` : does a condition hold between two characters?
-/

namespace Schemata

/-- A condition on the characters on both sides of a position. -/
inductive Look
  | textStart
  | textEnd
  /-- After a line feed; carriage returns count too if `returns` is set. -/
  | lineStart (returns : Bool)
  /-- Before a line feed; carriage returns count too if `returns` is set. -/
  | lineEnd (returns : Bool)
  | wordBoundary (unicode : Bool)
  | notWordBoundary (unicode : Bool)
  | wordStart (unicode : Bool)
  | wordEnd (unicode : Bool)
  /-- No character of a word stands before. -/
  | wordStartHalf (unicode : Bool)
  /-- No character of a word stands after. -/
  | wordEndHalf (unicode : Bool)
deriving DecidableEq, Repr

namespace Look

/-- Is there a character of a word? -/
def isWord (unicode : Bool) (c : Option Char) : Bool :=
  c.any (CharClass.wordChars unicode).contains

/-- Does the condition hold between two characters? -/
def holds (before after : Option Char) : Look → Bool
  | textStart => before.isNone
  | textEnd => after.isNone
  | lineStart false => before.isNone || before = some '\n'
  | lineStart true =>
    before.isNone || before = some '\n' || (before = some '\r' && after != some '\n')
  | lineEnd false => after.isNone || after = some '\n'
  | lineEnd true =>
    after.isNone || after = some '\r' || (after = some '\n' && before != some '\r')
  | wordBoundary unicode => isWord unicode before != isWord unicode after
  | notWordBoundary unicode => isWord unicode before == isWord unicode after
  | wordStart unicode => !isWord unicode before && isWord unicode after
  | wordEnd unicode => isWord unicode before && !isWord unicode after
  | wordStartHalf unicode => !isWord unicode before
  | wordEndHalf unicode => !isWord unicode after

end Look

end Schemata
