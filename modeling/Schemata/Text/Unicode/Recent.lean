import Schemata.Text.Unicode.Property

/-!
# Recent characters

The tables of properties follow version 16 of the character standard.  Names of groups and visible
texts also know the characters that version 17 added, which are listed here.

## Main definitions

* `Unicode.isLetter`, `Unicode.isNumber` : what names may be made of.
* `Unicode.isPrintable` : characters that have a sign of their own.
* `Unicode.isCombining` : characters that join the sign before them.
-/

namespace Schemata.Unicode

/-- The alphabetic characters of version 17. -/
def recentLetters : CharSet :=
  CharSet.ofRuns
    [ "2191 1 972 1 127 1 39665 2 2 1 1 1 28 1 24910 26 1387 3 50 2 3172 8 584 44 20676 25 2 25",
      "286 5 6145 8 1289 22 97 115 22733 31 1 22 8 2 53306 6 5986 12 21762 4298"]

/-- The digits and numbers of version 17. -/
def recentNumbers : CharSet :=
  CharSet.ofRuns ["73184 10 21002 3"]

/-- The characters of version 17 that extend the sign before them. -/
def recentMarks : CharSet :=
  CharSet.ofRuns ["6863 15 2 12 62478 2 3172 1 1 3 1 1 52092 1 2 1 7 2 5 1"]

/-- All characters of version 17 that are shown. -/
def recentSigns : CharSet :=
  CharSet.ofRuns
    [ "2191 1 972 1 127 1 3570 15 2 12 1493 1 2772 1 31799 2 2 1 1 1 28 1 21457 16 445 2 54 7 2929",
      "26 1387 3 8 9 33 2 3172 8 584 44 4 10 20662 25 2 25 286 5 6145 8 1289 22 97 115 16135 3 445",
      "23 15 17 6095 31 1 22 8 2 4056 1 158 4 341 9 379 4 50 1 3 1 57 1 4 1 28 1 4 1 266 1 47935 6",
      "5986 12 21762 4298"]

/-- Is the character alphabetic? -/
def isLetter (c : Char) : Bool :=
  alphabetic.holds c || recentLetters.contains c

/-- Is the character a digit or another number? -/
def isNumber (c : Char) : Bool :=
  ["Nd", "Nl", "No"].contains (generalCategory c) || recentNumbers.contains c

/-- The categories of controls, format signs, blanks and separators, and of what is not assigned to
public use. -/
def hiddenCategories : List String :=
  ["Cc", "Cf", "Cs", "Co", "Cn", "Zl", "Zp", "Zs"]

/-- Has the character a sign of its own?  The plain blank counts as one. -/
def isPrintable (c : Char) : Bool :=
  c = ' ' || !(hiddenCategories.contains (generalCategory c)) || recentSigns.contains c

/-- Does the character join the sign before it?  Letters are taken for signs of their own. -/
def isCombining (c : Char) : Bool :=
  (graphemeExtend.holds c && generalCategory c != "Lm") || recentMarks.contains c

end Schemata.Unicode
