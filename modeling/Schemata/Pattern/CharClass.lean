import Schemata.Text.Unicode.Age
import Schemata.Text.Unicode.Break
import Schemata.Text.Unicode.CaseFolding
import Schemata.Text.Unicode.Property
import Schemata.Text.Unicode.Script

/-!
# Classes of characters

The sets of characters that a pattern can name.

## Main definitions

* `CharClass.digits`, `CharClass.blanks`, `CharClass.wordChars` : the classes of single letters.
* `CharClass.ascii?` : the classes between colons.
* `CharClass.named?`, `CharClass.valued?` : the sets of properties.
-/

namespace Schemata.CharClass

/-- Decimal digits. -/
def digits (unicode : Bool) : CharSet :=
  if unicode then Unicode.inCategories ["Nd"] else .range '0' '9'

/-- Blanks and line breaks. -/
def blanks (unicode : Bool) : CharSet :=
  if unicode then Unicode.whiteSpace.chars
  else .union (.range '\t' '\r') (.single ' ')

/-- Characters of words in any script. -/
def unicodeWordChars : CharSet :=
  .unions [Unicode.alphabetic.chars, Unicode.joinControl.chars,
    Unicode.inCategories ["Mn", "Mc", "Me", "Nd", "Pc"]]

/-- Characters of words in ASCII texts. -/
def asciiWordChars : CharSet :=
  .unions [.range '0' '9', .range 'A' 'Z', .single '_', .range 'a' 'z']

/-- Characters of words. -/
def wordChars (unicode : Bool) : CharSet :=
  if unicode then unicodeWordChars else asciiWordChars

/-- The ASCII classes that have a name. -/
def ascii? : String → Option CharSet
  | "alnum" => some (.unions [.range '0' '9', .range 'A' 'Z', .range 'a' 'z'])
  | "alpha" => some (.union (.range 'A' 'Z') (.range 'a' 'z'))
  | "ascii" => some (.range '\x00' '\x7f')
  | "blank" => some (.union (.single '\t') (.single ' '))
  | "cntrl" => some (.union (.range '\x00' '\x1f') (.single '\x7f'))
  | "digit" => some (.range '0' '9')
  | "graph" => some (.range '!' '~')
  | "lower" => some (.range 'a' 'z')
  | "print" => some (.range ' ' '~')
  | "punct" =>
    some (.unions [.range '!' '/', .range ':' '@', .range '[' '\x60', .range '\x7b' '~'])
  | "space" => some (blanks false)
  | "upper" => some (.range 'A' 'Z')
  | "word" => some (wordChars false)
  | "xdigit" => some (.unions [.range '0' '9', .range 'A' 'F', .range 'a' 'f'])
  | _ => none

/-- The letters that are in the set, or that differ only in case from one that is: among all
letters, or among ASCII letters. -/
def withCaseVariants (unicode : Bool) (set : CharSet) : CharSet :=
  if unicode then Unicode.withCaseVariants set
  else
    let letters := (List.range 26).flatMap fun i =>
      let upper := 'A'.toNat + i
      let lower := 'a'.toNat + i
      if Unicode.hasCode set upper || Unicode.hasCode set lower then [upper, lower] else []
    .union set (.ofCodes letters)

/-- The set of a general category. -/
def categoryNamed? : String → Option CharSet
  | "any" => some .all
  | "assigned" => some (.complement (Unicode.inCategories ["Cn"]))
  | "ascii" => some (.range '\x00' '\x7f')
  | name => (Unicode.categoryCodes? name).map Unicode.inCategories

/-- The name without blanks, hyphens and underscores, in lower case; a leading `is` goes too. -/
def looseName (name : List Char) : String :=
  let stem := match name with
    | i :: s :: rest => if i.toLower = 'i' ∧ s.toLower = 's' then rest else name
    | _ => name
  let kept := stem.filter fun c => c.toNat < 128 && !(c = ' ' || c = '_' || c = '-')
  let loose := String.ofList (kept.map Char.toLower)
  if loose = "c" ∧ stem.length < name.length then "isc" else loose

/-- The set of a property, a general category or a script; three short names that a property and
a category share stand for the category. -/
def named? (name : List Char) : Option CharSet :=
  let name := looseName name
  let property? :=
    if ["cf", "sc", "lc"].contains name then none
    else (Unicode.charProperty? name).map (·.chars)
  property? <|> categoryNamed? name <|> (Unicode.scriptCode? name).map Unicode.inScript

/-- The set of the characters at which a property has a value. -/
def valued? (name value : List Char) : Option CharSet :=
  let name := looseName name
  let value := looseName value
  if name = "gc" ∨ name = "generalcategory" then categoryNamed? value
  else if name = "sc" ∨ name = "script" then
    (Unicode.scriptCode? value).map Unicode.inScript
  else if name = "scx" ∨ name = "scriptextensions" then
    (Unicode.scriptCode? value).map Unicode.usedInScript
  else if name = "age" then Unicode.assignedBy? value
  else if name = "gcb" ∨ name = "graphemeclusterbreak" then Unicode.signBreak.chars? value
  else if name = "wb" ∨ name = "wordbreak" then Unicode.wordBreak.chars? value
  else if name = "sb" ∨ name = "sentencebreak" then Unicode.sentenceBreak.chars? value
  else none

end Schemata.CharClass
