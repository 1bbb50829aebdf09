/-!
# Rule tables

A rule replaces the validator of a field.  Tables list rules under field names, and under field
names inside contexts; a key may also be a pattern.

## Main definitions

* `Rule` : what replaces a validator.
* `RuleTable` : all rules in the order in which they were given.
-/

namespace Schemata

/-- What replaces the validator of a field. -/
structure Rule where
  expression : String
  message : Option String
deriving DecidableEq, Repr

/-- A rule under a field name or a pattern over field names. -/
structure FieldEntry where
  key : String
  pattern : Bool
  rule : Rule
deriving DecidableEq, Repr

/-- The rules under the name of a declaration or a pattern over such names. -/
structure ContextEntry where
  key : String
  pattern : Bool
  fields : List (String × Rule)
deriving DecidableEq, Repr

/-- All rules, in order. -/
structure RuleTable where
  fields : List FieldEntry
  contexts : List ContextEntry
deriving DecidableEq, Repr

/-- The table without rules. -/
def RuleTable.empty : RuleTable :=
  ⟨[], []⟩

end Schemata
