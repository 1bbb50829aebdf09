import Schemata.Diagnostic
import Schemata.OrderedMap
import Schemata.Pattern.Basic
import Schemata.Rules.Basic

/-!
# Rule sets

A rule set is a rule table made ready for look-ups: exact keys in maps, where a later rule replaces
an earlier one, and patterns in order.  A pattern that cannot be read is kept, never matches, and is
reported.

## Main definitions

* `RuleSet.ofTable` : the rule set of a table.
* `RuleSet.size` : the number of rules.
-/

namespace Schemata

/-- A key that is a pattern, if its text could be read as one. -/
structure KeyPattern where
  source : String
  pattern? : Option Pattern

namespace KeyPattern

/-- Reads the text of a key. -/
def ofKey (key : String) : KeyPattern :=
  ⟨key, Pattern.compile? key⟩

/-- The report on a key of a table that is no pattern.  The words in which the reader of patterns
says why are left out; they would follow the key. -/
def diagnostic? (table : String) (key : KeyPattern) : Option Diagnostic :=
  if key.pattern?.isSome then none
  else some (.warning .configuration s!"invalid {table} pattern `{key.source}`")

end KeyPattern

/-- Rules ready for look-ups. -/
structure RuleSet where
  /-- The table from which the set is made. -/
  table : RuleTable
  fieldExact : OrderedMap String Rule
  fieldPatterns : List (KeyPattern × Rule)
  contextExact : OrderedMap String (OrderedMap String Rule)
  contextPatterns : List (KeyPattern × OrderedMap String Rule)

namespace RuleSet

/-- The rule set of a table. -/
def ofTable (table : RuleTable) : RuleSet where
  table := table
  fieldExact := .ofList ((table.fields.filter (!·.pattern)).map fun e => (e.key, e.rule))
  fieldPatterns := (table.fields.filter (·.pattern)).map fun e => (.ofKey e.key, e.rule)
  contextExact :=
    .ofList ((table.contexts.filter (!·.pattern)).map fun e => (e.key, .ofList e.fields))
  contextPatterns :=
    (table.contexts.filter (·.pattern)).map fun e => (.ofKey e.key, .ofList e.fields)

/-- The rule set without rules. -/
def empty : RuleSet :=
  ofTable .empty

/-- The reports on keys that are no patterns. -/
def diagnostics (rules : RuleSet) : List Diagnostic :=
  rules.fieldPatterns.filterMap (·.1.diagnostic? "field")
    ++ rules.contextPatterns.filterMap (·.1.diagnostic? "context")

/-- Are there no entries in any table? -/
def isEmpty (rules : RuleSet) : Bool :=
  rules.fieldExact.isEmpty && rules.fieldPatterns.isEmpty && rules.contextExact.isEmpty
    && rules.contextPatterns.isEmpty

/-- The number of rules in all tables. -/
def size (rules : RuleSet) : Nat :=
  rules.fieldExact.size + rules.fieldPatterns.length
    + (rules.contextExact.values.flatMap OrderedMap.entries).length
    + (rules.contextPatterns.flatMap (·.2.entries)).length

end RuleSet

end Schemata
