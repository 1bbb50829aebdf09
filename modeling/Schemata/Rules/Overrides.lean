import Schemata.OrderedMap
import Schemata.Rules.Basic

/-!
# Overrides

Overrides are rules as a configuration states them: two maps in the order of the configuration.

## Main definitions

* `Overrides` : the two maps.
* `Overrides.field`, `Overrides.fieldPattern`, `Overrides.contextField`,
  `Overrides.contextPattern` : adding one rule.
* `Overrides.table` : the rules as a table.
-/

namespace Schemata

/-- What a configuration gives for a field. -/
structure FieldOverride where
  validator : String
  message : Option String := none
  /-- The key is a pattern over field names. -/
  pattern : Bool := false
deriving DecidableEq, Repr

/-- What a configuration gives for a context. -/
inductive ContextOverride
  /-- A map from field names. -/
  | direct (fields : OrderedMap String FieldOverride)
  /-- A map from field names, with a mark whether the key is a pattern. -/
  | record (pattern : Bool) (fields : OrderedMap String FieldOverride)

namespace ContextOverride

/-- Is the key of the context a pattern over the names of declarations? -/
def isPattern : ContextOverride → Bool
  | direct _ => false
  | record pattern _ => pattern

/-- The overrides by field name. -/
def fields : ContextOverride → OrderedMap String FieldOverride
  | direct fields => fields
  | record _ fields => fields

/-- Sets the override of a field. -/
def insert (name : String) (override : FieldOverride) : ContextOverride → ContextOverride
  | direct fields => direct (fields.insert name override)
  | record pattern fields => record pattern (fields.insert name override)

/-- Makes the key of a record a pattern and sets the override of a field; a direct map cannot be
marked and stays as it is. -/
def insertPattern (name : String) (override : FieldOverride) : ContextOverride → ContextOverride
  | direct fields => direct fields
  | record _ fields => record true (fields.insert name override)

end ContextOverride

/-- Overrides by field, and by context and field. -/
structure Overrides where
  validators : OrderedMap String FieldOverride
  contexts : OrderedMap String ContextOverride

namespace Overrides

/-- No overrides. -/
def empty : Overrides :=
  ⟨OrderedMap.empty, OrderedMap.empty⟩

/-- Are there no overrides? -/
def isEmpty (o : Overrides) : Bool :=
  o.validators.isEmpty && o.contexts.isEmpty

/-- Overrides a field. -/
def field (o : Overrides) (name validator : String) : Overrides :=
  { o with validators := o.validators.insert name ⟨validator, none, false⟩ }

/-- Overrides all fields whose name matches a pattern. -/
def fieldPattern (o : Overrides) (pattern validator : String) : Overrides :=
  { o with validators := o.validators.insert pattern ⟨validator, none, true⟩ }

/-- Overrides a field of one context. -/
def contextField (o : Overrides) (context name validator : String) : Overrides :=
  let entry := (o.contexts.get? context).getD (.direct .empty)
  { o with contexts := o.contexts.insert context (entry.insert name ⟨validator, none, false⟩) }

/-- Overrides a field of all contexts whose name matches a pattern. -/
def contextPattern (o : Overrides) (pattern name validator : String) : Overrides :=
  let entry := (o.contexts.get? pattern).getD (.record true .empty)
  { o with
    contexts := o.contexts.insert pattern (entry.insertPattern name ⟨validator, none, false⟩) }

/-- The rule of an override. -/
def ruleOf (override : FieldOverride) : Rule :=
  ⟨override.validator, override.message⟩

/-- The overrides as a table of rules. -/
def table (o : Overrides) : RuleTable where
  fields := o.validators.entries.map fun (key, f) => ⟨key, f.pattern, ruleOf f⟩
  contexts := o.contexts.entries.map fun (key, c) =>
    ⟨key, c.isPattern, c.fields.entries.map fun (name, f) => (name, ruleOf f)⟩

end Overrides

end Schemata
