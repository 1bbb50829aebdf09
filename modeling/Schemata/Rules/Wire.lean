import Schemata.Json.Parts
import Schemata.Rules.Basic

/-!
# Rule tables as JSON

Missing parts of a table are empty, missing marks are not set.

## Main definitions

* `RuleTable.toJson`, `RuleTable.ofJson?` : a table as a JSON value.
-/

namespace Schemata

/-- A rule as a JSON value. -/
def Rule.toJson (rule : Rule) : Json :=
  .object [("expression", .string rule.expression),
    ("message", match rule.message with
      | some message => .string message
      | none => .null)]

/-- An entry of the field table as a JSON value. -/
def FieldEntry.toJson (e : FieldEntry) : Json :=
  .object [("key", .string e.key), ("pattern", .bool e.pattern), ("rule", e.rule.toJson)]

/-- An entry of the context table as a JSON value. -/
def ContextEntry.toJson (e : ContextEntry) : Json :=
  .object [("key", .string e.key), ("pattern", .bool e.pattern),
    ("fields", .array (e.fields.map fun (name, rule) => .array [.string name, rule.toJson]))]

/-- A table as a JSON value. -/
def RuleTable.toJson (table : RuleTable) : Json :=
  .object [("fields", .array (table.fields.map FieldEntry.toJson)),
    ("contexts", .array (table.contexts.map ContextEntry.toJson))]

/-- The rule that a JSON value stands for. -/
def Rule.ofJson? (value : Json) : Option Rule := do
  let body ← value.body?
  return {
    expression := ← Json.requiredPart Json.text? (← body.part "expression" 0)
    message := ← Json.optionalPart (Json.nullable? Json.text?) none (← body.part "message" 1) }

/-- The entry of the field table that a JSON value stands for. -/
def FieldEntry.ofJson? (value : Json) : Option FieldEntry := do
  let body ← value.body?
  return {
    key := ← Json.requiredPart Json.text? (← body.part "key" 0)
    pattern := ← Json.optionalPart Json.flag? false (← body.part "pattern" 1)
    rule := ← Json.requiredPart Rule.ofJson? (← body.part "rule" 2) }

/-- A name with its rule. -/
def namedRule? : Json → Option (String × Rule)
  | .array [.string name, rule] => do return (name, ← Rule.ofJson? rule)
  | _ => none

/-- The entry of the context table that a JSON value stands for. -/
def ContextEntry.ofJson? (value : Json) : Option ContextEntry := do
  let body ← value.body?
  return {
    key := ← Json.requiredPart Json.text? (← body.part "key" 0)
    pattern := ← Json.optionalPart Json.flag? false (← body.part "pattern" 1)
    fields := ← Json.optionalPart (Json.list? namedRule?) [] (← body.part "fields" 2) }

/-- The table that a JSON value stands for. -/
def RuleTable.ofJson? (value : Json) : Option RuleTable := do
  let body ← value.body?
  return {
    fields := ← Json.optionalPart (Json.list? FieldEntry.ofJson?) [] (← body.part "fields" 0)
    contexts :=
      ← Json.optionalPart (Json.list? ContextEntry.ofJson?) [] (← body.part "contexts" 1) }

end Schemata
