import Schemata.Json.Parts
import Schemata.Rules.Overrides

/-!
# Overrides in configuration files

An override is a text or a record.  A context is a record of its own if it has the members of one
and no others; any other map gives the overrides of its fields directly.

## Main definitions

* `FieldOverride.ofJson?`, `ContextOverride.ofJson?` : single overrides.
* `Overrides.ofJson?` : the two maps.
-/

namespace Schemata

/-- The names of the error message; either may be used. -/
def FieldOverride.messageNames : List String :=
  ["errorMessage", "error_message"]

/-- An override from the parts of a record. -/
def FieldOverride.ofParts? (validator message pattern : Option Json) : Option FieldOverride := do
  return {
    validator := ← Json.requiredPart Json.text? validator
    message := ← Json.optionalPart (Json.nullable? Json.text?) none message
    pattern := ← Json.optionalPart Json.flag? false pattern }

/-- An override: the text of a validator, or a record. -/
def FieldOverride.ofJson? : Json → Option FieldOverride
  | .string validator => some { validator }
  | .object members => do
    let body := Json.Body.members members
    let message ←
      match members.filter (·.1 ∈ messageNames) with
      | [] => some none
      | [(_, value)] => some (some value)
      | _ => none
    FieldOverride.ofParts? (← body.part "validator" 0) message (← body.part "pattern" 2)
  | .array items =>
    if items.length ≤ 3 then FieldOverride.ofParts? items[0]? items[1]? items[2]? else none
  | _ => none

/-- A map with values read by `read`.  The last value of a repeated key counts. -/
def Json.map? {α : Type} (read : Json → Option α) : Json → Option (OrderedMap String α)
  | .object members => do
    let entries ← members.mapM fun (key, value) => do return (key, ← read value)
    return OrderedMap.ofList entries
  | _ => none

namespace ContextOverride

/-- A context as a record: a mark and the overrides of its fields, with no other members. -/
def record? : Json → Option ContextOverride
  | .object members => do
    if members.all (·.1 ∈ ["pattern", "fields"]) then
      let body := Json.Body.members members
      let pattern ← Json.optionalPart Json.flag? false (← body.part "pattern" 0)
      let fields ← Json.requiredPart (Json.map? FieldOverride.ofJson?) (← body.part "fields" 1)
      return .record pattern fields
    else none
  | .array [pattern, fields] => do
    return .record (← pattern.flag?) (← fields.map? FieldOverride.ofJson?)
  | _ => none

/-- A context: a record, or a map from field names. -/
def ofJson? (value : Json) : Option ContextOverride :=
  record? value <|> (value.map? FieldOverride.ofJson?).map .direct

end ContextOverride

/-- The overrides by field and by context; either may be missing. -/
def Overrides.ofJson? (validators contexts : Option Json) : Option Overrides := do
  return {
    validators := ← Json.optionalPart (Json.map? FieldOverride.ofJson?) .empty validators
    contexts := ← Json.optionalPart (Json.map? ContextOverride.ofJson?) .empty contexts }

end Schemata
