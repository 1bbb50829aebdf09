import Schemata.Shape.Basic
import Schemata.Text.Visible

/-!
# Canonical texts of shapes

Every shape has a canonical text, from which the id of an anonymous shape and the fingerprint of a
declaration are computed.

## Main definitions

* `Shape.canonical` : the canonical text of a shape.
-/

namespace Schemata

/-- The ids of a list, parted by commas. -/
def joinIds (ids : List ShapeId) : String :=
  String.intercalate "," (ids.map ShapeId.toHex)

/-- A list of texts in brackets, each visibly quoted. -/
def canonicalTexts (texts : List String) : String :=
  "[" ++ String.intercalate ", " (texts.map Visible.quote) ++ "]"

/-- An optional value, named as present or absent. -/
def canonicalOption {α : Type} (show_ : α → String) : Option α → String
  | none => "None"
  | some value => s!"Some({show_ value})"

/-- The canonical text of a per-key transform's value. -/
def PerKey.canonical : PerKey → String
  | .optional => "Optional"
  | .nullable => "Nullable"
  | .array => "Array"
  | .readonly => "Readonly"
  | .replace type => s!"Replace({type.canonical})"

/-- The canonical text of a transform. -/
def Transform.canonical : Transform → String
  | .toPartial => "Partial"
  | .toRequired => "Required"
  | .pick keys => s!"Pick({canonicalTexts keys})"
  | .omit keys => s!"Omit({canonicalTexts keys})"
  | .record value => s!"Record \x7b value: {value.canonical} \x7d"
  | .toReadonly => "Readonly"
  | .perKey name value =>
    s!"PerKey \x7b name: {Visible.quote name}, value: {value.canonical} \x7d"

/-- The canonical text of a constraint. -/
def Constraint.canonical (c : Constraint) : String :=
  let min := canonicalOption Double.toCanonicalText c.min
  let max := canonicalOption Double.toCanonicalText c.max
  let pattern := canonicalOption Visible.quote c.pattern
  s!"Constraint \x7b min: {min}, max: {max}, pattern: {pattern} \x7d"

/-- The canonical text of a field, closed by a semicolon. -/
def Field.canonical (f : Field) : String :=
  let readonly := if f.readonly then "readonly " else ""
  let optional := if f.optional then "?" else ""
  s!"{readonly}{Quoted.quote f.name}{optional}:{f.type.toHex};"

/-- The canonical text of a parameter, closed by a semicolon. -/
def Param.canonical (p : Param) : String :=
  let optional := if p.optional then "?" else ""
  s!"{p.name}{optional}:{p.type.toHex};"

/-- The canonical text of a shape. -/
def Shape.canonical : Shape → String
  | .primitive type => type.name
  | .literal value => s!"lit({value.toSource})"
  | .array element => s!"array({element.toHex})"
  | .tuple elements => s!"tuple({joinIds elements})"
  | .object fields => "object\x7b" ++ String.join (fields.map Field.canonical) ++ "\x7d"
  | .union members => s!"union({joinIds members})"
  | .intersection members => s!"intersection({joinIds members})"
  | .generic params body =>
    let names := String.intercalate "," params
    s!"generic<{names}>({body.toHex})"
  | .param name => s!"param({name})"
  | .mapped source transform => s!"mapped({source.toHex},{transform.canonical})"
  | .reference target args => s!"ref({target.toHex}<{joinIds args}>)"
  | .function kind params returns =>
    let list := String.join (params.map Param.canonical)
    s!"fn:{kind.canonicalName}({list})=>{returns.toHex}"
  | .refined base constraint => s!"refined({base.toHex},{constraint.canonical})"
  | .unresolved name => s!"unresolved({name})"
  | .unsupported text => s!"unsupported({text})"

end Schemata
