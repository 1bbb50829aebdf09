import Schemata.Document.Read
import Schemata.Document.Write
import Schemata.Proofs.Json.RoundTrip

/-!
# The written form of expressions

An expression is written as an object that names its kind first and then the parts of that kind.
The expressions directly inside it are written inside its parts, and so they are nested less deeply.

## Main definitions

* `SourceType.inner` : the expressions directly inside an expression.
* `SourceType.kindName`, `SourceType.parts` : the kind and the parts that are written.
* `SourceType.all` : does a test hold of an expression and of all expressions inside it?
* `SourceType.isExact` : does the text of an expression tell it exactly?
* `SourceType.isWhole` : has an expression no floating-point numbers?

## Main results

* `SourceType.toJson_eq` : the written form of an expression.
* `SourceType.depth_inner_lt` : expressions inside an expression are nested less deeply.
* `SourceType.inner_induction` : induction on the expressions inside an expression.
* `SourceType.isExact_toJson` : the numbers that are written for an exact expression.
* `SourceType.isExact_of_isWhole` : an expression without floating-point numbers is told exactly.
-/

namespace Schemata

open Json

/-! ### The parts of an expression -/

/-- The type of a field. -/
def SourceField.type : SourceField → SourceType
  | .mk _ _ _ type => type

/-- The type of a parameter. -/
def SourceParam.type : SourceParam → SourceType
  | .mk _ _ type => type

/-- The expressions directly inside a per-key value. -/
def SourcePerKey.inner : SourcePerKey → List SourceType
  | .replace type => [type]
  | _ => []

/-- The expressions directly inside a transform. -/
def SourceTransform.inner : SourceTransform → List SourceType
  | .record value => [value]
  | .perKey _ value => value.inner
  | _ => []

namespace SourceType

/-- The expressions directly inside an expression. -/
def inner : SourceType → List SourceType
  | .array element => [element]
  | .tuple elements => elements
  | .object fields => fields.map SourceField.type
  | .union members => members
  | .intersection members => members
  | .generic _ body => [body]
  | .mapped source transform => source :: transform.inner
  | .ref _ args => args
  | .function _ params returns => returns :: params.map SourceParam.type
  | .refined base _ => [base]
  | _ => []

/-- The name of the kind of an expression. -/
def kindName : SourceType → String
  | .primitive type => type.name
  | .literal _ => "literal"
  | .array _ => "array"
  | .tuple _ => "tuple"
  | .object _ => "object"
  | .union _ => "union"
  | .intersection _ => "intersection"
  | .generic _ _ => "generic"
  | .param _ => "param"
  | .mapped _ _ => "mapped"
  | .ref _ _ => "ref"
  | .function _ _ _ => "function"
  | .refined _ _ => "refined"
  | .unsupported _ => "unsupported"

/-- The members of the written form of an expression, except its kind. -/
def parts : SourceType → List (String × Json)
  | .primitive _ => []
  | .literal value => [("value", value)]
  | .array element => [("element", element.toJson)]
  | .tuple elements => [("elements", .array (elements.map toJson))]
  | .object fields => [("fields", .array (fields.map SourceField.toJson))]
  | .union members => [("members", .array (members.map toJson))]
  | .intersection members => [("members", .array (members.map toJson))]
  | .generic params body => [("params", Json.texts params), ("body", body.toJson)]
  | .param name => [("name", .string name)]
  | .mapped source transform => [("source", source.toJson), ("transform", transform.toJson)]
  | .ref name args => [("name", .string name), ("args", .array (args.map toJson))]
  | .function kind params returns =>
    [("function", .string kind.name), ("params", .array (params.map SourceParam.toJson)),
      ("returns", returns.toJson)]
  | .refined base constraint =>
    [("base", base.toJson), ("min", Json.ofOption .float constraint.min),
      ("max", Json.ofOption .float constraint.max),
      ("pattern", Json.ofOption .string constraint.pattern)]
  | .unsupported text => [("text", .string text)]

theorem listToJson_eq_map (types : List SourceType) : listToJson types = types.map toJson := by
  induction types with
  | nil => rfl
  | cons type rest ih => rw [listToJson, ih, List.map_cons]

end SourceType

theorem SourceField.listToJson_eq_map (fields : List SourceField) :
    SourceField.listToJson fields = fields.map SourceField.toJson := by
  induction fields with
  | nil => rfl
  | cons field rest ih => rw [SourceField.listToJson, ih, List.map_cons]

theorem SourceParam.listToJson_eq_map (params : List SourceParam) :
    SourceParam.listToJson params = params.map SourceParam.toJson := by
  induction params with
  | nil => rfl
  | cons param rest ih => rw [SourceParam.listToJson, ih, List.map_cons]

namespace SourceType

/-- An expression is written as an object that names its kind first. -/
theorem toJson_eq (type : SourceType) :
    type.toJson = .object (("kind", .string type.kindName) :: type.parts) := by
  cases type <;> simp only [toJson, kindName, parts, listToJson_eq_map,
    SourceField.listToJson_eq_map, SourceParam.listToJson_eq_map]

theorem kindName_mem (type : SourceType) : type.kindName ∈ kinds := by
  cases type with
  | primitive type => cases type <;> decide
  | _ => simp [kindName, kinds]

theorem parts_ne_kind (type : SourceType) : ∀ part ∈ type.parts, part.1 ≠ "kind" := by
  cases type <;> simp [parts]

end SourceType

/-! ### Tests of expressions -/

mutual

/-- Does a test hold of the expression and of all expressions inside it? -/
def SourceType.all (test : SourceType → Bool) (type : SourceType) : Bool :=
  test type &&
    match type with
    | .array element => element.all test
    | .tuple elements => SourceType.listAll test elements
    | .object fields => SourceField.listAll test fields
    | .union members => SourceType.listAll test members
    | .intersection members => SourceType.listAll test members
    | .generic _ body => body.all test
    | .mapped source transform => source.all test && transform.all test
    | .ref _ args => SourceType.listAll test args
    | .function _ params returns => returns.all test && SourceParam.listAll test params
    | .refined base _ => base.all test
    | .primitive _ | .literal _ | .param _ | .unsupported _ => true

/-- The same over a list. -/
def SourceType.listAll (test : SourceType → Bool) (types : List SourceType) : Bool :=
  match types with
  | [] => true
  | type :: rest => type.all test && SourceType.listAll test rest

/-- The same over fields. -/
def SourceField.listAll (test : SourceType → Bool) (fields : List SourceField) : Bool :=
  match fields with
  | [] => true
  | .mk _ _ _ type :: rest => type.all test && SourceField.listAll test rest

/-- The same over parameters. -/
def SourceParam.listAll (test : SourceType → Bool) (params : List SourceParam) : Bool :=
  match params with
  | [] => true
  | .mk _ _ type :: rest => type.all test && SourceParam.listAll test rest

/-- The same in a transform. -/
def SourceTransform.all (test : SourceType → Bool) (transform : SourceTransform) : Bool :=
  match transform with
  | .record value => value.all test
  | .perKey _ value => value.all test
  | .toPartial | .toRequired | .pick _ | .omit _ | .toReadonly => true

/-- The same in a per-key value. -/
def SourcePerKey.all (test : SourceType → Bool) (value : SourcePerKey) : Bool :=
  match value with
  | .replace type => type.all test
  | .optional | .nullable | .array | .readonly => true

end

section All

variable {test : SourceType → Bool}

theorem SourceType.listAll_iff {types : List SourceType} :
    SourceType.listAll test types ↔ ∀ type ∈ types, type.all test := by
  induction types with
  | nil => simp [SourceType.listAll]
  | cons type rest ih => simp [SourceType.listAll, ih]

theorem SourceField.listAll_iff {fields : List SourceField} :
    SourceField.listAll test fields ↔ ∀ field ∈ fields, field.type.all test := by
  induction fields with
  | nil => simp [SourceField.listAll]
  | cons field rest ih =>
    obtain ⟨name, optional, readonly, type⟩ := field
    simp [SourceField.listAll, SourceField.type, ih]

theorem SourceParam.listAll_iff {params : List SourceParam} :
    SourceParam.listAll test params ↔ ∀ param ∈ params, param.type.all test := by
  induction params with
  | nil => simp [SourceParam.listAll]
  | cons param rest ih =>
    obtain ⟨name, optional, type⟩ := param
    simp [SourceParam.listAll, SourceParam.type, ih]

theorem SourcePerKey.all_iff {value : SourcePerKey} :
    value.all test ↔ ∀ type ∈ value.inner, type.all test := by
  cases value <;> simp [SourcePerKey.all, SourcePerKey.inner]

theorem SourceTransform.all_iff {transform : SourceTransform} :
    transform.all test ↔ ∀ type ∈ transform.inner, type.all test := by
  cases transform <;> simp [SourceTransform.all, SourceTransform.inner, SourcePerKey.all_iff]

/-- A test holds throughout an expression if it holds here and throughout all expressions directly
inside. -/
theorem SourceType.all_iff {type : SourceType} :
    type.all test ↔ test type ∧ ∀ inside ∈ type.inner, inside.all test := by
  cases type <;>
    simp [SourceType.all, SourceType.inner, SourceType.listAll_iff, SourceField.listAll_iff,
      SourceParam.listAll_iff, SourceTransform.all_iff]

end All

/-! ### Exact and whole expressions -/

namespace SourceType

/-- Does the text of the expression itself tell it exactly?  The objects of a literal are as they
are kept, with one member per key in the order of the keys, and floating-point numbers are read
back. -/
def isExactHere : SourceType → Bool
  | .literal value => value.isExact && value.isSorted
  | .refined _ constraint => constraint.min.all isReadBack && constraint.max.all isReadBack
  | _ => true

/-- Does the text of the expression tell it and all expressions inside it exactly? -/
def isExact (type : SourceType) : Bool :=
  type.all isExactHere

/-- Has the expression itself no floating-point numbers?  All numbers of a literal are integers, its
objects are as they are kept, and a refined type has no bounds. -/
def isWholeHere : SourceType → Bool
  | .literal value => value.isWhole && value.isSorted
  | .refined _ constraint => constraint.min.isNone && constraint.max.isNone
  | _ => true

/-- Have the expression and all expressions inside it no floating-point numbers? -/
def isWhole (type : SourceType) : Bool :=
  type.all isWholeHere

/-- An expression is told exactly if this holds of it here and of all expressions inside it. -/
theorem isExact_iff {type : SourceType} :
    type.isExact ↔ type.isExactHere ∧ ∀ inside ∈ type.inner, inside.isExact :=
  all_iff

theorem isExactHere_of_isWholeHere {type : SourceType} (whole : type.isWholeHere) :
    type.isExactHere := by
  cases type with
  | literal value =>
    rw [isWholeHere, Bool.and_eq_true] at whole
    rw [isExactHere, Bool.and_eq_true]
    exact ⟨isExact_of_isWhole whole.1, whole.2⟩
  | refined base constraint =>
    rw [isWholeHere, Bool.and_eq_true, Option.isNone_iff_eq_none, Option.isNone_iff_eq_none]
      at whole
    rw [isExactHere, whole.1, whole.2]
    rfl
  | _ => rfl

end SourceType

/-! ### How deep expressions are written -/

section Depth

variable {type inside : SourceType}

theorem SourceField.depth_lt (field : SourceField) :
    field.type.toJson.depth < field.toJson.depth := by
  obtain ⟨name, optional, readonly, type⟩ := field
  exact depth_lt_of_mem_members ("type", type.toJson) (by simp)

theorem SourceParam.depth_lt (param : SourceParam) :
    param.type.toJson.depth < param.toJson.depth := by
  obtain ⟨name, optional, type⟩ := param
  exact depth_lt_of_mem_members ("type", type.toJson) (by simp)

theorem SourcePerKey.depth_lt {value : SourcePerKey} (member : inside ∈ value.inner) :
    inside.toJson.depth < value.toJson.depth := by
  cases value with
  | replace type =>
    obtain rfl := List.mem_singleton.mp member
    exact depth_lt_of_mem_members ("value", inside.toJson) (by simp)
  | _ => cases member

theorem SourceTransform.depth_lt {transform : SourceTransform} (member : inside ∈ transform.inner) :
    inside.toJson.depth < transform.toJson.depth := by
  cases transform with
  | record type =>
    obtain rfl := List.mem_singleton.mp member
    exact depth_lt_of_mem_members ("value", inside.toJson) (by simp)
  | perKey name value =>
    exact Nat.lt_trans (SourcePerKey.depth_lt member)
      (depth_lt_of_mem_members ("value", value.toJson) (by simp))
  | _ => cases member

/-- An expression inside another one is inside one of its parts. -/
theorem SourceType.exists_part (member : inside ∈ type.inner) :
    ∃ part ∈ type.parts, inside.toJson.depth ≤ part.2.depth := by
  -- Lists are written as arrays, and an array is deeper than its items.
  have ofItem {items : List Json} {item : Json} (listed : item ∈ items)
      (deep : inside.toJson.depth ≤ item.depth) :
      inside.toJson.depth ≤ (Json.array items).depth :=
    Nat.le_trans deep (Nat.le_of_lt (depth_lt_of_mem_items listed))
  cases type with
  | array element =>
    obtain rfl := List.mem_singleton.mp member
    exact ⟨("element", inside.toJson), by simp [parts], Nat.le_refl _⟩
  | tuple types =>
    exact ⟨("elements", .array (types.map toJson)), by simp [parts],
      ofItem (List.mem_map_of_mem member) (Nat.le_refl _)⟩
  | union types | intersection types =>
    exact ⟨("members", .array (types.map toJson)), by simp [parts],
      ofItem (List.mem_map_of_mem member) (Nat.le_refl _)⟩
  | object fields =>
    obtain ⟨field, listed, rfl⟩ := List.mem_map.mp member
    exact ⟨("fields", .array (fields.map SourceField.toJson)), by simp [parts],
      ofItem (List.mem_map_of_mem listed) (Nat.le_of_lt field.depth_lt)⟩
  | generic params body =>
    obtain rfl := List.mem_singleton.mp member
    exact ⟨("body", inside.toJson), by simp [parts], Nat.le_refl _⟩
  | mapped source transform =>
    rcases List.mem_cons.mp member with rfl | member
    · exact ⟨("source", inside.toJson), by simp [parts], Nat.le_refl _⟩
    · exact ⟨("transform", transform.toJson), by simp [parts],
        Nat.le_of_lt (SourceTransform.depth_lt member)⟩
  | ref name args =>
    exact ⟨("args", .array (args.map toJson)), by simp [parts],
      ofItem (List.mem_map_of_mem member) (Nat.le_refl _)⟩
  | function kind params returns =>
    rcases List.mem_cons.mp member with rfl | member
    · exact ⟨("returns", inside.toJson), by simp [parts], Nat.le_refl _⟩
    · obtain ⟨param, listed, rfl⟩ := List.mem_map.mp member
      exact ⟨("params", .array (params.map SourceParam.toJson)), by simp [parts],
        ofItem (List.mem_map_of_mem listed) (Nat.le_of_lt param.depth_lt)⟩
  | refined base constraint =>
    obtain rfl := List.mem_singleton.mp member
    exact ⟨("base", inside.toJson), by simp [parts], Nat.le_refl _⟩
  | _ => cases member

theorem SourceType.depth_inner_lt (member : inside ∈ type.inner) :
    inside.toJson.depth < type.toJson.depth := by
  obtain ⟨part, listed, deep⟩ := exists_part member
  rw [toJson_eq type]
  exact Nat.lt_of_le_of_lt deep (depth_lt_of_mem_members part (List.mem_cons_of_mem _ listed))

/-- What holds of an expression if it holds of the expressions inside it, holds of all. -/
theorem SourceType.inner_induction {motive : SourceType → Prop}
    (step : ∀ type, (∀ inside ∈ type.inner, motive inside) → motive type) (type : SourceType) :
    motive type :=
  step type fun inside _ => inner_induction step inside
termination_by type.toJson.depth
decreasing_by exact depth_inner_lt ‹_›

end Depth

/-! ### Numbers in what is written -/

section Exact

@[simp] theorem Json.isExact_texts (texts : List String) : (Json.texts texts).isExact := by
  simp [Json.texts]

@[simp] theorem Json.isExact_ofOption {α : Type} (write : α → Json) (value : Option α) :
    (Json.ofOption write value).isExact = value.all fun a => (write a).isExact := by
  cases value <;> simp [Json.ofOption]

theorem SourceField.isExact_toJson {field : SourceField} (told : field.type.toJson.isExact) :
    field.toJson.isExact := by
  obtain ⟨name, optional, readonly, type⟩ := field
  simpa [SourceField.toJson, SourceField.type] using told

theorem SourceParam.isExact_toJson {param : SourceParam} (told : param.type.toJson.isExact) :
    param.toJson.isExact := by
  obtain ⟨name, optional, type⟩ := param
  simpa [SourceParam.toJson, SourceParam.type] using told

theorem SourcePerKey.isExact_toJson {value : SourcePerKey}
    (told : ∀ inside ∈ value.inner, inside.toJson.isExact) : value.toJson.isExact := by
  cases value with
  | replace type => simpa [SourcePerKey.toJson] using told type List.mem_cons_self
  | _ => rfl

theorem SourceTransform.isExact_toJson {transform : SourceTransform}
    (told : ∀ inside ∈ transform.inner, inside.toJson.isExact) : transform.toJson.isExact := by
  cases transform with
  | pick keys | «omit» keys => simp [SourceTransform.toJson]
  | record type => simpa [SourceTransform.toJson] using told type List.mem_cons_self
  | perKey name value => simpa [SourceTransform.toJson] using SourcePerKey.isExact_toJson told
  | _ => rfl

theorem SourceType.areExactMembers_parts {type : SourceType} (here : type.isExactHere)
    (told : ∀ inside ∈ type.inner, inside.toJson.isExact) : areExactMembers type.parts := by
  cases type with
  | primitive _ | param _ | unsupported _ => rfl
  | literal value =>
    rw [isExactHere, Bool.and_eq_true] at here
    simpa [parts] using here.1
  | object fields =>
    have fields' : ∀ field ∈ fields, field.toJson.isExact := fun field member =>
      SourceField.isExact_toJson (told _ (List.mem_map_of_mem member))
    simpa [parts] using fields'
  | generic params body => simpa [parts] using told body List.mem_cons_self
  | mapped source transform =>
    obtain ⟨first, told⟩ := List.forall_mem_cons.mp told
    simpa [parts, first] using SourceTransform.isExact_toJson told
  | function kind params returns =>
    obtain ⟨first, told⟩ := List.forall_mem_cons.mp told
    have params' : ∀ param ∈ params, param.toJson.isExact := fun param member =>
      SourceParam.isExact_toJson (told _ (List.mem_map_of_mem member))
    simpa [parts, first] using params'
  | refined base constraint =>
    rw [isExactHere, Bool.and_eq_true] at here
    simpa [parts, here] using told base List.mem_cons_self
  | _ => simpa [parts, inner] using told

/-- If the text of an expression tells it exactly, then also all numbers that are written. -/
theorem SourceType.isExact_toJson (type : SourceType) (told : type.isExact) :
    type.toJson.isExact := by
  induction type using SourceType.inner_induction with
  | step type ih =>
    obtain ⟨here, inside⟩ := isExact_iff.mp told
    rw [toJson_eq, Json.isExact, numbersPass, membersPass, Bool.and_eq_true]
    exact ⟨rfl, areExactMembers_parts here fun s member => ih s member (inside s member)⟩

theorem SourceType.isExact_of_isWhole (type : SourceType) (whole : type.isWhole) :
    type.isExact := by
  induction type using SourceType.inner_induction with
  | step type ih =>
    obtain ⟨here, inside⟩ := all_iff.mp whole
    exact isExact_iff.mpr ⟨isExactHere_of_isWholeHere here, fun s member =>
      ih s member (inside s member)⟩

end Exact

end Schemata
