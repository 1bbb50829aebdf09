import Mathlib.Data.List.Forall2
import Schemata.Proofs.Schema.Arity

/-!
# The objects of a schema

Without rules, the object validators of a schema come from object types and from transforms that
change each field of an object type.  An object type has an entry for each field that is no method,
in order.  A transform does not look whether a field is a method, and makes an entry for it too.

## Main definitions

* `Schema.objects` : the object validators of a schema, by their entries.
* `Generator.kept` : the ids whose validators stay in the validator of a shape.
* `Generator.Shown` : the shapes whose validators stay in the validators of a schema.
* `Generator.objectAt?` : the object validator that a shape gives rise to.

## Main results

* `Generator.mem_objects_visitShape_iff` : the object validators in the validator of one shape.
* `Generator.mem_objects_schemaOf_iff` : the object validators of a whole schema.
* `Generator.entriesOf_dataFields_iff` : the entries of an object are its fields that are no
  methods, unless a transform lets methods through.
-/

namespace Schemata

/-- The entries of an object validator. -/
def ValidatorKind.entries? : ValidatorKind → Option (List (String × Validator))
  | .object entries => some entries
  | _ => none

theorem RuleSet.resolve_empty (field : String) (base : Validator) (context : Option String) :
    RuleSet.empty.resolve field base context = ⟨base, .default, none⟩ := by
  have unmatched : RuleSet.empty.winner? field context = none := by
    cases context <;> rfl
  rw [resolve, unmatched]

namespace Validator

variable {v w : Validator} {entries : List (String × Validator)}

/-- The object validators in a tree, by their entries. -/
def objects (v : Validator) : List (List (String × Validator)) :=
  v.parts.filterMap (·.kind.entries?)

theorem mem_objects_iff : entries ∈ v.objects ↔
    v.kind.entries? = some entries ∨ ∃ child ∈ v.kind.children, entries ∈ child.objects := by
  constructor
  · intro h
    obtain ⟨w, part, own⟩ := List.mem_filterMap.mp h
    rcases mem_parts_iff.mp part with rfl | ⟨child, member, part⟩
    · exact .inl own
    · exact .inr ⟨child, member, List.mem_filterMap.mpr ⟨w, part, own⟩⟩
  · rintro (own | ⟨child, member, inner⟩)
    · exact List.mem_filterMap.mpr ⟨v, mem_parts_iff.mpr (.inl rfl), own⟩
    · obtain ⟨w, part, own⟩ := List.mem_filterMap.mp inner
      exact List.mem_filterMap.mpr ⟨w, mem_parts_iff.mpr (.inr ⟨child, member, part⟩), own⟩

/-- Modifiers hold no objects. -/
theorem mem_objects_congr (same : v.kind = w.kind) : entries ∈ v.objects ↔ entries ∈ w.objects := by
  rw [mem_objects_iff, mem_objects_iff, same]

@[simp] theorem mem_objects_modify (modifier : Modifier) :
    entries ∈ (v.modify modifier).objects ↔ entries ∈ v.objects :=
  mem_objects_congr rfl

@[simp] theorem mem_objects_ite_optional (b : Bool) :
    entries ∈ (if b then v.optional else v).objects ↔ entries ∈ v.objects := by
  refine mem_objects_congr ?_
  split
  · exact kind_optional v
  · rfl

@[simp] theorem mem_objects_ofKind {kind : ValidatorKind} : entries ∈ (ofKind kind).objects ↔
    kind.entries? = some entries ∨ ∃ child ∈ kind.children, entries ∈ child.objects :=
  mem_objects_iff

@[simp] theorem not_mem_objects_any : entries ∉ any.objects := by
  intro h
  rcases mem_objects_iff.mp h with own | ⟨child, member, -⟩
  · cases own
  · cases member

@[simp] theorem mem_objects_union (members : List Validator) :
    entries ∈ (union members).objects ↔ ∃ v ∈ members, entries ∈ v.objects := by
  rcases members with _ | ⟨only, _ | ⟨_, _⟩⟩ <;>
    simp [union, ValidatorKind.entries?, ValidatorKind.children]

@[simp] theorem mem_objects_intersection (members : List Validator) :
    entries ∈ (intersection members).objects ↔ ∃ v ∈ members, entries ∈ v.objects := by
  rcases members with _ | ⟨only, _ | ⟨_, _⟩⟩ <;>
    simp [intersection, ValidatorKind.entries?, ValidatorKind.children]

theorem isOptional_optional (v : Validator) : v.optional.isOptional := by
  unfold optional
  split
  · assumption
  · simp [isOptional, modify, modifiers]

end Validator

/-- The object validators of a schema, by their entries. -/
def Schema.objects (schema : Schema) : List (List (String × Validator)) :=
  schema.validators.flatMap Validator.objects

/-- The id that the entry of a field is made from by a transform. -/
def PerKey.typeOf (value : PerKey) (field : Field) : ShapeId :=
  match value with
  | .replace type => type
  | _ => field.type

namespace Generator

variable (gen : Generator)

/-! ### One shape -/

/-- The fields that are no methods. -/
def dataFields (fields : List Field) : List Field :=
  fields.filter fun field => (gen.method? field.type).isNone

/-- The fields of an object type, or of one that is transformed field by field. -/
def objectType? : Shape → Option (List Field)
  | .object fields => some fields
  | .mapped source (.perKey _ _) => gen.objectFields? source
  | _ => none

/-- The ids whose validators stay in the validator of a shape, with their places: those of methods
do not, nor superfluous arguments, nor types that are replaced. -/
def kept (place : Place) : Shape → List (Place × ShapeId)
  | .object fields => (gen.dataFields fields).map fun field =>
    (place.inField field.name, field.type)
  | .mapped source (.perKey _ value) => ((gen.objectFields? source).getD []).map fun field =>
    (place.inField field.name, value.typeOf field)
  | .reference target args =>
    if gen.graph.isDeclared target then
      (args.take (gen.graph.paramsOf target).length).map (place, ·)
    else [(place, target)]
  | shape => gen.asked place shape

section Shape

variable (visit : Place → ShapeId → Traced Validator) (inProgress : ShapeId → Bool)

/-- The entry of a field of an object type, or of one that is transformed field by field. -/
def entryAt (place : Place) (shape : Shape) (field : Field) : String × Validator :=
  let place := place.inField field.name
  match shape with
  | .mapped _ (.perKey _ value) =>
    (visitEntry gen visit place (adaptKey visit place value) field).value
  | _ => (visitEntry gen visit place (fun v => return v) field).value

/-- The object validator that a shape gives rise to, by its entries. -/
def objectAt? (place : Place) (shape : Shape) : Option (List (String × Validator)) :=
  (gen.objectType? shape).map fun _ => (gen.entryFields shape).map (gen.entryAt visit place shape)

variable {gen} {place : Place} {entries : List (String × Validator)}

theorem value_visitField (fields : List Field) (field : Field) :
    (visitField gen visit place field).value
      = if (gen.method? field.type).isNone then
        some (gen.entryAt visit place (.object fields) field) else none := by
  unfold visitField
  cases gen.method? field.type <;> rfl

theorem value_visitObject (fields : List Field) :
    (visitObject gen visit place fields).value
      = .ofKind (.object
        ((gen.dataFields fields).map (gen.entryAt visit place (.object fields)))) := by
  have own (rest : List Field) :
      (rest.map fun field => (visitField gen visit place field).value).filterMap id
        = (gen.dataFields rest).map (gen.entryAt visit place (.object fields)) := by
    induction rest with
    | nil => rfl
    | cons field rest ih =>
      rw [dataFields, List.filter_cons, List.map_cons, List.filterMap_cons,
        value_visitField visit fields field]
      split <;> simp_all [dataFields]
  rw [visitObject, Traced.value_bind, Traced.value_pure, Traced.value_forEach, own]

theorem value_visitPerKey {source : ShapeId} {fields : List Field}
    (found : gen.objectFields? source = some fields) (name : String) (value : PerKey) :
    (visitPerKey gen visit place source name value).value
      = .ofKind (.object
        (fields.map (gen.entryAt visit place (.mapped source (.perKey name value))))) := by
  rw [visitPerKey, found]
  dsimp only
  rw [Traced.value_bind, Traced.value_pure, Traced.value_forEach]
  rfl

theorem mem_objects_fitArgs (target : ShapeId) (args : List Validator) :
    (∃ v ∈ gen.fitArgs target args, entries ∈ v.objects) ↔
      ∃ v ∈ args.take (gen.graph.paramsOf target).length, entries ∈ v.objects := by
  unfold fitArgs ShapeGraph.paramsOf
  cases gen.graph.shape? target with
  | none => simp
  | some shape =>
    cases shape with
    | generic params body =>
      simp [Shape.binds, or_and_right, exists_or]
    | _ => simp [Shape.binds]

/-- The object validators in a reference are those in the arguments that are not superfluous. -/
theorem mem_objects_named (target : ShapeId) (declaration : Declaration) (args : List Validator) :
    entries ∈ (gen.named inProgress place target declaration args).value.objects ↔
      ∃ v ∈ args.take (gen.graph.paramsOf target).length, entries ∈ v.objects := by
  rw [← mem_objects_fitArgs, named, Traced.value_bind, Traced.value_pure,
    Validator.mem_objects_ofKind]
  split <;> simp [ValidatorKind.entries?, ValidatorKind.children]

theorem mem_objects_visitUnion (members : List ShapeId) :
    entries ∈ (visitUnion gen visit place members).value.objects ↔
      ∃ id ∈ gen.alternatives members, entries ∈ (visit place id).value.objects := by
  rw [Validator.mem_objects_congr (kind_visitUnion members), Validator.mem_objects_union]
  simp

theorem mem_objects_visitParams (params : List Param) :
    (∃ v ∈ (visitParams visit place params).value, entries ∈ v.objects) ↔
      ∃ id ∈ params.map Param.type, entries ∈ (visit place id).value.objects := by
  simp [visitParams]

theorem mem_objects_adaptKey (value : PerKey) (field : Field) :
    entries ∈ (adaptKey visit place value (visit place field.type).value).value.objects ↔
      entries ∈ (visit place (value.typeOf field)).value.objects := by
  cases value with
  | optional => exact Validator.mem_objects_congr (Validator.kind_optional _)
  | nullable => exact Validator.mem_objects_congr (Validator.kind_nullable _)
  | array =>
    rw [adaptKey, Traced.value_pure, Validator.mem_objects_ofKind]
    simp [ValidatorKind.entries?, ValidatorKind.children, PerKey.typeOf]
  | readonly => exact Validator.mem_objects_modify _
  | replace type => exact Iff.rfl

/-- The object validators in an object are the object itself and those in its entries. -/
theorem mem_objects_object (shape : Shape) (fields : List Field) (inner : Field → Place × ShapeId)
    (own : ∀ field, entries ∈ (gen.entryAt visit place shape field).2.objects ↔
      entries ∈ (visit (inner field).1 (inner field).2).value.objects) :
    entries ∈ (Validator.ofKind
        (.object (fields.map (gen.entryAt visit place shape)))).objects ↔
      (∃ place' next, (place', next) ∈ fields.map inner ∧
        entries ∈ (visit place' next).value.objects) ∨
      some (fields.map (gen.entryAt visit place shape)) = some entries := by
  rw [Validator.mem_objects_ofKind, or_comm]
  refine or_congr ?_ Iff.rfl
  simp only [ValidatorKind.children, List.map_map, List.mem_map, Function.comp_apply]
  constructor
  · rintro ⟨v, ⟨field, member, rfl⟩, h⟩
    exact ⟨_, _, ⟨field, member, rfl⟩, (own field).mp h⟩
  · rintro ⟨place', next, ⟨field, member, same⟩, h⟩
    refine ⟨_, ⟨field, member, rfl⟩, (own field).mpr ?_⟩
    rwa [same]

section NoRules

variable (norules : gen.rules = .empty)

include norules

theorem value_resolveField (name : String) (base : Validator) :
    (resolveField gen place name base).value = base := by
  rw [resolveField, Traced.value_bind, Traced.value_pure, norules, RuleSet.resolve_empty]

theorem mem_objects_visitEntry (adapt : Validator → Traced Validator) (field : Field) :
    entries ∈ (visitEntry gen visit place adapt field).value.2.objects ↔
      entries ∈ (adapt (visit place field.type).value).value.objects := by
  simp only [visitEntry, Traced.value_bind, Traced.value_pure, value_resolveField norules,
    Validator.mem_objects_ite_optional]

/-- The object validators in the validator of a shape are those of the ids that stay in it, and its
own. -/
theorem mem_objects_visitShape_iff (shape : Shape) :
    entries ∈ (visitShape gen visit inProgress place shape).value.objects ↔
      (∃ place' next, (place', next) ∈ gen.kept place shape ∧
        entries ∈ (visit place' next).value.objects) ∨
      gen.objectAt? visit place shape = some entries := by
  cases shape with
  | object fields =>
    rw [visitShape, value_visitObject]
    exact mem_objects_object visit _ _ _
      fun field => mem_objects_visitEntry visit norules _ field
  | union members =>
    simp [visitShape, mem_objects_visitUnion, kept, asked, objectAt?, objectType?]
  | param name =>
    rw [visitShape]
    split <;>
      simp [kept, asked, objectAt?, objectType?, Shape.children, fallback, ValidatorKind.entries?,
        ValidatorKind.children]
  | mapped source transform =>
    cases transform with
    | perKey name value =>
      rw [visitShape, visitMapped, kept, objectAt?, objectType?]
      cases found : gen.objectFields? source with
      | none =>
        rw [visitPerKey, found]
        simp [fallback]
      | some fields =>
        rw [value_visitPerKey visit found]
        simp only [entryFields, found, Option.map_some, Option.getD_some]
        refine mem_objects_object visit _ _ _ fun field => ?_
        exact (mem_objects_visitEntry visit norules _ field).trans
          (mem_objects_adaptKey visit value field)
    | _ =>
      simp [visitShape, visitMapped, kept, asked, objectAt?, objectType?, Shape.children,
        Transform.children, ValidatorKind.entries?, ValidatorKind.children, or_and_right, exists_or]
  | reference target args =>
    rw [visitShape, reference, kept, ShapeGraph.isDeclared_eq_isSome]
    cases gen.graph.declaration? target with
    | none => simp [objectAt?, objectType?]
    | some declaration => simp [objectAt?, objectType?, mem_objects_named, ← List.map_take]
  | function kind params returns =>
    simp [visitShape, kept, asked, objectAt?, objectType?, Shape.children, ValidatorKind.entries?,
      ValidatorKind.children, or_and_right, exists_or, mem_objects_visitParams]
  | refined base constraint =>
    rw [visitShape, Traced.value_bind, Traced.value_pure,
      Validator.mem_objects_congr (kind_refine constraint _)]
    simp [kept, asked, objectAt?, objectType?, Shape.children]
  | _ =>
    simp [visitShape, kept, asked, objectAt?, objectType?, Shape.children, fallback,
      Validator.primitive, ValidatorKind.entries?, ValidatorKind.children]

end NoRules

/-- The object validators in a signature are those of the types in it. -/
theorem mem_objects_signature {field : Field} {signature : MemberSignature}
    (own : gen.notedField visit place field = .member signature) :
    (entries ∈ signature.params.objects ∨ entries ∈ signature.returns.objects) ↔
      ∃ id ∈ gen.fieldTypes field,
        entries ∈ (visit (place.inField field.name) id).value.objects := by
  unfold notedField at own
  unfold fieldTypes
  cases method : gen.method? field.type with
  | none =>
    rw [method] at own
    cases own
  | some found =>
    obtain ⟨kind, params, returns⟩ := found
    rw [method] at own
    obtain rfl := Finding.member.inj own
    simp [ValidatorKind.entries?, ValidatorKind.children, mem_objects_visitParams, or_and_right,
      exists_or]

theorem exists_notedField_iff {field : Field} :
    (∃ signature, gen.notedField visit place field = .member signature) ↔
      (gen.method? field.type).isSome := by
  unfold notedField
  cases gen.method? field.type <;> simp

theorem member_mem_noted_iff {shape : Shape} {signature : MemberSignature} :
    .member signature ∈ gen.noted visit inProgress place shape ↔
      ∃ fields, shape = .object fields ∧
        ∃ field ∈ fields, gen.notedField visit place field = .member signature := by
  cases shape with
  | mapped source transform =>
    cases transform with
    | perKey name value =>
      rw [noted]
      split <;> simp [report]
    | _ => simp [noted]
  | param name => rw [noted]; split <;> simp [report]
  | reference target args => rw [noted]; split <;> simp
  | _ => simp [noted, report]

end Shape

/-! ### A whole schema -/

/-- The validator of a shape stays in one of the validators of a schema: in that of the declaration,
or in the signature of a method. -/
inductive Shown (d : Declaration) (root : ShapeId) : List ShapeId → Place → Shape → Prop
  | top {shape : Shape} (found : gen.graph.shape? root = some shape) :
    Shown d root [d.id] (Place.top d) shape
  | inner {opened : List ShapeId} {place place' : Place} {shape shape' : Shape} {next : ShapeId}
      (before : Shown d root opened place shape) (listed : (place', next) ∈ gen.kept place shape)
      (anonymous : gen.graph.declaration? next = none)
      (found : gen.graph.shape? next = some shape') (fresh : next ∉ opened) :
    Shown d root (next :: opened) place' shape'
  | signature {opened : List ShapeId} {place : Place} {fields : List Field} {field : Field}
      {shape : Shape} {next : ShapeId} (met : gen.Meets d root opened place (.object fields))
      (member : field ∈ fields) (method : (gen.method? field.type).isSome)
      (listed : next ∈ gen.fieldTypes field) (anonymous : gen.graph.declaration? next = none)
      (found : gen.graph.shape? next = some shape) (fresh : next ∉ opened) :
    Shown d root (next :: opened) (place.inField field.name) shape

variable {gen} {d : Declaration} {root : ShapeId} {opened : List ShapeId} {place : Place}
  {shape : Shape} {entries : List (String × Validator)} {signature : MemberSignature}

theorem mem_objects_visit_iff (id : ShapeId) :
    entries ∈ (gen.visit opened place id).value.objects ↔
      gen.graph.declaration? id = none ∧ id ∉ opened ∧
        ∃ shape, gen.graph.shape? id = some shape ∧
          entries ∈ (visitShape gen (gen.visit (id :: opened)) ((id :: opened).contains ·) place
            shape).value.objects := by
  cases declared : gen.graph.declaration? id with
  | some declaration =>
    rw [visit, declared]
    simp [mem_objects_named]
  | none =>
    cases found : gen.graph.shape? id with
    | none =>
      rw [visit_of_missing declared found]
      simp [fallback]
    | some shape =>
      rw [visit_of_anonymous declared found]
      by_cases old : id ∈ opened <;> simp [old, fallback]

/-- The signatures of a schema are those of the methods in the object types that the walk meets. -/
theorem member_mem_findings_iff :
    .member signature ∈ (gen.visitDeclaration root d).findings ↔
      ∃ opened place fields, gen.Meets d root opened place (.object fields) ∧
        ∃ field ∈ fields, gen.notedField (gen.visit opened) place field = .member signature := by
  have entrance : .member signature ≠ gen.entrance d root := by
    unfold Generator.entrance
    split <;> simp [report]
  have arrival (opened : List ShapeId) (place : Place) (id : ShapeId) :
      .member signature ≠ gen.arrival opened place id := by
    unfold Generator.arrival
    repeat' split
    all_goals simp [report]
  simp only [mem_findings_visitDeclaration_iff, entrance, arrival, member_mem_noted_iff, false_or,
    and_false, exists_false, or_false]
  constructor
  · rintro ⟨opened, place, _, met, fields, rfl, field, member, own⟩
    exact ⟨opened, place, fields, met, field, member, own⟩
  · rintro ⟨opened, place, fields, met, field, member, own⟩
    exact ⟨opened, place, _, met, fields, rfl, field, member, own⟩

/-- The object validators of a schema are those in its validator and in its signatures. -/
theorem mem_objects_schemaOf (id : ShapeId) (traced : Traced Validator) :
    entries ∈ (gen.schemaOf id d traced).objects ↔
      entries ∈ traced.value.objects ∨ ∃ signature, .member signature ∈ traced.findings ∧
        (entries ∈ signature.params.objects ∨ entries ∈ signature.returns.objects) := by
  have listed (finding : Finding) (signature : MemberSignature) :
      finding.signature? = some signature ↔ finding = .member signature := by
    cases finding <;> simp [Finding.signature?]
  simp [Schema.objects, Schema.validators, schemaOf, List.flatMap_assoc, listed]

section NoRules

variable (norules : gen.rules = .empty)

include norules

/-- The object validators in the validator of a shape that stays are object validators of the
schema. -/
theorem Shown.mem_objects (shown : gen.Shown d root opened place shape)
    (h : entries ∈ (visitShape gen (gen.visit opened) (opened.contains ·) place
      shape).value.objects) :
    entries ∈ (gen.schemaOf root d (gen.visitDeclaration root d)).objects := by
  induction shown with
  | top found =>
    refine (mem_objects_schemaOf root _).mpr (.inl ?_)
    rw [visitDeclaration, found]
    exact h
  | inner before listed anonymous found fresh ih =>
    refine ih ((mem_objects_visitShape_iff _ _ norules _).mpr (.inl ⟨_, _, listed, ?_⟩))
    exact (mem_objects_visit_iff _).mpr ⟨anonymous, fresh, _, found, h⟩
  | @signature opened place fields field _ next met member method listed anonymous found fresh =>
    obtain ⟨signature, own⟩ := (exists_notedField_iff (gen.visit opened)).mpr method
    refine (mem_objects_schemaOf root _).mpr (.inr ⟨signature, ?_, ?_⟩)
    · exact member_mem_findings_iff.mpr ⟨opened, place, fields, met, field, member, own⟩
    · refine (mem_objects_signature (gen.visit opened) own).mpr ⟨next, listed, ?_⟩
      exact (mem_objects_visit_iff _).mpr ⟨anonymous, fresh, _, found, h⟩

/-- An object validator in the validator of a shape that stays comes from a shape that stays. -/
theorem Shown.exists_objectAt (shown : gen.Shown d root opened place shape)
    (h : entries ∈ (visitShape gen (gen.visit opened) (opened.contains ·) place
      shape).value.objects) :
    ∃ opened' place' shape', gen.Shown d root opened' place' shape' ∧
      gen.objectAt? (gen.visit opened') place' shape' = some entries := by
  -- Each step of the walk opens one more shape.
  induction size : gen.unopened opened using Nat.strongRecOn generalizing opened place shape with
  | ind size ih =>
    subst size
    rcases (mem_objects_visitShape_iff _ _ norules _).mp h with ⟨inside, next, listed, inner⟩ | own
    · obtain ⟨anonymous, fresh, shape', found, inner⟩ := (mem_objects_visit_iff _).mp inner
      exact ih _ (unopened_cons_lt found fresh) (shown.inner listed anonymous found fresh) inner rfl
    · exact ⟨opened, place, shape, shown, own⟩

/-- The object validators of a schema come from the shapes that stay in it. -/
theorem mem_objects_schemaOf_iff :
    entries ∈ (gen.schemaOf root d (gen.visitDeclaration root d)).objects ↔
      ∃ opened place shape, gen.Shown d root opened place shape ∧
        gen.objectAt? (gen.visit opened) place shape = some entries := by
  constructor
  · intro h
    rcases (mem_objects_schemaOf root _).mp h with own | ⟨signature, member, inner⟩
    · cases found : gen.graph.shape? root with
      | none =>
        rw [visitDeclaration, found] at own
        exact absurd own Validator.not_mem_objects_any
      | some shape =>
        rw [visitDeclaration, found] at own
        exact (Shown.top found).exists_objectAt norules own
    · obtain ⟨opened, place, fields, met, field, member, own⟩ := member_mem_findings_iff.mp member
      have method := (exists_notedField_iff _).mp ⟨signature, own⟩
      obtain ⟨next, listed, inner⟩ := (mem_objects_signature _ own).mp inner
      obtain ⟨anonymous, fresh, shape, found, inner⟩ := (mem_objects_visit_iff _).mp inner
      exact (Shown.signature met member method listed anonymous found fresh).exists_objectAt
        norules inner
  · rintro ⟨opened, place, shape, shown, own⟩
    exact shown.mem_objects norules ((mem_objects_visitShape_iff _ _ norules _).mpr (.inr own))

end NoRules

/-! ### The entries of an object -/

/-- The entries are those of the given fields, in order and under their names, and those of optional
fields are optional. -/
def EntriesOf (fields : List Field) (entries : List (String × Validator)) : Prop :=
  List.Forall₂ (fun field entry => entry.1 = field.name ∧ (field.optional → entry.2.isOptional))
    fields entries

/-- A transform makes entries for the methods of an object type. -/
def Leaks (gen : Generator) : Shape → Prop
  | .mapped source (.perKey _ _) =>
    ∃ field ∈ (gen.objectFields? source).getD [], (gen.method? field.type).isSome
  | _ => False

section Entries

variable {visit : Place → ShapeId → Traced Validator} {fields : List Field}

theorem entriesOf_map_entryAt (fields : List Field) :
    EntriesOf fields (fields.map (gen.entryAt visit place shape)) := by
  refine List.forall₂_map_right_iff.mpr
    (List.forall₂_same.mpr fun field _ => ⟨?_, fun optional => ?_⟩)
  · unfold entryAt
    split <;> rfl
  · unfold entryAt
    split <;> simp [visitEntry, optional, Validator.isOptional_optional]

/-- The entries of an object are its fields that are no methods, unless a transform lets methods
through. -/
theorem entriesOf_dataFields_iff (object : gen.objectType? shape = some fields) :
    EntriesOf (gen.dataFields fields)
        ((gen.entryFields shape).map (gen.entryAt visit place shape)) ↔ ¬ gen.Leaks shape := by
  unfold objectType? at object
  split at object
  · obtain rfl := Option.some.inj object
    exact iff_of_true (entriesOf_map_entryAt _) id
  · rename_i source name value
    rw [entryFields, Leaks, object, Option.getD_some]
    constructor
    · rintro whole ⟨field, member, method⟩
      have length := whole.length_eq
      rw [List.length_map, dataFields, List.length_filter_eq_length_iff] at length
      have absent := length field member
      rw [Option.isNone_iff_eq_none] at absent
      rw [absent] at method
      cases method
    · intro none
      have same : gen.dataFields fields = fields := by
        refine List.filter_eq_self.mpr fun field member => ?_
        by_contra method
        exact none ⟨field, member, by simpa [Option.isSome_iff_ne_none] using method⟩
      rw [same]
      exact entriesOf_map_entryAt _
  · cases object

end Entries

/-- Without rules, the object validators of a schema stem from the object types that stay in it and
from transforms of object types, field by field.  Their entries are those of the fields, in order.
An object type leaves its methods out; a transform does not. -/
theorem objects_stem (graph : ShapeGraph) (options : GenerateOptions) {id : ShapeId}
    {d : Declaration} (found : graph.declaration? id = some d) :
    ∃ schema stats, (new graph .empty options).generate id = .ok (schema, stats) ∧
      (∀ entries ∈ schema.objects, ∃ opened place shape,
        (new graph .empty options).Shown d id opened place shape ∧
        (new graph .empty options).objectAt? ((new graph .empty options).visit opened) place shape
          = some entries) ∧
      ∀ opened place shape fields, (new graph .empty options).Shown d id opened place shape →
        (new graph .empty options).objectType? shape = some fields →
        ∃ entries ∈ schema.objects,
          (new graph .empty options).objectAt? ((new graph .empty options).visit opened) place shape
            = some entries ∧
          EntriesOf ((new graph .empty options).entryFields shape) entries ∧
          (EntriesOf ((new graph .empty options).dataFields fields) entries ↔
            ¬ (new graph .empty options).Leaks shape) := by
  refine ⟨_, _, generate_eq_ok found, fun entries member => ?_, fun opened place shape fields shown
    object => ?_⟩
  · exact (mem_objects_schemaOf_iff rfl).mp member
  · have own : (new graph .empty options).objectAt? ((new graph .empty options).visit opened) place
        shape = some (((new graph .empty options).entryFields shape).map
          ((new graph .empty options).entryAt ((new graph .empty options).visit opened) place
            shape)) := by
      rw [objectAt?, object, Option.map_some]
    exact ⟨_, (mem_objects_schemaOf_iff rfl).mpr ⟨opened, place, shape, shown, own⟩, own,
      entriesOf_map_entryAt _, entriesOf_dataFields_iff object⟩

/-- A document with a method, and a draft of it with fields that may be null. -/
def archive : ShapeGraph where
  shapes := .ofList [
    (⟨1⟩, .object [⟨"save", ⟨2⟩, false, false⟩, ⟨"title", ⟨3⟩, true, false⟩]),
    (⟨2⟩, .function .method [⟨"where", ⟨4⟩, false⟩] ⟨5⟩),
    (⟨3⟩, .primitive .string),
    (⟨4⟩, .object [⟨"path", ⟨3⟩, false, false⟩]),
    (⟨5⟩, .primitive .boolean),
    (⟨6⟩, .mapped ⟨1⟩ (.perKey "Loose" .nullable))]
  declarations := .ofList [
    (⟨1⟩, ⟨⟨1⟩, "Doc", "archive.ts", .classType, true⟩),
    (⟨6⟩, ⟨⟨6⟩, "Draft", "archive.ts", .typeAlias, true⟩)]

theorem objects_stem_archive :
    archive.declaration? ⟨1⟩ = some ⟨⟨1⟩, "Doc", "archive.ts", .classType, true⟩ ∧
      ∃ schema stats, (new archive .empty {}).generate ⟨1⟩ = .ok (schema, stats) ∧
        (∀ entries ∈ schema.objects, ∃ opened place shape,
          (new archive .empty {}).Shown ⟨⟨1⟩, "Doc", "archive.ts", .classType, true⟩ ⟨1⟩
            opened place shape ∧
          (new archive .empty {}).objectAt? ((new archive .empty {}).visit opened) place shape
            = some entries) ∧
        ∀ opened place shape fields,
          (new archive .empty {}).Shown ⟨⟨1⟩, "Doc", "archive.ts", .classType, true⟩ ⟨1⟩
            opened place shape →
          (new archive .empty {}).objectType? shape = some fields →
          ∃ entries ∈ schema.objects,
            (new archive .empty {}).objectAt? ((new archive .empty {}).visit opened) place shape
              = some entries ∧
            EntriesOf ((new archive .empty {}).entryFields shape) entries ∧
            (EntriesOf ((new archive .empty {}).dataFields fields) entries ↔
              ¬ (new archive .empty {}).Leaks shape) :=
  ⟨rfl, objects_stem archive {} rfl⟩

/-- The draft has an entry for the method of the document. -/
theorem objects_leak :
    (∃ schema stats, (new archive .empty {}).generate ⟨1⟩ = .ok (schema, stats) ∧
      schema.objects.map (·.map Prod.fst) = [["title"], ["path"]]) ∧
    ∃ schema stats, (new archive .empty {}).generate ⟨6⟩ = .ok (schema, stats) ∧
      schema.objects.map (·.map Prod.fst) = [["save", "title"], ["path"]] :=
  ⟨⟨_, _, rfl, by decide +kernel⟩, _, _, rfl, by decide +kernel⟩

end Generator

end Schemata
