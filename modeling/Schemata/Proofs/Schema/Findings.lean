import Schemata.Proofs.Rules.Explain
import Schemata.Proofs.Schema.Locality

/-!
# What a walk notes

The findings of a walk are those that are noted at the shapes it meets, and on the way from one to
the next.  Which shapes are met, and at which places, does not depend on what is noted.

## Main definitions

* `Generator.asked` : the ids that the validator of a shape is made from, with their places.
* `Generator.noted` : what is noted at a shape itself.
* `Generator.Meets` : the shapes that the walk of a declaration comes to.
* `Generator.entryFields` : the fields of a shape that have an entry in its validator.

## Main results

* `Generator.mem_findings_visitShape_iff` : the findings of one shape.
* `Generator.mem_findings_visitDeclaration_iff` : the findings of a whole walk.
* `Generator.fieldSources_explained` : the sources of fields are those that explanations name.
-/

namespace Schemata

theorem Finding.fieldSource?_eq_some_iff {finding : Finding} {source : FieldSource} :
    finding.fieldSource? = some source ↔ finding = .field source := by
  cases finding <;> simp [fieldSource?]

theorem Finding.diagnostic?_eq_some_iff {finding : Finding} {diagnostic : Diagnostic} :
    finding.diagnostic? = some diagnostic ↔ finding = .fallback diagnostic := by
  cases finding <;> simp [diagnostic?]

namespace Traced

variable {α β : Type} {finding : Finding}

@[simp] theorem mem_findings_pure (a : α) : finding ∈ (Pure.pure a : Traced α).findings ↔ False :=
  iff_of_false List.not_mem_nil id

@[simp] theorem mem_findings_bind (t : Traced α) (f : α → Traced β) :
    finding ∈ (t >>= f).findings ↔ finding ∈ t.findings ∨ finding ∈ (f t.value).findings :=
  List.mem_append

@[simp] theorem mem_findings_note (other : Finding) :
    finding ∈ (note other).findings ↔ finding = other :=
  List.mem_singleton

@[simp] theorem mem_findings_forEach (f : α → Traced β) (items : List α) :
    finding ∈ (forEach f items).findings ↔ ∃ a ∈ items, finding ∈ (f a).findings := by
  induction items with
  | nil => exact (mem_findings_pure _).trans (by simp)
  | cons a rest ih => simp [forEach, ih]

end Traced

namespace Generator

variable (gen : Generator)

/-! ### One shape -/

/-- The members that the validator of a union is made from. -/
def alternatives (members : List ShapeId) : List ShapeId :=
  let rest := members.filter fun id => !(gen.isNull id || gen.isUndefined id)
  if rest.isEmpty then members else rest

/-- The ids that the entry of a field is made from: its type, or the types in its signature. -/
def fieldTypes (field : Field) : List ShapeId :=
  match gen.method? field.type with
  | some (_, params, returns) => params.map Param.type ++ [returns]
  | none => [field.type]

/-- The ids that the validator of a shape is made from, with their places. -/
def asked (place : Place) : Shape → List (Place × ShapeId)
  | .object fields => fields.flatMap fun field =>
    (gen.fieldTypes field).map (place.inField field.name, ·)
  | .union members => (gen.alternatives members).map (place, ·)
  | .generic params body => [(place.withParams params, body)]
  | .mapped source (.perKey name value) =>
    ((gen.objectFields? source).getD []).flatMap fun field =>
      (field.type :: (Transform.perKey name value).children).map (place.inField field.name, ·)
  | .reference target args =>
    if gen.graph.isDeclared target then args.map (place, ·) else [(place, target)]
  | shape => shape.children.map (place, ·)

/-- The report on a place without a validator of its own. -/
def report (place : Place) (error : GenerationError) : Finding :=
  .fallback ⟨.generation, if gen.options.strict then .error else .warning, error.message,
    some place.location⟩

/-- The source of the validator of a field, at the place inside the field. -/
def fieldSource (place : Place) (name : String) : FieldSource :=
  ⟨place.fieldPath, (gen.rules.explain name (some place.declaration.name)).winner.toText⟩

section Shape

variable (visit : Place → ShapeId → Traced Validator) (inProgress : ShapeId → Bool)

/-- What is noted for a field of an object type. -/
def notedField (place : Place) (field : Field) : Finding :=
  let place := place.inField field.name
  match gen.method? field.type with
  | some (kind, params, returns) => .member ⟨place.fieldPath, kind,
    .ofKind (.tuple (visitParams visit place params).value), (visit place returns).value⟩
  | none => .field (gen.fieldSource place field.name)

/-- What is noted at a shape itself. -/
def noted (place : Place) : Shape → List Finding
  | .object fields => fields.map (gen.notedField visit place)
  | .mapped source (.perKey name _) =>
    match gen.objectFields? source with
    | none => [gen.report place (.notAnObject name)]
    | some fields => fields.map fun field =>
      .field (gen.fieldSource (place.inField field.name) field.name)
  | .param name =>
    if place.params.contains name then [] else [gen.report place (.unboundParam name)]
  | .reference target _ =>
    if gen.graph.isDeclared target then
      [.reference target (inProgress target || gen.cycles.sameCycle place.declaration.id target)]
    else []
  | .unresolved name => [gen.report place (.unresolved name)]
  | .unsupported text => [gen.report place (.unsupported text)]
  | _ => []

variable {finding : Finding} {place : Place}

theorem mem_findings_fallback (error : GenerationError) :
    finding ∈ (gen.fallback place error).findings ↔ finding = gen.report place error := by
  simp [fallback, report]

theorem mem_findings_named (target : ShapeId) (declaration : Declaration) (args : List Validator) :
    finding ∈ (gen.named inProgress place target declaration args).findings ↔
      finding = .reference target
        (inProgress target || gen.cycles.sameCycle place.declaration.id target) := by
  simp [named]

theorem mem_findings_resolveField (name : String) (base : Validator) :
    finding ∈ (resolveField gen place name base).findings ↔
      finding = .field (gen.fieldSource place name) := by
  simp [resolveField, fieldSource, RuleSet.winner_explain]

theorem mem_findings_visitParams (params : List Param) :
    finding ∈ (visitParams visit place params).findings ↔
      ∃ id ∈ params.map Param.type, finding ∈ (visit place id).findings := by
  simp [visitParams]

theorem mem_findings_visitEntry (adapt : Validator → Traced Validator) (field : Field) :
    finding ∈ (visitEntry gen visit place adapt field).findings ↔
      finding ∈ (visit place field.type).findings ∨
      finding ∈ (adapt (visit place field.type).value).findings ∨
      finding = .field (gen.fieldSource place field.name) := by
  simp [visitEntry, mem_findings_resolveField]

theorem mem_findings_adaptKey (name : String) (value : PerKey) (base : Validator) :
    finding ∈ (adaptKey visit place value base).findings ↔
      ∃ id ∈ (Transform.perKey name value).children, finding ∈ (visit place id).findings := by
  cases value <;> simp [adaptKey, Transform.children]

theorem mem_findings_visitField (field : Field) :
    finding ∈ (visitField gen visit place field).findings ↔
      (∃ id ∈ gen.fieldTypes field,
        finding ∈ (visit (place.inField field.name) id).findings) ∨
      finding = gen.notedField visit place field := by
  unfold visitField fieldTypes notedField
  cases gen.method? field.type with
  | none => simp [mem_findings_visitEntry]
  | some signature =>
    obtain ⟨kind, params, returns⟩ := signature
    simp [mem_findings_visitParams, or_and_right, exists_or, or_assoc]

theorem mem_findings_visitUnion (members : List ShapeId) :
    finding ∈ (visitUnion gen visit place members).findings ↔
      ∃ id ∈ gen.alternatives members, finding ∈ (visit place id).findings := by
  unfold visitUnion alternatives
  dsimp only
  split <;> simp

theorem mem_findings_visitPerKey (source : ShapeId) (name : String) (value : PerKey) :
    finding ∈ (visitPerKey gen visit place source name value).findings ↔
      (∃ place' next, (place', next) ∈ gen.asked place (.mapped source (.perKey name value)) ∧
        finding ∈ (visit place' next).findings) ∨
      finding ∈ gen.noted visit inProgress place (.mapped source (.perKey name value)) := by
  simp only [visitPerKey, asked, noted]
  cases gen.objectFields? source with
  | none => simp [mem_findings_fallback]
  | some fields =>
    simp only [Traced.mem_findings_bind, Traced.mem_findings_forEach, mem_findings_visitEntry,
      mem_findings_adaptKey visit name, Traced.mem_findings_pure, Option.getD_some]
    -- Both sides go through the fields: the one field by field, the other finding by finding.
    grind

/-- The findings of a shape are those of the ids that its validator is made from, and its own. -/
theorem mem_findings_visitShape_iff (shape : Shape) :
    finding ∈ (visitShape gen visit inProgress place shape).findings ↔
      (∃ place' next, (place', next) ∈ gen.asked place shape ∧
        finding ∈ (visit place' next).findings) ∨
      finding ∈ gen.noted visit inProgress place shape := by
  cases shape with
  | object fields =>
    simp only [visitShape, visitObject, asked, noted, Traced.mem_findings_bind,
      Traced.mem_findings_forEach, mem_findings_visitField, Traced.mem_findings_pure]
    grind
  | union members => simp [visitShape, asked, noted, mem_findings_visitUnion]
  | generic params body => simp [visitShape, asked, noted]
  | param name =>
    by_cases bound : name ∈ place.params <;>
      simp [visitShape, asked, noted, bound, mem_findings_fallback, Shape.children]
  | mapped source transform =>
    cases transform with
    | perKey name value => exact mem_findings_visitPerKey gen visit inProgress source name value
    | _ =>
      simp [visitShape, visitMapped, asked, noted, Shape.children, Transform.children,
        or_and_right, exists_or]
  | reference target args =>
    simp only [visitShape, reference, asked, noted, ShapeGraph.isDeclared_eq_isSome]
    cases gen.graph.declaration? target with
    | none => simp
    | some declaration => simp [mem_findings_named]
  | function kind params returns =>
    simp [visitShape, asked, noted, Shape.children, mem_findings_visitParams, or_and_right,
      exists_or]
  | _ => simp [visitShape, asked, noted, Shape.children, mem_findings_fallback]

end Shape

/-! ### A whole walk -/

/-- What is noted when a walk enters a declaration. -/
def entrance (d : Declaration) (root : ShapeId) : Finding :=
  match gen.graph.shape? root with
  | none => gen.report (Place.top d) (.missingShape root)
  | some _ => .visited root

/-- What is noted when a walk, with some shapes open, comes to an id. -/
def arrival (opened : List ShapeId) (place : Place) (id : ShapeId) : Finding :=
  match gen.graph.declaration? id, gen.graph.shape? id with
  | some _, _ =>
    .reference id (opened.contains id || gen.cycles.sameCycle place.declaration.id id)
  | none, none => gen.report place (.missingShape id)
  | none, some _ =>
    if id ∈ opened then gen.report place (.anonymousRecursion id) else .visited id

/-- The walk of a declaration comes to a shape at a place, where some ids are open. -/
inductive Meets (d : Declaration) (root : ShapeId) : List ShapeId → Place → Shape → Prop
  | top {shape : Shape} (found : gen.graph.shape? root = some shape) :
    Meets d root [d.id] (Place.top d) shape
  | inner {opened : List ShapeId} {place place' : Place} {shape shape' : Shape} {next : ShapeId}
      (before : Meets d root opened place shape) (listed : (place', next) ∈ gen.asked place shape)
      (anonymous : gen.graph.declaration? next = none)
      (found : gen.graph.shape? next = some shape') (fresh : next ∉ opened) :
    Meets d root (next :: opened) place' shape'

variable {gen} {d : Declaration} {root : ShapeId} {opened : List ShapeId} {place : Place}
  {shape : Shape} {finding : Finding}

theorem mem_findings_visit_iff (id : ShapeId) :
    finding ∈ (gen.visit opened place id).findings ↔
      finding = gen.arrival opened place id ∨
      gen.graph.declaration? id = none ∧ id ∉ opened ∧
        ∃ shape, gen.graph.shape? id = some shape ∧
          finding ∈ (visitShape gen (gen.visit (id :: opened)) ((id :: opened).contains ·) place
            shape).findings := by
  cases declared : gen.graph.declaration? id with
  | some declaration =>
    rw [visit, declared]
    simp [mem_findings_named, arrival, declared]
  | none =>
    cases found : gen.graph.shape? id with
    | none =>
      rw [visit_of_missing declared found]
      simp [mem_findings_fallback, arrival, declared, found]
    | some shape =>
      rw [visit_of_anonymous declared found]
      by_cases old : id ∈ opened <;> simp [old, mem_findings_fallback, arrival, declared, found]

/-- What is noted at a shape that the walk meets is noted in the walk. -/
theorem Meets.mem_findings (met : gen.Meets d root opened place shape)
    (h : finding ∈ (visitShape gen (gen.visit opened) (opened.contains ·) place shape).findings) :
    finding ∈ (gen.visitDeclaration root d).findings := by
  induction met with
  | top found =>
    rw [visitDeclaration, found]
    exact List.mem_cons_of_mem _ h
  | inner before listed anonymous found fresh ih =>
    refine ih ((mem_findings_visitShape_iff ..).mpr (.inl ⟨_, _, listed, ?_⟩))
    exact (mem_findings_visit_iff _).mpr (.inr ⟨anonymous, fresh, _, found, h⟩)

/-- What is noted from a shape on is noted at one of the shapes that the walk meets, or on the way
to the next. -/
theorem Meets.exists_noted (met : gen.Meets d root opened place shape)
    (h : finding ∈ (visitShape gen (gen.visit opened) (opened.contains ·) place shape).findings) :
    ∃ opened' place' shape', gen.Meets d root opened' place' shape' ∧
      (finding ∈ gen.noted (gen.visit opened') (opened'.contains ·) place' shape' ∨
        ∃ inside next, (inside, next) ∈ gen.asked place' shape' ∧
          finding = gen.arrival opened' inside next) := by
  -- Each step of the walk opens one more shape.
  induction size : gen.unopened opened using Nat.strongRecOn generalizing opened place shape with
  | ind size ih =>
    subst size
    rcases (mem_findings_visitShape_iff ..).mp h with ⟨inside, next, listed, inner⟩ | own
    · rcases (mem_findings_visit_iff _).mp inner with rfl | ⟨anonymous, fresh, shape', found, inner⟩
      · exact ⟨opened, place, shape, met, .inr ⟨inside, next, listed, rfl⟩⟩
      · exact ih _ (unopened_cons_lt found fresh) (met.inner listed anonymous found fresh) inner rfl
    · exact ⟨opened, place, shape, met, .inl own⟩

/-- The findings of the walk of a declaration are those at the shapes that it meets, and those on
the way to them. -/
theorem mem_findings_visitDeclaration_iff :
    finding ∈ (gen.visitDeclaration root d).findings ↔
      finding = gen.entrance d root ∨
      ∃ opened place shape, gen.Meets d root opened place shape ∧
        (finding ∈ gen.noted (gen.visit opened) (opened.contains ·) place shape ∨
          ∃ inside next, (inside, next) ∈ gen.asked place shape ∧
            finding = gen.arrival opened inside next) := by
  constructor
  · intro h
    cases found : gen.graph.shape? root with
    | none =>
      rw [visitDeclaration, found, mem_findings_fallback] at h
      exact .inl (by rw [h, entrance, found])
    | some shape =>
      rw [visitDeclaration, found] at h
      rcases List.mem_cons.mp h with rfl | inner
      · exact .inl (by rw [entrance, found])
      · exact .inr ((Meets.top found).exists_noted inner)
  · rintro (rfl | ⟨opened, place, shape, met, own | ⟨inside, next, listed, rfl⟩⟩)
    · unfold entrance visitDeclaration
      cases gen.graph.shape? root with
      | none => exact (mem_findings_fallback gen _).mpr rfl
      | some shape => exact List.mem_cons_self
    · exact met.mem_findings ((mem_findings_visitShape_iff ..).mpr (.inr own))
    · refine met.mem_findings ((mem_findings_visitShape_iff ..).mpr (.inl ⟨_, _, listed, ?_⟩))
      exact (mem_findings_visit_iff next).mpr (.inl rfl)

/-- The places of a walk are inside its declaration. -/
theorem declaration_of_mem_asked {inside : Place} {next : ShapeId}
    (h : (inside, next) ∈ gen.asked place shape) : inside.declaration = place.declaration := by
  unfold asked at h
  split at h <;> grind [Place.inField, Place.withParams]

theorem Meets.declaration_eq (met : gen.Meets d root opened place shape) :
    place.declaration = d := by
  induction met with
  | top => rfl
  | inner before listed _ _ _ ih => rw [declaration_of_mem_asked listed, ih]

/-! ### The sources of fields -/

/-- The fields of a shape that have an entry in its validator. -/
def entryFields (gen : Generator) : Shape → List Field
  | .object fields => fields.filter fun field => (gen.method? field.type).isNone
  | .mapped source (.perKey _ _) => (gen.objectFields? source).getD []
  | _ => []

theorem field_mem_noted_iff (visit : Place → ShapeId → Traced Validator)
    (inProgress : ShapeId → Bool) {source : FieldSource} :
    .field source ∈ gen.noted visit inProgress place shape ↔
      ∃ field ∈ gen.entryFields shape,
        source = gen.fieldSource (place.inField field.name) field.name := by
  cases shape with
  | object fields =>
    have own (field : Field) : gen.notedField visit place field = .field source ↔
        gen.method? field.type = none ∧
          source = gen.fieldSource (place.inField field.name) field.name := by
      unfold notedField
      cases gen.method? field.type <;> simp [eq_comm]
    simp [noted, entryFields, own, and_assoc]
  | mapped object transform =>
    cases transform with
    | perKey name value =>
      simp only [noted, entryFields]
      cases gen.objectFields? object with
      | none => simp [report]
      | some fields => simp [eq_comm]
    | _ => simp [noted, entryFields]
  | param name => simp only [noted, entryFields]; split <;> simp [report]
  | reference target args => simp only [noted, entryFields]; split <;> simp
  | _ => simp [noted, entryFields, report]

theorem field_ne_entrance (source : FieldSource) : .field source ≠ gen.entrance d root := by
  unfold entrance
  split <;> simp [report]

theorem field_ne_arrival (source : FieldSource) (id : ShapeId) :
    .field source ≠ gen.arrival opened place id := by
  unfold arrival
  repeat' split
  all_goals simp [report]

/-- The fields with a source are those with an entry, in the shapes that the walk meets. -/
theorem field_mem_findings_iff {source : FieldSource} :
    .field source ∈ (gen.visitDeclaration root d).findings ↔
      ∃ opened place shape, gen.Meets d root opened place shape ∧
        ∃ field ∈ gen.entryFields shape,
          source = gen.fieldSource (place.inField field.name) field.name := by
  simp [mem_findings_visitDeclaration_iff, field_ne_entrance, field_ne_arrival,
    field_mem_noted_iff]

theorem mem_fieldSources_iff {id : ShapeId} {source : FieldSource} (traced : Traced Validator) :
    source ∈ (gen.schemaOf id d traced).fieldSources ↔ .field source ∈ traced.findings := by
  simp [schemaOf, Finding.fieldSource?_eq_some_iff]

theorem mem_diagnostics_iff {id : ShapeId} {diagnostic : Diagnostic} (traced : Traced Validator) :
    diagnostic ∈ (gen.schemaOf id d traced).diagnostics ↔
      .fallback diagnostic ∈ traced.findings := by
  simp [schemaOf, Finding.diagnostic?_eq_some_iff]

/-- The source that a schema records for a field is the winner that an explanation names, for the
field in the context of its declaration, and explanations tell what resolution does. -/
theorem fieldSources_explained (graph : ShapeGraph) (rules : RuleSet) (options : GenerateOptions)
    {id : ShapeId} {d : Declaration} (found : graph.declaration? id = some d) :
    (∃ schema stats, (new graph rules options).generate id = .ok (schema, stats) ∧
      ∀ source, source ∈ schema.fieldSources ↔
        ∃ opened place shape, (new graph rules options).Meets d id opened place shape ∧
          ∃ field ∈ (new graph rules options).entryFields shape,
            source = ⟨(place.inField field.name).fieldPath,
              (rules.explain field.name (some d.name)).winner.toText⟩) ∧
    ∀ field context, (rules.explain field context).Tells rules field context := by
  refine ⟨⟨_, _, generate_eq_ok found, fun source => ?_⟩, rules.tells_explain⟩
  rw [mem_fieldSources_iff, field_mem_findings_iff]
  refine exists_congr fun opened => exists_congr fun place => exists_congr fun shape =>
    and_congr_right fun met => ?_
  -- Every place of the walk is inside the declaration, so its name is the context.
  simp only [fieldSource, ← met.declaration_eq, new]
  rfl

/-- Rules of all tiers for the field that closes a ring. -/
def ringRules : RuleTable where
  fields := [
    ⟨"^n", true, ⟨"z.unknown()", none⟩⟩,
    ⟨"next", false, ⟨"\x7bbase\x7d.brand()", some "no ring"⟩⟩]
  contexts := [
    ⟨"^May", true, [("next", ⟨"z.never()", none⟩)]⟩,
    ⟨"Maybe", false, [("gone", ⟨"z.any()", none⟩)]⟩]

theorem fieldSources_explained_ring :
    ring.declaration? ⟨3⟩ = some ⟨⟨3⟩, "Maybe", "ring.ts", .typeAlias, false⟩ ∧
      (∃ schema stats,
        (new ring (.ofTable ringRules) {}).generate ⟨3⟩ = .ok (schema, stats) ∧
        ∀ source, source ∈ schema.fieldSources ↔
          ∃ opened place shape,
            (new ring (.ofTable ringRules) {}).Meets
              ⟨⟨3⟩, "Maybe", "ring.ts", .typeAlias, false⟩ ⟨3⟩ opened place shape ∧
            ∃ field ∈ (new ring (.ofTable ringRules) {}).entryFields shape,
              source = ⟨(place.inField field.name).fieldPath,
                ((RuleSet.ofTable ringRules).explain field.name (some "Maybe")).winner.toText⟩) ∧
      ∀ field context, ((RuleSet.ofTable ringRules).explain field context).Tells
        (.ofTable ringRules) field context :=
  ⟨rfl, fieldSources_explained ring (.ofTable ringRules) {} rfl⟩

end Generator

end Schemata
