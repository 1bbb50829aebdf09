import Schemata.Proofs.Schema.Locality
import Schemata.Proofs.Validator.Parts

/-!
# Properties that generation builds up

Validators are put together step by step: a shape's validator from those of its children, changed by
modifiers and rules.  A property that each of these steps keeps holds of all that is generated for a
declaration, its validator and the signatures of its members alike.  The property may depend on the
place, because type parameters are in scope only inside their generic type.

## Main definitions

* `Traced.Sat` : a value has a property, and so have the findings on the way to it.
* `Generator.Looks` : the validator of one id is made from another.
* `Generator.Compositional` : a property of validators that the steps of generation keep.

## Main results

* `Generator.Compositional.visitShape_sat` : one shape.
* `Generator.Compositional.visit_sat` : a whole walk.
* `Generator.Compositional.validators` : all validators of a schema.
* `Generator.Compositional.dependencies` : where its dependencies are found.
* `Generator.compositional_everywhere` : properties of single parts.
-/

namespace Schemata

/-! ### Values with findings -/

namespace Traced

variable {α β : Type}

/-- The targets of all references on the way to the value are recorded. -/
def Records (t : Traced α) (recorded : ShapeId → Prop) : Prop :=
  ∀ finding ∈ t.findings, ∀ target, finding.target? = some target → recorded target

/-- If the targets of all references on the way are recorded, the value has a property, and so have
all findings on the way to it. -/
structure Sat (t : Traced α) (recorded : ShapeId → Prop) (post : α → Prop)
    (noted : Finding → Prop) : Prop where
  value : t.Records recorded → post t.value
  findings : t.Records recorded → ∀ finding ∈ t.findings, noted finding

variable {recorded : ShapeId → Prop} {noted : Finding → Prop} {mid : α → Prop} {post : β → Prop}

theorem sat_pure {b : β} (h : post b) : (Pure.pure b : Traced β).Sat recorded post noted :=
  ⟨fun _ => h, fun _ _ member => absurd member List.not_mem_nil⟩

theorem Sat.bind {t : Traced α} {f : α → Traced β} (ht : t.Sat recorded mid noted)
    (hf : ∀ a, mid a → (f a).Sat recorded post noted) : (t >>= f).Sat recorded post noted := by
  have first (records : (t >>= f).Records recorded) : t.Records recorded :=
    fun finding member => records finding (List.mem_append_left _ member)
  have later (records : (t >>= f).Records recorded) : (f t.value).Records recorded :=
    fun finding member => records finding (List.mem_append_right _ member)
  refine ⟨fun records => (hf _ (ht.value (first records))).value (later records), ?_⟩
  intro records finding member
  rcases List.mem_append.mp member with member | member
  · exact ht.findings (first records) finding member
  · exact (hf _ (ht.value (first records))).findings (later records) finding member

theorem sat_note {finding : Finding} (h : noted finding) :
    (note finding).Sat recorded (fun _ => True) noted :=
  ⟨fun _ => trivial, fun _ _ member => List.mem_singleton.mp member ▸ h⟩

theorem sat_forEach {f : α → Traced β} {items : List α}
    (h : ∀ a ∈ items, (f a).Sat recorded post noted) :
    (forEach f items).Sat recorded (fun bs => ∀ b ∈ bs, post b) noted := by
  induction items with
  | nil => exact sat_pure fun _ member => absurd member List.not_mem_nil
  | cons a rest ih =>
    refine (h a List.mem_cons_self).bind fun b hb => ?_
    refine (ih fun other member => h other (List.mem_cons_of_mem _ member)).bind fun bs hbs => ?_
    refine sat_pure fun other member => ?_
    rcases List.mem_cons.mp member with rfl | member
    · exact hb
    · exact hbs other member

end Traced

open Traced

/-- Kinds that have a property as soon as the validators in them have it. -/
def ValidatorKind.IsPlain : ValidatorKind → Prop
  | .ref _ _ | .deferred _ _ | .generic _ _ | .param _ => False
  | _ => True

/-- The place inside a shape: a generic type brings its parameters into scope. -/
def Place.enter (place : Place) : Shape → Place
  | .generic params _ => place.withParams params
  | _ => place

namespace Generator

/-! ### What a walk looks at -/

/-- The types of the fields that a per-key transform takes from an object type. -/
def inlined (gen : Generator) : Shape → List ShapeId
  | .mapped source (.perKey _ _) => ((gen.objectFields? source).getD []).map Field.type
  | _ => []

/-- The ids that the validator of a shape is made from. -/
def lookedAt (gen : Generator) (shape : Shape) : List ShapeId :=
  shape.children ++ gen.inlined shape

theorem exists_fields_of_mem_inlined {gen : Generator} {shape : Shape} {id : ShapeId}
    (h : id ∈ gen.inlined shape) :
    ∃ source ∈ shape.children, ∃ fields, gen.objectFields? source = some fields ∧
      ∃ field ∈ fields, field.type = id := by
  unfold inlined at h
  split at h
  · rename_i source name value
    obtain ⟨field, listed, rfl⟩ := List.mem_map.mp h
    cases found : gen.objectFields? source with
    | none => simp [found] at listed
    | some fields =>
      rw [found] at listed
      exact ⟨source, List.mem_cons_self, fields, found, field, listed, rfl⟩
  · cases h

/-- The shape of `a` is made from `b`. -/
def Looks (gen : Generator) (a b : ShapeId) : Prop :=
  ∃ shape, gen.graph.shape? a = some shape ∧ b ∈ gen.lookedAt shape

/-- Whatever a walk looks at, the children of shapes lead to. -/
theorem Looks.path {gen : Generator} {a b : ShapeId} (looks : gen.Looks a b) :
    Relation.ReflTransGen gen.graph.Child a b := by
  obtain ⟨shape, found, member⟩ := looks
  rcases List.mem_append.mp member with child | inlined
  · exact .single ⟨_, found, child⟩
  · obtain ⟨source, child, fields, taken, field, listed, rfl⟩ :=
      exists_fields_of_mem_inlined inlined
    exact .head ⟨_, found, child⟩ (gen.path_of_objectFields? taken listed)

/-! ### Properties that the steps keep -/

/-- A property of validators at places that the steps of generating the declaration `d` keep, as
long as they stay inside a set of ids, which may depend on the place, and the targets of references
are recorded. -/
structure Compositional (gen : Generator) (d : Declaration) (inside : Place → ShapeId → Prop)
    (recorded : ShapeId → Prop) (holds : Place → Validator → Prop) : Prop where
  /-- The walk goes through anonymous shapes only, and stays inside. -/
  closed : ∀ place a shape b, inside place a → gen.graph.declaration? a = none →
    gen.graph.shape? a = some shape → b ∈ gen.lookedAt shape →
    inside (place.enter shape) b
  insideField : ∀ place name id, inside (place.inField name) id ↔ inside place id
  plain : ∀ place kind, kind.IsPlain → (∀ v ∈ kind.children, holds place v) →
    holds place (.ofKind kind)
  generic : ∀ place params body, holds (place.withParams params) body →
    holds place (.ofKind (.generic params body))
  param : ∀ place name, name ∈ place.params → holds place (.ofKind (.param name))
  /-- A reference by name is deferred if its target is `d` or on a cycle with it. -/
  named : ∀ inProgress place target declaration args, place.declaration = d →
    gen.graph.declaration? target = some declaration → inside place target → recorded target →
    (inProgress target ↔ target = d.id) → (∀ v ∈ args, holds place v) →
    holds place (gen.named inProgress place target declaration args).value
  modify : ∀ place v modifier, holds place v → holds place (v.modify modifier)
  inField : ∀ place name v, holds (place.inField name) v ↔ holds place v

/-- A signature is that of a method inside, and its validators have the property at the place of the
method. -/
structure SignatureKeeps (gen : Generator) (d : Declaration) (inside : Place → ShapeId → Prop)
    (holds : Place → Validator → Prop) (signature : MemberSignature) (place : Place)
    (method : ShapeId) : Prop where
  declaration : place.declaration = d
  inside : inside place method
  method : ∃ params returns, gen.method? method = some (signature.kind, params, returns)
  params : holds place signature.params
  returns : holds place signature.returns

/-- The signature that is noted for a member has the property, and the target that is noted for a
reference is a declaration inside. -/
structure Keeps (gen : Generator) (d : Declaration) (inside : Place → ShapeId → Prop)
    (holds : Place → Validator → Prop) (finding : Finding) : Prop where
  signature : ∀ signature, finding = .member signature →
    ∃ place method, SignatureKeeps gen d inside holds signature place method
  target : ∀ target, finding.target? = some target →
    (∃ place : Place, inside place target) ∧
      ∃ declaration, gen.graph.declaration? target = some declaration

theorem keeps_of_eq_none {gen : Generator} {d : Declaration} {inside : Place → ShapeId → Prop}
    {holds : Place → Validator → Prop} {finding : Finding} (noMember : finding.signature? = none)
    (noTarget : finding.target? = none) : Keeps gen d inside holds finding := by
  constructor
  · rintro signature rfl
    cases noMember
  · intro target found
    rw [noTarget] at found
    cases found

namespace Compositional

variable {gen : Generator} {d : Declaration} {inside : Place → ShapeId → Prop}
  {recorded : ShapeId → Prop} {holds : Place → Validator → Prop}
  (comp : Compositional gen d inside recorded holds)

include comp

/-! ### Steps without a walk -/

section Steps

variable (place : Place) {v : Validator}

theorem any : holds place .any :=
  comp.plain place _ trivial fun _ member => absurd member List.not_mem_nil

theorem optional (h : holds place v) : holds place v.optional := by
  unfold Validator.optional
  split
  · exact h
  · exact comp.modify place v _ h

theorem nullable (h : holds place v) : holds place v.nullable := by
  unfold Validator.nullable
  split
  · exact h
  · exact comp.modify place v _ h

theorem union {members : List Validator} (h : ∀ v ∈ members, holds place v) :
    holds place (.union members) := by
  unfold Validator.union
  split
  · exact h _ List.mem_cons_self
  · exact comp.plain place _ trivial h

theorem intersection {members : List Validator} (h : ∀ v ∈ members, holds place v) :
    holds place (.intersection members) := by
  unfold Validator.intersection
  split
  · exact h _ List.mem_cons_self
  · exact comp.plain place _ trivial h

theorem applyRule (rule : Rule) (h : holds place v) : holds place (RuleSet.applyRule rule v) := by
  have expression : holds place (.expression rule.expression v) := by
    unfold Validator.expression
    split
    · exact comp.plain place _ trivial fun w member => List.mem_singleton.mp member ▸ h
    · exact comp.plain place _ trivial fun _ member => absurd member List.not_mem_nil
  unfold RuleSet.applyRule
  split
  · exact comp.modify place _ _ expression
  · exact expression

theorem resolve (rules : RuleSet) (field : String) (context : Option String)
    (h : holds place v) : holds place (rules.resolve field v context).validator := by
  unfold RuleSet.resolve
  split
  · exact comp.applyRule place _ h
  · exact h

theorem refine (constraint : Constraint) (h : holds place v) :
    holds place (Generator.refine constraint v) := by
  have bounded : holds place (if constraint.min.isSome || constraint.max.isSome then
      v.modify (.bounds constraint.min constraint.max) else v) := by
    split
    · exact comp.modify place v _ h
    · exact h
  dsimp only [Generator.refine]
  cases constraint.pattern with
  | none => exact bounded
  | some pattern => exact comp.modify place _ _ bounded

theorem fallback_sat (error : GenerationError) :
    (gen.fallback place error).Sat recorded (holds place) (Keeps gen d inside holds) :=
  (sat_note (keeps_of_eq_none rfl rfl)).bind fun _ _ => sat_pure (comp.any place)

end Steps

/-! ### One shape -/

section Shape

variable {visit : Place → ShapeId → Traced Validator}
  (visits : ∀ place : Place, place.declaration = d → ∀ id, inside place id →
    (visit place id).Sat recorded (holds place) (Keeps gen d inside holds))
  {place : Place} (hplace : place.declaration = d)

include hplace

theorem named_sat {inProgress : ShapeId → Bool} {target : ShapeId} {declaration : Declaration}
    (found : gen.graph.declaration? target = some declaration) (ht : inside place target)
    (progress : inProgress target ↔ target = d.id) {args : List Validator}
    (hargs : ∀ v ∈ args, holds place v) :
    (gen.named inProgress place target declaration args).Sat recorded (holds place)
      (Keeps gen d inside holds) := by
  constructor
  · intro records
    have known : recorded target := records _ (List.mem_singleton.mpr rfl) target rfl
    exact comp.named inProgress place target declaration args hplace found ht known progress hargs
  · intro _ finding member
    obtain rfl := List.mem_singleton.mp member
    constructor
    · rintro signature ⟨⟩
    · rintro other ⟨⟩
      exact ⟨⟨place, ht⟩, declaration, found⟩

include visits

omit comp in
theorem forEach_visit_sat {ids : List ShapeId} (hids : ∀ id ∈ ids, inside place id) :
    (forEach (visit place) ids).Sat recorded (fun vs => ∀ v ∈ vs, holds place v)
      (Keeps gen d inside holds) :=
  sat_forEach fun id hid => visits place hplace id (hids id hid)

theorem reference_sat {inProgress : ShapeId → Bool} {target : ShapeId} {args : List ShapeId}
    (ht : inside place target) (hargs : ∀ id ∈ args, inside place id)
    (progress : gen.graph.isDeclared target → (inProgress target ↔ target = d.id)) :
    (reference gen visit inProgress place target args).Sat recorded (holds place)
      (Keeps gen d inside holds) := by
  unfold reference
  split
  · exact visits place hplace target ht
  · rename_i declaration found
    refine (forEach_visit_sat visits hplace hargs).bind fun vs hvs => ?_
    exact comp.named_sat hplace found ht
      (progress (gen.graph.isDeclared_of_declaration? found)) hvs

theorem visitParams_sat {params : List Param} (hparams : ∀ p ∈ params, inside place p.type) :
    (visitParams visit place params).Sat recorded (fun vs => ∀ v ∈ vs, holds place v)
      (Keeps gen d inside holds) := by
  refine sat_forEach fun p hp => (visits place hplace p.type (hparams p hp)).bind fun v hv => ?_
  refine sat_pure ?_
  split
  · exact comp.optional place hv
  · exact hv

theorem visitEntry_sat {adapt : Validator → Traced Validator}
    (hadapt : ∀ v, holds place v →
      (adapt v).Sat recorded (holds place) (Keeps gen d inside holds))
    {field : Field} (hf : inside place field.type) :
    (visitEntry gen visit place adapt field).Sat recorded (fun e => holds place e.2)
      (Keeps gen d inside holds) := by
  refine (visits place hplace field.type hf).bind fun base hbase => ?_
  refine (hadapt base hbase).bind fun adapted hadapted => ?_
  have resolved : (resolveField gen place field.name adapted).Sat recorded (holds place)
      (Keeps gen d inside holds) :=
    (sat_note (keeps_of_eq_none rfl rfl)).bind fun _ _ =>
      sat_pure (comp.resolve place gen.rules field.name _ hadapted)
  refine resolved.bind fun v hv => sat_pure ?_
  dsimp only
  split
  · exact comp.optional place hv
  · exact hv

theorem visitField_sat {field : Field} (hf : inside place field.type) :
    (visitField gen visit place field).Sat recorded
      (fun e => ∀ entry, e = some entry → holds place entry.2) (Keeps gen d inside holds) := by
  have hplace' : (place.inField field.name).declaration = d := hplace
  have hf' := (comp.insideField place field.name field.type).mpr hf
  unfold visitField
  dsimp only
  split
  · rename_i kind params returns found
    -- The parameters and the result of a method are children of the field's shape.
    have child := fun id hid => comp.closed _ field.type _ id hf'
      (gen.declaration?_of_method? found) (gen.shape?_of_method? found)
      (List.mem_append_left _ hid)
    refine (comp.visitParams_sat visits hplace'
      fun p hp => child p.type (mem_children_of_param hp)).bind fun vs hvs => ?_
    refine (visits _ hplace' returns (child returns mem_children_of_returns)).bind fun v hv => ?_
    refine (sat_note ?_).bind fun _ _ => sat_pure fun entry h => by cases h
    refine ⟨?_, fun target found => by cases found⟩
    rintro signature ⟨⟩
    exact ⟨_, field.type, hplace', hf', ⟨params, returns, found⟩, comp.plain _ _ trivial hvs, hv⟩
  · refine (comp.visitEntry_sat visits hplace' (fun v hv => sat_pure hv) hf').bind fun e he => ?_
    refine sat_pure ?_
    rintro entry ⟨⟩
    exact (comp.inField place field.name _).mp he

theorem visitObject_sat {fields : List Field} (hfields : ∀ f ∈ fields, inside place f.type) :
    (visitObject gen visit place fields).Sat recorded (holds place) (Keeps gen d inside holds) := by
  refine (sat_forEach fun f hf => comp.visitField_sat visits hplace (hfields f hf)).bind
    fun entries hentries => sat_pure ?_
  refine comp.plain place _ trivial fun v member => ?_
  obtain ⟨entry, listed, rfl⟩ := List.mem_map.mp member
  obtain ⟨e, listed, h⟩ := List.mem_filterMap.mp listed
  exact hentries e listed entry h

theorem visitUnion_sat {members : List ShapeId} (hmembers : ∀ id ∈ members, inside place id) :
    (visitUnion gen visit place members).Sat recorded (holds place) (Keeps gen d inside holds) := by
  unfold visitUnion
  dsimp only
  split
  · exact (forEach_visit_sat visits hplace hmembers).bind fun vs hvs =>
      sat_pure (comp.union place hvs)
  · refine (forEach_visit_sat visits hplace
      fun id hid => hmembers id (List.mem_of_mem_filter hid)).bind fun vs hvs => sat_pure ?_
    have members := comp.union place hvs
    split <;> split
    · exact comp.optional place (comp.nullable place members)
    · exact comp.optional place members
    · exact comp.nullable place members
    · exact members

theorem adaptKey_sat {value : PerKey} (hvalue : ∀ type, value = .replace type → inside place type)
    {base : Validator} (h : holds place base) :
    (adaptKey visit place value base).Sat recorded (holds place) (Keeps gen d inside holds) := by
  cases value with
  | optional => exact sat_pure (comp.optional place h)
  | nullable => exact sat_pure (comp.nullable place h)
  | array => exact sat_pure (comp.plain place _ trivial fun v hv => List.mem_singleton.mp hv ▸ h)
  | readonly => exact sat_pure (comp.modify place base _ h)
  | replace type => exact visits place hplace type (hvalue type rfl)

theorem visitPerKey_sat {source : ShapeId}
    (hfields : ∀ fields, gen.objectFields? source = some fields →
      ∀ f ∈ fields, inside place f.type)
    (name : String) {value : PerKey} (hvalue : ∀ type, value = .replace type → inside place type) :
    (visitPerKey gen visit place source name value).Sat recorded (holds place)
      (Keeps gen d inside holds) := by
  unfold visitPerKey
  split
  · exact comp.fallback_sat place _
  · rename_i fields found
    have entry : ∀ f ∈ fields, (visitEntry gen visit (place.inField f.name)
        (adaptKey visit (place.inField f.name) value) f).Sat recorded (fun e => holds place e.2)
        (Keeps gen d inside holds) := by
      intro f hf
      have hplace' : (place.inField f.name).declaration = d := hplace
      have within := comp.insideField place f.name
      have sat := comp.visitEntry_sat visits hplace'
        (fun v hv => comp.adaptKey_sat visits hplace'
          (fun type h => (within type).mpr (hvalue type h)) hv)
        ((within f.type).mpr (hfields fields found f hf))
      exact ⟨fun records => (comp.inField place f.name _).mp (sat.value records), sat.findings⟩
    refine (sat_forEach entry).bind fun entries hentries => sat_pure ?_
    refine comp.plain place _ trivial fun v member => ?_
    obtain ⟨e, listed, rfl⟩ := List.mem_map.mp member
    exact hentries e listed

theorem visitMapped_sat {source : ShapeId} {transform : Transform}
    (hlooked : ∀ id ∈ gen.lookedAt (.mapped source transform), inside place id) :
    (visitMapped gen visit place source transform).Sat recorded (holds place)
      (Keeps gen d inside holds) := by
  have ht : ∀ id ∈ transform.children, inside place id := fun id hid =>
    hlooked id (List.mem_append_left _ (List.mem_cons_of_mem _ hid))
  have hs := visits place hplace source
    (hlooked source (List.mem_append_left _ List.mem_cons_self))
  cases transform with
  | record value =>
    refine hs.bind fun key hkey => ?_
    refine (visits place hplace value (ht value List.mem_cons_self)).bind fun v hv => sat_pure ?_
    refine comp.plain place _ trivial fun w member => ?_
    rcases List.mem_pair.mp member with rfl | rfl
    · exact hkey
    · exact hv
  | perKey name value =>
    refine comp.visitPerKey_sat visits hplace (fun fields found f hf => ?_) name fun type h => ?_
    · refine hlooked f.type (List.mem_append_right _ ?_)
      rw [inlined, found]
      exact List.mem_map_of_mem hf
    · refine ht type ?_
      simp [h, Transform.children]
  | _ => exact hs.bind fun v hv => sat_pure (comp.modify place v _ hv)

theorem visitShape_sat {inProgress : ShapeId → Bool} {shape : Shape}
    (hlooked : ∀ id ∈ gen.lookedAt shape, inside (place.enter shape) id)
    (progress : ∀ id, gen.graph.isDeclared id → (inProgress id ↔ id = d.id)) :
    (visitShape gen visit inProgress place shape).Sat recorded (holds place)
      (Keeps gen d inside holds) := by
  have hchildren : ∀ id ∈ shape.children, inside (place.enter shape) id :=
    fun id hid => hlooked id (List.mem_append_left _ hid)
  cases shape with
  | primitive type =>
    exact sat_pure (comp.plain place _ trivial fun _ member => absurd member List.not_mem_nil)
  | literal value =>
    exact sat_pure (comp.plain place _ trivial fun _ member => absurd member List.not_mem_nil)
  | array element =>
    refine (visits place hplace element (hchildren _ List.mem_cons_self)).bind fun v hv => ?_
    exact sat_pure (comp.plain place _ trivial fun w hw => List.mem_singleton.mp hw ▸ hv)
  | tuple elements =>
    exact (forEach_visit_sat visits hplace hchildren).bind fun vs hvs =>
      sat_pure (comp.plain place _ trivial hvs)
  | object fields =>
    exact comp.visitObject_sat visits hplace fun f hf => hchildren _ (List.mem_map_of_mem hf)
  | union members => exact comp.visitUnion_sat visits hplace hchildren
  | intersection members =>
    exact (forEach_visit_sat visits hplace hchildren).bind fun vs hvs =>
      sat_pure (comp.intersection place hvs)
  | generic params body =>
    refine (visits (place.withParams params) hplace body
      (hchildren _ List.mem_cons_self)).bind fun v hv => ?_
    exact sat_pure (comp.generic place params v hv)
  | param name =>
    by_cases bound : place.params.contains name
    · simp only [visitShape, bound, if_true]
      exact sat_pure (comp.param place name (List.contains_iff_mem.mp bound))
    · simp only [visitShape, bound]
      exact comp.fallback_sat place _
  | mapped source transform => exact comp.visitMapped_sat visits hplace hlooked
  | reference target args =>
    exact comp.reference_sat visits hplace (hchildren _ List.mem_cons_self)
      (fun id hid => hchildren id (List.mem_cons_of_mem _ hid)) (progress target)
  | function kind params returns =>
    refine (comp.visitParams_sat visits hplace
      fun p hp => hchildren p.type (mem_children_of_param hp)).bind fun vs hvs => ?_
    refine (visits place hplace returns (hchildren _ mem_children_of_returns)).bind fun v hv => ?_
    refine sat_pure (comp.plain place _ trivial fun w member => ?_)
    rcases List.mem_append.mp member with param | result
    · exact hvs w param
    · exact List.mem_singleton.mp result ▸ hv
  | refined base constraint =>
    exact (visits place hplace base (hchildren _ List.mem_cons_self)).bind fun v hv =>
      sat_pure (comp.refine place constraint hv)
  | unresolved name => exact comp.fallback_sat place _
  | unsupported text => exact comp.fallback_sat place _

end Shape

/-! ### Whole walks -/

/-- While `d` is generated, `d` itself is open, and no other declaration is. -/
structure OpenFor (gen : Generator) (d : Declaration) (opened : List ShapeId) : Prop where
  own : d.id ∈ opened
  others : ∀ id ∈ opened, gen.graph.isDeclared id → id = d.id

omit comp in
theorem OpenFor.contains_iff {opened : List ShapeId} (ho : OpenFor gen d opened) {id : ShapeId}
    (declared : gen.graph.isDeclared id) : opened.contains id ↔ id = d.id := by
  rw [List.contains_iff_mem]
  exact ⟨fun member => ho.others id member declared, fun same => same ▸ ho.own⟩

omit comp in
theorem OpenFor.cons {opened : List ShapeId} (ho : OpenFor gen d opened) {id : ShapeId}
    (anonymous : gen.graph.declaration? id = none) : OpenFor gen d (id :: opened) := by
  refine ⟨List.mem_cons_of_mem _ ho.own, fun other member declared => ?_⟩
  rcases List.mem_cons.mp member with rfl | member
  · rw [ShapeGraph.isDeclared_eq_isSome, anonymous] at declared
    cases declared
  · exact ho.others other member declared

theorem visit_sat {opened : List ShapeId} (ho : OpenFor gen d opened) {place : Place}
    (hplace : place.declaration = d) {id : ShapeId} (hid : inside place id) :
    (gen.visit opened place id).Sat recorded (holds place) (Keeps gen d inside holds) := by
  fun_induction gen.visit opened place id with
  | case1 opened place id declaration found =>
    exact comp.named_sat hplace found hid
      (ho.contains_iff (gen.graph.isDeclared_of_declaration? found))
      fun _ member => absurd member List.not_mem_nil
  | case2 opened place id found missing => exact comp.fallback_sat place _
  | case3 opened place id found shape hshape old => exact comp.fallback_sat place _
  | case4 opened place id found shape hshape new ih =>
    have ho' := ho.cons found
    refine (sat_note (keeps_of_eq_none rfl rfl)).bind fun _ _ => ?_
    exact comp.visitShape_sat (fun place hplace next hnext => ih place next ho' hplace hnext) hplace
      (fun next hnext => comp.closed _ id shape next hid found hshape hnext)
      fun next declared => ho'.contains_iff declared

theorem visitDeclaration_sat {id : ShapeId}
    (start : ∀ shape, gen.graph.shape? id = some shape → ∀ next ∈ gen.lookedAt shape,
      inside ((Place.top d).enter shape) next) :
    (gen.visitDeclaration id d).Sat recorded (holds (Place.top d)) (Keeps gen d inside holds) := by
  have ho : OpenFor gen d [d.id] :=
    ⟨List.mem_cons_self, fun other member _ => List.mem_singleton.mp member⟩
  unfold visitDeclaration
  dsimp only
  split
  · exact comp.fallback_sat _ _
  · rename_i shape found
    refine (sat_note (keeps_of_eq_none rfl rfl)).bind fun _ _ => ?_
    exact comp.visitShape_sat (fun place hplace next hnext => comp.visit_sat ho hplace hnext) rfl
      (start shape found)
      fun next declared => ho.contains_iff declared

end Compositional

section Schema

variable {gen : Generator} {d : Declaration} {inside : Place → ShapeId → Prop} {id : ShapeId}
  {schema : Schema} {stats : GeneratorStats}

theorem mem_dependencies_iff (found : gen.graph.declaration? id = some d)
    (h : gen.generate id = .ok (schema, stats)) {target : ShapeId} :
    target ∈ schema.dependencies ↔
      ∃ finding ∈ (gen.visitDeclaration id d).findings, finding.target? = some target := by
  simp only [generate, found, Except.ok.injEq, Prod.mk.injEq] at h
  obtain ⟨rfl, -⟩ := h
  simp only [schemaOf, List.mem_eraseDups, List.mem_filterMap]

theorem records_dependencies (found : gen.graph.declaration? id = some d)
    (h : gen.generate id = .ok (schema, stats)) :
    (gen.visitDeclaration id d).Records (· ∈ schema.dependencies) :=
  fun finding member _ same => (mem_dependencies_iff found h).mpr ⟨finding, member, same⟩

section Results

variable {holds : Place → Validator → Prop}
  (comp : Compositional gen d inside (· ∈ schema.dependencies) holds)
  (start : ∀ shape, gen.graph.shape? id = some shape → ∀ next ∈ gen.lookedAt shape,
    inside ((Place.top d).enter shape) next)
  (found : gen.graph.declaration? id = some d) (h : gen.generate id = .ok (schema, stats))

include comp start found h

/-- The validator of a schema has a property that the steps of generation keep.  The steps may count
on the targets of references being dependencies. -/
theorem Compositional.validator : holds (Place.top d) schema.validator := by
  have value := (comp.visitDeclaration_sat start).value (records_dependencies found h)
  simp only [generate, found, Except.ok.injEq, Prod.mk.injEq] at h
  obtain ⟨rfl, -⟩ := h
  exact value

/-- The members of a schema are methods inside, and their validators have the property at the places
of the methods. -/
theorem Compositional.members {signature : MemberSignature} (member : signature ∈ schema.members) :
    ∃ place method, SignatureKeeps gen d inside holds signature place method := by
  have findings := (comp.visitDeclaration_sat start).findings (records_dependencies found h)
  simp only [generate, found, Except.ok.injEq, Prod.mk.injEq] at h
  obtain ⟨rfl, -⟩ := h
  obtain ⟨finding, noted, h⟩ := List.mem_filterMap.mp member
  have same : finding = .member signature := by
    cases finding with
    | member other => exact congrArg Finding.member (Option.some.inj h)
    | _ => cases h
  exact (findings finding noted).signature signature same

/-- All validators of a schema have the property, each at some place of the declaration. -/
theorem Compositional.validators {v : Validator} (hv : v ∈ schema.validators) :
    ∃ place : Place, place.declaration = d ∧ holds place v := by
  rcases List.mem_cons.mp hv with rfl | member
  · exact ⟨_, rfl, comp.validator start found h⟩
  · obtain ⟨signature, listed, member⟩ := List.mem_flatMap.mp member
    obtain ⟨place, method, keeps⟩ := comp.members start found h listed
    rcases List.mem_pair.mp member with rfl | rfl
    · exact ⟨place, keeps.declaration, keeps.params⟩
    · exact ⟨place, keeps.declaration, keeps.returns⟩

/-- The dependencies of a schema are declarations inside what the walk looks at. -/
theorem Compositional.dependencies {target : ShapeId} (member : target ∈ schema.dependencies) :
    (∃ place : Place, inside place target) ∧
      ∃ declaration, gen.graph.declaration? target = some declaration := by
  obtain ⟨finding, noted, same⟩ := (mem_dependencies_iff found h).mp member
  have sat := comp.visitDeclaration_sat start
  exact (sat.findings (records_dependencies found h) finding noted).target target same

end Results

end Schema

/-! ### Properties of single parts -/

theorem mem_fitArgs {gen : Generator} {target : ShapeId} {args : List Validator} {v : Validator}
    (h : v ∈ gen.fitArgs target args) : v ∈ args ∨ v = .any := by
  unfold fitArgs at h
  split at h
  · rcases List.mem_append.mp h with given | filled
    · exact Or.inl (List.mem_of_mem_take given)
    · exact Or.inr (List.eq_of_mem_replicate filled)
  · cases h

/-- A property of kinds holds everywhere in what is generated if all references by name have it and
all kinds that are no references. -/
theorem compositional_everywhere {gen : Generator} {d : Declaration}
    {inside recorded : ShapeId → Prop} {good : ValidatorKind → Prop}
    (closed : ∀ a b, inside a → gen.graph.declaration? a = none → gen.Looks a b → inside b)
    (plain : ∀ kind : ValidatorKind, kind.IsPlain → good kind)
    (generic : ∀ params body, good (.generic params body)) (param : ∀ name, good (.param name))
    (named : ∀ target declaration args deferred,
      gen.graph.declaration? target = some declaration → inside target → recorded target →
      (deferred = true ↔ target = d.id ∨ gen.cycles.sameCycle d.id target) →
      good (if deferred then .deferred declaration.name (gen.fitArgs target args)
        else .ref declaration.name (gen.fitArgs target args))) :
    Compositional gen d (fun _ => inside) recorded fun _ v => v.Everywhere good where
  closed _ a shape b ha anonymous found listed := closed a b ha anonymous ⟨shape, found, listed⟩
  insideField _ _ _ := Iff.rfl
  plain _ kind isPlain children := Validator.everywhere_ofKind.mpr ⟨plain kind isPlain, children⟩
  generic _ params body h :=
    Validator.everywhere_ofKind.mpr ⟨generic params body, fun v member =>
      List.mem_singleton.mp member ▸ h⟩
  param _ name _ :=
    Validator.everywhere_ofKind.mpr ⟨param name, fun _ member => absurd member List.not_mem_nil⟩
  named inProgress place target declaration args hplace found ht recorded progress hargs := by
    have any : Validator.any.Everywhere good := Validator.everywhere_ofKind.mpr
      ⟨plain _ trivial, fun _ member => absurd member List.not_mem_nil⟩
    have fitted : ∀ v ∈ gen.fitArgs target args, v.Everywhere good := by
      intro v member
      rcases mem_fitArgs member with given | rfl
      · exact hargs v given
      · exact any
    have deferred := named target declaration args
      (inProgress target || gen.cycles.sameCycle place.declaration.id target) found ht recorded
      (by rw [Bool.or_eq_true, progress, hplace])
    refine Validator.everywhere_ofKind.mpr ⟨deferred, fun v member => fitted v ?_⟩
    split at member <;> exact member
  modify _ _ _ h := Validator.everywhere_modify.mpr h
  inField _ _ _ := Iff.rfl

end Generator

end Schemata
