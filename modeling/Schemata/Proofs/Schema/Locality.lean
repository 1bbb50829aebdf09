import Schemata.Proofs.Shape.Cycle
import Schemata.Schema.Generate

/-!
# Locality of generation

A generator looks at the shapes and declarations that a declaration leads to, and at the cycles
among them, and at nothing else.  So it gives the same result in every graph that has the same part
there.  In particular a declaration can be generated from the part of a graph that it needs.

## Main definitions

* `Generator.Agree` : two generators agree on a set of ids.

## Main results

* `Generator.Agree.visit_eq` : generators that agree make the same walk.
* `Generator.Agree.generate_eq` : generators that agree generate the same schemas.
* `Generator.generate_restrict` : generation in a restricted graph.
-/

namespace Schemata

theorem Traced.forEach_congr {α β : Type} {f f' : α → Traced β} {items : List α}
    (h : ∀ a ∈ items, f a = f' a) : forEach f items = forEach f' items := by
  induction items with
  | nil => rfl
  | cons a rest ih =>
    simp only [forEach]
    rw [h a List.mem_cons_self, ih fun b hb => h b (List.mem_cons_of_mem _ hb)]

theorem mem_children_of_param {kind : FunctionKind} {params : List Param} {returns : ShapeId}
    {param : Param} (h : param ∈ params) :
    param.type ∈ (Shape.function kind params returns).children :=
  List.mem_append_left _ (List.mem_map_of_mem h)

theorem mem_children_of_returns {kind : FunctionKind} {params : List Param} {returns : ShapeId} :
    returns ∈ (Shape.function kind params returns).children :=
  List.mem_append_right _ List.mem_cons_self

namespace Generator

open Relation

/-! ### Object types behind plain references -/

section Alias

variable (gen : Generator)

private theorem lookup_filterMap_snd {α : Type} (f : Shape → Option α)
    (entries : List (ShapeId × Shape)) (nodup : (entries.map Prod.fst).Nodup) (id : ShapeId) :
    (entries.filterMap fun e => (f e.2).map fun a => (e.1, a)).lookup id
      = (entries.lookup id).bind f := by
  induction entries with
  | nil => rfl
  | cons e rest ih =>
    obtain ⟨key, shape⟩ := e
    rw [List.map_cons, List.nodup_cons] at nodup
    have ih := ih nodup.2
    by_cases h : id = key
    · subst h
      have absent : rest.lookup id = none := by
        rw [List.lookup_eq_none_iff]
        intro e he
        have hne : id ≠ e.1 := fun h => nodup.1 (h ▸ List.mem_map.mpr ⟨e, he, rfl⟩)
        simpa using hne
      cases hf : f shape <;> simp [hf, ih, absent]
    · have hne : (id == key) = false := by simpa using h
      cases hf : f shape <;> simp [hf, List.lookup_cons, hne, ih]

/-- The target of a plain reference. -/
def plainTarget? : Shape → Option ShapeId
  | .reference target _ => some target
  | _ => none

theorem successors_aliasEdges (id : ShapeId) :
    Walk.successors gen.aliasEdges id = ((gen.graph.shape? id).bind plainTarget?).toList := by
  have edges : gen.aliasEdges = gen.graph.shapes.entries.filterMap fun e =>
      ((plainTarget? e.2).map fun target => [target]).map fun next => (e.1, next) := by
    unfold aliasEdges
    congr 1
    funext e
    cases e.2 <;> rfl
  unfold Walk.successors ShapeGraph.shape? OrderedMap.get?
  rw [edges, lookup_filterMap_snd (fun shape => (plainTarget? shape).map fun target => [target]) _
    gen.graph.shapes.nodup]
  cases gen.graph.shapes.entries.lookup id with
  | none => rfl
  | some shape => cases shape <;> rfl

/-- A plain reference is a child. -/
theorem child_of_leads_aliasEdges {a b : ShapeId} (h : Walk.Leads gen.aliasEdges a b) :
    gen.graph.Child a b := by
  rw [Walk.Leads, successors_aliasEdges, Option.mem_toList, Option.bind_eq_some_iff] at h
  obtain ⟨shape, found, target⟩ := h
  refine ⟨shape, found, ?_⟩
  cases shape with
  | reference next args => exact Option.some.inj target ▸ List.mem_cons_self
  | _ => cases target

/-- The end of the chain of plain references from an id. -/
theorem path_of_getLast?_alias {id last : ShapeId}
    (h : (Walk.preorder gen.aliasEdges [id]).getLast? = some last) :
    ReflTransGen gen.graph.Child id last := by
  obtain ⟨root, hroot, path⟩ := Walk.mem_preorder_iff.mp (List.mem_of_getLast? h)
  rw [List.mem_singleton.mp hroot] at path
  exact ReflTransGen.mono (fun _ _ => gen.child_of_leads_aliasEdges) _ _ path

/-- The fields are those of an object type that plain references lead to. -/
theorem exists_object_of_objectFields? {id : ShapeId} {fields : List Field}
    (h : gen.objectFields? id = some fields) :
    ∃ object, ReflTransGen gen.graph.Child id object ∧
      gen.graph.shape? object = some (.object fields) := by
  unfold objectFields? at h
  split at h
  · rename_i fields' found
    obtain ⟨last, hlast, hshape⟩ := Option.bind_eq_some_iff.mp found
    exact ⟨last, gen.path_of_getLast?_alias hlast, Option.some.inj h ▸ hshape⟩
  · cases h

/-- The fields of an object type are children of a shape that the id leads to. -/
theorem path_of_objectFields? {id : ShapeId} {fields : List Field}
    (h : gen.objectFields? id = some fields) {field : Field} (hf : field ∈ fields) :
    ReflTransGen gen.graph.Child id field.type := by
  obtain ⟨object, path, found⟩ := gen.exists_object_of_objectFields? h
  exact path.tail ⟨_, found, List.mem_map_of_mem hf⟩

end Alias

/-! ### The cases of a walk -/

section Visit

variable {gen : Generator} {opened : List ShapeId} {place : Place} {id : ShapeId}

theorem visit_of_missing (h : gen.graph.declaration? id = none)
    (missing : gen.graph.shape? id = none) :
    gen.visit opened place id = gen.fallback place (.missingShape id) := by
  rw [visit, h]
  simp only
  split
  · rfl
  · rename_i found
    rw [missing] at found
    cases found

theorem visit_of_anonymous (h : gen.graph.declaration? id = none) {shape : Shape}
    (found : gen.graph.shape? id = some shape) :
    gen.visit opened place id =
      if id ∈ opened then gen.fallback place (.anonymousRecursion id)
      else (do
        .note (.visited id)
        visitShape gen (gen.visit (id :: opened)) ((id :: opened).contains ·) place shape) := by
  rw [visit, h]
  dsimp only
  split
  · rename_i missing
    rw [found] at missing
    cases missing
  · rename_i shape' found'
    obtain rfl : shape = shape' := Option.some.inj (found.symm.trans found')
    split <;> rfl

/-- A generated schema is read off the walk of its declaration. -/
theorem generate_eq_ok {d : Declaration} (found : gen.graph.declaration? id = some d) :
    gen.generate id = .ok (gen.schemaOf id d (gen.visitDeclaration id d),
      statsOf (gen.visitDeclaration id d).findings) := by
  rw [generate, found]

/-- Only ids without a declaration have no schema. -/
theorem generate_eq_error_iff {error : GenerationError} :
    gen.generate id = .error error ↔
      gen.graph.declaration? id = none ∧ error = .notADeclaration id := by
  unfold generate
  cases gen.graph.declaration? id <;> simp [eq_comm]

end Visit

theorem shape?_of_method? (gen : Generator) {id : ShapeId} {kind : FunctionKind}
    {params : List Param} {returns : ShapeId} (h : gen.method? id = some (kind, params, returns)) :
    gen.graph.shape? id = some (.function kind params returns) := by
  unfold method? anonymousShape? at h
  cases hd : gen.graph.isDeclared id with
  | true => simp [hd] at h
  | false =>
    simp only [hd, Bool.false_eq_true, if_false] at h
    split at h
    · rename_i kind' params' returns' found
      rw [found]
      split at h
      · cases h
        rfl
      · cases h
    · cases h

theorem declaration?_of_method? (gen : Generator) {id : ShapeId}
    {found : FunctionKind × List Param × ShapeId} (h : gen.method? id = some found) :
    gen.graph.declaration? id = none := by
  cases hd : gen.graph.declaration? id with
  | none => rfl
  | some d => simp [method?, anonymousShape?, gen.graph.isDeclared_of_declaration? hd] at h

/-- The generators `gen` and `gen'` agree on a set of ids which no child leaves. -/
structure Agree (gen gen' : Generator) (inside : ShapeId → Prop) : Prop where
  graph : gen.graph.Agree gen'.graph inside
  rules : gen.rules = gen'.rules
  options : gen.options = gen'.options
  cycle : ∀ a b, inside a → inside b → gen.cycles.sameCycle a b = gen'.cycles.sameCycle a b

theorem agree_new {g h : ShapeGraph} {inside : ShapeId → Prop} (agree : g.Agree h inside)
    (hg : g.Filed) (hh : h.Filed) (rules : RuleSet) (options : GenerateOptions) :
    Agree (new g rules options) (new h rules options) inside where
  graph := agree
  rules := rfl
  options := rfl
  cycle _ _ ha hb := agree.sameCycle_eq hg hh ha hb

namespace Agree

variable {gen gen' : Generator} {inside : ShapeId → Prop} (agree : Agree gen gen' inside)

include agree

/-! ### What a generator reads at an id -/

theorem fallback_eq (place : Place) (error : GenerationError) :
    gen.fallback place error = gen'.fallback place error := by
  simp only [fallback, agree.options]

theorem anonymousShape?_eq {id : ShapeId} (hid : inside id) :
    gen.anonymousShape? id = gen'.anonymousShape? id := by
  unfold anonymousShape?
  rw [agree.graph.isDeclared hid, agree.graph.shape id hid]

theorem isNull_eq {id : ShapeId} (hid : inside id) : gen.isNull id = gen'.isNull id := by
  unfold isNull
  rw [agree.anonymousShape?_eq hid]

theorem isUndefined_eq {id : ShapeId} (hid : inside id) :
    gen.isUndefined id = gen'.isUndefined id := by
  unfold isUndefined
  rw [agree.anonymousShape?_eq hid]

theorem method?_eq {id : ShapeId} (hid : inside id) : gen.method? id = gen'.method? id := by
  unfold method?
  rw [agree.anonymousShape?_eq hid]

theorem fitArgs_eq {target : ShapeId} (ht : inside target) (args : List Validator) :
    gen.fitArgs target args = gen'.fitArgs target args := by
  unfold fitArgs
  rw [agree.graph.shape target ht]

theorem objectFields?_eq {id : ShapeId} (hid : inside id) :
    gen.objectFields? id = gen'.objectFields? id := by
  have walk : Walk.preorder gen.aliasEdges [id] = Walk.preorder gen'.aliasEdges [id] := by
    refine Walk.preorder_congr inside (fun a ha => ?_) (fun a ha b step => ?_) ?_
    · rw [successors_aliasEdges, successors_aliasEdges, agree.graph.shape a ha]
    · exact agree.graph.closed a b ha (gen.child_of_leads_aliasEdges step)
    · simpa using hid
  unfold objectFields?
  rw [← walk]
  cases h : (Walk.preorder gen.aliasEdges [id]).getLast? with
  | none => rfl
  | some last =>
    have hlast := agree.graph.path_inside hid (gen.path_of_getLast?_alias h)
    simp only [Option.bind_some, agree.graph.shape last hlast]

theorem named_eq (inProgress : ShapeId → Bool) {place : Place}
    (hplace : inside place.declaration.id) {target : ShapeId} (ht : inside target)
    (declaration : Declaration) (args : List Validator) :
    gen.named inProgress place target declaration args
      = gen'.named inProgress place target declaration args := by
  simp only [named, agree.fitArgs_eq ht, agree.cycle _ _ hplace ht]

/-! ### One shape -/

section Shape

variable {visit visit' : Place → ShapeId → Traced Validator}
  (same : ∀ place, inside place.declaration.id → ∀ id, inside id → visit place id = visit' place id)
  {place : Place} (hplace : inside place.declaration.id)

include same hplace

omit agree in
theorem forEach_visit_eq (ids : List ShapeId) (hids : ∀ id ∈ ids, inside id) :
    Traced.forEach (visit place) ids = Traced.forEach (visit' place) ids :=
  Traced.forEach_congr fun id hid => same place hplace id (hids id hid)

theorem reference_eq (inProgress : ShapeId → Bool) {target : ShapeId} {args : List ShapeId}
    (ht : inside target) (hargs : ∀ id ∈ args, inside id) :
    reference gen visit inProgress place target args
      = reference gen' visit' inProgress place target args := by
  unfold reference
  rw [agree.graph.declaration target ht, forEach_visit_eq same hplace args hargs]
  simp only [same place hplace target ht, agree.named_eq inProgress hplace ht]

omit agree in
theorem visitParams_eq {params : List Param} (hparams : ∀ p ∈ params, inside p.type) :
    visitParams visit place params = visitParams visit' place params := by
  unfold visitParams
  refine Traced.forEach_congr fun p hp => ?_
  rw [same place hplace p.type (hparams p hp)]

theorem visitEntry_eq {adapt adapt' : Validator → Traced Validator}
    (hadapt : ∀ v, adapt v = adapt' v) {field : Field} (hf : inside field.type) :
    visitEntry gen visit place adapt field = visitEntry gen' visit' place adapt' field := by
  unfold visitEntry
  rw [same place hplace field.type hf]
  simp only [hadapt, resolveField, agree.rules]

theorem visitField_eq {field : Field} (hf : inside field.type) :
    visitField gen visit place field = visitField gen' visit' place field := by
  have hplace' : inside (place.inField field.name).declaration.id := hplace
  simp only [visitField, ← agree.method?_eq hf]
  split
  · rename_i kind params returns found
    -- The parameters and the result of a method are children of the field's shape.
    have child := fun id hid => agree.graph.closed field.type id hf
      ⟨_, gen.shape?_of_method? found, hid⟩
    rw [visitParams_eq same hplace' fun p hp => child p.type (mem_children_of_param hp),
      same _ hplace' returns (child returns mem_children_of_returns)]
  · rw [agree.visitEntry_eq same hplace' (fun v => rfl) hf]

theorem visitObject_eq {fields : List Field} (hfields : ∀ f ∈ fields, inside f.type) :
    visitObject gen visit place fields = visitObject gen' visit' place fields := by
  unfold visitObject
  rw [Traced.forEach_congr fun f hf => agree.visitField_eq same hplace (hfields f hf)]

theorem visitUnion_eq {members : List ShapeId} (hmembers : ∀ id ∈ members, inside id) :
    visitUnion gen visit place members = visitUnion gen' visit' place members := by
  have rest : (members.filter fun id => !(gen.isNull id || gen.isUndefined id))
      = members.filter fun id => !(gen'.isNull id || gen'.isUndefined id) :=
    List.filter_congr fun id hid => by
      rw [agree.isNull_eq (hmembers id hid), agree.isUndefined_eq (hmembers id hid)]
  have null : members.any gen.isNull = members.any gen'.isNull := by
    rw [Bool.eq_iff_iff, List.any_eq_true, List.any_eq_true]
    exact exists_congr fun id => and_congr_right fun hid => by
      rw [agree.isNull_eq (hmembers id hid)]
  have undef : members.any gen.isUndefined = members.any gen'.isUndefined := by
    rw [Bool.eq_iff_iff, List.any_eq_true, List.any_eq_true]
    exact exists_congr fun id =>
      and_congr_right fun hid => by rw [agree.isUndefined_eq (hmembers id hid)]
  simp only [visitUnion, ← rest, ← null, ← undef, forEach_visit_eq same hplace members hmembers,
    forEach_visit_eq same hplace _ fun id hid => hmembers id (List.mem_of_mem_filter hid)]

omit agree in
theorem adaptKey_eq {value : PerKey} (hvalue : ∀ type, value = .replace type → inside type)
    (base : Validator) : adaptKey visit place value base = adaptKey visit' place value base := by
  cases value with
  | replace type => exact same place hplace type (hvalue type rfl)
  | _ => rfl

theorem visitPerKey_eq {source : ShapeId} (hsource : inside source) (name : String)
    {value : PerKey} (hvalue : ∀ type, value = .replace type → inside type) :
    visitPerKey gen visit place source name value
      = visitPerKey gen' visit' place source name value := by
  unfold visitPerKey
  rw [← agree.objectFields?_eq hsource]
  split
  · exact agree.fallback_eq place _
  · rename_i fields found
    have hfields : ∀ f ∈ fields, inside f.type := fun f hf =>
      agree.graph.path_inside hsource (gen.path_of_objectFields? found hf)
    rw [Traced.forEach_congr fun f hf => ?_]
    have hplace' : inside (place.inField f.name).declaration.id := hplace
    exact agree.visitEntry_eq same hplace' (adaptKey_eq same hplace' hvalue) (hfields f hf)

theorem visitMapped_eq {source : ShapeId} (hsource : inside source) {transform : Transform}
    (ht : ∀ id ∈ transform.children, inside id) :
    visitMapped gen visit place source transform
      = visitMapped gen' visit' place source transform := by
  have hsame := same place hplace source hsource
  cases transform with
  | record value =>
    simp only [visitMapped, hsame, same place hplace value (ht value List.mem_cons_self)]
  | perKey name value =>
    refine agree.visitPerKey_eq same hplace hsource name fun type h => ht type ?_
    simp [h, Transform.children]
  | _ => simp only [visitMapped, hsame]

/-- Generators that agree on a shape and its children make the same of it. -/
theorem visitShape_eq (inProgress : ShapeId → Bool) {shape : Shape}
    (hchildren : ∀ id ∈ shape.children, inside id) :
    visitShape gen visit inProgress place shape
      = visitShape gen' visit' inProgress place shape := by
  cases shape with
  | primitive type => rfl
  | literal value => rfl
  | array element =>
    simp only [visitShape, same place hplace element (hchildren _ List.mem_cons_self)]
  | tuple elements =>
    simp only [visitShape, forEach_visit_eq same hplace elements hchildren]
  | object fields =>
    exact agree.visitObject_eq same hplace fun f hf => hchildren _ (List.mem_map_of_mem hf)
  | union members => exact agree.visitUnion_eq same hplace hchildren
  | intersection members =>
    simp only [visitShape, forEach_visit_eq same hplace members hchildren]
  | generic params body =>
    simp only [visitShape,
      same (place.withParams params) hplace body (hchildren _ List.mem_cons_self)]
  | param name => simp only [visitShape, agree.fallback_eq]
  | mapped source transform =>
    exact agree.visitMapped_eq same hplace (hchildren _ List.mem_cons_self)
      fun id hid => hchildren id (List.mem_cons_of_mem _ hid)
  | reference target args =>
    exact agree.reference_eq same hplace inProgress (hchildren _ List.mem_cons_self)
      fun id hid => hchildren id (List.mem_cons_of_mem _ hid)
  | function kind params returns =>
    simp only [visitShape, same place hplace returns (hchildren _ mem_children_of_returns),
      visitParams_eq same hplace fun p hp => hchildren p.type (mem_children_of_param hp)]
  | refined base constraint =>
    simp only [visitShape, same place hplace base (hchildren _ List.mem_cons_self)]
  | unresolved name => exact agree.fallback_eq place _
  | unsupported text => exact agree.fallback_eq place _

end Shape

/-! ### Whole walks -/

/-- Generators that agree make the same walk. -/
theorem visit_eq (opened : List ShapeId) {place : Place} (hplace : inside place.declaration.id)
    {id : ShapeId} (hid : inside id) : gen.visit opened place id = gen'.visit opened place id := by
  fun_induction gen.visit opened place id with
  | case1 opened place id declaration found =>
    rw [visit, ← agree.graph.declaration id hid, found]
    exact agree.named_eq _ hplace hid declaration []
  | case2 opened place id found missing =>
    rw [visit_of_missing (agree.graph.declaration id hid ▸ found)
      (agree.graph.shape id hid ▸ missing)]
    exact agree.fallback_eq place _
  | case3 opened place id found shape hshape old =>
    rw [visit_of_anonymous (agree.graph.declaration id hid ▸ found)
      (agree.graph.shape id hid ▸ hshape), if_pos old]
    exact agree.fallback_eq place _
  | case4 opened place id found shape hshape new ih =>
    rw [visit_of_anonymous (agree.graph.declaration id hid ▸ found)
      (agree.graph.shape id hid ▸ hshape), if_neg new]
    congr 1
    funext
    refine agree.visitShape_eq (fun place hplace next hnext => ih place next hplace hnext)
      hplace _ ?_
    exact fun next hnext => agree.graph.closed id next hid ⟨shape, hshape, hnext⟩

theorem visitDeclaration_eq {id : ShapeId} (hid : inside id) {declaration : Declaration}
    (hd : inside declaration.id) :
    gen.visitDeclaration id declaration = gen'.visitDeclaration id declaration := by
  simp only [visitDeclaration, ← agree.graph.shape id hid]
  cases found : gen.graph.shape? id with
  | none => exact agree.fallback_eq _ _
  | some shape =>
    have hplace : inside (Place.top declaration).declaration.id := hd
    have hchildren : ∀ next ∈ shape.children, inside next := fun next hnext =>
      agree.graph.closed id next hid ⟨shape, found, hnext⟩
    simp only [agree.visitShape_eq
      (fun _ hplace _ hnext => agree.visit_eq [declaration.id] hplace hnext) hplace _ hchildren]

/-- Generators that agree generate the same schemas. -/
theorem generate_eq (filed : gen.graph.Filed) {id : ShapeId} (hid : inside id) :
    gen.generate id = gen'.generate id := by
  unfold generate
  rw [← agree.graph.declaration id hid]
  cases found : gen.graph.declaration? id with
  | none => rfl
  | some declaration =>
    have hd : inside declaration.id := (filed.id_eq found).symm ▸ hid
    simp only [agree.visitDeclaration_eq hid hd, schemaOf, agree.graph.fingerprint_eq hid]

end Agree

/-- A schema depends on nothing but the shapes and declarations that its declaration leads to. -/
theorem generate_eq_of_sameBelow {g h : ShapeGraph} (hg : g.Filed) (hh : h.Filed) {id : ShapeId}
    (same : g.SameBelow h id) (rules : RuleSet) (options : GenerateOptions) :
    (new g rules options).generate id = (new h rules options).generate id :=
  (agree_new same.agree hg hh rules options).generate_eq hg
    (g.mem_reachable_of_mem List.mem_cons_self)

theorem agree_new_restrict {graph : ShapeGraph} (filed : graph.Filed) (roots : List ShapeId)
    (rules : RuleSet) (options : GenerateOptions) :
    Agree (new graph rules options) (new (graph.restrict roots) rules options)
      (· ∈ graph.reachable roots) :=
  agree_new (graph.agree_restrict roots) filed (filed.restrict roots) rules options

/-- A declaration is generated from the part of a graph that it needs as from the whole graph: with
the same schema and the same gain of the counters, or with the same error. -/
theorem generate_restrict {graph : ShapeGraph} (filed : graph.Filed) (rules : RuleSet)
    (options : GenerateOptions) {roots : List ShapeId} {root : ShapeId} (h : root ∈ roots) :
    (new (graph.restrict roots) rules options).generate root
      = (new graph rules options).generate root := by
  have agree := agree_new_restrict filed roots rules options
  exact (agree.generate_eq filed (graph.mem_reachable_of_mem h)).symm

/-- Two declarations that mention each other through an anonymous type that holds itself, an id
without a shape, a declaration without a shape, and a declaration apart. -/
def ring : ShapeGraph where
  shapes := .ofList [
    (⟨1⟩, .object [⟨"next", ⟨2⟩, false, false⟩, ⟨"gone", ⟨7⟩, true, false⟩]),
    (⟨2⟩, .union [⟨2⟩, ⟨3⟩, ⟨4⟩]),
    (⟨3⟩, .mapped ⟨1⟩ (.perKey "Maybe" .nullable)),
    (⟨5⟩, .array ⟨1⟩)]
  declarations := .ofList [
    (⟨1⟩, ⟨⟨1⟩, "Ring", "ring.ts", .interface, true⟩),
    (⟨3⟩, ⟨⟨3⟩, "Maybe", "ring.ts", .typeAlias, false⟩),
    (⟨4⟩, ⟨⟨4⟩, "Later", "ring.ts", .interface, false⟩),
    (⟨5⟩, ⟨⟨5⟩, "Apart", "apart.ts", .typeAlias, true⟩)]

theorem generate_restrict_ring :
    ring.Filed ∧ (new (ring.restrict [⟨1⟩, ⟨7⟩]) .empty {}).generate ⟨1⟩
      = (new ring .empty {}).generate ⟨1⟩ :=
  have filed : ring.Filed := by decide
  ⟨filed, generate_restrict filed .empty {} List.mem_cons_self⟩

end Generator

end Schemata
