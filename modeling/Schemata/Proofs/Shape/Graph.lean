import Schemata.Proofs.OrderedMap
import Schemata.Proofs.Walk
import Schemata.Shape.Graph

/-!
# Paths in type graphs

Two relations describe a type graph.  A shape has children, and a shape mentions the declarations
that it leads to through anonymous shapes.  The walks of `ShapeGraph` find what paths along these
relations lead to.  Two graphs that agree on a set of ids which no child leaves have the same walks,
the same mentions and the same fingerprints there; a restricted graph agrees with the whole one on
everything that is needed.

## Main definitions

* `ShapeGraph.Child`, `ShapeGraph.Mentions` : the two relations.
* `ShapeGraph.Filed` : every declaration is kept under its own id.
* `ShapeGraph.Agree`, `ShapeGraph.SameBelow` : two graphs agree on a set of ids, or on all that an
  id leads to.
* `ShapeGraph.build` : the graph that a list of steps makes.

## Main results

* `ShapeGraph.mem_reachable_iff`, `ShapeGraph.mem_references_iff` : what the walks find.
* `ShapeGraph.eq_or_mentions_of_path` : a path between declarations is a path of mentions.
* `ShapeGraph.Filed.declare`, `ShapeGraph.Filed.restrict` : declarations are kept under their own
  ids.
* `ShapeGraph.agree_restrict` : a restricted graph agrees with the whole one.
* `ShapeGraph.isDeclared_build`, `ShapeGraph.exists_puts_of_shape?_build` : what is found in a graph
  was put there in its making.
-/

namespace Schemata.ShapeGraph

open Relation

/-! ### Children -/

section Children

variable (g : ShapeGraph) {roots : List ShapeId} {id a b : ShapeId}

/-- The shape of `a` refers to `b`. -/
def Child (a b : ShapeId) : Prop :=
  ∃ shape, g.shape? a = some shape ∧ b ∈ shape.children

/-- The children of an id, if it has a shape. -/
def childrenOf (id : ShapeId) : List ShapeId :=
  ((g.shape? id).map Shape.children).getD []

theorem mem_childrenOf_iff : b ∈ g.childrenOf a ↔ g.Child a b := by
  unfold childrenOf Child
  cases g.shape? a <;> simp

private theorem lookup_map_snd {α β : Type} (f : α → β) (entries : List (ShapeId × α))
    (id : ShapeId) :
    (entries.map fun e => (e.1, f e.2)).lookup id = (entries.lookup id).map f := by
  induction entries with
  | nil => rfl
  | cons e rest ih =>
    obtain ⟨key, value⟩ := e
    cases h : id == key <;> simp [List.lookup_cons, h, ih]

private theorem lookup_filter_fst {α : Type} (keep : ShapeId → Bool)
    (entries : List (ShapeId × α)) (id : ShapeId) :
    (entries.filter fun e => keep e.1).lookup id = if keep id then entries.lookup id else none := by
  induction entries with
  | nil => simp
  | cons e rest ih =>
    obtain ⟨key, value⟩ := e
    by_cases h : id = key
    · subst h
      cases hk : keep id <;> simp [hk, ih]
    · have hne : (id == key) = false := by simpa using h
      cases hk : keep key <;> simp [hk, List.lookup_cons, hne, ih]

theorem successors_edges (id : ShapeId) : Walk.successors g.edges id = g.childrenOf id := by
  unfold Walk.successors edges childrenOf
  rw [lookup_map_snd]
  rfl

theorem successors_anonymousEdges (id : ShapeId) :
    Walk.successors g.anonymousEdges id = if g.isDeclared id then [] else g.childrenOf id := by
  have h := lookup_filter_fst (fun id => !g.isDeclared id) g.edges id
  unfold Walk.successors anonymousEdges
  rw [h]
  cases g.isDeclared id
  · exact g.successors_edges id
  · rfl

theorem leads_edges_iff : Walk.Leads g.edges a b ↔ g.Child a b := by
  rw [Walk.Leads, successors_edges, mem_childrenOf_iff]

/-- A walk through a graph finds what children of children of roots lead to. -/
theorem mem_reachable_iff :
    id ∈ g.reachable roots ↔ ∃ root ∈ roots, ReflTransGen g.Child root id := by
  have h : Walk.Leads g.edges = g.Child := by
    ext a b
    exact g.leads_edges_iff
  rw [reachable, Walk.mem_preorder_iff, h]

theorem mem_reachable_of_mem (h : id ∈ roots) : id ∈ g.reachable roots :=
  g.mem_reachable_iff.mpr ⟨id, h, .refl⟩

theorem mem_reachable_of_child (h : a ∈ g.reachable roots) (step : g.Child a b) :
    b ∈ g.reachable roots := by
  obtain ⟨root, hroot, path⟩ := g.mem_reachable_iff.mp h
  exact g.mem_reachable_iff.mpr ⟨root, hroot, path.tail step⟩

end Children

/-! ### Mentions -/

section Mentions

variable (g : ShapeGraph) {a b : ShapeId}

/-- The id `a` has no declaration, and its shape refers to `b`. -/
def AnonymousChild (a b : ShapeId) : Prop :=
  g.isDeclared a = false ∧ g.Child a b

/-- The shape of `a` mentions the declaration `b`. -/
def Mentions (a b : ShapeId) : Prop :=
  b ∈ g.references a

/-- The mentioned declarations are those that a child leads to through anonymous shapes. -/
theorem mem_references_iff :
    b ∈ g.references a ↔
      g.isDeclared b ∧ ∃ child, g.Child a child ∧ ReflTransGen g.AnonymousChild child b := by
  have h : Walk.Leads g.anonymousEdges = g.AnonymousChild := by
    ext a b
    unfold Walk.Leads AnonymousChild
    rw [successors_anonymousEdges, ← mem_childrenOf_iff]
    cases g.isDeclared a <;> simp
  rw [references, List.mem_filter, Walk.mem_preorder_iff, h, and_comm]
  simp only [← mem_childrenOf_iff]
  rfl

theorem isDeclared_of_mentions (h : g.Mentions a b) : g.isDeclared b :=
  (g.mem_references_iff.mp h).1

theorem transGen_child_of_mentions (h : g.Mentions a b) : TransGen g.Child a b := by
  obtain ⟨-, child, step, path⟩ := g.mem_references_iff.mp h
  exact .head' step (ReflTransGen.mono (fun _ _ h => h.2) _ _ path)

/-- A path to a declaration is a path along mentions, unless it has no steps. -/
theorem eq_or_mentions_of_path (path : ReflTransGen g.Child a b)
    (declared : g.isDeclared b) : b = a ∨ TransGen g.Mentions a b := by
  induction path using ReflTransGen.head_induction_on with
  | refl => exact Or.inl rfl
  | @head a child step _ ih =>
    right
    cases hc : g.isDeclared child with
    | true =>
      have mention : g.Mentions a child := g.mem_references_iff.mpr ⟨hc, child, step, .refl⟩
      rcases ih with rfl | rest
      · exact .single mention
      · exact .head mention rest
    | false =>
      -- The first mention of an anonymous child is a mention of its parent.
      have rest : TransGen g.Mentions child b :=
        ih.resolve_left fun h => by simp [← h, declared] at hc
      obtain ⟨next, mention, rest⟩ := TransGen.head'_iff.mp rest
      obtain ⟨hnext, inner, step', path⟩ := g.mem_references_iff.mp mention
      have mention' : g.Mentions a next :=
        g.mem_references_iff.mpr ⟨hnext, child, step, .head ⟨hc, step'⟩ path⟩
      exact .head' mention' rest

theorem reflTransGen_child_of_mentions (h : ReflTransGen g.Mentions a b) :
    ReflTransGen g.Child a b := by
  induction h with
  | refl => exact .refl
  | tail _ step ih => exact ih.trans (g.transGen_child_of_mentions step).to_reflTransGen

end Mentions

/-! ### Declarations under their own ids -/

/-- Every declaration is kept under its own id. -/
def Filed (g : ShapeGraph) : Prop :=
  ∀ e ∈ g.declarations.entries, e.2.id = e.1

instance (g : ShapeGraph) : Decidable g.Filed :=
  inferInstanceAs (Decidable (∀ e ∈ g.declarations.entries, e.2.id = e.1))

section Filed

variable {g : ShapeGraph} {id : ShapeId} {declaration : Declaration}

theorem Filed.id_eq (filed : g.Filed) (h : g.declaration? id = some declaration) :
    declaration.id = id :=
  filed _ (g.declarations.get?_eq_some_iff.mp h)

theorem filed_of_id_eq
    (h : ∀ id declaration, g.declaration? id = some declaration → declaration.id = id) : g.Filed :=
  fun e he => h e.1 e.2 (g.declarations.get?_eq_some_iff.mpr he)

theorem isDeclared_eq_isSome (g : ShapeGraph) (id : ShapeId) :
    g.isDeclared id = (g.declaration? id).isSome :=
  g.declarations.contains_eq_isSome id

theorem isDeclared_of_declaration? (h : g.declaration? id = some declaration) :
    g.isDeclared id := by
  rw [isDeclared_eq_isSome, h]
  rfl

theorem isDeclared_eq_false (h : g.declaration? id = none) : g.isDeclared id = false := by
  rw [isDeclared_eq_isSome, h]
  rfl

theorem Filed.declaredIds_eq (filed : g.Filed) : g.declaredIds = g.declarations.keys := by
  unfold declaredIds OrderedMap.values OrderedMap.keys
  rw [List.map_map]
  exact List.map_congr_left filed

theorem Filed.mem_declaredIds_iff (filed : g.Filed) :
    id ∈ g.declaredIds ↔ g.isDeclared id := by
  rw [filed.declaredIds_eq, isDeclared, OrderedMap.contains, decide_eq_true_iff]

theorem filed_empty : empty.Filed := by
  intro e he
  cases he

theorem Filed.declare (filed : g.Filed) (file name : String) (kind : DeclarationKind)
    (exported : Bool) : (g.declare file name kind exported).1.Filed := by
  refine filed_of_id_eq fun id declaration h => ?_
  unfold declaration? ShapeGraph.declare at h
  rw [OrderedMap.get?_insertNew] at h
  split at h
  case isTrue new =>
    rw [new.1, ← Option.some.inj h]
  case isFalse => exact filed.id_eq h

theorem declaration?_restrict (g : ShapeGraph) (roots : List ShapeId) (id : ShapeId) :
    (g.restrict roots).declaration? id
      = if id ∈ g.reachable roots then g.declaration? id else none := by
  simp only [declaration?, restrict, OrderedMap.get?_filterKeys, List.contains_iff_mem]

theorem shape?_restrict (g : ShapeGraph) (roots : List ShapeId) (id : ShapeId) :
    (g.restrict roots).shape? id = if id ∈ g.reachable roots then g.shape? id else none := by
  simp only [shape?, restrict, OrderedMap.get?_filterKeys, List.contains_iff_mem]

theorem Filed.restrict (filed : g.Filed) (roots : List ShapeId) : (g.restrict roots).Filed := by
  refine filed_of_id_eq fun id declaration h => ?_
  rw [declaration?_restrict] at h
  split at h
  · exact filed.id_eq h
  · cases h

end Filed

/-! ### Graphs that agree -/

/-- The graphs `g` and `h` agree on a set of ids which no child leaves. -/
structure Agree (g h : ShapeGraph) (inside : ShapeId → Prop) : Prop where
  shape : ∀ id, inside id → g.shape? id = h.shape? id
  declaration : ∀ id, inside id → g.declaration? id = h.declaration? id
  closed : ∀ a b, inside a → g.Child a b → inside b

namespace Agree

variable {g h : ShapeGraph} {inside : ShapeId → Prop} {id a b : ShapeId}

theorem childrenOf (agree : Agree g h inside) (hid : inside id) :
    g.childrenOf id = h.childrenOf id := by
  unfold ShapeGraph.childrenOf
  rw [agree.shape id hid]

theorem child_iff (agree : Agree g h inside) (ha : inside a) :
    g.Child a b ↔ h.Child a b := by
  rw [← mem_childrenOf_iff, ← mem_childrenOf_iff, agree.childrenOf ha]

theorem isDeclared (agree : Agree g h inside) (hid : inside id) :
    g.isDeclared id = h.isDeclared id := by
  rw [isDeclared_eq_isSome, isDeclared_eq_isSome, agree.declaration id hid]

theorem symm (agree : Agree g h inside) : Agree h g inside where
  shape id hid := (agree.shape id hid).symm
  declaration id hid := (agree.declaration id hid).symm
  closed a b ha step := agree.closed a b ha ((agree.child_iff ha).mpr step)

theorem path_inside (agree : Agree g h inside) (ha : inside a)
    (path : ReflTransGen g.Child a b) : inside b := by
  induction path with
  | refl => exact ha
  | tail _ step ih => exact agree.closed _ _ ih step

theorem reachable_eq (agree : Agree g h inside) {roots : List ShapeId}
    (start : ∀ root ∈ roots, inside root) : g.reachable roots = h.reachable roots := by
  refine Walk.preorder_congr inside (fun a ha => ?_) (fun a ha b step => ?_) start
  · rw [successors_edges, successors_edges, agree.childrenOf ha]
  · exact agree.closed a b ha (g.leads_edges_iff.mp step)

theorem references_eq (agree : Agree g h inside) (hid : inside id) :
    g.references id = h.references id := by
  have start : ∀ child ∈ g.childrenOf id, inside child := fun child hc =>
    agree.closed id child hid (g.mem_childrenOf_iff.mp hc)
  have walk : Walk.preorder g.anonymousEdges (g.childrenOf id)
      = Walk.preorder h.anonymousEdges (h.childrenOf id) := by
    rw [← agree.childrenOf hid]
    refine Walk.preorder_congr inside (fun a ha => ?_) (fun a ha b step => ?_) start
    · rw [successors_anonymousEdges, successors_anonymousEdges, agree.isDeclared ha,
        agree.childrenOf ha]
    · rw [Walk.Leads, successors_anonymousEdges] at step
      split at step
      · cases step
      · exact agree.closed a b ha (g.mem_childrenOf_iff.mp step)
  change (Walk.preorder g.anonymousEdges (g.childrenOf id)).filter g.isDeclared
    = (Walk.preorder h.anonymousEdges (h.childrenOf id)).filter h.isDeclared
  rw [← walk]
  refine List.filter_congr fun found hfound => agree.isDeclared ?_
  obtain ⟨root, hroot, path⟩ := Walk.mem_preorder_iff.mp hfound
  refine agree.path_inside (start root hroot) (ReflTransGen.mono (fun a b step => ?_) _ _ path)
  rw [Walk.Leads, successors_anonymousEdges] at step
  split at step
  · cases step
  · exact g.mem_childrenOf_iff.mp step

theorem fingerprint_eq (agree : Agree g h inside) (hid : inside id) :
    g.fingerprint id = h.fingerprint id := by
  have start : ∀ root ∈ [id], inside root := by simpa using hid
  unfold fingerprint
  rw [← agree.reachable_eq start]
  congr 2
  refine List.flatMap_congr fun found hfound => ?_
  obtain ⟨root, hroot, path⟩ := g.mem_reachable_iff.mp hfound
  have hin := agree.path_inside (start root hroot) path
  unfold fingerprintEntry
  rw [agree.shape found hin, agree.declaration found hin]

end Agree

/-- The graphs have the same shapes and declarations wherever `id` leads to in `g`. -/
def SameBelow (g h : ShapeGraph) (id : ShapeId) : Prop :=
  ∀ found ∈ g.reachable [id],
    g.shape? found = h.shape? found ∧ g.declaration? found = h.declaration? found

theorem SameBelow.agree {g h : ShapeGraph} {id : ShapeId} (same : g.SameBelow h id) :
    Agree g h (· ∈ g.reachable [id]) where
  shape found hf := (same found hf).1
  declaration found hf := (same found hf).2
  closed _ _ ha step := g.mem_reachable_of_child ha step

/-- A restricted graph agrees with the whole one on what its roots need. -/
theorem agree_restrict (g : ShapeGraph) (roots : List ShapeId) :
    Agree g (g.restrict roots) (· ∈ g.reachable roots) where
  shape id hid := by rw [shape?_restrict, if_pos hid]
  declaration id hid := by rw [declaration?_restrict, if_pos hid]
  closed _ _ ha step := g.mem_reachable_of_child ha step

/-! ### Graphs that are made step by step -/

/-- A step in the making of a graph. -/
inductive Step
  | declare (file name : String) (kind : DeclarationKind) (exported : Bool)
  | define (id : ShapeId) (shape : Shape)
  | intern (file context : String) (shape : Shape)

/-- The graph after a step. -/
def after (g : ShapeGraph) : Step → ShapeGraph
  | .declare file name kind exported => (g.declare file name kind exported).1
  | .define id shape => g.define id shape
  | .intern file context shape => (g.intern file context shape).1

/-- The graph that a list of steps makes. -/
def build (steps : List Step) : ShapeGraph :=
  steps.foldl after empty

/-- The step declares an id. -/
def Step.Declares (id : ShapeId) : Step → Prop
  | .declare file name _ _ => ShapeId.declaration file name = id
  | _ => False

theorem isDeclared_after (g : ShapeGraph) (step : Step) (id : ShapeId) :
    (g.after step).isDeclared id ↔ g.isDeclared id ∨ step.Declares id := by
  cases step with
  | declare file name kind exported =>
    simp only [isDeclared_eq_isSome, declaration?, after, declare,
      OrderedMap.isSome_get?_insertNew_iff, Step.Declares]
    exact or_comm.trans (or_congr_right eq_comm)
  | define other shape => exact (or_iff_left not_false).symm
  | intern file context shape => exact (or_iff_left not_false).symm

theorem isDeclared_foldl_after (g : ShapeGraph) (steps : List Step) (id : ShapeId) :
    (steps.foldl after g).isDeclared id ↔ g.isDeclared id ∨ ∃ step ∈ steps, step.Declares id := by
  induction steps generalizing g with
  | nil => simp
  | cons step rest ih => simp [ih, isDeclared_after, or_assoc]

/-- What is declared in a graph was declared in its making. -/
theorem isDeclared_build (steps : List Step) (id : ShapeId) :
    (build steps).isDeclared id ↔ ∃ step ∈ steps, step.Declares id :=
  (isDeclared_foldl_after empty steps id).trans (or_iff_right nofun)

/-- The step puts a shape under an id, unless there is one that stays. -/
def Step.Puts (id : ShapeId) (shape : Shape) : Step → Prop
  | .declare _ _ _ _ => False
  | .define other defined => other = id ∧ defined = shape
  | .intern file context interned =>
    ShapeId.node file context interned.canonical = id ∧ interned = shape

theorem shape?_after {g : ShapeGraph} {step : Step} {id : ShapeId} {shape : Shape}
    (found : (g.after step).shape? id = some shape) :
    g.shape? id = some shape ∨ step.Puts id shape := by
  cases step with
  | declare file name kind exported => exact Or.inl found
  | define other defined =>
    simp only [after, define, shape?, OrderedMap.get?_insert] at found
    split at found
    case isTrue same => exact Or.inr ⟨same.symm, Option.some.inj found⟩
    case isFalse => exact Or.inl found
  | intern file context interned =>
    simp only [after, intern, shape?, OrderedMap.get?_insertNew] at found
    split at found
    case isTrue new => exact Or.inr ⟨new.1.symm, Option.some.inj found⟩
    case isFalse => exact Or.inl found

theorem isSome_shape?_after (g : ShapeGraph) (step : Step) (id : ShapeId) :
    ((g.after step).shape? id).isSome ↔ (g.shape? id).isSome ∨ ∃ shape, step.Puts id shape := by
  cases step with
  | declare file name kind exported => simp [after, declare, shape?, Step.Puts]
  | define other defined =>
    simp only [after, define, shape?, OrderedMap.get?_insert, Step.Puts]
    split
    case isTrue same => simp [same]
    case isFalse apart => simp [Ne.symm apart]
  | intern file context interned =>
    simp only [after, intern, shape?, OrderedMap.isSome_get?_insertNew_iff, Step.Puts,
      exists_eq_right']
    exact or_comm.trans (or_congr_right eq_comm)

theorem shape?_foldl_after {g : ShapeGraph} {steps : List Step} {id : ShapeId} {shape : Shape}
    (found : (steps.foldl after g).shape? id = some shape) :
    g.shape? id = some shape ∨ ∃ step ∈ steps, step.Puts id shape := by
  induction steps generalizing g with
  | nil => exact Or.inl found
  | cons step rest ih =>
    rcases ih found with old | ⟨later, member, puts⟩
    · exact (shape?_after old).imp_right fun puts => ⟨step, List.mem_cons_self, puts⟩
    · exact Or.inr ⟨later, List.mem_cons_of_mem _ member, puts⟩

theorem isSome_shape?_foldl_after (g : ShapeGraph) (steps : List Step) (id : ShapeId) :
    ((steps.foldl after g).shape? id).isSome
      ↔ (g.shape? id).isSome ∨ ∃ step ∈ steps, ∃ shape, step.Puts id shape := by
  induction steps generalizing g with
  | nil => simp
  | cons step rest ih => simp [ih, isSome_shape?_after, or_assoc]

/-- What is found in a graph was put there in its making. -/
theorem exists_puts_of_shape?_build {steps : List Step} {id : ShapeId} {shape : Shape}
    (found : (build steps).shape? id = some shape) : ∃ step ∈ steps, step.Puts id shape :=
  (shape?_foldl_after found).resolve_left nofun

theorem isSome_shape?_build (steps : List Step) (id : ShapeId) :
    ((build steps).shape? id).isSome ↔ ∃ step ∈ steps, ∃ shape, step.Puts id shape :=
  (isSome_shape?_foldl_after empty steps id).trans (or_iff_right nofun)

end Schemata.ShapeGraph
