import Mathlib.Data.List.Dedup
import Schemata.Proofs.Document.Lower

/-!
# Where the shapes of a graph come from

Every shape of the graph of documents was made from one declaration: it is the shape of the
declaration or of a type expression in it.  Such a shape leads to other expressions of the same
declaration, and to the declarations that names stand for in its file; it leads nowhere else.

## Main definitions

* `Lowering.resolveIn` : the declaration that a name stands for in a file.
* `Lowering.Lowered.Stays` : the shapes of a result lead to ids of a set only.
* `Lowering.shapesOf`, `Lowering.idsOf` : the shapes that a declaration is lowered to, and their
  ids.
* `Lowering.NoCollisions` : different parts have different ids.

## Main results

* `Lowering.lowerShape_stays` : one type expression.
* `Lowering.spec_of_mem_shapesOf` : where the shapes of a declaration lead to.
* `Lowering.NoCollisions.eq_of_mem` : without collisions an id belongs to one declaration.
* `ShapeGraph.mem_shapesOf_of_shape?` : every shape of the graph is one of a declaration.
-/

namespace Schemata

namespace Lowering

/-- The declaration that a name stands for in a file of the documents. -/
def resolveIn (documents : List Document) (file name : String) : Option ShapeId :=
  Place.resolve? ⟨namesOf (declarationsOf documents), file, "", []⟩ name

/-! ### Rules for results -/

namespace Lowered

variable {α β : Type}

/-- If the anonymous shapes that were met have ids inside a set, the result has a property, and the
shapes lead to ids inside the set.  Their ids are those of their file and declaration. -/
structure Stays (t : Lowered α) (file context : String) (inside : ShapeId → Prop)
    (post : α → Prop) : Prop where
  value : (∀ e ∈ t.shapes, inside e.1) → post t.value
  shapes : (∀ e ∈ t.shapes, inside e.1) → ∀ e ∈ t.shapes,
    e.1 = ShapeId.node file context e.2.canonical ∧ ∀ id ∈ e.2.children, inside id

variable {file context : String} {inside : ShapeId → Prop} {mid : α → Prop} {post : β → Prop}

theorem stays_pure {b : β} (h : post b) :
    (Pure.pure b : Lowered β).Stays file context inside post :=
  ⟨fun _ => h, fun _ _ member => absurd member List.not_mem_nil⟩

theorem Stays.bind {t : Lowered α} {f : α → Lowered β} (ht : t.Stays file context inside mid)
    (hf : ∀ a, mid a → (f a).Stays file context inside post) :
    (t >>= f).Stays file context inside post := by
  have first (all : ∀ e ∈ (t >>= f).shapes, inside e.1) : ∀ e ∈ t.shapes, inside e.1 :=
    fun e member => all e (List.mem_append_left _ member)
  have later (all : ∀ e ∈ (t >>= f).shapes, inside e.1) : ∀ e ∈ (f t.value).shapes, inside e.1 :=
    fun e member => all e (List.mem_append_right _ member)
  refine ⟨fun all => (hf _ (ht.value (first all))).value (later all), fun all e member => ?_⟩
  rcases List.mem_append.mp member with member | member
  · exact ht.shapes (first all) e member
  · exact (hf _ (ht.value (first all))).shapes (later all) e member

/-- Naming a shape that leads to ids inside gives an id inside. -/
theorem Stays.named {place : Place} {t : Lowered Shape}
    (ht : t.Stays place.file place.context inside fun shape => ∀ id ∈ shape.children, inside id) :
    (t.named place).Stays place.file place.context inside inside := by
  refine ht.bind fun shape leads => ?_
  let id := ShapeId.node place.file place.context shape.canonical
  have listed : (id, shape) ∈ (intern place shape).shapes := List.mem_cons_self
  refine ⟨fun all => all (id, shape) listed, fun _ e member => ?_⟩
  obtain rfl := List.mem_singleton.mp member
  exact ⟨rfl, leads⟩

end Lowered

open Lowered

/-! ### Type expressions -/

section Expressions

variable {inside : ShapeId → Prop}

/-- At a place, names stand for ids of a set only. -/
abbrev Place.Resolves (place : Place) (inside : ShapeId → Prop) : Prop :=
  ∀ name target, place.resolve? name = some target → inside target

/-- What lowering a type expression may lead to at a place. -/
abbrev LeadsInside (place : Place) (inside : ShapeId → Prop) (t : Lowered Shape) : Prop :=
  t.Stays place.file place.context inside fun shape => ∀ id ∈ shape.children, inside id

theorem lowerList_stays {place : Place} {types : List SourceType}
    (h : ∀ type ∈ types, LeadsInside place inside (lowerShape place type)) :
    (lowerList place types).Stays place.file place.context inside
      fun ids => ∀ id ∈ ids, inside id := by
  induction types with
  | nil =>
    rw [lowerList]
    exact stays_pure fun _ member => absurd member List.not_mem_nil
  | cons type rest ih =>
    rw [lowerList]
    refine (h type List.mem_cons_self).named.bind fun id hid => ?_
    refine (ih fun other member => h other (List.mem_cons_of_mem _ member)).bind fun ids hids => ?_
    exact stays_pure (List.forall_mem_cons.mpr ⟨hid, hids⟩)

/-- A built-in utility type leads to its arguments. -/
theorem lowerUtility_stays {place : Place} (name : String) {args : List SourceType}
    (h : ∀ type ∈ args, LeadsInside place inside (lowerShape place type)) :
    LeadsInside place inside (lowerUtility place name args) := by
  have leaf (shape : Shape) (none : shape.children = []) :
      LeadsInside place inside (pure shape) :=
    stays_pure fun _ member => by simp [none] at member
  have single (type : SourceType) (member : type ∈ args) (shape : ShapeId → Shape)
      (one : ∀ id, (shape id).children = [id]) :
      LeadsInside place inside (do
        let id ← (lowerShape place type).named place
        pure (shape id)) := by
    refine (h type member).named.bind fun id hid => stays_pure fun other listed => ?_
    rw [one, List.mem_singleton] at listed
    exact listed ▸ hid
  unfold lowerUtility
  split
  · exact single _ List.mem_cons_self _ fun _ => rfl
  · exact single _ List.mem_cons_self _ fun _ => rfl
  · exact leaf _ rfl
  · exact single _ List.mem_cons_self _ fun _ => rfl
  · exact single _ List.mem_cons_self _ fun _ => rfl
  · exact single _ List.mem_cons_self _ fun _ => rfl
  · rename_i key value
    refine (h key List.mem_cons_self).named.bind fun key hkey => ?_
    refine (h value (List.mem_cons_of_mem _ List.mem_cons_self)).named.bind fun value hvalue => ?_
    exact stays_pure (by simp [Shape.children, Transform.children, hkey, hvalue])
  · split
    · exact single _ List.mem_cons_self _ fun _ => rfl
    · exact leaf _ rfl
  · split
    · exact single _ List.mem_cons_self _ fun _ => rfl
    · exact leaf _ rfl
  · exact leaf _ rfl

mutual

/-- The shape of a type expression leads to its parts and to what names stand for. -/
theorem lowerShape_stays {place : Place} (resolved : place.Resolves inside) :
    (type : SourceType) → LeadsInside place inside (lowerShape place type)
  | .primitive _ | .param _ | .unsupported _ => by
    rw [lowerShape]
    exact stays_pure (by simp [Shape.children])
  | .literal value => by
    rw [lowerShape]
    refine stays_pure ?_
    unfold literalShape
    split <;> simp [Shape.children]
  | .array element | .refined element _ => by
    rw [lowerShape]
    refine (lowerShape_stays resolved element).named.bind fun id hid => ?_
    exact stays_pure (by simpa [Shape.children] using hid)
  | .tuple types | .union types | .intersection types => by
    rw [lowerShape]
    exact (lowerList_stays (lowerShape_stays_of_mem resolved types)).bind fun ids hids =>
      stays_pure hids
  | .object fields => by
    rw [lowerShape]
    refine (lowerFields_stays resolved fields).bind fun fields hfields => stays_pure ?_
    simpa [Shape.children] using hfields
  | .generic params body => by
    rw [lowerShape]
    -- Type parameters do not change what names of declarations stand for.
    have bound : (place.bind params).Resolves inside := resolved
    have inner : LeadsInside place inside (lowerShape (place.bind params) body) :=
      lowerShape_stays bound body
    refine inner.named.bind fun id hid => ?_
    exact stays_pure (by simpa [Shape.children] using hid)
  | .mapped source transform => by
    rw [lowerShape]
    refine (lowerShape_stays resolved source).named.bind fun source hsource => ?_
    refine (lowerTransform_stays resolved transform).bind fun transform htransform => ?_
    exact stays_pure (List.forall_mem_cons.mpr ⟨hsource, htransform⟩)
  | .ref name args => by
    have all := lowerShape_stays_of_mem resolved args
    rw [lowerShape]
    split
    · exact stays_pure (by simp [Shape.children])
    · split
      · rename_i target found
        refine (lowerList_stays all).bind fun ids hids => ?_
        exact stays_pure (List.forall_mem_cons.mpr ⟨resolved name target found, hids⟩)
      · exact lowerUtility_stays name all
  | .function _ params returns => by
    rw [lowerShape]
    refine (lowerParams_stays resolved params).bind fun params hparams => ?_
    refine (lowerShape_stays resolved returns).named.bind fun returns hreturns => ?_
    refine stays_pure fun id member => ?_
    rcases List.mem_append.mp member with member | member
    · exact hparams id member
    · exact List.mem_singleton.mp member ▸ hreturns

theorem lowerShape_stays_of_mem {place : Place} (resolved : place.Resolves inside) :
    (types : List SourceType) → ∀ type ∈ types, LeadsInside place inside (lowerShape place type)
  | [] => fun _ member => absurd member List.not_mem_nil
  | type :: rest => List.forall_mem_cons.mpr
    ⟨lowerShape_stays resolved type, lowerShape_stays_of_mem resolved rest⟩

theorem lowerFields_stays {place : Place} (resolved : place.Resolves inside) :
    (fields : List SourceField) → (lowerFields place fields).Stays place.file place.context inside
      fun fields => ∀ field ∈ fields, inside field.type
  | [] => by
    rw [lowerFields]
    exact stays_pure fun _ member => absurd member List.not_mem_nil
  | .mk _ _ _ type :: rest => by
    rw [lowerFields]
    refine (lowerShape_stays resolved type).named.bind fun id hid => ?_
    refine (lowerFields_stays resolved rest).bind fun fields hfields => ?_
    exact stays_pure (List.forall_mem_cons.mpr ⟨hid, hfields⟩)

theorem lowerParams_stays {place : Place} (resolved : place.Resolves inside) :
    (params : List SourceParam) → (lowerParams place params).Stays place.file place.context inside
      fun params => ∀ id ∈ params.map Param.type, inside id
  | [] => by
    rw [lowerParams]
    exact stays_pure fun _ member => absurd member List.not_mem_nil
  | .mk _ _ type :: rest => by
    rw [lowerParams]
    refine (lowerShape_stays resolved type).named.bind fun id hid => ?_
    refine (lowerParams_stays resolved rest).bind fun params hparams => ?_
    exact stays_pure (List.forall_mem_cons.mpr ⟨hid, hparams⟩)

theorem lowerTransform_stays {place : Place} (resolved : place.Resolves inside) :
    (transform : SourceTransform) →
      (lowerTransform place transform).Stays place.file place.context inside
        fun transform => ∀ id ∈ transform.children, inside id
  | .toPartial | .toRequired | .pick _ | .omit _ | .toReadonly => by
    rw [lowerTransform]
    exact stays_pure (by simp [Transform.children])
  | .record value => by
    rw [lowerTransform]
    refine (lowerShape_stays resolved value).named.bind fun id hid => ?_
    exact stays_pure (by simpa [Transform.children] using hid)
  | .perKey name value => by
    rw [lowerTransform]
    exact (lowerPerKey_stays resolved value).bind fun value hvalue => stays_pure (hvalue name)

theorem lowerPerKey_stays {place : Place} (resolved : place.Resolves inside) :
    (value : SourcePerKey) → (lowerPerKey place value).Stays place.file place.context inside
      fun value => ∀ name, ∀ id ∈ (Transform.perKey name value).children, inside id
  | .optional | .nullable | .array | .readonly => by
    rw [lowerPerKey]
    exact stays_pure (by simp [Transform.children])
  | .replace type => by
    rw [lowerPerKey]
    refine (lowerShape_stays resolved type).named.bind fun id hid => ?_
    exact stays_pure (by simpa [Transform.children] using hid)

end

end Expressions

/-! ### Names -/

section Names

variable {documents : List Document} {file name : String}

/-- What a name stands for is a declaration of that name. -/
theorem exists_of_resolveIn {target : ShapeId} (h : resolveIn documents file name = some target) :
    ∃ a ∈ declarationsOf documents,
      a.2.name = name ∧ target = ShapeId.declaration a.1 a.2.name := by
  obtain ⟨found, chosen, rfl⟩ := Option.map_eq_some_iff.mp h
  have candidate : found ∈ (namesOf (declarationsOf documents)).filter (·.name = name) := by
    rcases Option.or_eq_some_iff.mp chosen with own | ⟨-, first⟩
    · exact List.mem_of_find?_eq_some own
    · exact List.mem_of_mem_head? first
  obtain ⟨listed, named⟩ := List.mem_filter.mp candidate
  obtain ⟨a, member, rfl⟩ := List.mem_map.mp listed
  exact ⟨a, member, by simpa using named, rfl⟩

/-- A name that a file declares stands for that declaration. -/
theorem resolveIn_of_mem {d : SourceDeclaration} (h : (file, d) ∈ declarationsOf documents) :
    resolveIn documents file d.name = some (ShapeId.declaration file d.name) := by
  let candidates := (namesOf (declarationsOf documents)).filter (·.name = d.name)
  have own : ∃ found, candidates.find? (·.file = file) = some found := by
    refine Option.isSome_iff_exists.mp (List.find?_isSome.mpr ?_)
    refine ⟨⟨d.name, file, ShapeId.declaration file d.name⟩, ?_, by simp⟩
    exact List.mem_filter.mpr ⟨List.mem_map.mpr ⟨(file, d), h, rfl⟩, by simp⟩
  obtain ⟨found, chosen⟩ := own
  obtain ⟨listed, named⟩ := List.mem_filter.mp (List.mem_of_find?_eq_some chosen)
  have inFile := List.find?_some chosen
  obtain ⟨⟨file', d'⟩, -, rfl⟩ := List.mem_map.mp listed
  have isName : d'.name = d.name := by simpa using named
  have isFile : file' = file := by simpa using inFile
  simp only [resolveIn, Place.resolve?]
  rw [chosen, Option.some_or]
  exact congrArg some (congrArg₂ ShapeId.declaration isFile isName)

end Names

/-! ### Declarations -/

/-- A declaration of the documents, lowered. -/
def loweredIn (documents : List Document) (a : String × SourceDeclaration) : Lowered Shape :=
  lowerDeclaration ⟨namesOf (declarationsOf documents), a.1, a.2.name, []⟩ a.2

/-- The shapes that a declaration is lowered to, with their ids: those of the type expressions in
it, and its own. -/
def shapesOf (documents : List Document) (a : String × SourceDeclaration) :
    List (ShapeId × Shape) :=
  (loweredIn documents a).shapes
    ++ [(ShapeId.declaration a.1 a.2.name, (loweredIn documents a).value)]

/-- The ids that belong to a declaration. -/
def idsOf (documents : List Document) (a : String × SourceDeclaration) : List ShapeId :=
  (shapesOf documents a).map Prod.fst

/-- The parts that these ids are made from. -/
def partsOf (documents : List Document) (a : String × SourceDeclaration) : List (List String) :=
  (loweredIn documents a).shapes.map (fun e => ShapeId.nodeParts a.1 a.2.name e.2.canonical)
    ++ [ShapeId.declarationParts a.1 a.2.name]

/-- No two different lists of parts that lowering the documents comes to have the same id. -/
def NoCollisions (documents : List Document) : Prop :=
  ∀ a ∈ declarationsOf documents, ∀ b ∈ declarationsOf documents,
    ∀ p ∈ partsOf documents a, ∀ q ∈ partsOf documents b,
      ShapeId.ofParts p = ShapeId.ofParts q → p = q

/-- There are no collisions if and only if different parts have different ids. -/
theorem noCollisions_iff (documents : List Document) :
    NoCollisions documents ↔ (((declarationsOf documents).flatMap
      (partsOf documents)).dedup.map ShapeId.ofParts).Nodup := by
  rw [List.nodup_map_iff_inj_on (List.nodup_dedup _)]
  simp only [List.mem_dedup, List.mem_flatMap, NoCollisions]
  constructor
  · rintro none p ⟨a, ha, hp⟩ q ⟨b, hb, hq⟩ same
    exact none a ha b hb p hp q hq same
  · exact fun none a ha b hb p hp q hq same => none p ⟨a, ha, hp⟩ q ⟨b, hb, hq⟩ same

instance (documents : List Document) : Decidable (NoCollisions documents) :=
  decidable_of_iff' _ (noCollisions_iff documents)

section Declarations

variable {documents : List Document} {a : String × SourceDeclaration}

theorem declaration_mem_idsOf (documents : List Document) (a : String × SourceDeclaration) :
    ShapeId.declaration a.1 a.2.name ∈ idsOf documents a :=
  List.mem_map.mpr ⟨_, List.mem_append_right _ List.mem_cons_self, rfl⟩

theorem lowerDeclaration_stays {inside : ShapeId → Prop} {place : Place}
    (resolved : place.Resolves inside) (d : SourceDeclaration) :
    LeadsInside place inside (lowerDeclaration place d) := by
  unfold lowerDeclaration
  split
  · exact lowerShape_stays resolved d.type
  · have bound : (place.bind d.params).Resolves inside := resolved
    have body : (lower (place.bind d.params) d.type).Stays place.file place.context inside inside :=
      (lowerShape_stays bound d.type).named
    exact body.bind fun id hid => stays_pure (by simpa [Shape.children] using hid)

/-- The id of an anonymous shape is made from its canonical text. -/
theorem node_of_mem_shapes {e : ShapeId × Shape} (member : e ∈ (loweredIn documents a).shapes) :
    ShapeId.nodeParts a.1 a.2.name e.2.canonical ∈ partsOf documents a ∧
      e.1 = ShapeId.ofParts (ShapeId.nodeParts a.1 a.2.name e.2.canonical) := by
  have stays : LeadsInside ⟨namesOf (declarationsOf documents), a.1, a.2.name, []⟩ (fun _ => True)
      (loweredIn documents a) := lowerDeclaration_stays (fun _ _ _ => trivial) a.2
  exact ⟨List.mem_append_left _ (List.mem_map_of_mem member),
    (stays.shapes (fun _ _ => trivial) e member).1⟩

/-- The parts of an anonymous shape tell its canonical text. -/
theorem canonical_eq_of_nodeParts_eq {file file' context context' text text' : String}
    (same : ShapeId.nodeParts file context text = ShapeId.nodeParts file' context' text') :
    text = text' := by
  simp only [ShapeId.nodeParts, List.cons.injEq] at same
  exact same.2.2.2.1

theorem declarationParts_mem_partsOf (documents : List Document)
    (a : String × SourceDeclaration) :
    ShapeId.declarationParts a.1 a.2.name ∈ partsOf documents a :=
  List.mem_append_right _ List.mem_cons_self

/-- The shapes of a declaration lead to each other and to what names stand for in its file; their
ids are made from the parts of the declaration. -/
theorem spec_of_mem_shapesOf {e : ShapeId × Shape} (member : e ∈ shapesOf documents a) :
    (∃ parts ∈ partsOf documents a, e.1 = ShapeId.ofParts parts) ∧
      ∀ id ∈ e.2.children, id ∈ idsOf documents a ∨
        ∃ name, resolveIn documents a.1 name = some id := by
  let inside (id : ShapeId) : Prop :=
    id ∈ idsOf documents a ∨ ∃ name, resolveIn documents a.1 name = some id
  have stays : (loweredIn documents a).Stays a.1 a.2.name inside
      fun shape => ∀ id ∈ shape.children, inside id :=
    lowerDeclaration_stays (fun name target found => Or.inr ⟨name, found⟩) a.2
  have all : ∀ e ∈ (loweredIn documents a).shapes, inside e.1 := fun e listed =>
    Or.inl (List.mem_map_of_mem (List.mem_append_left _ listed))
  rcases List.mem_append.mp member with listed | own
  · exact ⟨⟨_, node_of_mem_shapes listed⟩, (stays.shapes all e listed).2⟩
  · obtain rfl := List.mem_singleton.mp own
    exact ⟨⟨_, declarationParts_mem_partsOf documents a, rfl⟩, stays.value all⟩

theorem file_name_of_mem_partsOf {parts : List String} (member : parts ∈ partsOf documents a) :
    parts[1]? = some a.1 ∧ parts[2]? = some a.2.name := by
  rcases List.mem_append.mp member with listed | own
  · obtain ⟨e, -, rfl⟩ := List.mem_map.mp listed
    exact ⟨rfl, rfl⟩
  · obtain rfl := List.mem_singleton.mp own
    exact ⟨rfl, rfl⟩

/-- Without collisions an id belongs to one declaration. -/
theorem NoCollisions.eq_of_mem (none : NoCollisions documents) {a b : String × SourceDeclaration}
    (ha : a ∈ declarationsOf documents) (hb : b ∈ declarationsOf documents) {id : ShapeId}
    (ofA : id ∈ idsOf documents a) (ofB : id ∈ idsOf documents b) :
    a.1 = b.1 ∧ a.2.name = b.2.name := by
  obtain ⟨e, memberA, rfl⟩ := List.mem_map.mp ofA
  obtain ⟨e', memberB, same⟩ := List.mem_map.mp ofB
  obtain ⟨⟨p, hp, isP⟩, -⟩ := spec_of_mem_shapesOf memberA
  obtain ⟨⟨q, hq, isQ⟩, -⟩ := spec_of_mem_shapesOf memberB
  obtain rfl : p = q := none a ha b hb p hp q hq (isP.symm.trans (same.symm.trans isQ))
  obtain ⟨fileA, nameA⟩ := file_name_of_mem_partsOf hp
  obtain ⟨fileB, nameB⟩ := file_name_of_mem_partsOf hq
  exact ⟨Option.some.inj (fileA.symm.trans fileB), Option.some.inj (nameA.symm.trans nameB)⟩

end Declarations

/-! ### Graphs -/

variable {documents : List Document} {declarations : List (String × SourceDeclaration)}
  {seen : List (String × String)} {a : String × SourceDeclaration} {g h : ShapeGraph}
  {id : ShapeId} {shape : Shape}

theorem shapes_of_announce (result : announce declarations seen g = .ok h) :
    h.shapes = g.shapes := by
  induction declarations generalizing seen g with
  | nil =>
    cases result
    rfl
  | cons e rest ih =>
    unfold announce at result
    split at result
    · cases result
    · exact (ih result).trans rfl

/-- What is announced stays declared. -/
theorem isSome_of_announce (result : announce declarations seen g = .ok h)
    (announced : (∃ a ∈ declarations, id = ShapeId.declaration a.1 a.2.name) ∨
      (g.declaration? id).isSome) :
    (h.declaration? id).isSome := by
  induction declarations generalizing seen g with
  | nil =>
    cases result
    simpa using announced
  | cons e rest ih =>
    unfold announce at result
    split at result
    · cases result
    · refine ih result ?_
      rw [ShapeGraph.declaration?, ShapeGraph.declare, OrderedMap.isSome_get?_insertNew_iff]
      rcases announced with ⟨a, member, rfl⟩ | old
      · rcases List.mem_cons.mp member with rfl | later
        · exact Or.inr (Or.inl rfl)
        · exact Or.inl ⟨a, later, rfl⟩
      · exact Or.inr (Or.inr old)

/-- A shape after a declaration is defined is one of the declaration, or was there before. -/
theorem shape?_defineDeclaration
    (found : (defineDeclaration (namesOf (declarationsOf documents)) g a.1 a.2).shape? id
      = some shape) :
    (id, shape) ∈ shapesOf documents a ∨ g.shape? id = some shape := by
  unfold defineDeclaration ShapeGraph.shape? at found
  rw [OrderedMap.get?_insert] at found
  split at found
  · rename_i own
    refine Or.inl (List.mem_append_right _ (List.mem_singleton.mpr ?_))
    rw [own, ← Option.some.inj found, loweredIn]
  · exact (OrderedMap.mem_of_get?_foldl_insertNew _ found).imp_left (List.mem_append_left _)

/-- The ids of a declaration have shapes when it is defined, and so do those that had one. -/
theorem isSome_shape?_defineDeclaration (h : id ∈ idsOf documents a ∨ (g.shape? id).isSome) :
    ((defineDeclaration (namesOf (declarationsOf documents)) g a.1 a.2).shape? id).isSome := by
  unfold defineDeclaration ShapeGraph.shape?
  rw [OrderedMap.get?_insert]
  split
  · rfl
  · rename_i other
    rw [OrderedMap.isSome_get?_foldl_insertNew_iff]
    refine h.imp_left fun member => ?_
    rw [idsOf, shapesOf, List.map_append, List.mem_append] at member
    exact member.resolve_right fun own => other (List.mem_singleton.mp own)

theorem isSome_shape?_foldl_define
    (h : (∃ a ∈ declarations, id ∈ idsOf documents a) ∨ (g.shape? id).isSome) :
    ((declarations.foldl (fun g (file, d) =>
      defineDeclaration (namesOf (declarationsOf documents)) g file d) g).shape? id).isSome := by
  induction declarations generalizing g with
  | nil => simpa using h
  | cons a rest ih =>
    refine ih ?_
    rw [List.exists_mem_cons_iff] at h
    rcases h with (own | later) | before
    · exact Or.inr (isSome_shape?_defineDeclaration (Or.inl own))
    · exact Or.inl later
    · exact Or.inr (isSome_shape?_defineDeclaration (Or.inr before))

theorem shape?_foldl_define (found : (declarations.foldl (fun g (file, d) =>
      defineDeclaration (namesOf (declarationsOf documents)) g file d) g).shape? id = some shape) :
    (∃ a ∈ declarations, (id, shape) ∈ shapesOf documents a) ∨ g.shape? id = some shape := by
  induction declarations generalizing g with
  | nil => exact Or.inr found
  | cons a rest ih =>
    rw [List.exists_mem_cons_iff]
    rcases ih found with later | now
    · exact Or.inl (Or.inr later)
    · exact (shape?_defineDeclaration now).imp_left Or.inl

end Lowering

namespace ShapeGraph

open Lowering

variable {documents : List Document} {g : ShapeGraph}

/-- Every shape of the graph is one of a declaration. -/
theorem mem_shapesOf_of_shape? (h : ofDocuments documents = .ok g) {id : ShapeId} {shape : Shape}
    (found : g.shape? id = some shape) :
    ∃ a ∈ declarationsOf documents, (id, shape) ∈ shapesOf documents a := by
  obtain ⟨start, result, rfl⟩ := announce_of_ofDocuments h
  refine (shape?_foldl_define found).resolve_right fun before => ?_
  rw [shape?, shapes_of_announce result] at before
  cases before

/-- Every id of a declaration has a shape in the graph. -/
theorem isSome_shape?_of_mem_idsOf (h : ofDocuments documents = .ok g)
    {a : String × SourceDeclaration} (ha : a ∈ declarationsOf documents) {id : ShapeId}
    (member : id ∈ idsOf documents a) : (g.shape? id).isSome := by
  obtain ⟨start, -, rfl⟩ := announce_of_ofDocuments h
  exact isSome_shape?_foldl_define (Or.inl ⟨a, ha, member⟩)

/-- Every declaration of a document is one of the graph. -/
theorem isDeclared_of_mem (h : ofDocuments documents = .ok g) {a : String × SourceDeclaration}
    (member : a ∈ declarationsOf documents) :
    g.isDeclared (ShapeId.declaration a.1 a.2.name) := by
  obtain ⟨start, result, rfl⟩ := announce_of_ofDocuments h
  rw [isDeclared_eq_isSome, declaration?, declarations_foldl_define]
  exact isSome_of_announce result (Or.inl ⟨a, member, rfl⟩)

end ShapeGraph

end Schemata
