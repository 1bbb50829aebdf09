import Schemata.Proofs.Document.Faithful
import Schemata.Proofs.Schema.Locality

/-!
# The order of documents

The order of documents, and of the declarations in them, decides in which order a graph is built.
It also decides which declaration an ambiguous name stands for.  If no name is declared in two
files, it decides nothing else: every id has the same declaration and the same shape, so every
declaration has the same schema.

Shapes of one declaration are interned first come, first served; this is why each declaration has to
be read from its beginning to its end, and why nothing is said about reordering inside a type.

## Main definitions

* `Lowering.Place.Alike` : two places at which names stand for the same.
* `Lowering.ownShape?` : the shape that a declaration gives to an id.
* `Document.Reordered` : the same documents and declarations in another order.

## Main results

* `Lowering.lowerShape_alike` : lowering looks names up and does not list them.
* `Lowering.resolveIn_eq_some_iff` : what names stand for, if no name is declared in two files.
* `ShapeGraph.shape?_eq_ownShape?` : the first shape that a declaration brings for an id is kept.
* `ShapeGraph.agree_of_perm` : the graphs of both orders agree.
* `Generator.generate_reordered` : both orders are accepted or none, with the same schemas.
-/

namespace Schemata

namespace Lowering

/-! ### Places at which names stand for the same -/

/-- Two places of one declaration at which every name stands for the same. -/
structure Place.Alike (place other : Place) : Prop where
  file : place.file = other.file
  context : place.context = other.context
  bound : place.bound = other.bound
  resolve : ∀ name, place.resolve? name = other.resolve? name

section Alike

variable {place other : Place}

theorem Place.Alike.bind (alike : place.Alike other) (params : List String) :
    (place.bind params).Alike (other.bind params) where
  file := alike.file
  context := alike.context
  bound := congrArg (params ++ ·) alike.bound
  resolve := alike.resolve

theorem Place.Alike.named_eq (alike : place.Alike other) (lowered : Lowered Shape) :
    lowered.named place = lowered.named other := by
  simp only [Lowered.named, intern, alike.file, alike.context]

theorem lowerList_alike (alike : place.Alike other) {types : List SourceType}
    (same : ∀ type ∈ types, lowerShape place type = lowerShape other type) :
    lowerList place types = lowerList other types := by
  induction types with
  | nil => simp only [lowerList]
  | cons type rest ih =>
    simp only [lowerList, alike.named_eq, same type List.mem_cons_self,
      ih fun type member => same type (List.mem_cons_of_mem _ member)]

theorem lowerUtility_alike (alike : place.Alike other) (name : String) {args : List SourceType}
    (same : ∀ type ∈ args, lowerShape place type = lowerShape other type) :
    lowerUtility place name args = lowerUtility other name args := by
  unfold lowerUtility
  split <;> simp_all [alike.named_eq]

mutual

/-- Lowering looks names up and has no other use for the list of names. -/
theorem lowerShape_alike {place other : Place} (alike : place.Alike other) :
    (type : SourceType) → lowerShape place type = lowerShape other type
  | .primitive _ | .literal _ | .param _ | .unsupported _ => by simp only [lowerShape]
  | .array element => by
    simp only [lowerShape, alike.named_eq, lowerShape_alike alike element]
  | .tuple types | .union types | .intersection types => by
    simp only [lowerShape, lowerList_alike alike (lowerShape_alike_of_mem alike types)]
  | .object fields => by
    simp only [lowerShape, lowerFields_alike alike fields]
  | .generic params body => by
    simp only [lowerShape, alike.named_eq, lowerShape_alike (alike.bind params) body]
  | .mapped source transform => by
    simp only [lowerShape, alike.named_eq, lowerShape_alike alike source,
      lowerTransform_alike alike transform]
  | .ref name args => by
    have all := lowerShape_alike_of_mem alike args
    simp only [lowerShape, alike.bound, alike.resolve, lowerList_alike alike all,
      lowerUtility_alike alike name all]
  | .function _ params returns => by
    simp only [lowerShape, alike.named_eq, lowerParams_alike alike params,
      lowerShape_alike alike returns]
  | .refined base _ => by
    simp only [lowerShape, alike.named_eq, lowerShape_alike alike base]

theorem lowerShape_alike_of_mem {place other : Place} (alike : place.Alike other) :
    (types : List SourceType) → ∀ type ∈ types, lowerShape place type = lowerShape other type
  | [] => fun _ member => absurd member List.not_mem_nil
  | type :: rest => List.forall_mem_cons.mpr
    ⟨lowerShape_alike alike type, lowerShape_alike_of_mem alike rest⟩

theorem lowerFields_alike {place other : Place} (alike : place.Alike other) :
    (fields : List SourceField) → lowerFields place fields = lowerFields other fields
  | [] => by simp only [lowerFields]
  | .mk _ _ _ type :: rest => by
    simp only [lowerFields, alike.named_eq, lowerShape_alike alike type,
      lowerFields_alike alike rest]

theorem lowerParams_alike {place other : Place} (alike : place.Alike other) :
    (params : List SourceParam) → lowerParams place params = lowerParams other params
  | [] => by simp only [lowerParams]
  | .mk _ _ type :: rest => by
    simp only [lowerParams, alike.named_eq, lowerShape_alike alike type,
      lowerParams_alike alike rest]

theorem lowerTransform_alike {place other : Place} (alike : place.Alike other) :
    (transform : SourceTransform) →
      lowerTransform place transform = lowerTransform other transform
  | .toPartial | .toRequired | .pick _ | .omit _ | .toReadonly => by simp only [lowerTransform]
  | .record value => by
    simp only [lowerTransform, alike.named_eq, lowerShape_alike alike value]
  | .perKey _ value => by
    simp only [lowerTransform, lowerPerKey_alike alike value]

theorem lowerPerKey_alike {place other : Place} (alike : place.Alike other) :
    (value : SourcePerKey) → lowerPerKey place value = lowerPerKey other value
  | .optional | .nullable | .array | .readonly => by simp only [lowerPerKey]
  | .replace type => by
    simp only [lowerPerKey, alike.named_eq, lowerShape_alike alike type]

end

theorem lowerDeclaration_alike (alike : place.Alike other) (d : SourceDeclaration) :
    lowerDeclaration place d = lowerDeclaration other d := by
  unfold lowerDeclaration lower
  rw [lowerShape_alike alike, lowerShape_alike (alike.bind d.params),
    (alike.bind d.params).named_eq]

end Alike

/-! ### Names that are declared in one file -/

section Names

variable {documents others : List Document}

/-- If no name is declared in two files, a name stands for its only declaration, wherever it is
used. -/
theorem resolveIn_eq_some_iff (once : OneFileEach documents) {file name : String}
    {target : ShapeId} :
    resolveIn documents file name = some target ↔
      ∃ a ∈ declarationsOf documents,
        a.2.name = name ∧ target = ShapeId.declaration a.1 a.2.name := by
  refine ⟨exists_of_resolveIn, ?_⟩
  rintro ⟨a, member, rfl, rfl⟩
  have candidate : ⟨a.2.name, a.1, ShapeId.declaration a.1 a.2.name⟩
      ∈ (namesOf (declarationsOf documents)).filter (·.name = a.2.name) :=
    List.mem_filter.mpr ⟨List.mem_map.mpr ⟨a, member, rfl⟩, by simp⟩
  obtain ⟨found, chosen⟩ : ∃ found, resolveIn documents file a.2.name = some found := by
    refine Option.isSome_iff_exists.mp ?_
    unfold resolveIn Place.resolve?
    rw [Option.isSome_map, Option.isSome_or, Bool.or_eq_true]
    exact Or.inr (List.isSome_head?.mpr (List.ne_nil_of_mem candidate))
  obtain ⟨b, member', sameName, rfl⟩ := exists_of_resolveIn chosen
  have sameFile : b.1 = a.1 := once b member' a member sameName
  rw [chosen, sameFile, sameName]

theorem OneFileEach.perm (once : OneFileEach documents)
    (perm : (declarationsOf documents).Perm (declarationsOf others)) : OneFileEach others :=
  fun a ha b hb => once a (perm.mem_iff.mpr ha) b (perm.mem_iff.mpr hb)

/-- If no name is declared in two files, names stand for the same in any order of the
declarations. -/
theorem resolveIn_perm (once : OneFileEach documents)
    (perm : (declarationsOf documents).Perm (declarationsOf others)) (file name : String) :
    resolveIn documents file name = resolveIn others file name := by
  ext target
  rw [resolveIn_eq_some_iff once, resolveIn_eq_some_iff (once.perm perm)]
  exact exists_congr fun a => and_congr_left fun _ => perm.mem_iff

/-- So every declaration is lowered to the same shapes. -/
theorem loweredIn_perm (once : OneFileEach documents)
    (perm : (declarationsOf documents).Perm (declarationsOf others))
    (a : String × SourceDeclaration) : loweredIn documents a = loweredIn others a := by
  have alike : Place.Alike ⟨namesOf (declarationsOf documents), a.1, a.2.name, []⟩
      ⟨namesOf (declarationsOf others), a.1, a.2.name, []⟩ :=
    ⟨rfl, rfl, rfl, resolveIn_perm once perm a.1⟩
  exact lowerDeclaration_alike alike a.2

theorem idsOf_perm (once : OneFileEach documents)
    (perm : (declarationsOf documents).Perm (declarationsOf others))
    (a : String × SourceDeclaration) : idsOf documents a = idsOf others a := by
  rw [idsOf, idsOf, shapesOf, shapesOf, loweredIn_perm once perm]

theorem NoCollisions.perm (none : NoCollisions documents) (once : OneFileEach documents)
    (perm : (declarationsOf documents).Perm (declarationsOf others)) : NoCollisions others := by
  have parts (a : String × SourceDeclaration) : partsOf others a = partsOf documents a := by
    rw [partsOf, partsOf, loweredIn_perm once perm]
  intro a ha b hb p hp q hq
  rw [parts] at hp hq
  exact none a (perm.mem_iff.mpr ha) b (perm.mem_iff.mpr hb) p hp q hq

end Names

/-! ### What a declaration brings in -/

/-- The shape that a declaration gives to one of its ids: its own one, or the first of those that
come up with that id when it is lowered. -/
def ownShape? (documents : List Document) (a : String × SourceDeclaration) (id : ShapeId) :
    Option Shape :=
  if id = ShapeId.declaration a.1 a.2.name then some (loweredIn documents a).value
  else (loweredIn documents a).shapes.lookup id

section Define

variable {documents : List Document} {g : ShapeGraph} {a : String × SourceDeclaration}
  {id : ShapeId}

/-- A declaration gives shapes to its own ids, unless they have one already. -/
theorem shape?_defineDeclaration_eq :
    (defineDeclaration (namesOf (declarationsOf documents)) g a.1 a.2).shape? id
      = if id = ShapeId.declaration a.1 a.2.name then some (loweredIn documents a).value
        else (g.shape? id).or ((loweredIn documents a).shapes.lookup id) := by
  unfold defineDeclaration ShapeGraph.shape?
  rw [OrderedMap.get?_insert, OrderedMap.get?_foldl_insertNew]
  rfl

/-- A declaration brings nothing for ids that are not its own. -/
theorem shape?_defineDeclaration_of_not_mem (foreign : id ∉ idsOf documents a) :
    (defineDeclaration (namesOf (declarationsOf documents)) g a.1 a.2).shape? id = g.shape? id := by
  have other : id ≠ ShapeId.declaration a.1 a.2.name := fun same =>
    foreign (same ▸ declaration_mem_idsOf documents a)
  have absent : (loweredIn documents a).shapes.lookup id = none := by
    refine List.lookup_eq_none_iff.mpr fun e member => ?_
    have different : id ≠ e.1 := fun same =>
      foreign (same ▸ List.mem_map_of_mem (List.mem_append_left _ member))
    simpa using different
  rw [shape?_defineDeclaration_eq, if_neg other, absent, Option.or_none]

/-- A declaration gives its own ids their shapes, and gives them the same ones again. -/
theorem shape?_defineDeclaration_own
    (before : g.shape? id = none ∨ g.shape? id = ownShape? documents a id) :
    (defineDeclaration (namesOf (declarationsOf documents)) g a.1 a.2).shape? id
      = ownShape? documents a id := by
  rw [shape?_defineDeclaration_eq, ownShape?] at *
  split
  · rfl
  · rename_i other
    rw [if_neg other] at before
    rcases before with none | again
    · rw [none, Option.none_or]
    · rw [again, Option.or_self]

/-- When declarations are defined one by one, an id that belongs to one of them gets no other shape
than the one from there. -/
theorem shape?_foldl_define_own {declarations : List (String × SourceDeclaration)}
    (own : ∀ b ∈ declarations, id ∈ idsOf documents b → b = a)
    (before : g.shape? id = none ∨ g.shape? id = ownShape? documents a id) :
    let defined := declarations.foldl (fun g (file, d) =>
      defineDeclaration (namesOf (declarationsOf documents)) g file d) g
    defined.shape? id = none ∨ defined.shape? id = ownShape? documents a id := by
  induction declarations generalizing g with
  | nil => exact before
  | cons b rest ih =>
    refine ih (fun c later => own c (List.mem_cons_of_mem _ later)) ?_
    by_cases member : id ∈ idsOf documents b
    · obtain rfl := own b List.mem_cons_self member
      exact Or.inr (shape?_defineDeclaration_own before)
    · rw [shape?_defineDeclaration_of_not_mem member]
      exact before

end Define

/-! ### Accepted documents -/

/-- Declarations are accepted if no file declares a name twice. -/
theorem exists_announce {declarations : List (String × SourceDeclaration)}
    {seen : List (String × String)} {g : ShapeGraph}
    (distinct : (declarations.map fun a => (a.1, a.2.name)).Nodup)
    (unseen : ∀ a ∈ declarations, (a.1, a.2.name) ∉ seen) :
    ∃ h, announce declarations seen g = .ok h := by
  induction declarations generalizing seen g with
  | nil => exact ⟨g, rfl⟩
  | cons e rest ih =>
    obtain ⟨new, distinct⟩ := List.nodup_cons.mp distinct
    unfold announce
    rw [if_neg (unseen e List.mem_cons_self)]
    refine ih distinct fun a later => List.not_mem_cons_of_ne_of_not_mem (fun same => new ?_)
      (unseen a (List.mem_cons_of_mem _ later))
    exact List.mem_map.mpr ⟨a, later, same⟩

end Lowering

namespace ShapeGraph

open Lowering

variable {documents others : List Document} {g h : ShapeGraph}

/-- Documents are accepted if and only if no file declares a name twice. -/
theorem exists_ofDocuments_iff :
    (∃ g, ofDocuments documents = .ok g) ↔
      ((declarationsOf documents).map fun a => (a.1, a.2.name)).Nodup := by
  constructor
  · rintro ⟨g, accepted⟩
    obtain ⟨start, announced, -⟩ := announce_of_ofDocuments accepted
    exact (nodup_of_announce announced).1
  · intro distinct
    obtain ⟨start, announced⟩ : ∃ start, announce (declarationsOf documents) [] empty = .ok start :=
      exists_announce distinct fun _ _ => List.not_mem_nil
    dsimp only [ofDocuments]
    rw [announced]
    exact ⟨_, rfl⟩

/-- The graph has at each id of a declaration the first shape that the declaration brings. -/
theorem shape?_eq_ownShape? (accepted : ofDocuments documents = .ok g)
    (none : NoCollisions documents) {a : String × SourceDeclaration}
    (ha : a ∈ declarationsOf documents) {id : ShapeId} (member : id ∈ idsOf documents a) :
    g.shape? id = ownShape? documents a id := by
  have found := isSome_shape?_of_mem_idsOf accepted ha member
  have own : ∀ b ∈ declarationsOf documents, id ∈ idsOf documents b → b = a := by
    intro b hb ofB
    obtain ⟨file, name⟩ := none.eq_of_mem hb ha ofB member
    exact eq_of_mem_declarationsOf accepted hb ha file name
  obtain ⟨start, announced, rfl⟩ := announce_of_ofDocuments accepted
  have before : start.shape? id = .none := by
    rw [shape?, shapes_of_announce announced]
    rfl
  refine (shape?_foldl_define_own own (Or.inl before)).resolve_left fun missing => ?_
  rw [missing] at found
  cases found

/-- The graph has the declarations of the documents. -/
theorem declaration?_eq_some_iff (accepted : ofDocuments documents = .ok g)
    (none : NoCollisions documents) {id : ShapeId} {d : Declaration} :
    g.declaration? id = some d ↔ ∃ a ∈ declarationsOf documents,
      id = ShapeId.declaration a.1 a.2.name ∧ d = announced a.1 a.2 := by
  constructor
  · intro found
    obtain ⟨file, source, listed, rfl⟩ := announced_of_declaration? accepted found
    exact ⟨(file, source), listed, ((filed_ofDocuments accepted).id_eq found).symm, rfl⟩
  · rintro ⟨a, member, rfl, rfl⟩
    exact declaration?_of_mem accepted none member

section Perm

variable (accepted : ofDocuments documents = .ok g) (accepted' : ofDocuments others = .ok h)
  (once : OneFileEach documents) (none : NoCollisions documents)
  (perm : (declarationsOf documents).Perm (declarationsOf others))

include accepted accepted' once none perm

theorem shape?_perm (id : ShapeId) : g.shape? id = h.shape? id := by
  by_cases owned : ∃ a ∈ declarationsOf documents, id ∈ idsOf documents a
  · obtain ⟨a, ha, member⟩ := owned
    rw [shape?_eq_ownShape? accepted none ha member,
      shape?_eq_ownShape? accepted' (none.perm once perm) (perm.mem_iff.mp ha)
        (idsOf_perm once perm a ▸ member), ownShape?, ownShape?, loweredIn_perm once perm]
  · have absent : g.shape? id = .none := by
      refine Option.eq_none_iff_forall_not_mem.mpr fun shape found => owned ?_
      obtain ⟨a, ha, listed⟩ := mem_shapesOf_of_shape? accepted found
      exact ⟨a, ha, List.mem_map_of_mem listed⟩
    have absent' : h.shape? id = .none := by
      refine Option.eq_none_iff_forall_not_mem.mpr fun shape found => owned ?_
      obtain ⟨a, ha, listed⟩ := mem_shapesOf_of_shape? accepted' found
      refine ⟨a, perm.mem_iff.mpr ha, ?_⟩
      rw [idsOf_perm once perm]
      exact List.mem_map_of_mem listed
    rw [absent, absent']

/-- Both graphs have the same shapes and declarations, though not in the same order. -/
theorem agree_of_perm : g.Agree h fun _ => True where
  shape id _ := shape?_perm accepted accepted' once none perm id
  declaration id _ := by
    ext d
    rw [declaration?_eq_some_iff accepted none,
      declaration?_eq_some_iff accepted' (none.perm once perm)]
    exact exists_congr fun a => and_congr_left fun _ => perm.mem_iff
  closed _ _ _ _ := trivial

end Perm

end ShapeGraph

/-! ### Documents in another order -/

/-- The documents in another order, each with its declarations in another order. -/
def Document.Reordered (documents others : List Document) : Prop :=
  ∃ shuffled, documents.Perm shuffled ∧ List.Forall₂ (fun document other =>
    document.file = other.file ∧ document.declarations.Perm other.declarations) shuffled others

open Lowering in
theorem Document.Reordered.perm {documents others : List Document}
    (reordered : Reordered documents others) :
    (declarationsOf documents).Perm (declarationsOf others) := by
  obtain ⟨shuffled, perm, each⟩ := reordered
  refine (perm.flatMap_right _).trans ?_
  clear perm
  induction each with
  | nil => exact .refl _
  | @cons document other _ _ same _ ih =>
    unfold declarationsOf at *
    rw [List.flatMap_cons, List.flatMap_cons, same.1]
    exact (same.2.map _).append ih

open Lowering in
/-- Documents are accepted in every order or in none; and if no name is declared in two files, every
declaration has a schema, the same one in every order. -/
theorem Generator.generate_reordered {documents others : List Document}
    (reordered : Document.Reordered documents others) (once : OneFileEach documents)
    (none : NoCollisions documents) :
    ((∃ g, ShapeGraph.ofDocuments documents = .ok g) ↔
        ∃ h, ShapeGraph.ofDocuments others = .ok h) ∧
      ∀ g h, ShapeGraph.ofDocuments documents = .ok g → ShapeGraph.ofDocuments others = .ok h →
        ∀ rules options,
          (∀ a ∈ declarationsOf documents, ∃ schema stats,
            (new g rules options).generate (ShapeId.declaration a.1 a.2.name)
              = .ok (schema, stats)) ∧
          ∀ id, (new g rules options).generate id = (new h rules options).generate id := by
  have perm := reordered.perm
  refine ⟨?_, fun g h accepted accepted' rules options => ⟨fun a member => ?_, fun id => ?_⟩⟩
  · rw [ShapeGraph.exists_ofDocuments_iff, ShapeGraph.exists_ofDocuments_iff,
      (perm.map _).nodup_iff]
  · exact ⟨_, _, generate_eq_ok (ShapeGraph.declaration?_of_mem accepted none member)⟩
  · have agree := agree_new (ShapeGraph.agree_of_perm accepted accepted' once none perm)
      (ShapeGraph.filed_ofDocuments accepted) (ShapeGraph.filed_ofDocuments accepted') rules options
    exact agree.generate_eq (ShapeGraph.filed_ofDocuments accepted) trivial

/-- Two types of different files that are defined through each other, and a type apart. -/
def Document.loop : List Document := [
  ⟨"a", [⟨"P", .typeAlias, true, [], .array (.ref "Q" [])⟩]⟩,
  ⟨"b", [⟨"Q", .typeAlias, true, [], .ref "P" []⟩,
    ⟨"R", .interface, false, [], .primitive .string⟩]⟩]

/-- The same types, the last one first. -/
def Document.loopBackwards : List Document := [
  ⟨"b", [⟨"R", .interface, false, [], .primitive .string⟩,
    ⟨"Q", .typeAlias, true, [], .ref "P" []⟩]⟩,
  ⟨"a", [⟨"P", .typeAlias, true, [], .array (.ref "Q" [])⟩]⟩]

theorem Document.reordered_loop : Reordered loop loopBackwards :=
  ⟨_, .swap _ _ _, .cons ⟨rfl, .swap _ _ _⟩ (.cons ⟨rfl, .refl _⟩ .nil)⟩

open Lowering in
theorem Generator.generate_reordered_loop :
    OneFileEach Document.loop ∧ NoCollisions Document.loop ∧
      ∃ g h, ShapeGraph.ofDocuments Document.loop = .ok g ∧
        ShapeGraph.ofDocuments Document.loopBackwards = .ok h ∧
        ∀ id, (new g .empty {}).generate id = (new h .empty {}).generate id := by
  have once : OneFileEach Document.loop := by decide
  have none : NoCollisions Document.loop := by decide +kernel
  obtain ⟨same, schemas⟩ := generate_reordered Document.reordered_loop once none
  obtain ⟨g, accepted⟩ : ∃ g, ShapeGraph.ofDocuments Document.loop = .ok g :=
    ShapeGraph.exists_ofDocuments_iff.mpr (by decide)
  obtain ⟨h, accepted'⟩ := same.mp ⟨g, accepted⟩
  exact ⟨once, none, g, h, accepted, accepted', (schemas g h accepted accepted' .empty {}).2⟩

end Schemata
