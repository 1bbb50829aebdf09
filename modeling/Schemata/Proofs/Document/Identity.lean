import Schemata.Proofs.Document.Faithful
import Schemata.Proofs.Shape.Fingerprint

/-!
# What ids tell apart

The id of an anonymous shape is a digest of its file, its declaration and its canonical text.  If
digests do not collide, plain shapes of one declaration have one id if and only if they are alike,
and each of them is found under its id: after any steps that make a graph, and in the graph of any
documents.  A shape that is not plain shares its text with another one, so the two have one id.

## Main definitions

* `ShapeGraph.Undisturbed` : the ids of interned shapes are used for nothing else.

## Main results

* `ShapeGraph.Undisturbed.exists_alike`, `ShapeGraph.exists_alike_of_mem_shapesOf` : a shape is
  found under its id.
* `ShapeGraph.canonical_identifies` : what canonical texts, ids and fingerprints tell apart.
-/

namespace Schemata

/-! ### Interned shapes -/

namespace ShapeGraph

/-- The ids of interned shapes are used for nothing else: they are not defined, and different parts
have different ids. -/
structure Undisturbed (steps : List Step) : Prop where
  undefined : ∀ id defined file context shape, .define id defined ∈ steps →
    .intern file context shape ∈ steps → id ≠ ShapeId.node file context shape.canonical
  apart : ∀ file context shape file' context' shape', .intern file context shape ∈ steps →
    .intern file' context' shape' ∈ steps →
      ShapeId.ofParts (ShapeId.nodeParts file context shape.canonical)
        = ShapeId.ofParts (ShapeId.nodeParts file' context' shape'.canonical) →
        ShapeId.nodeParts file context shape.canonical
          = ShapeId.nodeParts file' context' shape'.canonical

namespace Undisturbed

variable {steps : List Step} {file context : String} {s : Shape}

theorem canonical_eq (undisturbed : Undisturbed steps) (member : .intern file context s ∈ steps)
    {file' context' : String} {t : Shape} (member' : .intern file' context' t ∈ steps)
    (same : ShapeId.node file context s.canonical = ShapeId.node file' context' t.canonical) :
    s.canonical = t.canonical :=
  Lowering.canonical_eq_of_nodeParts_eq (undisturbed.apart _ _ _ _ _ _ member member' same)

/-- Plain shapes of one declaration have the same id if and only if they are alike. -/
theorem node_eq_iff (undisturbed : Undisturbed steps) (member : .intern file context s ∈ steps)
    {t : Shape} (member' : .intern file context t ∈ steps) (hs : s.Plain) (ht : t.Plain) :
    ShapeId.node file context s.canonical = ShapeId.node file context t.canonical
      ↔ s.Alike t := by
  rw [← Shape.canonical_eq_iff hs ht]
  exact ⟨undisturbed.canonical_eq member member', fun same => by rw [same]⟩

/-- An interned shape is found under its id, up to numbers that are written alike. -/
theorem exists_alike (undisturbed : Undisturbed steps)
    (plain : ∀ file context shape, .intern file context shape ∈ steps → shape.Plain)
    (member : .intern file context s ∈ steps) :
    ∃ kept, (build steps).shape? (ShapeId.node file context s.canonical) = some kept ∧
      kept.Alike s := by
  have some : ((build steps).shape? (ShapeId.node file context s.canonical)).isSome :=
    (isSome_shape?_build _ _).mpr ⟨_, member, s, rfl, rfl⟩
  obtain ⟨kept, found⟩ := Option.isSome_iff_exists.mp some
  refine ⟨kept, found, ?_⟩
  obtain ⟨step, member', puts⟩ := exists_puts_of_shape?_build found
  cases step with
  | declare => exact absurd puts id
  | define id defined => exact absurd puts.1 (undisturbed.undefined _ _ _ _ _ member' member)
  | intern file' context' t =>
    obtain ⟨same, rfl⟩ := puts
    exact Shape.alike_of_canonical_eq (plain _ _ _ member') (plain _ _ _ member)
      (undisturbed.canonical_eq member' member same)

end Undisturbed

/-! ### Lowered shapes -/

section Lowered

open Lowering

variable {documents : List Document} {g : ShapeGraph} {a : String × SourceDeclaration}

/-- A shape of the documents is found under its id, up to numbers that are written alike. -/
theorem exists_alike_of_mem_shapesOf (h : ofDocuments documents = .ok g)
    (none : NoCollisions documents)
    (plain : ∀ a ∈ declarationsOf documents, ∀ e ∈ shapesOf documents a, e.2.Plain)
    (ha : a ∈ declarationsOf documents) {e : ShapeId × Shape} (member : e ∈ shapesOf documents a) :
    ∃ kept, g.shape? e.1 = some kept ∧ kept.Alike e.2 := by
  have some := isSome_shape?_of_mem_idsOf h ha (List.mem_map_of_mem member)
  obtain ⟨kept, found⟩ := Option.isSome_iff_exists.mp some
  obtain ⟨b, hb, listed⟩ := mem_shapesOf_of_shape? h found
  exact ⟨kept, found, Shape.alike_of_canonical_eq (plain b hb _ listed) (plain a ha e member)
    (canonical_eq_of_mem_shapesOf h none hb ha listed member)⟩

/-- Anonymous plain shapes of a declaration have the same id if and only if they are alike. -/
theorem id_eq_iff_of_mem_shapes (none : NoCollisions documents)
    (ha : a ∈ declarationsOf documents) {e e' : ShapeId × Shape}
    (member : e ∈ (loweredIn documents a).shapes) (member' : e' ∈ (loweredIn documents a).shapes)
    (plain : e.2.Plain) (plain' : e'.2.Plain) : e.1 = e'.1 ↔ e.2.Alike e'.2 := by
  obtain ⟨parts, ids⟩ := node_of_mem_shapes member
  obtain ⟨parts', ids'⟩ := node_of_mem_shapes member'
  rw [← Shape.canonical_eq_iff plain plain', ids, ids']
  exact ⟨fun same => canonical_eq_of_nodeParts_eq (none a ha a ha _ parts _ parts' same),
    fun same => by rw [same]⟩

end Lowered

/-! ### Shapes, ids and fingerprints -/

open Lowering in
/-- Canonical texts identify plain shapes, up to numbers that are written alike.  So if digests do
not collide, interning and lowering merge plain shapes of a declaration if and only if they are
alike, and keep each of them under its id if all shapes are plain; and a fingerprint stays the same
if and only if the part of the graph that it covers does. -/
theorem canonical_identifies {s t : Shape} (hs : s.Plain) (ht : t.Plain) :
    (s.canonical = t.canonical ↔ s.Alike t) ∧
    (∀ steps file context, Undisturbed steps →
      .intern file context s ∈ steps → .intern file context t ∈ steps →
      (((build steps).intern file context s).2 = ((build steps).intern file context t).2
        ↔ s.Alike t) ∧
      ((∀ file context shape, .intern file context shape ∈ steps → shape.Plain) →
        ∃ kept, (build steps).shape? ((build steps).intern file context s).2 = some kept ∧
          kept.Alike s)) ∧
    (∀ documents g a i j, ofDocuments documents = .ok g → NoCollisions documents →
      a ∈ declarationsOf documents →
      (i, s) ∈ (loweredIn documents a).shapes → (j, t) ∈ (loweredIn documents a).shapes →
      (i = j ↔ s.Alike t) ∧
      ((∀ b ∈ declarationsOf documents, ∀ e ∈ shapesOf documents b, e.2.Plain) →
        ∃ kept, g.shape? i = some kept ∧ kept.Alike s)) ∧
    ∀ (g h : ShapeGraph) (id : ShapeId), g.PrintedBelow id → h.PrintedBelow id →
      (g.fingerprint id = h.fingerprint id → g.digested id = h.digested id) →
      (g.fingerprint id = h.fingerprint id ↔ g.LikeBelow h id) := by
  refine ⟨Shape.canonical_eq_iff hs ht, ?_, ?_, ?_⟩
  · intro steps file context undisturbed member member'
    exact ⟨undisturbed.node_eq_iff member member' hs ht,
      fun plain => undisturbed.exists_alike plain member⟩
  · intro documents g a i j accepted none ha member member'
    exact ⟨id_eq_iff_of_mem_shapes none ha member member' hs ht, fun plain =>
      exists_alike_of_mem_shapesOf accepted none plain ha (List.mem_append_left _ member)⟩
  · intro g h id hg hh apart
    rw [← digested_eq_iff hg hh]
    exact ⟨apart, fingerprint_eq_of_digested_eq⟩

end ShapeGraph

/-! ### Two zeros and a type parameter -/

namespace Shape

/-- The literal type of zero. -/
def zero : Shape :=
  .literal (.number ⟨0⟩)

/-- The literal type of the other zero. -/
def negativeZero : Shape :=
  .literal (.number ⟨0x8000000000000000⟩)

/-- A type with a parameter. -/
def box : Shape :=
  .generic ["T"] ⟨1⟩

theorem negativeZero_alike_zero : negativeZero.Alike zero :=
  (by decide +kernel : (⟨0x8000000000000000⟩ : Double).toSource = (⟨0⟩ : Double).toSource)

end Shape

namespace ShapeGraph

/-- The making of a graph in which one declaration has these three shapes. -/
def zerosAndBox : List Step :=
  [.declare "a" "A" .typeAlias true, .intern "a" "A" .zero, .intern "a" "A" .negativeZero,
    .intern "a" "A" .box]

theorem mem_zerosAndBox {file context : String} {shape : Shape}
    (member : .intern file context shape ∈ zerosAndBox) :
    file = "a" ∧ context = "A" ∧ (shape = .zero ∨ shape = .negativeZero ∨ shape = .box) := by
  simp only [zerosAndBox, List.mem_cons, Step.intern.injEq, reduceCtorEq, List.not_mem_nil,
    false_or, or_false] at member
  rcases member with ⟨rfl, rfl, rfl⟩ | ⟨rfl, rfl, rfl⟩ | ⟨rfl, rfl, rfl⟩ <;> simp

theorem undisturbed_zerosAndBox : Undisturbed zerosAndBox where
  undefined := by simp [zerosAndBox]
  apart := by
    let zeroParts := ShapeId.nodeParts "a" "A" Shape.zero.canonical
    let boxParts := ShapeId.nodeParts "a" "A" Shape.box.canonical
    have different : ShapeId.ofParts zeroParts ≠ ShapeId.ofParts boxParts := by decide +kernel
    have parts {file context : String} {shape : Shape}
        (member : .intern file context shape ∈ zerosAndBox) :
        ShapeId.nodeParts file context shape.canonical ∈ [zeroParts, boxParts] := by
      obtain ⟨rfl, rfl, rfl | rfl | rfl⟩ := mem_zerosAndBox member
      · exact List.mem_cons_self
      · rw [Shape.negativeZero_alike_zero.canonical_eq]
        exact List.mem_cons_self
      · exact List.mem_cons_of_mem _ List.mem_cons_self
    intro file context s file' context' t member member' same
    have first := parts member
    have second := parts member'
    simp only [List.mem_cons, List.not_mem_nil, or_false] at first second
    rcases first with h | h <;> rcases second with h' | h' <;> rw [h, h'] at same ⊢
    · exact absurd same different
    · exact absurd same.symm different

/-- A declaration with both zeros. -/
def zerosDeclaration : SourceDeclaration :=
  ⟨"A", .typeAlias, true, [], .tuple [.literal (.int 0), .literal (.float ⟨0x8000000000000000⟩)]⟩

/-- A document with this declaration. -/
def zeros : List Document :=
  [⟨"a", [zerosDeclaration]⟩]

/-- The graph with one shape, under the first id. -/
def single (shape : Shape) : ShapeGraph :=
  empty.define ⟨0⟩ shape

theorem printedBelow_single {shape : Shape} (plain : shape.Plain)
    (free : '\x00' ∉ shape.canonical.toList) : (single shape).PrintedBelow ⟨0⟩ := by
  intro found _ other has
  rw [Option.mem_def, single, shape?, define, OrderedMap.get?_insert] at has
  split at has
  · rw [← Option.some.inj has]
    exact ⟨plain, free⟩
  · cases has

open Lowering in
/-- Both zeros have one id and the other shape has another, in a graph that is made step by step and
in the graph of a document.  A declaration that is edited from one to the other changes its
fingerprint. -/
theorem canonical_identifies_zeros :
    Undisturbed zerosAndBox ∧
    ((build zerosAndBox).intern "a" "A" .negativeZero).2
      = ((build zerosAndBox).intern "a" "A" .zero).2 ∧
    ((build zerosAndBox).intern "a" "A" .zero).2 ≠ ((build zerosAndBox).intern "a" "A" .box).2 ∧
    (∃ g id, ofDocuments zeros = .ok g ∧ NoCollisions zeros ∧
      (id, .negativeZero) ∈ (loweredIn zeros ("a", zerosDeclaration)).shapes ∧
      (id, .zero) ∈ (loweredIn zeros ("a", zerosDeclaration)).shapes ∧
      ∃ kept, g.shape? id = some kept ∧ kept.Alike .negativeZero) ∧
    (single .zero).PrintedBelow ⟨0⟩ ∧ (single .box).PrintedBelow ⟨0⟩ ∧
    (single .zero).fingerprint ⟨0⟩ ≠ (single .box).fingerprint ⟨0⟩ ∧
    ¬ (single .zero).LikeBelow (single .box) ⟨0⟩ := by
  have plainZero : Shape.zero.Plain := by decide
  have plainBox : Shape.box.Plain := by decide
  have plainNegativeZero : Shape.negativeZero.Plain := by decide
  obtain ⟨-, zerosIntern, zerosLower, -⟩ := canonical_identifies plainNegativeZero plainZero
  obtain ⟨-, boxIntern, -, fingerprints⟩ := canonical_identifies plainZero plainBox
  refine ⟨undisturbed_zerosAndBox, ?_, fun same => ?_, ?_, ?_⟩
  · have ids := (zerosIntern zerosAndBox "a" "A" undisturbed_zerosAndBox (by simp [zerosAndBox])
      (by simp [zerosAndBox])).1
    exact ids.mpr Shape.negativeZero_alike_zero
  · have ids := (boxIntern zerosAndBox "a" "A" undisturbed_zerosAndBox (by simp [zerosAndBox])
      (by simp [zerosAndBox])).1
    exact absurd (show Shape.zero = .box from ids.mp same) (by decide)
  · have none : NoCollisions zeros := by decide +kernel
    have plain : ∀ a ∈ declarationsOf zeros, ∀ e ∈ shapesOf zeros a, e.2.Plain := by
      decide +kernel
    have listed : (loweredIn zeros ("a", zerosDeclaration)).shapes.map Prod.snd
        = [.zero, .negativeZero] := by
      decide +kernel
    obtain ⟨⟨j, _⟩, second, rfl⟩ := List.mem_map.mp (listed ▸ List.mem_cons_self)
    obtain ⟨⟨i, _⟩, first, rfl⟩ :=
      List.mem_map.mp (listed ▸ List.mem_cons_of_mem _ List.mem_cons_self)
    obtain ⟨ids, kept⟩ := zerosLower zeros _ ("a", zerosDeclaration) i j rfl none
      List.mem_cons_self first second
    obtain rfl := ids.mpr Shape.negativeZero_alike_zero
    exact ⟨_, i, rfl, none, first, second, kept plain⟩
  · have printed : (single .zero).PrintedBelow ⟨0⟩ :=
      printedBelow_single plainZero (by decide +kernel)
    have printed' : (single .box).PrintedBelow ⟨0⟩ :=
      printedBelow_single plainBox (by decide +kernel)
    have edited : (single .zero).fingerprint ⟨0⟩ ≠ (single .box).fingerprint ⟨0⟩ := by
      decide +kernel
    have same := fingerprints _ _ _ printed printed' fun same => absurd same edited
    exact ⟨printed, printed', edited, (not_congr same).mp edited⟩

end ShapeGraph

/-! ### Names that are not told apart -/

namespace Shape

/-- A function whose parameter is called `x?`. -/
def asking : Shape :=
  .function .function [⟨"x?", ⟨1⟩, false⟩] ⟨2⟩

/-- A function whose parameter `x` is optional. -/
def optional : Shape :=
  .function .function [⟨"x", ⟨1⟩, true⟩] ⟨2⟩

/-- A type with a parameter, around another one. -/
def outer : Shape :=
  .generic ["T"] ⟨0x4141414141414141⟩

/-- A type with a parameter whose name is what follows in a fingerprint of the other two. -/
def flat : Shape :=
  .generic ["T>(4141414141414141)\x00AAAAAAAAgeneric<U"] ⟨2⟩

end Shape

namespace ShapeGraph

/-- A shape that is not plain has the text of a shape that is not alike.  A question mark in a name
is taken for the mark of an optional parameter: the second function of a declaration is lost, and a
declaration that is edited from one to the other keeps its fingerprint.  With a NUL in the name of a
plain shape, a declaration keeps its fingerprint, too. -/
theorem canonical_confuses :
    (∀ s : Shape, ¬ s.Plain → ∃ t : Shape, t.canonical = s.canonical ∧ ¬ t.Alike s) ∧
    Shape.asking.canonical = Shape.optional.canonical ∧ ¬ Shape.asking.Alike .optional ∧
    (∀ file context, (build [.intern file context .asking, .intern file context .optional]).shape?
      (empty.intern file context .optional).2 = some .asking) ∧
    (single .asking).fingerprint ⟨0⟩ = (single .optional).fingerprint ⟨0⟩ ∧
    ¬ (single .asking).LikeBelow (single .optional) ⟨0⟩ ∧
    Shape.outer.Plain ∧ Shape.flat.Plain ∧
    ((single .outer).define ⟨0x4141414141414141⟩ (.generic ["U"] ⟨2⟩)).fingerprint ⟨0⟩
      = (single .flat).fingerprint ⟨0⟩ ∧
    ¬ ((single .outer).define ⟨0x4141414141414141⟩ (.generic ["U"] ⟨2⟩)).LikeBelow (single .flat)
      ⟨0⟩ := by
  have canonical : Shape.asking.canonical = Shape.optional.canonical := by decide +kernel
  have apart : ¬ Shape.asking.Alike .optional := fun alike =>
    absurd (show Shape.asking = .optional from alike) (by decide)
  refine ⟨fun _ => Shape.exists_twin, canonical, apart, fun file context => ?_,
    fingerprint_eq_of_digested_eq (by decide +kernel), fun like => ?_, by decide, by decide,
    fingerprint_eq_of_digested_eq (by decide +kernel), fun like => ?_⟩
  · have new (id : ShapeId) : id ∉ empty.shapes.keys := List.not_mem_nil
    simp [build, after, intern, shape?, OrderedMap.get?_insertNew, OrderedMap.keys_insertNew,
      canonical, new]
  · have rel : Option.Rel Shape.Alike (some .asking) (some .optional) :=
      (like ⟨0⟩ (mem_reachable_of_mem _ List.mem_cons_self)).1
    cases rel with
    | some alike => exact apart alike
  · have rel : Option.Rel Shape.Alike (some .outer) (some .flat) :=
      (like ⟨0⟩ (mem_reachable_of_mem _ List.mem_cons_self)).1
    cases rel with
    | some alike => exact absurd (show Shape.outer = .flat from alike) (by decide)

end ShapeGraph

end Schemata
