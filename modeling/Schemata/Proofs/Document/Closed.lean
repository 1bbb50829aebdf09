import Schemata.Proofs.Document.Faithful
import Schemata.Proofs.Schema.Fallbacks

/-!
# The graphs of documents are closed

Lowering gives every type expression an id with a shape, takes the parts of an expression before the
expression, and makes a type parameter of a name only inside a binder of the name.  So the graph of
documents is closed, unless a type parameter or a per-key transform is written as such.  Shapes are
shared by their text, also between scopes; what is shared is closed in each of them.

## Main definitions

* `SourceType.isPlain` : a type expression without explicit type parameters and per-key transforms.
* `ShapeGraph.Outlines` : the graph has a shape of the same outline.
* `Lowering.Closes` : a type expression is lowered to a closed shape.

## Main results

* `Lowering.lowerShape_closes` : one type expression.
* `ShapeGraph.closedShape_of_mem` : all declarations.
* `ShapeGraph.diagnostics_ofDocuments` : what is reported in the schemas of documents.
-/

namespace Schemata

mutual

/-- No type parameter is written as such, and nothing is mapped key by key. -/
def SourceType.isPlain (type : SourceType) : Bool :=
  match type with
  | .primitive _ => true
  | .literal _ => true
  | .array element => element.isPlain
  | .tuple elements => arePlain elements
  | .object fields => arePlainFields fields
  | .union members => arePlain members
  | .intersection members => arePlain members
  | .generic _ body => body.isPlain
  | .param _ => false
  | .mapped source transform => source.isPlain && transform.isPlain
  | .ref _ args => arePlain args
  | .function _ params returns => arePlainParams params && returns.isPlain
  | .refined base _ => base.isPlain
  | .unsupported _ => true

/-- The same over a list. -/
def arePlain (types : List SourceType) : Bool :=
  match types with
  | [] => true
  | type :: rest => type.isPlain && arePlain rest

/-- The same over fields. -/
def arePlainFields (fields : List SourceField) : Bool :=
  match fields with
  | [] => true
  | .mk _ _ _ type :: rest => type.isPlain && arePlainFields rest

/-- The same over parameters. -/
def arePlainParams (params : List SourceParam) : Bool :=
  match params with
  | [] => true
  | .mk _ _ type :: rest => type.isPlain && arePlainParams rest

/-- The same in a transform. -/
def SourceTransform.isPlain (transform : SourceTransform) : Bool :=
  match transform with
  | .record value => value.isPlain
  | .perKey _ _ => false
  | .toPartial | .toRequired | .pick _ | .omit _ | .toReadonly => true

end

/-! ### Shapes of the same outline -/

namespace Shape

@[simp]
theorem children_outline (s : Shape) : s.outline.children = s.children := by
  cases s <;> rfl

@[simp]
theorem binds_outline (s : Shape) : s.outline.binds = s.binds := by
  cases s <;> rfl

@[simp]
theorem settled_outline (s : Shape) (scope : List String) :
    s.outline.Settled scope ↔ s.Settled scope := by
  cases s <;> rfl

end Shape

namespace ShapeGraph

variable {g : ShapeGraph} {scope : List String} {id : ShapeId} {shape stored : Shape}

/-- The graph has a shape of the same outline at an id. -/
def Outlines (g : ShapeGraph) (e : ShapeId × Shape) : Prop :=
  ∃ stored, g.shape? e.1 = some stored ∧ stored.outline = e.2.outline

theorem closedShape_outline_iff :
    g.ClosedShape scope shape.outline ↔ g.ClosedShape scope shape := by
  constructor
  · rintro ⟨settled, children⟩
    exact ⟨by simpa using settled, by simpa using children⟩
  · rintro ⟨settled, children⟩
    exact ⟨by simpa using settled, by simpa using children⟩

theorem ClosedShape.of_outline_eq (closed : g.ClosedShape scope shape)
    (same : stored.outline = shape.outline) : g.ClosedShape scope stored :=
  closedShape_outline_iff.mp (same ▸ closedShape_outline_iff.mpr closed)

/-- An id with a shape of the outline of a closed shape is closed. -/
theorem Outlines.closed (outlines : g.Outlines (id, shape)) (closed : g.ClosedShape scope shape) :
    g.Closed scope id := by
  obtain ⟨stored, found, same⟩ := outlines
  have closed := closed.of_outline_eq same
  exact .shape found closed.settled closed.children

/-- A shape that binds no type parameters is closed if its children are. -/
theorem ClosedShape.of_children (settled : shape.Settled scope) (none : shape.binds = [])
    (children : ∀ child ∈ shape.children, g.Closed scope child) : g.ClosedShape scope shape :=
  ⟨settled, fun child listed => by simpa [none] using children child listed⟩

end ShapeGraph

namespace Lowering

open Lowered

variable {g : ShapeGraph}

/-- Lowering gives a result with a property, if the graph has shapes of the outlines that were
met. -/
abbrev Gives {α : Type} (g : ShapeGraph) (t : Lowered α) (post : α → Prop) : Prop :=
  t.Yields (fun _ => True) g.Outlines (fun _ => True) post

/-- A type expression is lowered to a closed shape. -/
abbrev Closes (g : ShapeGraph) (scope : List String) (t : Lowered Shape) : Prop :=
  Gives g t (g.ClosedShape scope)

theorem Closes.named {scope : List String} {t : Lowered Shape} (ht : Closes g scope t)
    (place : Place) : Gives g (t.named place) (g.Closed scope) := by
  refine Yields.bind ht fun shape _ => ⟨fun _ _ _ _ => trivial, trivial, fun kept closed => ?_⟩
  exact (kept _ List.mem_cons_self).closed closed

theorem closes_leaf {scope : List String} {shape : Shape} (settled : shape.Settled scope)
    (none : shape.children = []) : Closes g scope (pure shape) :=
  yields_pure trivial ⟨settled, by simp [none]⟩

/-! ### Type expressions -/

section Expressions

theorem lowerList_closes {place : Place} {types : List SourceType}
    (h : ∀ type ∈ types, Closes g place.bound (lowerShape place type)) :
    Gives g (lowerList place types) fun ids => ∀ id ∈ ids, g.Closed place.bound id := by
  induction types with
  | nil =>
    rw [lowerList]
    exact yields_pure trivial fun _ member => absurd member List.not_mem_nil
  | cons type rest ih =>
    rw [lowerList]
    refine ((h type List.mem_cons_self).named place).bind fun id _ => ?_
    refine (ih fun other member => h other (List.mem_cons_of_mem _ member)).bind fun ids _ => ?_
    exact yields_pure trivial fun hids hid => List.forall_mem_cons.mpr ⟨hid, hids⟩

/-- A built-in utility type is closed if its arguments are. -/
theorem lowerUtility_closes {place : Place} (name : String) {args : List SourceType}
    (h : ∀ type ∈ args, Closes g place.bound (lowerShape place type)) :
    Closes g place.bound (lowerUtility place name args) := by
  have single (type : SourceType) (member : type ∈ args) (shape : ShapeId → Shape)
      (settled : ∀ id, (shape id).Settled place.bound) (none : ∀ id, (shape id).binds = [])
      (one : ∀ id, (shape id).children = [id]) :
      Closes g place.bound (do
        let id ← (lowerShape place type).named place
        pure (shape id)) := by
    refine ((h type member).named place).bind fun id _ => yields_pure trivial fun closed => ?_
    exact .of_children (settled id) (none id) (by simpa [one] using closed)
  unfold lowerUtility
  split
  · exact single _ List.mem_cons_self _ (fun _ => trivial) (fun _ => rfl) fun _ => rfl
  · exact single _ List.mem_cons_self _ (fun _ => trivial) (fun _ => rfl) fun _ => rfl
  · exact closes_leaf trivial rfl
  · exact single _ List.mem_cons_self _ (fun _ => trivial) (fun _ => rfl) fun _ => rfl
  · exact single _ List.mem_cons_self _ (fun _ => trivial) (fun _ => rfl) fun _ => rfl
  · exact single _ List.mem_cons_self _ (fun _ => trivial) (fun _ => rfl) fun _ => rfl
  · rename_i key value
    refine ((h key List.mem_cons_self).named place).bind fun key _ => ?_
    refine ((h value (by simp)).named place).bind fun value _ => ?_
    refine yields_pure trivial fun hvalue hkey => .of_children trivial rfl ?_
    simp [Shape.children, Transform.children, hkey, hvalue]
  · split
    · exact single _ List.mem_cons_self _ (fun _ => trivial) (fun _ => rfl) fun _ => rfl
    · exact closes_leaf trivial rfl
  · split
    · exact single _ List.mem_cons_self _ (fun _ => trivial) (fun _ => rfl) fun _ => rfl
    · exact closes_leaf trivial rfl
  · exact closes_leaf trivial rfl

mutual

/-- A plain type expression is lowered to a shape that is closed in its scope. -/
theorem lowerShape_closes {place : Place} (known : place.Resolves (g.isDeclared ·)) :
    (type : SourceType) → type.isPlain → Closes g place.bound (lowerShape place type)
  | .primitive _, _ | .unsupported _, _ => by
    rw [lowerShape]
    exact closes_leaf trivial rfl
  | .literal value, _ => by
    rw [lowerShape, literalShape]
    split <;> exact closes_leaf trivial rfl
  | .array element, plain | .refined element _, plain => by
    rw [SourceType.isPlain] at plain
    rw [lowerShape]
    refine ((lowerShape_closes known element plain).named place).bind fun id _ => ?_
    exact yields_pure trivial fun hid =>
      .of_children trivial rfl (List.forall_mem_singleton.mpr hid)
  | .tuple types, plain | .union types, plain | .intersection types, plain => by
    rw [SourceType.isPlain] at plain
    rw [lowerShape]
    refine (lowerList_closes (lowerShape_closes_of_mem known types plain)).bind fun ids _ => ?_
    exact yields_pure trivial fun hids => .of_children trivial rfl hids
  | .object fields, plain => by
    rw [SourceType.isPlain] at plain
    rw [lowerShape]
    refine (lowerFields_closes known fields plain).bind fun fields _ => ?_
    exact yields_pure trivial fun hfields => .of_children trivial rfl hfields
  | .generic params body, plain => by
    rw [SourceType.isPlain] at plain
    rw [lowerShape]
    have bound : (place.bind params).Resolves (g.isDeclared ·) := known
    have inner : Closes g (params ++ place.bound) (lowerShape (place.bind params) body) :=
      lowerShape_closes bound body plain
    refine (inner.named place).bind fun id _ => yields_pure trivial fun hid => ⟨trivial, ?_⟩
    refine List.forall_mem_singleton.mpr (hid.mono ?_)
    exact List.append_subset.mpr ⟨List.subset_append_right _ _, List.subset_append_left _ _⟩
  | .param _, plain => by
    rw [SourceType.isPlain] at plain
    cases plain
  | .mapped source transform, plain => by
    rw [SourceType.isPlain, Bool.and_eq_true] at plain
    rw [lowerShape]
    refine ((lowerShape_closes known source plain.1).named place).bind fun source _ => ?_
    refine (lowerTransform_closes known transform plain.2).bind fun transform _ => ?_
    exact yields_pure trivial fun htransform hsource => htransform source hsource
  | .ref name args, plain => by
    rw [SourceType.isPlain] at plain
    have each := lowerShape_closes_of_mem known args plain
    rw [lowerShape]
    split
    · rename_i bound
      rw [Bool.and_eq_true] at bound
      exact closes_leaf (List.contains_iff_mem.mp bound.2) rfl
    · split
      · rename_i target found
        refine (lowerList_closes each).bind fun ids _ => ?_
        refine yields_pure trivial fun hids => .of_children trivial rfl ?_
        exact List.forall_mem_cons.mpr ⟨.declared (known name target found), hids⟩
      · exact lowerUtility_closes name each
  | .function kind params returns, plain => by
    rw [SourceType.isPlain, Bool.and_eq_true] at plain
    rw [lowerShape]
    refine (lowerParams_closes known params plain.1).bind fun params _ => ?_
    refine ((lowerShape_closes known returns plain.2).named place).bind fun returns _ => ?_
    refine yields_pure trivial fun hreturns hparams => .of_children trivial rfl ?_
    exact List.forall_mem_append.mpr ⟨hparams, List.forall_mem_singleton.mpr hreturns⟩

theorem lowerShape_closes_of_mem {place : Place} (known : place.Resolves (g.isDeclared ·)) :
    (types : List SourceType) → arePlain types →
      ∀ type ∈ types, Closes g place.bound (lowerShape place type)
  | [], _ => fun _ member => absurd member List.not_mem_nil
  | type :: rest, plain => by
    rw [arePlain, Bool.and_eq_true] at plain
    exact List.forall_mem_cons.mpr ⟨lowerShape_closes known type plain.1,
      lowerShape_closes_of_mem known rest plain.2⟩

theorem lowerFields_closes {place : Place} (known : place.Resolves (g.isDeclared ·)) :
    (fields : List SourceField) → arePlainFields fields →
      Gives g (lowerFields place fields) fun fields =>
        ∀ id ∈ fields.map Field.type, g.Closed place.bound id
  | [], _ => by
    rw [lowerFields]
    exact yields_pure trivial fun _ member => absurd member List.not_mem_nil
  | .mk _ _ _ type :: rest, plain => by
    rw [arePlainFields, Bool.and_eq_true] at plain
    rw [lowerFields]
    refine ((lowerShape_closes known type plain.1).named place).bind fun id _ => ?_
    refine (lowerFields_closes known rest plain.2).bind fun fields _ => ?_
    exact yields_pure trivial fun hfields hid => List.forall_mem_cons.mpr ⟨hid, hfields⟩

theorem lowerParams_closes {place : Place} (known : place.Resolves (g.isDeclared ·)) :
    (params : List SourceParam) → arePlainParams params →
      Gives g (lowerParams place params) fun params =>
        ∀ id ∈ params.map Param.type, g.Closed place.bound id
  | [], _ => by
    rw [lowerParams]
    exact yields_pure trivial fun _ member => absurd member List.not_mem_nil
  | .mk _ _ type :: rest, plain => by
    rw [arePlainParams, Bool.and_eq_true] at plain
    rw [lowerParams]
    refine ((lowerShape_closes known type plain.1).named place).bind fun id _ => ?_
    refine (lowerParams_closes known rest plain.2).bind fun params _ => ?_
    exact yields_pure trivial fun hparams hid => List.forall_mem_cons.mpr ⟨hid, hparams⟩

theorem lowerTransform_closes {place : Place} (known : place.Resolves (g.isDeclared ·)) :
    (transform : SourceTransform) → transform.isPlain →
      Gives g (lowerTransform place transform) fun transform =>
        ∀ source, g.Closed place.bound source → g.ClosedShape place.bound (.mapped source transform)
  | .toPartial, _ | .toRequired, _ | .pick _, _ | .omit _, _ | .toReadonly, _ => by
    rw [lowerTransform]
    exact yields_pure trivial fun source closed =>
      .of_children trivial rfl (List.forall_mem_singleton.mpr closed)
  | .record value, plain => by
    rw [SourceTransform.isPlain] at plain
    rw [lowerTransform]
    refine ((lowerShape_closes known value plain).named place).bind fun value _ => ?_
    refine yields_pure trivial fun hvalue source closed => .of_children trivial rfl ?_
    simp [Shape.children, Transform.children, closed, hvalue]
  | .perKey _ _, plain => by
    rw [SourceTransform.isPlain] at plain
    cases plain

end

/-- A plain declaration is lowered to a closed shape. -/
theorem lowerDeclaration_closes {place : Place} {d : SourceDeclaration} (plain : d.type.isPlain)
    (known : place.Resolves (g.isDeclared ·)) :
    Closes g place.bound (lowerDeclaration place d) := by
  unfold lowerDeclaration
  split
  · exact lowerShape_closes known d.type plain
  · have generic := lowerShape_closes known (.generic d.params d.type)
      (by rwa [SourceType.isPlain])
    rw [lowerShape] at generic
    exact generic

end Expressions

end Lowering

/-! ### Graphs -/

namespace ShapeGraph

open Lowering

variable {documents : List Document} {g : ShapeGraph} {a : String × SourceDeclaration}

theorem outlines_of_mem_shapesOf (h : ofDocuments documents = .ok g)
    (none : NoCollisions documents)
    (identifiers : ∀ name, .name name ∈ detailsOf documents → IsIdentifier name)
    (ha : a ∈ declarationsOf documents) {e : ShapeId × Shape} (member : e ∈ shapesOf documents a) :
    g.Outlines e := by
  obtain ⟨stored, found, texts, details⟩ := exists_shape_of_mem_shapesOf h none ha member
  refine ⟨stored, found, Shape.outline_eq_of_canonical_eq ?_ ?_ texts⟩
  · exact fun name occurs => identifiers name (details _ occurs)
  · exact fun name occurs => identifiers name (details_of_mem_shapesOf h none ha member _ occurs)

/-- The shape of a plain declaration is closed in the graph of its documents. -/
theorem closedShape_of_mem (h : ofDocuments documents = .ok g) (none : NoCollisions documents)
    (identifiers : ∀ name, .name name ∈ detailsOf documents → IsIdentifier name)
    (ha : a ∈ declarationsOf documents) (plain : a.2.type.isPlain) :
    ∃ shape, g.shape? (ShapeId.declaration a.1 a.2.name) = some shape ∧ g.ClosedShape [] shape := by
  have outlines : ∀ e ∈ shapesOf documents a, g.Outlines e := fun e member =>
    outlines_of_mem_shapesOf h none identifiers ha member
  have known (name : String) (target : ShapeId)
      (found : resolveIn documents a.1 name = some target) : g.isDeclared target := by
    obtain ⟨b, hb, -, rfl⟩ := exists_of_resolveIn found
    exact isDeclared_of_mem h hb
  have closes : Closes g [] (loweredIn documents a) := lowerDeclaration_closes plain known
  have closed := closes.value fun e member => outlines e (List.mem_append_left _ member)
  obtain ⟨stored, found, same⟩ := outlines _ (List.mem_append_right _ List.mem_cons_self)
  exact ⟨stored, found, closed.of_outline_eq same⟩

/-- Every declaration of documents without explicit type parameters and per-key transforms has a
schema, and what is reported in it is told by the types: a name that nobody declares, or a type that
is not supported. -/
theorem diagnostics_ofDocuments (h : ofDocuments documents = .ok g) (none : NoCollisions documents)
    (identifiers : ∀ name, .name name ∈ detailsOf documents → IsIdentifier name)
    (plain : ∀ a ∈ declarationsOf documents, a.2.type.isPlain) (rules : RuleSet)
    (options : GenerateOptions) {id : ShapeId} (declared : g.isDeclared id) :
    ∃ schema stats, (Generator.new g rules options).generate id = .ok (schema, stats) ∧
      ∀ diagnostic ∈ schema.diagnostics, diagnostic.kind = .generation ∧
        (∃ error : GenerationError, error.IsTold ∧ diagnostic.message = error.message) ∧
        ∀ error : GenerationError, diagnostic.message = error.message → error.IsTold := by
  rw [isDeclared_eq_isSome, Option.isSome_iff_exists] at declared
  obtain ⟨d, found⟩ := declared
  obtain ⟨file, source, listed, rfl⟩ := announced_of_declaration? h found
  obtain rfl := (filed_ofDocuments h).id_eq found
  obtain ⟨shape, stored, closed⟩ := closedShape_of_mem h none identifiers listed (plain _ listed)
  refine ⟨_, _, Generator.generate_eq_ok found, fun diagnostic member => ?_⟩
  obtain ⟨error, told, place, same⟩ := Generator.told_of_fallback
    (isDeclared_of_declaration? found) stored closed ((Generator.mem_diagnostics_iff _).mp member)
  cases same
  exact ⟨rfl, ⟨error, told, rfl⟩, fun _ same => GenerationError.isTold_of_message_eq told same⟩

/-- A generic pair of its parameter and a name that nobody declares. -/
def strayPair : List Document :=
  [⟨"a", [⟨"P", .typeAlias, true, ["T"], .tuple [.ref "T" [], .ref "Q" []]⟩]⟩]

theorem diagnostics_ofDocuments_strayPair :
    ∃ g, ofDocuments strayPair = .ok g ∧ g.isDeclared (ShapeId.declaration "a" "P") ∧
      ∃ schema stats, (Generator.new g .empty {}).generate (ShapeId.declaration "a" "P")
          = .ok (schema, stats) ∧
        ∀ diagnostic ∈ schema.diagnostics, diagnostic.kind = .generation ∧
          (∃ error : GenerationError, error.IsTold ∧ diagnostic.message = error.message) ∧
          ∀ error : GenerationError, diagnostic.message = error.message → error.IsTold := by
  obtain ⟨g, accepted⟩ : ∃ g, ofDocuments strayPair = .ok g := ⟨_, rfl⟩
  have none : NoCollisions strayPair := by decide +kernel
  have names : ∀ detail ∈ detailsOf strayPair, detail = .name "T" := by decide
  have identifiers (name : String) (occurs : .name name ∈ detailsOf strayPair) :
      IsIdentifier name := by
    cases names _ occurs
    decide
  have declared := isDeclared_of_mem accepted
    (show ("a", _) ∈ declarationsOf strayPair from List.mem_cons_self)
  exact ⟨g, accepted, declared, diagnostics_ofDocuments accepted none identifiers
    (by decide) .empty {} declared⟩

end ShapeGraph

end Schemata
