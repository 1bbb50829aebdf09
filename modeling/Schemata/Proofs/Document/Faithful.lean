import Schemata.Proofs.Document.Resolved

/-!
# Lowering is faithful

Unfolding the graph of documents from a declaration gives back the type that is declared, with its
names resolved.  Two things carry this: the shapes of a type expression, if the graph keeps them,
unfold to what the expression says; and the graph keeps them, since the id of an anonymous shape is
made from its canonical text, and that text tells shapes apart.

## Main definitions

* `Settles` : a search to some depth gives a result from there on.
* `ShapeGraph.Unfolds` : what unfolding from an id comes to.
* `ShapeGraph.Keeps` : the graph has a shape at its id.
* `Lowering.Spells` : a lowered expression says what the expression says.

## Main results

* `Lowering.lowerShape_spells` : one type expression.
* `ShapeGraph.keeps_of_mem_shapesOf` : no shape is taken for another.
* `ShapeGraph.ofDocuments_faithful` : all declarations.
-/

namespace Schemata

/-- From some depth on, a search gives a result. -/
def Settles {α : Type} (search : Nat → Option α) (result : α) : Prop :=
  ∃ depth, ∀ deeper, depth ≤ deeper → search deeper = some result

namespace Settles

variable {α β γ : Type}

theorem pure (a : α) : Settles (fun _ => some a) a :=
  ⟨0, fun _ _ => rfl⟩

/-- One search after another. -/
theorem bind {search : Nat → Option α} {next : Nat → α → Option β} {a : α} {b : β}
    (first : Settles search a) (second : Settles (fun depth => next depth a) b) :
    Settles (fun depth => search depth >>= next depth) b := by
  obtain ⟨m, first⟩ := first
  obtain ⟨n, second⟩ := second
  refine ⟨max m n, fun deeper le => ?_⟩
  have found := first deeper (by omega)
  have result := second deeper (by omega)
  show search deeper >>= next deeper = some b
  rw [found]
  exact result

theorem map {search : Nat → Option α} {a : α} (first : Settles search a) (f : α → β) :
    Settles (fun depth => search depth >>= fun a => some (f a)) (f a) :=
  first.bind (.pure (f a))

theorem map₂ {search : Nat → Option α} {search' : Nat → Option β} {a : α} {b : β}
    (first : Settles search a) (second : Settles search' b) (f : α → β → γ) :
    Settles (fun depth => search depth >>= fun a => search' depth >>= fun b => some (f a b))
      (f a b) :=
  first.bind (second.map (f a))

/-- The members of a list one after the other. -/
theorem mapM_cons {look : Nat → α → Option β} {a : α} {list : List α} {b : β} {results : List β}
    (first : Settles (fun depth => look depth a) b)
    (rest : Settles (fun depth => list.mapM (look depth)) results) :
    Settles (fun depth => (a :: list).mapM (look depth)) (b :: results) := by
  simp only [List.mapM_cons]
  exact first.map₂ rest List.cons

end Settles

namespace ShapeGraph

/-- Unfolding from an id comes to a type. -/
def Unfolds (g : ShapeGraph) (id : ShapeId) (type : ResolvedType) : Prop :=
  Settles (fun depth => g.unfold depth id) type

/-- Unfolding the parts of a shape comes to a type. -/
def Expands (g : ShapeGraph) (shape : Shape) (type : ResolvedType) : Prop :=
  Settles (fun depth => shape.expand g.declaration? (g.unfold depth)) type

theorem expands_array {g : ShapeGraph} {id : ShapeId} {type : ResolvedType}
    (h : g.Unfolds id type) : g.Expands (.array id) (.array type) :=
  Settles.map h ResolvedType.array

theorem expands_mapped {g : ShapeGraph} {source : ShapeId} {transform : Transform}
    {type : ResolvedType} {result : ResolvedTransform} (hs : g.Unfolds source type)
    (ht : Settles (fun depth => transform.expand (g.unfold depth)) result) :
    g.Expands (.mapped source transform) (.mapped type result) :=
  Settles.map₂ hs ht ResolvedType.mapped

/-- A graph keeps a shape at an id, up to the sign of a zero. -/
def Keeps (g : ShapeGraph) (e : ShapeId × Shape) : Prop :=
  ∃ shape, g.shape? e.1 = some shape ∧ shape.unsigned = e.2.unsigned

/-- An id stands for what the shape that is kept there expands to. -/
theorem Keeps.unfolds {g : ShapeGraph} {id : ShapeId} {shape : Shape} {type : ResolvedType}
    (kept : g.Keeps (id, shape)) (expands : g.Expands shape type) : g.Unfolds id type := by
  obtain ⟨stored, found, same⟩ := kept
  obtain ⟨depth, expands⟩ := expands
  refine ⟨depth + 1, fun deeper le => ?_⟩
  obtain ⟨before, rfl⟩ : ∃ before, deeper = before + 1 := ⟨deeper - 1, by omega⟩
  have within := expands before (by omega)
  show (g.shape? id >>= fun shape => shape.expand g.declaration? (g.unfold before)) = some type
  rw [found, ← within]
  exact Shape.expand_eq_of_unsigned_eq same _ _

end ShapeGraph

namespace Lowering

/-! ### Rules for results -/

namespace Lowered

variable {α β : Type}

/-- The shapes that were met have details that occur only; the result has a property, and another
one if all the shapes are kept. -/
structure Yields (t : Lowered α) (occurs : Detail → Prop) (kept : ShapeId × Shape → Prop)
    (sure post : α → Prop) : Prop where
  details : ∀ e ∈ t.shapes, ∀ detail ∈ e.2.details, occurs detail
  sure : sure t.value
  value : (∀ e ∈ t.shapes, kept e) → post t.value

variable {occurs : Detail → Prop} {kept : ShapeId × Shape → Prop} {sure mid : α → Prop}
  {sure' post : β → Prop}

theorem yields_pure {b : β} (hsure : sure' b) (hpost : post b) :
    (Pure.pure b : Lowered β).Yields occurs kept sure' post :=
  ⟨fun _ member => absurd member List.not_mem_nil, hsure, fun _ => hpost⟩

theorem Yields.bind {t : Lowered α} {f : α → Lowered β} (ht : t.Yields occurs kept sure mid)
    (hf : ∀ a, sure a → (f a).Yields occurs kept sure' fun b => mid a → post b) :
    (t >>= f).Yields occurs kept sure' post := by
  have next := hf t.value ht.sure
  refine ⟨fun e member => ?_, next.sure, fun kept => ?_⟩
  · rcases List.mem_append.mp member with member | member
    · exact ht.details e member
    · exact next.details e member
  · refine next.value (fun e member => kept e (List.mem_append_right _ member)) (ht.value ?_)
    exact fun e member => kept e (List.mem_append_left _ member)

end Lowered

open Lowered

/-- A type expression is lowered to a shape that says the same. -/
abbrev Spells (occurs : Detail → Prop) (g : ShapeGraph) (t : Lowered Shape) (type : ResolvedType) :
    Prop :=
  t.Yields occurs g.Keeps (fun shape => ∀ detail ∈ shape.details, occurs detail) (g.Expands · type)

/-- An expression is lowered to an id that stands for the same. -/
abbrev Points (occurs : Detail → Prop) (g : ShapeGraph) (t : Lowered ShapeId)
    (type : ResolvedType) : Prop :=
  t.Yields occurs g.Keeps (fun _ => True) (g.Unfolds · type)

/-- Naming a shape gives an id that stands for what the shape says. -/
theorem Spells.named {occurs : Detail → Prop} {g : ShapeGraph} {t : Lowered Shape}
    {type : ResolvedType} (ht : Spells occurs g t type) (place : Place) :
    Points occurs g (t.named place) type := by
  refine Yields.bind ht fun shape details => ⟨fun e member => ?_, trivial, fun kept expands => ?_⟩
  · obtain rfl := List.mem_singleton.mp member
    exact details
  · exact (kept _ List.mem_cons_self).unfolds expands

/-! ### Type expressions -/

section Expressions

variable {occurs : Detail → Prop} {g : ShapeGraph} {documents : List Document}

/-- A list of expressions is lowered to ids that stand for the same. -/
theorem lowerList_spells {place : Place} {types : List SourceType}
    (h : ∀ type ∈ types,
      Spells occurs g (lowerShape place type) (type.resolve (place.scope documents))) :
    (lowerList place types).Yields occurs g.Keeps (fun _ => True) fun ids =>
      Settles (fun depth => ids.mapM (g.unfold depth))
        (resolveList (place.scope documents) types) := by
  induction types with
  | nil =>
    rw [lowerList, resolveList]
    exact yields_pure trivial (.pure [])
  | cons type rest ih =>
    rw [lowerList, resolveList]
    refine ((h type List.mem_cons_self).named place).bind fun id _ => ?_
    refine (ih fun other member => h other (List.mem_cons_of_mem _ member)).bind fun ids _ => ?_
    exact yields_pure trivial fun hids hid => Settles.mapM_cons hid hids

/-- A built-in utility type says what its arguments say. -/
theorem lowerUtility_spells {place : Place} (name : String) {args : List SourceType}
    (h : ∀ type ∈ args,
      Spells occurs g (lowerShape place type) (type.resolve (place.scope documents))) :
    Spells occurs g (lowerUtility place name args)
      (resolveUtility (place.scope documents) name args) := by
  have leaf (shape : Shape) (type : ResolvedType) (none : shape.details = [])
      (expands : g.Expands shape type) : Spells occurs g (pure shape) type :=
    yields_pure (by simp [none]) expands
  have single (source : SourceType) (member : source ∈ args) (shape : ShapeId → Shape)
      (build : ResolvedType → ResolvedType) (none : ∀ id, (shape id).details = [])
      (one : ∀ id type, g.Unfolds id type → g.Expands (shape id) (build type)) :
      Spells occurs g (do
        let id ← (lowerShape place source).named place
        pure (shape id)) (build (source.resolve (place.scope documents))) := by
    refine ((h source member).named place).bind fun id _ => yields_pure ?_ fun hid => one id _ hid
    simp [none]
  have mapped (source : SourceType) (member : source ∈ args) {transform : Transform}
      {result : ResolvedTransform} (same : ∀ look, transform.expand look = some result) :
      Spells occurs g (do
        let id ← (lowerShape place source).named place
        pure (.mapped id transform)) (.mapped (source.resolve (place.scope documents)) result) := by
    refine single source member (.mapped · transform) (.mapped · result) (fun _ => rfl) ?_
    exact fun id type hid => ShapeGraph.expands_mapped hid ⟨0, fun _ _ => same _⟩
  unfold lowerUtility
  split <;> rw [resolveUtility]
  · exact single _ List.mem_cons_self _ _ (fun _ => rfl) fun _ _ => ShapeGraph.expands_array
  · exact single _ List.mem_cons_self _ _ (fun _ => rfl) fun _ _ => ShapeGraph.expands_array
  · exact leaf _ _ rfl (.pure _)
  · exact mapped _ List.mem_cons_self fun _ => rfl
  · exact mapped _ List.mem_cons_self fun _ => rfl
  · exact mapped _ List.mem_cons_self fun _ => rfl
  · rename_i key value
    refine ((h key List.mem_cons_self).named place).bind fun key _ => ?_
    refine ((h value (by simp)).named place).bind fun value _ => ?_
    refine yields_pure (by simp [Shape.details]) fun hvalue hkey => ?_
    exact ShapeGraph.expands_mapped hkey (hvalue.map ResolvedTransform.record)
  · rename_i source keys
    cases literalKeys? keys with
    | some keys => exact mapped source List.mem_cons_self fun _ => rfl
    | none => exact leaf _ _ rfl (.pure _)
  · rename_i source keys
    cases literalKeys? keys with
    | some keys => exact mapped source List.mem_cons_self fun _ => rfl
    | none => exact leaf _ _ rfl (.pure _)
  · exact leaf _ _ rfl (.pure _)
  -- The name is none of those that are built in.
  all_goals assumption

variable (g documents) in
/-- A graph has the declarations of documents under their ids. -/
def Announces : Prop :=
  ∀ a ∈ declarationsOf documents, ∃ d, g.declaration? (ShapeId.declaration a.1 a.2.name) = some d ∧
    d.file = a.1 ∧ d.name = a.2.name

/-- A name that is declared is lowered to a reference to its declaration. -/
theorem expands_reference {scope : Scope} (announces : Announces g scope.documents)
    {name file : String} (found : scope.fileOf? name = some file) {args : List ShapeId}
    {types : List ResolvedType} (h : Settles (fun depth => args.mapM (g.unfold depth)) types) :
    g.Expands (.reference (ShapeId.declaration file name) args) (.declared file name types) := by
  obtain ⟨d, listed, rfl⟩ := declared_of_fileOf? found
  obtain ⟨declaration, known, rfl, isName⟩ := announces _ listed
  have told : Settles (fun _ => g.declaration? (ShapeId.declaration declaration.file d.name))
      declaration := ⟨0, fun _ _ => known⟩
  have result := told.map₂ h fun declaration types =>
    ResolvedType.declared declaration.file declaration.name types
  rw [isName] at result
  exact result

mutual

/-- The shape of a type expression says what the expression says. -/
theorem lowerShape_spells (announces : Announces g documents) {place : Place}
    (known : place.names = namesOf (declarationsOf documents)) :
    (type : SourceType) → (∀ detail ∈ type.details, occurs detail) →
      Spells occurs g (lowerShape place type) (type.resolve (place.scope documents))
  | .primitive _, _ | .param _, _ | .unsupported _, _ => by
    rw [lowerShape, SourceType.resolve]
    exact yields_pure (by simp [Shape.details]) (.pure _)
  | .literal value, occurring => by
    rw [SourceType.details] at occurring
    rw [lowerShape, SourceType.resolve, literalShape]
    cases literal : literalOf? value with
    | some literal =>
      simp only [literal, Option.map_some, Option.getD_some] at occurring
      exact yields_pure occurring (.pure _)
    | none => exact yields_pure (by simp [Shape.details]) (.pure _)
  | .array element, occurring => by
    rw [SourceType.details] at occurring
    rw [lowerShape, SourceType.resolve]
    refine ((lowerShape_spells announces known element occurring).named place).bind fun id _ => ?_
    exact yields_pure (by simp [Shape.details]) ShapeGraph.expands_array
  | .tuple types, occurring | .union types, occurring | .intersection types, occurring => by
    rw [SourceType.details] at occurring
    rw [lowerShape, SourceType.resolve]
    have each := lowerShape_spells_of_mem announces known types occurring
    refine (lowerList_spells each).bind fun ids _ => ?_
    exact yields_pure (by simp [Shape.details]) fun hids => hids.map _
  | .object fields, occurring => by
    rw [SourceType.details] at occurring
    rw [lowerShape, SourceType.resolve]
    refine (lowerFields_spells announces known fields occurring).bind fun fields _ => ?_
    exact yields_pure (by simp [Shape.details]) fun hfields => hfields.map ResolvedType.object
  | .generic params body, occurring => by
    rw [SourceType.details, List.forall_mem_append] at occurring
    rw [lowerShape, SourceType.resolve]
    -- Type parameters do not change which declarations are known.
    have bound : (place.bind params).names = namesOf (declarationsOf documents) := known
    have inner : Spells occurs g (lowerShape (place.bind params) body)
        (body.resolve ((place.scope documents).bind params)) :=
      lowerShape_spells announces bound body occurring.2
    refine (inner.named place).bind fun id _ => ?_
    exact yields_pure occurring.1 fun hid => hid.map (ResolvedType.generic params)
  | .mapped source transform, occurring => by
    rw [SourceType.details, List.forall_mem_append] at occurring
    rw [lowerShape, SourceType.resolve]
    refine ((lowerShape_spells announces known source occurring.1).named place).bind
      fun source _ => ?_
    refine (lowerTransform_spells announces known transform occurring.2).bind fun transform _ => ?_
    exact yields_pure (by simp [Shape.details]) fun htransform hsource =>
      ShapeGraph.expands_mapped hsource htransform
  | .ref name args, occurring => by
    rw [SourceType.details] at occurring
    have each := lowerShape_spells_of_mem announces known args occurring
    rw [lowerShape, SourceType.resolve, resolve?_eq_fileOf? known]
    show Spells occurs g (if args.isEmpty && place.bound.contains name then _ else _)
      (if args.isEmpty && place.bound.contains name then _ else _)
    split
    · exact yields_pure (by simp [Shape.details]) (.pure _)
    · cases found : (place.scope documents).fileOf? name with
      | some file =>
        refine (lowerList_spells each).bind fun ids _ => ?_
        exact yields_pure (by simp [Shape.details]) (expands_reference announces found)
      | none => exact lowerUtility_spells name each
  | .function kind params returns, occurring => by
    rw [SourceType.details, List.forall_mem_append] at occurring
    rw [lowerShape, SourceType.resolve]
    refine (lowerParams_spells announces known params occurring.1).bind fun params names => ?_
    refine ((lowerShape_spells announces known returns occurring.2).named place).bind
      fun returns _ => ?_
    refine yields_pure (by simpa [Shape.details] using names) fun hreturns hparams => ?_
    exact hparams.map₂ hreturns (ResolvedType.function kind)
  | .refined base constraint, occurring => by
    rw [SourceType.details, List.forall_mem_append] at occurring
    rw [lowerShape, SourceType.resolve]
    refine ((lowerShape_spells announces known base occurring.1).named place).bind fun id _ => ?_
    exact yields_pure occurring.2 fun hid => hid.map (ResolvedType.refined · constraint)

theorem lowerShape_spells_of_mem (announces : Announces g documents) {place : Place}
    (known : place.names = namesOf (declarationsOf documents)) :
    (types : List SourceType) → (∀ detail ∈ detailsOfList types, occurs detail) →
      ∀ type ∈ types,
        Spells occurs g (lowerShape place type) (type.resolve (place.scope documents))
  | [], _ => fun _ member => absurd member List.not_mem_nil
  | type :: rest, occurring => by
    rw [detailsOfList, List.forall_mem_append] at occurring
    exact List.forall_mem_cons.mpr ⟨lowerShape_spells announces known type occurring.1,
      lowerShape_spells_of_mem announces known rest occurring.2⟩

theorem lowerFields_spells (announces : Announces g documents) {place : Place}
    (known : place.names = namesOf (declarationsOf documents)) :
    (fields : List SourceField) → (∀ detail ∈ detailsOfFields fields, occurs detail) →
      (lowerFields place fields).Yields occurs g.Keeps (fun _ => True) fun lowered =>
        Settles (fun depth => lowered.mapM (Field.expand (g.unfold depth)))
          (resolveFields (place.scope documents) fields)
  | [], _ => by
    rw [lowerFields, resolveFields]
    exact yields_pure trivial (.pure [])
  | .mk name optional readonly type :: rest, occurring => by
    rw [detailsOfFields, List.forall_mem_append] at occurring
    rw [lowerFields, resolveFields]
    refine ((lowerShape_spells announces known type occurring.1).named place).bind fun id _ => ?_
    refine (lowerFields_spells announces known rest occurring.2).bind fun fields _ => ?_
    refine yields_pure trivial fun hfields hid => ?_
    exact Settles.mapM_cons (hid.map (ResolvedField.mk name optional readonly)) hfields

theorem lowerParams_spells (announces : Announces g documents) {place : Place}
    (known : place.names = namesOf (declarationsOf documents)) :
    (params : List SourceParam) → (∀ detail ∈ detailsOfParams params, occurs detail) →
      (lowerParams place params).Yields occurs g.Keeps
        (fun lowered => ∀ param ∈ lowered, occurs (.name param.name)) fun lowered =>
        Settles (fun depth => lowered.mapM (Param.expand (g.unfold depth)))
          (resolveParams (place.scope documents) params)
  | [], _ => by
    rw [lowerParams, resolveParams]
    exact yields_pure (fun _ member => absurd member List.not_mem_nil) (.pure [])
  | .mk name optional type :: rest, occurring => by
    rw [detailsOfParams, List.forall_mem_cons, List.forall_mem_append] at occurring
    obtain ⟨own, inner, later⟩ := occurring
    rw [lowerParams, resolveParams]
    refine ((lowerShape_spells announces known type inner).named place).bind fun id _ => ?_
    refine (lowerParams_spells announces known rest later).bind fun params names => ?_
    refine yields_pure (List.forall_mem_cons.mpr ⟨own, names⟩) fun hparams hid => ?_
    exact Settles.mapM_cons (hid.map (ResolvedParam.mk name optional)) hparams

theorem lowerTransform_spells (announces : Announces g documents) {place : Place}
    (known : place.names = namesOf (declarationsOf documents)) :
    (transform : SourceTransform) → (∀ detail ∈ transform.details, occurs detail) →
      (lowerTransform place transform).Yields occurs g.Keeps (fun _ => True) fun lowered =>
        Settles (fun depth => lowered.expand (g.unfold depth))
          (transform.resolve (place.scope documents))
  | .toPartial, _ | .toRequired, _ | .pick _, _ | .omit _, _ | .toReadonly, _ => by
    rw [lowerTransform, SourceTransform.resolve]
    exact yields_pure trivial (.pure _)
  | .record value, occurring => by
    rw [SourceTransform.details] at occurring
    rw [lowerTransform, SourceTransform.resolve]
    refine ((lowerShape_spells announces known value occurring).named place).bind fun id _ => ?_
    exact yields_pure trivial fun hid => hid.map ResolvedTransform.record
  | .perKey name value, occurring => by
    rw [SourceTransform.details] at occurring
    rw [lowerTransform, SourceTransform.resolve]
    refine (lowerPerKey_spells announces known value occurring).bind fun value _ => ?_
    exact yields_pure trivial fun hvalue => hvalue.map (ResolvedTransform.perKey name)

theorem lowerPerKey_spells (announces : Announces g documents) {place : Place}
    (known : place.names = namesOf (declarationsOf documents)) :
    (value : SourcePerKey) → (∀ detail ∈ value.details, occurs detail) →
      (lowerPerKey place value).Yields occurs g.Keeps (fun _ => True) fun lowered =>
        Settles (fun depth => lowered.expand (g.unfold depth))
          (value.resolve (place.scope documents))
  | .optional, _ | .nullable, _ | .array, _ | .readonly, _ => by
    rw [lowerPerKey, SourcePerKey.resolve]
    exact yields_pure trivial (.pure _)
  | .replace type, occurring => by
    rw [SourcePerKey.details] at occurring
    rw [lowerPerKey, SourcePerKey.resolve]
    refine ((lowerShape_spells announces known type occurring).named place).bind fun id _ => ?_
    exact yields_pure trivial fun hid => hid.map ResolvedPerKey.replace

end

/-- A declaration is lowered to a shape that says what it declares. -/
theorem loweredIn_spells (announces : Announces g documents) {a : String × SourceDeclaration}
    (occurring : ∀ detail ∈ a.2.params.map Detail.name ++ a.2.type.details, occurs detail) :
    Spells occurs g (loweredIn documents a) (a.2.resolve documents a.1) := by
  rw [List.forall_mem_append] at occurring
  unfold loweredIn lowerDeclaration SourceDeclaration.resolve
  split
  · exact lowerShape_spells announces rfl a.2.type occurring.2
  · have body : Points occurs g
        (lower ⟨namesOf (declarationsOf documents), a.1, a.2.name, a.2.params⟩ a.2.type)
        (a.2.type.resolve ⟨documents, a.1, a.2.params⟩) :=
      (lowerShape_spells announces rfl a.2.type occurring.2).named _
    have bound : Place.bind ⟨namesOf (declarationsOf documents), a.1, a.2.name, []⟩ a.2.params
        = ⟨namesOf (declarationsOf documents), a.1, a.2.name, a.2.params⟩ := by
      rw [Place.bind, List.append_nil]
    rw [bound]
    refine body.bind fun id _ => ?_
    exact yields_pure occurring.1 fun hid => hid.map (ResolvedType.generic a.2.params)

end Expressions

end Lowering

/-! ### Graphs -/

namespace ShapeGraph

open Lowering

variable {documents : List Document} {g : ShapeGraph} {a b : String × SourceDeclaration}

/-- Every declaration is in the graph as it was announced. -/
theorem declaration?_of_mem (h : ofDocuments documents = .ok g) (none : NoCollisions documents)
    (ha : a ∈ declarationsOf documents) :
    g.declaration? (ShapeId.declaration a.1 a.2.name) = some (announced a.1 a.2) := by
  have declared := isDeclared_of_mem h ha
  rw [isDeclared_eq_isSome, Option.isSome_iff_exists] at declared
  obtain ⟨d, found⟩ := declared
  obtain ⟨file, source, listed, rfl⟩ := announced_of_declaration? h found
  have sameId : (announced file source).id = ShapeId.declaration a.1 a.2.name :=
    (filed_ofDocuments h).id_eq found
  have theirs : (announced file source).id ∈ idsOf documents (file, source) :=
    declaration_mem_idsOf documents (file, source)
  rw [sameId] at theirs
  obtain ⟨isFile, isName⟩ := none.eq_of_mem ha listed (declaration_mem_idsOf documents a) theirs
  obtain rfl := eq_of_mem_declarationsOf h ha listed isFile isName
  exact found

theorem announces_of_ofDocuments (h : ofDocuments documents = .ok g)
    (none : NoCollisions documents) : Announces g documents :=
  fun _ ha => ⟨_, declaration?_of_mem h none ha, rfl, rfl⟩

/-- The shape of a declaration says what it declares, in details of the documents only. -/
theorem spells_of_mem (h : ofDocuments documents = .ok g) (none : NoCollisions documents)
    (ha : a ∈ declarationsOf documents) :
    Spells (· ∈ detailsOf documents) g (loweredIn documents a) (a.2.resolve documents a.1) :=
  loweredIn_spells (announces_of_ofDocuments h none) fun _ occurring =>
    List.mem_flatMap.mpr ⟨a, ha, occurring⟩

/-- The details of the shapes are those of the documents. -/
theorem details_of_mem_shapesOf (h : ofDocuments documents = .ok g) (none : NoCollisions documents)
    (ha : a ∈ declarationsOf documents) {e : ShapeId × Shape} (member : e ∈ shapesOf documents a) :
    ∀ detail ∈ e.2.details, detail ∈ detailsOf documents := by
  have spells := spells_of_mem h none ha
  rcases List.mem_append.mp member with listed | own
  · exact spells.details e listed
  · obtain rfl := List.mem_singleton.mp own
    exact spells.sure

/-- Shapes of the documents that have the same id have the same canonical text: an anonymous one
has its id from the text, and a declaration is declared once. -/
theorem canonical_eq_of_mem_shapesOf (h : ofDocuments documents = .ok g)
    (none : NoCollisions documents) (ha : a ∈ declarationsOf documents)
    (hb : b ∈ declarationsOf documents) {id : ShapeId} {s t : Shape}
    (hs : (id, s) ∈ shapesOf documents a) (ht : (id, t) ∈ shapesOf documents b) :
    s.canonical = t.canonical := by
  have own {c : String × SourceDeclaration} {shape : Shape}
      (last : (id, shape) ∈ [(ShapeId.declaration c.1 c.2.name, (loweredIn documents c).value)]) :
      id = ShapeId.ofParts (ShapeId.declarationParts c.1 c.2.name) ∧
        shape = (loweredIn documents c).value :=
    Prod.mk.inj (List.mem_singleton.mp last)
  have ownA := declarationParts_mem_partsOf documents a
  have ownB := declarationParts_mem_partsOf documents b
  rcases List.mem_append.mp hs with hs | hs <;> rcases List.mem_append.mp ht with ht | ht
  · obtain ⟨partsA, idA⟩ := node_of_mem_shapes hs
    obtain ⟨partsB, idB⟩ := node_of_mem_shapes ht
    exact canonical_eq_of_nodeParts_eq (none a ha b hb _ partsA _ partsB (idA.symm.trans idB))
  · obtain ⟨partsA, idA⟩ := node_of_mem_shapes hs
    have parts := none a ha b hb _ partsA _ ownB (idA.symm.trans (own ht).1)
    simp [ShapeId.nodeParts, ShapeId.declarationParts] at parts
  · obtain ⟨partsB, idB⟩ := node_of_mem_shapes ht
    have parts := none a ha b hb _ ownA _ partsB ((own hs).1.symm.trans idB)
    simp [ShapeId.nodeParts, ShapeId.declarationParts] at parts
  · obtain ⟨idA, rfl⟩ := own hs
    obtain ⟨idB, rfl⟩ := own ht
    have parts := none a ha b hb _ ownA _ ownB (idA.symm.trans idB)
    simp only [ShapeId.declarationParts, List.cons.injEq] at parts
    obtain rfl := eq_of_mem_declarationsOf h ha hb parts.2.1 parts.2.2.1
    rfl

/-- The graph has a shape of the documents, with the same text, at the id of each shape that
lowering comes to. -/
theorem exists_shape_of_mem_shapesOf (h : ofDocuments documents = .ok g)
    (none : NoCollisions documents) (ha : a ∈ declarationsOf documents) {e : ShapeId × Shape}
    (member : e ∈ shapesOf documents a) :
    ∃ stored, g.shape? e.1 = some stored ∧ stored.canonical = e.2.canonical ∧
      ∀ detail ∈ stored.details, detail ∈ detailsOf documents := by
  have some := isSome_shape?_of_mem_idsOf h ha (List.mem_map_of_mem member)
  obtain ⟨stored, found⟩ := Option.isSome_iff_exists.mp some
  obtain ⟨b, hb, listed⟩ := mem_shapesOf_of_shape? h found
  exact ⟨stored, found, canonical_eq_of_mem_shapesOf h none hb ha listed member,
    details_of_mem_shapesOf h none hb listed⟩

/-- The graph keeps every shape that lowering comes to. -/
theorem keeps_of_mem_shapesOf (h : ofDocuments documents = .ok g) (none : NoCollisions documents)
    (legible : Legible (· ∈ detailsOf documents)) (ha : a ∈ declarationsOf documents)
    {e : ShapeId × Shape} (member : e ∈ shapesOf documents a) : g.Keeps e := by
  obtain ⟨stored, found, texts, details⟩ := exists_shape_of_mem_shapesOf h none ha member
  exact ⟨stored, found, Shape.unsigned_eq_of_canonical_eq legible details
    (details_of_mem_shapesOf h none ha member) texts⟩

/-- Lowering is faithful.  Every declaration is in the graph as it was announced; unfolding the
graph from it gives back the declared type with its names resolved; and at the id of each shape
that was made for it there is that shape and no other, up to the sign of a zero. -/
theorem ofDocuments_faithful (h : ofDocuments documents = .ok g) (none : NoCollisions documents)
    (legible : Legible (· ∈ detailsOf documents)) (ha : a ∈ declarationsOf documents) :
    g.declaration? (ShapeId.declaration a.1 a.2.name) = some (announced a.1 a.2) ∧
      g.Unfolds (ShapeId.declaration a.1 a.2.name) (a.2.resolve documents a.1) ∧
      ∀ e ∈ shapesOf documents a, g.Keeps e := by
  have keeps : ∀ e ∈ shapesOf documents a, g.Keeps e := fun e member =>
    keeps_of_mem_shapesOf h none legible ha member
  have expands : g.Expands (loweredIn documents a).value (a.2.resolve documents a.1) :=
    (spells_of_mem h none ha).value fun e member => keeps e (List.mem_append_left _ member)
  have own : (ShapeId.declaration a.1 a.2.name, (loweredIn documents a).value)
      ∈ shapesOf documents a := List.mem_append_right _ List.mem_cons_self
  exact ⟨declaration?_of_mem h none ha, (keeps _ own).unfolds expands, keeps⟩

/-- A function on zeros of both signs that returns itself. -/
def returning : SourceDeclaration :=
  ⟨"P", .typeAlias, true, ["T"], .function .method
    [.mk "x" false (.literal (.int 0)), .mk "y" true (.literal (.float ⟨9223372036854775808⟩))]
    (.ref "P" [])⟩

/-- Two declarations of one name. -/
def homonyms : List Document :=
  [⟨"a", [⟨"P", .typeAlias, true, [], .primitive .number⟩]⟩, ⟨"b", [returning]⟩]

theorem resolve_returning :
    returning.resolve homonyms "b" = .generic ["T"] (.function .method
      [.mk "x" false (.literal (.number ⟨0⟩)), .mk "y" true (.literal (.number ⟨0⟩))]
      (.declared "b" "P" [])) := by
  have zero : (Double.ofInt 0).unsigned = ⟨0⟩ := by decide +kernel
  have negativeZero : Double.unsigned ⟨9223372036854775808⟩ = ⟨0⟩ := by decide +kernel
  have own : Scope.fileOf? ⟨homonyms, "b", ["T"]⟩ "P" = some "b" := by decide
  simp [SourceDeclaration.resolve, returning, SourceType.resolve, resolveParams, literalOf?,
    Literal.unsigned, resolveList, zero, negativeZero, own]

/-- The signs of zeros are lost, and `P` is the one of the same file. -/
theorem ofDocuments_faithful_homonyms :
    ∃ g, ofDocuments homonyms = .ok g ∧
      g.Unfolds (ShapeId.declaration "b" "P") (.generic ["T"] (.function .method
        [.mk "x" false (.literal (.number ⟨0⟩)), .mk "y" true (.literal (.number ⟨0⟩))]
        (.declared "b" "P" []))) := by
  obtain ⟨g, accepted⟩ : ∃ g, ofDocuments homonyms = .ok g := ⟨_, rfl⟩
  have none : NoCollisions homonyms := by decide +kernel
  have legible : Legible (· ∈ detailsOf homonyms) := by decide +kernel
  have declared : ("b", returning) ∈ declarationsOf homonyms :=
    List.mem_cons_of_mem _ List.mem_cons_self
  have faithful := (ofDocuments_faithful accepted none legible declared).2.1
  rw [resolve_returning] at faithful
  exact ⟨g, accepted, faithful⟩

end ShapeGraph

end Schemata
