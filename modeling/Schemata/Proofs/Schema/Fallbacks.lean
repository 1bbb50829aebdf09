import Schemata.Proofs.Schema.Findings
import Schemata.Proofs.Schema.Scope

/-!
# Generation in closed graphs

A validator that accepts everything stands in for a type that has none of its own.  In a closed part
of a graph, where ids have shapes, anonymous shapes do not contain themselves and type parameters
are bound, only the types that say so themselves have none: names that nobody declares, and types
that are not supported.

## Main definitions

* `ShapeGraph.Closed` : an id from which only closed shapes are met, down to declarations.
* `GenerationError.IsTold` : errors that a type tells of itself.

## Main results

* `ShapeGraph.Closed.not_transGen` : no anonymous shape of a closed part contains itself.
* `Generator.told_of_fallback` : what is reported in a closed part of a graph.
-/

namespace Schemata

open Relation

/-- A shape with which nothing is wrong under type parameters in scope: they bind it if it is a type
parameter, and it is not mapped key by key. -/
def Shape.Settled (scope : List String) : Shape → Prop
  | .param name => name ∈ scope
  | .mapped _ (.perKey _ _) => False
  | _ => True

theorem Shape.Settled.mono {scope scope' : List String} {shape : Shape}
    (settled : shape.Settled scope) (more : scope ⊆ scope') : shape.Settled scope' := by
  cases shape with
  | param name => exact more settled
  | mapped source transform => cases transform <;> exact settled
  | _ => trivial

namespace ShapeGraph

/-- From an id, with type parameters in scope, declarations are met through settled shapes only.
Since the walk to them is finite, it meets no shape inside itself. -/
inductive Closed (g : ShapeGraph) : List String → ShapeId → Prop
  | declared {scope : List String} {id : ShapeId} (declared : g.isDeclared id) : Closed g scope id
  | shape {scope : List String} {id : ShapeId} {shape : Shape} (found : g.shape? id = some shape)
      (settled : shape.Settled scope)
      (children : ∀ child ∈ shape.children, Closed g (scope ++ shape.binds) child) :
    Closed g scope id

/-- A settled shape whose children are closed. -/
structure ClosedShape (g : ShapeGraph) (scope : List String) (shape : Shape) : Prop where
  settled : shape.Settled scope
  children : ∀ child ∈ shape.children, g.Closed (scope ++ shape.binds) child

variable {g : ShapeGraph} {scope scope' : List String} {id : ShapeId} {shape : Shape}

theorem Closed.mono (closed : g.Closed scope id) (more : scope ⊆ scope') : g.Closed scope' id := by
  induction closed generalizing scope' with
  | declared declared => exact .declared declared
  | shape found settled _ ih =>
    refine .shape found (settled.mono more) fun child listed => ih child listed ?_
    exact List.append_subset.mpr ⟨List.subset_append_of_subset_left _ more,
      List.subset_append_right _ _⟩

theorem Closed.closedShape (closed : g.Closed scope id) (anonymous : g.declaration? id = none)
    (found : g.shape? id = some shape) : g.ClosedShape scope shape := by
  cases closed with
  | declared declared => simp [isDeclared_eq_false anonymous] at declared
  | shape found' settled children =>
    obtain rfl := Option.some.inj (found.symm.trans found')
    exact ⟨settled, children⟩

/-- A shape that binds no type parameters leaves the scope as it is. -/
theorem ClosedShape.child (closed : g.ClosedShape scope shape) (none : shape.binds = [])
    (listed : id ∈ shape.children) : g.Closed scope id := by
  have below := closed.children id listed
  rwa [none, List.append_nil] at below

theorem Closed.isSome_shape? (closed : g.Closed scope id) (anonymous : g.declaration? id = none) :
    (g.shape? id).isSome := by
  cases closed with
  | declared declared => simp [isDeclared_eq_false anonymous] at declared
  | shape found => simp [found]

/-- An anonymous shape in a closed part does not contain itself. -/
theorem Closed.not_transGen (closed : g.Closed scope id) : ¬ TransGen g.AnonymousChild id id := by
  induction closed with
  | declared declared =>
    intro cycle
    obtain ⟨next, ⟨anonymous, -⟩, -⟩ := TransGen.head'_iff.mp cycle
    simp [declared] at anonymous
  | shape found _ _ ih =>
    intro cycle
    obtain ⟨next, step, path⟩ := TransGen.head'_iff.mp cycle
    obtain ⟨shape', found', listed⟩ := step.2
    obtain rfl := Option.some.inj (found.symm.trans found')
    -- The cycle goes through the child, too.
    exact ih next listed (TransGen.tail'_iff.mpr ⟨_, path, step⟩)

end ShapeGraph

/-- An error that a type tells of itself. -/
def GenerationError.IsTold : GenerationError → Prop
  | .unresolved _ | .unsupported _ => True
  | _ => False

/-- The first letter of the text of an error. -/
def GenerationError.initial : GenerationError → Char
  | .notADeclaration _ => '\x60'
  | .missingShape _ | .unboundParam _ => 't'
  | .unresolved _ => 'c'
  | .unsupported _ => 'u'
  | .anonymousRecursion _ => 'a'
  | .notAnObject _ => 'p'

theorem head?_toList_append (text rest : String) {c : Char} (h : text.toList.head? = some c) :
    (text ++ rest).toList.head? = some c := by
  rw [String.toList_append, List.head?_append, h, Option.some_or]

theorem GenerationError.head?_message (error : GenerationError) :
    error.message.toList.head? = some error.initial := by
  have opens {text inner rest : String} {c : Char} (h : text.toList.head? = some c) :
      (text ++ inner ++ rest).toList.head? = some c :=
    head?_toList_append _ rest (head?_toList_append text inner h)
  cases error with
  | notADeclaration id => exact opens rfl
  | missingShape id => exact opens rfl
  | unresolved name => exact opens rfl
  | unsupported text => exact head?_toList_append _ text rfl
  | unboundParam name => exact opens rfl
  | anonymousRecursion id => exact opens rfl
  | notAnObject transform => exact opens rfl

/-- The text of an error tells whether it is one that a type tells of itself. -/
theorem GenerationError.isTold_of_message_eq {a b : GenerationError} (told : a.IsTold)
    (same : a.message = b.message) : b.IsTold := by
  have initials : some a.initial = some b.initial := by
    rw [← head?_message, ← head?_message, same]
  cases a <;> cases b <;> first | trivial | exact told.elim | simp [initial] at initials

namespace Generator

variable {gen : Generator} {d : Declaration} {root : ShapeId} {opened : List ShapeId}
  {place inside : Place} {shape : Shape} {next : ShapeId} {diagnostic : Diagnostic}

/-- What a closed shape is made from is closed, and found through anonymous shapes. -/
theorem closed_of_mem_asked (closed : gen.graph.ClosedShape place.params shape)
    (listed : (inside, next) ∈ gen.asked place shape) :
    gen.graph.Closed inside.params next ∧
      ∃ child ∈ shape.children, ReflTransGen gen.graph.AnonymousChild child next := by
  have plain {ids : List ShapeId} (sub : ids ⊆ shape.children) (none : shape.binds = [])
      (listed : (inside, next) ∈ ids.map (place, ·)) :
      gen.graph.Closed inside.params next ∧
        ∃ child ∈ shape.children, ReflTransGen gen.graph.AnonymousChild child next := by
    obtain ⟨child, member, same⟩ := List.mem_map.mp listed
    obtain ⟨rfl, rfl⟩ := Prod.mk.inj same
    exact ⟨closed.child none (sub member), child, sub member, .refl⟩
  cases shape with
  | object fields =>
    obtain ⟨field, member, listed⟩ := List.mem_flatMap.mp listed
    obtain ⟨type, types, same⟩ := List.mem_map.mp listed
    obtain ⟨rfl, rfl⟩ := Prod.mk.inj same
    have member : field.type ∈ (Shape.object fields).children := List.mem_map_of_mem member
    have own := closed.child rfl member
    unfold fieldTypes at types
    cases signature : gen.method? field.type with
    | none =>
      rw [signature] at types
      obtain rfl := List.mem_singleton.mp types
      exact ⟨own, field.type, member, .refl⟩
    | some found =>
      obtain ⟨kind, params, returns⟩ := found
      rw [signature] at types
      -- The types of a signature are below the method, which is an anonymous shape.
      have anonymous := gen.declaration?_of_method? signature
      have stored := gen.shape?_of_method? signature
      have below := (own.closedShape anonymous stored).child rfl types
      exact ⟨below, field.type, member,
        .single ⟨ShapeGraph.isDeclared_eq_false anonymous, _, stored, types⟩⟩
  | union members =>
    have sub : gen.alternatives members ⊆ members := by
      unfold alternatives
      dsimp only
      split
      · exact List.Subset.refl _
      · exact List.filter_subset_self _
    exact plain sub rfl listed
  | generic params body =>
    obtain ⟨rfl, rfl⟩ := Prod.mk.inj (List.mem_singleton.mp listed)
    exact ⟨closed.children next List.mem_cons_self, next, List.mem_cons_self, .refl⟩
  | mapped source transform =>
    cases transform with
    | perKey name value => exact closed.settled.elim
    | _ => exact plain (List.Subset.refl _) rfl listed
  | reference target args =>
    have sub : [target] ⊆ (Shape.reference target args).children := by simp [Shape.children]
    simp only [asked] at listed
    split at listed
    · exact plain (List.subset_cons_self _ _) rfl listed
    · exact plain sub rfl listed
  | _ => exact plain (List.Subset.refl _) rfl listed

/-- Only types that tell so themselves are reported at a settled shape. -/
theorem told_of_mem_noted {visit : Place → ShapeId → Traced Validator}
    {inProgress : ShapeId → Bool} (settled : shape.Settled place.params)
    (h : .fallback diagnostic ∈ gen.noted visit inProgress place shape) :
    ∃ error : GenerationError, error.IsTold ∧ .fallback diagnostic = gen.report place error := by
  cases shape with
  | object fields =>
    obtain ⟨field, -, same⟩ := List.mem_map.mp h
    unfold notedField at same
    dsimp only at same
    split at same <;> cases same
  | mapped source transform =>
    cases transform with
    | perKey name value => exact settled.elim
    | _ => cases h
  | param name =>
    have bound : place.params.contains name := List.contains_iff_mem.mpr settled
    rw [noted, if_pos bound] at h
    cases h
  | reference target args =>
    simp only [noted] at h
    split at h
    · cases List.mem_singleton.mp h
    · cases h
  | unresolved name => exact ⟨.unresolved name, trivial, List.mem_singleton.mp h⟩
  | unsupported text => exact ⟨.unsupported text, trivial, List.mem_singleton.mp h⟩
  | _ => cases h

/-- The walk of a declaration whose shape is closed meets closed shapes only, and the ids that are
open are declared or contain the shape that is met. -/
theorem Meets.closed (declared : gen.graph.isDeclared d.id)
    {rootShape : Shape} (found : gen.graph.shape? root = some rootShape)
    (closed : gen.graph.ClosedShape [] rootShape) (met : gen.Meets d root opened place shape) :
    gen.graph.ClosedShape place.params shape ∧
      ∀ id ∈ opened, gen.graph.isDeclared id ∨
        ∀ child ∈ shape.children, TransGen gen.graph.AnonymousChild id child := by
  induction met with
  | top found' =>
    obtain rfl := Option.some.inj (found.symm.trans found')
    exact ⟨closed, fun id member => .inl (List.mem_singleton.mp member ▸ declared)⟩
  | @inner opened place inside shape shape' next before listed anonymous found fresh ih =>
    obtain ⟨closed, around⟩ := ih
    obtain ⟨below, child, member, path⟩ := closed_of_mem_asked closed listed
    have step (inner : ShapeId) (listed : inner ∈ shape'.children) :
        gen.graph.AnonymousChild next inner :=
      ⟨ShapeGraph.isDeclared_eq_false anonymous, shape', found, listed⟩
    refine ⟨below.closedShape anonymous found, List.forall_mem_cons.mpr ⟨.inr ?_, ?_⟩⟩
    · exact fun inner listed => .single (step inner listed)
    · refine fun id isOpen => (around id isOpen).imp_right fun contains inner listed => ?_
      exact ((contains child member).trans_left path).tail (step inner listed)

/-- A closed id that is not open is reported neither as missing nor as met inside itself. -/
theorem fallback_ne_arrival {scope : List String} (closed : gen.graph.Closed scope next)
    (fresh : gen.graph.declaration? next = none → next ∉ opened) :
    .fallback diagnostic ≠ gen.arrival opened place next := by
  unfold arrival
  cases declared : gen.graph.declaration? next with
  | some declaration => simp
  | none =>
    obtain ⟨shape, found⟩ := Option.isSome_iff_exists.mp (closed.isSome_shape? declared)
    simp [found, fresh declared]

/-- In the walk of a declaration whose shape is closed, only types that tell so themselves are
reported. -/
theorem told_of_fallback (declared : gen.graph.isDeclared d.id)
    (found : gen.graph.shape? root = some shape) (closed : gen.graph.ClosedShape [] shape)
    (h : .fallback diagnostic ∈ (gen.visitDeclaration root d).findings) :
    ∃ error : GenerationError, error.IsTold ∧
      ∃ place, .fallback diagnostic = gen.report place error := by
  rcases mem_findings_visitDeclaration_iff.mp h with same | ⟨opened, place, shape, met, noted⟩
  · simp [entrance, found] at same
  obtain ⟨closed, around⟩ := met.closed declared found closed
  rcases noted with own | ⟨inside, next, listed, same⟩
  · obtain ⟨error, told, same⟩ := told_of_mem_noted closed.settled own
    exact ⟨error, told, place, same⟩
  · obtain ⟨below, child, member, path⟩ := closed_of_mem_asked closed listed
    refine absurd same (fallback_ne_arrival below fun anonymous isOpen => ?_)
    -- An anonymous id that is open would contain itself.
    rcases around next isOpen with declared | contains
    · simp [ShapeGraph.isDeclared_eq_false anonymous] at declared
    · exact below.not_transGen ((contains child member).trans_left path)

end Generator

end Schemata
