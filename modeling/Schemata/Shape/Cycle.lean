import Schemata.Shape.Graph
import Schemata.Walk.Components

/-!
# Cycles of declarations

Two declarations are on a common cycle when each mentions the other, directly or through others.
They are then in one component of the graph of mentions, and that component has a cycle.

## Main definitions

* `CycleIndex.build` : the components of the declarations of a graph.
* `CycleIndex.sameCycle` : are two ids on a common cycle?
-/

namespace Schemata

/-- The components of the graph of mentions, known by their places in a list. -/
structure CycleIndex where
  /-- The place of the component of a declaration. -/
  component : OrderedMap ShapeId Nat
  /-- For each component, do its members lie on a cycle? -/
  cyclic : List Bool

namespace CycleIndex

/-- Do the members of a component lie on a cycle?  A single one does if it mentions itself. -/
def isCyclic (edges : Walk.Edges ShapeId) : List ShapeId → Bool
  | [] => false
  | [member] => (Walk.successors edges member).contains member
  | _ :: _ :: _ => true

/-- The index of a list of components. -/
def ofComponents (edges : Walk.Edges ShapeId) (components : List (List ShapeId)) : CycleIndex where
  component := .ofList (components.zipIdx.flatMap fun e => e.1.map fun member => (member, e.2))
  cyclic := components.map (isCyclic edges)

/-- The index of the declarations of a graph. -/
def build (g : ShapeGraph) : CycleIndex :=
  let edges := g.declarationEdges
  ofComponents edges ((Walk.components? edges).getD [])

/-- Are the two ids declarations on a common cycle? -/
def sameCycle (index : CycleIndex) (a b : ShapeId) : Bool :=
  match index.component.get? a, index.component.get? b with
  | some m, some n => m = n && index.cyclic.getD m false
  | _, _ => false

end CycleIndex

end Schemata
