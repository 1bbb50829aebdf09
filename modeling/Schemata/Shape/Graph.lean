import Schemata.OrderedMap
import Schemata.Shape.Canonical
import Schemata.Walk

/-!
# Type graphs

A graph holds shapes and declarations by id, both in insertion order.  Anonymous shapes are
interned: the same shape met twice in one declaration is kept once.

## Main definitions

* `ShapeGraph.declare`, `ShapeGraph.define`, `ShapeGraph.intern` : building a graph.
* `ShapeGraph.reachable` : the ids found from a list of roots.
* `ShapeGraph.references` : the declarations a shape mentions.
* `ShapeGraph.restrict` : the part of a graph that a list of roots needs.
* `ShapeGraph.fingerprint` : a digest of everything a declaration depends on.
-/

namespace Schemata

/-- Shapes and declarations by id. -/
structure ShapeGraph where
  shapes : OrderedMap ShapeId Shape
  declarations : OrderedMap ShapeId Declaration
deriving DecidableEq

namespace ShapeGraph

/-- The graph without shapes and declarations. -/
def empty : ShapeGraph :=
  ⟨OrderedMap.empty, OrderedMap.empty⟩

instance : Inhabited ShapeGraph :=
  ⟨empty⟩

/-- Announces a declaration; a repeated one changes nothing. -/
def declare (g : ShapeGraph) (file name : String) (kind : DeclarationKind) (exported : Bool) :
    ShapeGraph × ShapeId :=
  let id := ShapeId.declaration file name
  ({ g with declarations := g.declarations.insertNew id ⟨id, name, file, kind, exported⟩ }, id)

/-- Sets the shape of an id. -/
def define (g : ShapeGraph) (id : ShapeId) (shape : Shape) : ShapeGraph :=
  { g with shapes := g.shapes.insert id shape }

/-- Adds an anonymous shape met in `file` under `context`, unless its id is taken. -/
def intern (g : ShapeGraph) (file context : String) (shape : Shape) : ShapeGraph × ShapeId :=
  let id := ShapeId.node file context shape.canonical
  ({ g with shapes := g.shapes.insertNew id shape }, id)

/-- The shape of an id. -/
def shape? (g : ShapeGraph) (id : ShapeId) : Option Shape :=
  g.shapes.get? id

/-- The declaration of an id. -/
def declaration? (g : ShapeGraph) (id : ShapeId) : Option Declaration :=
  g.declarations.get? id

/-- Is the id declared? -/
def isDeclared (g : ShapeGraph) (id : ShapeId) : Bool :=
  g.declarations.contains id

/-- The first declaration of a name. -/
def findDeclaration? (g : ShapeGraph) (name : String) : Option Declaration :=
  g.declarations.values.find? (·.name = name)

/-- The edges from every shape to its children. -/
def edges (g : ShapeGraph) : Walk.Edges ShapeId :=
  g.shapes.entries.map fun e => (e.1, e.2.children)

/-- The edges from undeclared shapes to their children. -/
def anonymousEdges (g : ShapeGraph) : Walk.Edges ShapeId :=
  g.edges.filter fun e => !g.isDeclared e.1

/-- The ids found from `roots`, in the order of a left-to-right walk. -/
def reachable (g : ShapeGraph) (roots : List ShapeId) : List ShapeId :=
  Walk.preorder g.edges roots

/-- The declarations that the shape of `id` mentions, through anonymous shapes only. -/
def references (g : ShapeGraph) (id : ShapeId) : List ShapeId :=
  let children := ((g.shape? id).map Shape.children).getD []
  (Walk.preorder g.anonymousEdges children).filter g.isDeclared

/-- The part of the graph that `roots` need, in the same order. -/
def restrict (g : ShapeGraph) (roots : List ShapeId) : ShapeGraph :=
  let needed := g.reachable roots
  { shapes := g.shapes.filterKeys (needed.contains ·)
    declarations := g.declarations.filterKeys (needed.contains ·) }

/-- The octets by which one reached id enters a fingerprint. -/
def fingerprintEntry (g : ShapeGraph) (id : ShapeId) : List UInt8 :=
  let shape := match g.shape? id with
    | some shape => Bytes.ofString shape.canonical
    | none => Bytes.ofString "missing"
  let declaration := match g.declaration? id with
    | some d => Bytes.ofString s!"{d.kind.canonicalName}:{d.exported}"
    | none => []
  Bytes.ofNat 8 id.value.toNat ++ shape ++ declaration ++ [0]

/-- A digest of all shapes and declarations that `id` can reach. -/
def fingerprint (g : ShapeGraph) (id : ShapeId) : UInt64 :=
  ShapeId.truncate (Blake3.digest ((g.reachable [id]).flatMap g.fingerprintEntry))

/-- The ids of the declarations, in order. -/
def declaredIds (g : ShapeGraph) : List ShapeId :=
  g.declarations.values.map Declaration.id

/-- The edges from every declaration to the declarations it mentions. -/
def declarationEdges (g : ShapeGraph) : Walk.Edges ShapeId :=
  g.declaredIds.map fun id => (id, g.references id)

/-- The ids to generate, in declaration order: all of them, or the exported ones with everything
they mention. -/
def select (g : ShapeGraph) (exportOnly : Bool) : List ShapeId :=
  if exportOnly then
    let exported := (g.declarations.values.filter (·.exported)).map Declaration.id
    let needed := Walk.preorder g.declarationEdges exported
    g.declaredIds.filter (needed.contains ·)
  else g.declaredIds

end ShapeGraph

end Schemata
