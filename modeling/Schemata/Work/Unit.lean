import Schemata.Binary.Shape
import Schemata.Rules.Set
import Schemata.Schema.Run

/-!
# Units of work

A unit of work carries all that is needed to generate some declarations: the part of the graph that
they reach, the rules as a table, and the options.  It can be written as octets, handed to a worker
and read there.

## Main definitions

* `WorkUnit` : a unit of work.
* `WorkUnit.ofGraph` : the unit of some declarations of a graph.
* `WorkUnit.encode`, `WorkUnit.decode?` : the unit as octets.
* `WorkUnit.generate` : what a unit yields.
-/

namespace Schemata

/-- The number of a task. -/
structure TaskId where
  value : UInt64
deriving DecidableEq, Repr

namespace TaskId

/-- A task as it is mentioned in messages. -/
def toText (task : TaskId) : String :=
  s!"#{task.value.toNat}"

/-- A task is one word. -/
def codec : Codec TaskId :=
  Codec.word.convert value mk

end TaskId

/-- All that is needed to generate some declarations. -/
structure WorkUnit where
  task : TaskId
  graph : ShapeGraph
  roots : List ShapeId
  rules : RuleTable
  options : GenerateOptions
deriving DecidableEq

/-- What a unit yields: the schemas of its roots in order, and what the counters gained. -/
structure UnitOutput where
  schemas : List Schema
  stats : GeneratorStats

section Codecs

open Codec

/-- A rule: expression and message. -/
def Rule.codec : Codec Rule :=
  (text.pair (optional text)).convert (fun r => (r.expression, r.message))
    (fun (expression, message) => ⟨expression, message⟩)

/-- An entry of the field table. -/
def FieldEntry.codec : Codec FieldEntry :=
  (text.pair (flag.pair Rule.codec)).convert (fun e => (e.key, e.pattern, e.rule))
    (fun (key, pattern, rule) => ⟨key, pattern, rule⟩)

/-- An entry of the context table. -/
def ContextEntry.codec : Codec ContextEntry :=
  (text.pair (flag.pair (list (text.pair Rule.codec)))).convert
    (fun e => (e.key, e.pattern, e.fields)) (fun (key, pattern, fields) => ⟨key, pattern, fields⟩)

/-- A rule table: fields, then contexts. -/
def RuleTable.codec : Codec RuleTable :=
  ((list FieldEntry.codec).pair (list ContextEntry.codec)).convert
    (fun t => (t.fields, t.contexts)) (fun (fields, contexts) => ⟨fields, contexts⟩)

/-- The options of generation. -/
def GenerateOptions.codec : Codec GenerateOptions :=
  (flag.pair (flag.pair text)).convert (fun o => (o.strict, o.exportOnly, o.suffix))
    (fun (strict, exportOnly, suffix) => ⟨strict, exportOnly, suffix⟩)

/-- A unit: task, graph, roots, rules and options. -/
def WorkUnit.codec : Codec WorkUnit :=
  (TaskId.codec.pair (ShapeGraph.codec.pair ((list ShapeId.codec).pair
    (RuleTable.codec.pair GenerateOptions.codec)))).convert
    (fun u => (u.task, u.graph, u.roots, u.rules, u.options))
    (fun (task, graph, roots, rules, options) => ⟨task, graph, roots, rules, options⟩)

end Codecs

namespace WorkUnit

/-- The unit that generates `roots`, with the part of the graph that they reach. -/
def ofGraph (task : TaskId) (graph : ShapeGraph) (roots : List ShapeId) (rules : RuleSet)
    (options : GenerateOptions) : WorkUnit :=
  ⟨task, graph.restrict roots, roots, rules.table, options⟩

/-- The unit as octets. -/
def encode (unit : WorkUnit) : List UInt8 :=
  codec.encode unit

/-- The unit at the start of a string of octets. -/
def decode? (bytes : List UInt8) : Option WorkUnit :=
  (codec.decode? bytes).map Prod.fst

/-- Generates the roots of the unit; ids that are not declared are passed over. -/
def generate (unit : WorkUnit) : UnitOutput :=
  let run := (Generator.new unit.graph (.ofTable unit.rules) unit.options).generateIds none
    unit.roots
  ⟨run.schemas, run.stats⟩

end WorkUnit

end Schemata
