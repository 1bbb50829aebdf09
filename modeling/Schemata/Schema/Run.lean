import Schemata.Schema.Cache
import Schemata.Schema.Generate

/-!
# Generation runs

A run generates a list of declarations, through a cache if there is one.  Ids that are not declared
are passed over.

## Main definitions

* `Generator.generateIds` : generates a list of ids.
* `Generator.generateAll` : generates all selected declarations of the graph.
-/

namespace Schemata

/-- What a run has generated. -/
structure GenerationRun where
  schemas : List Schema
  stats : GeneratorStats
  cache : Option SchemaCache

namespace Generator

/-- The schema of a declaration from the cache, or a new one that is put there. -/
def generateCached (gen : Generator) (cache : SchemaCache) (id : ShapeId) :
    Except GenerationError Schema × GeneratorStats × SchemaCache :=
  match cache.getCurrent id (gen.graph.fingerprint id) with
  | (some schema, cache) => (.ok schema, { cacheHits := 1 }, cache)
  | (none, cache) =>
    match gen.generate id with
    | .ok (schema, stats) => (.ok schema, { cacheMisses := 1 } + stats, cache.insert schema)
    | .error error => (.error error, { cacheMisses := 1 }, cache)

/-- Adds a schema to a run; an error adds nothing. -/
def append (schemas : List Schema) : Except GenerationError Schema → List Schema
  | .ok schema => schemas ++ [schema]
  | .error _ => schemas

/-- Generates one more id. -/
def generateNext (gen : Generator) (run : GenerationRun) (id : ShapeId) : GenerationRun :=
  match run.cache with
  | some cache =>
    let (result, stats, cache) := gen.generateCached cache id
    ⟨append run.schemas result, run.stats + stats, some cache⟩
  | none =>
    match gen.generate id with
    | .ok (schema, stats) => ⟨run.schemas ++ [schema], run.stats + stats, none⟩
    | .error _ => run

/-- Generates a list of ids in order. -/
def generateIds (gen : Generator) (cache : Option SchemaCache) (ids : List ShapeId) :
    GenerationRun :=
  ids.foldl gen.generateNext ⟨[], {}, cache⟩

/-- Generates all selected declarations in order. -/
def generateAll (gen : Generator) (cache : Option SchemaCache) : GenerationRun :=
  gen.generateIds cache (gen.graph.select gen.options.exportOnly)

end Generator

end Schemata
