import Schemata.Schema.Basic
import Schemata.Schema.ModulePath
import Schemata.Shape.Graph

/-!
# Modules

The schemas of one file make a module.  A schema is defined after those of the same module that it
needs at once, and schemas of other files are imported from their modules.

## Main definitions

* `definitionOrder` : the places of schemas in the order in which they are defined.
* `SchemaModule.ofSchemas` : the module of a list of schemas.
* `SchemaModule.text` : its source text.
-/

namespace Schemata

/-- The place of the last schema of a name. -/
def placeOf? (schemas : List Schema) (name : String) : Option Nat :=
  (schemas.zipIdx.reverse.find? (·.1.name = name)).map Prod.snd

/-- The places of the other schemas that a schema needs at once. -/
def neededPlaces (schemas : List Schema) (schema : Schema) (place : Nat) : List Nat :=
  (schema.eagerNames.filterMap (placeOf? schemas)).filter (· ≠ place)

/-- The places of the schemas that every schema needs at once. -/
def definitionEdges (schemas : List Schema) : Walk.Edges Nat :=
  schemas.zipIdx.map fun (schema, place) => (place, neededPlaces schemas schema place)

/-- The places of schemas, needed ones first and otherwise in order. -/
def definitionOrder (schemas : List Schema) : List Nat :=
  Walk.postorder (definitionEdges schemas) (List.range schemas.length)

/-- The source of the schemas of one file. -/
structure SchemaModule where
  file : String
  /-- The names imported from each other module. -/
  imports : OrderedMap String (List String)
  /-- The schemas in the order of their definitions. -/
  definitions : List Schema

namespace SchemaModule

/-- Adds a name to the imports from a module. -/
def addImport (imports : OrderedMap String (List String)) (specifier name : String) :
    OrderedMap String (List String) :=
  let names := (imports.get? specifier).getD []
  imports.insert specifier (if names.contains name then names else names ++ [name])

/-- The imports that a list of schemas needs: every declaration they mention that has no schema
among them. -/
def importsOf (file : String) (schemas : List Schema) (graph : ShapeGraph) (suffix : String) :
    OrderedMap String (List String) :=
  let foreign := (schemas.flatMap Schema.dependencies).filter fun id =>
    !(schemas.map Schema.id).contains id
  (foreign.filterMap graph.declaration?).foldl
    (fun imports d =>
      addImport imports (ModulePath.specifier file d.file) (schemaName suffix d.name))
    .empty

/-- The module of the schemas of a file. -/
def ofSchemas (file : String) (schemas : List Schema) (graph : ShapeGraph) (suffix : String) :
    SchemaModule where
  file := file
  imports := importsOf file schemas graph suffix
  definitions := (definitionOrder schemas).filterMap (schemas[·]?)

/-- The first line of every module. -/
def header : String :=
  "// Generated by shapecheck. Do not edit.\n"

/-- The import of names from a module. -/
def importLine (specifier : String) (names : List String) : String :=
  "import \x7b " ++ commaList names ++ " \x7d from \"" ++ specifier ++ "\";\n"

/-- The type of a schema that is defined through itself has to be written out. -/
def annotation (schema : Schema) : String :=
  match schema.validator.kind with
  | .generic _ _ => ""
  | _ => if schema.validator.hasDeferred then ": z.ZodTypeAny" else ""

/-- The signature of a member as an entry of an object literal. -/
def memberLine (suffix : String) (member : MemberSignature) : String :=
  "  " ++ objectKey member.member ++ ": \x7b args: " ++ member.params.render suffix
    ++ ", returns: " ++ member.returns.render suffix ++ " \x7d,\n"

/-- The definition of the signatures of a schema, if it has any. -/
def membersText (suffix visibility : String) (schema : Schema) : String :=
  if schema.members.isEmpty then ""
  else
    visibility ++ "const " ++ schema.name ++ "Members = \x7b\n"
      ++ String.join (schema.members.map (memberLine suffix)) ++ "\x7d;\n"

/-- The definition of a schema. -/
def definitionText (suffix : String) (schema : Schema) : String :=
  let visibility := if schema.exported then "export " else ""
  "\n" ++ visibility ++ "const " ++ schemaName suffix schema.name ++ annotation schema ++ " = "
    ++ schema.validator.render suffix ++ ";\n" ++ membersText suffix visibility schema

/-- The source text of the module. -/
def text (m : SchemaModule) (suffix : String) : String :=
  header ++ importLine "zod" ["z"]
    ++ String.join (m.imports.entries.map fun e => importLine e.1 e.2)
    ++ (if m.definitions.any Schema.hasMessage then "\n" ++ messageHelper ++ "\n" else "")
    ++ String.join (m.definitions.map (definitionText suffix))

end SchemaModule

end Schemata
