import Schemata.Config.Basic
import Schemata.Config.Overrides
import Schemata.Json.Read
import Schemata.Toml.Read

/-!
# Configuration texts

A configuration is written in JSON or in TOML.  Both are taken apart into named settings, and the
configuration is put together from these.

## Main definitions

* `Config.Setting` : what stands under a name at the top of a text.
* `Config.ofSettings?` : the configuration of a list of settings.
* `Config.ofJsonText?`, `Config.ofTomlText?` : the configuration that a text spells.
-/

namespace Schemata.Config

/-- Named parts of a section. -/
abbrev Parts :=
  List (String × Json)

/-- What stands under a name at the top of a configuration. -/
inductive Setting
  | value (value : Json)
  | group (parts : Parts)

/-- The names inside a section, if the name is that of a section. -/
def sectionNames? : String → Option (List String)
  | "cache" => some ["enabled", "max_size"]
  | "incremental" => some ["enabled", "cache_path"]
  | "parallel" =>
    some ["enabled", "workers", "batch_size", "shutdown_timeout_ms", "task_timeout_ms"]
  | _ => none

/-! ### Settings by type -/

/-- A whole number of sixty-four bits. -/
def natural? : Json → Option Nat
  | .int n => if 0 ≤ n ∧ n < Nat.pow 2 64 then some n.toNat else none
  | _ => none

/-- The part called `name`, or a default. -/
def part? {α : Type} (parts : Parts) (name : String) (read : Json → Option α) (default : α) :
    Option α :=
  Json.optionalPart read default (parts.lookup name)

/-- The settings of the cache. -/
def cacheOf? (parts : Parts) : Option CacheConfig := do
  return {
    enabled := ← part? parts "enabled" Json.flag? true
    maxSize := ← part? parts "max_size" natural? 1000 }

/-- The settings of incremental work. -/
def incrementalOf? (parts : Parts) : Option IncrementalConfig := do
  let path ← part? parts "cache_path" (Json.nullable? Json.text?) none
  return {
    enabled := ← part? parts "enabled" Json.flag? false
    cachePath := path.map Path.mk }

/-- The settings of parallel work. -/
def parallelOf? (parts : Parts) : Option ParallelConfig := do
  return {
    enabled := ← part? parts "enabled" Json.flag? false
    workers := ← part? parts "workers" (Json.nullable? natural?) none
    batchSize := ← part? parts "batch_size" natural? 50
    shutdownTimeoutMs := ← part? parts "shutdown_timeout_ms" natural? 5000
    taskTimeoutMs := ← part? parts "task_timeout_ms" natural? 30000 }

/-! ### The whole configuration -/

/-- The value under a name; refused when the name comes twice. -/
def valueOf? (settings : List (String × Setting)) (name : String) : Option (Option Json) :=
  match settings.filter (·.1 = name) with
  | [] => some none
  | [(_, .value value)] => some (some value)
  | _ => none

/-- The parts of a section; none are there when it is missing. -/
def groupOf? (settings : List (String × Setting)) (name : String) : Option Parts :=
  match settings.filter (·.1 = name) with
  | [] => some []
  | [(_, .group parts)] => some parts
  | _ => none

/-- A truth value under a name, or a default. -/
def flagOf? (settings : List (String × Setting)) (name : String) (default : Bool) :
    Option Bool := do
  Json.optionalPart Json.flag? default (← valueOf? settings name)

/-- The configuration of a list of settings; other names are passed over. -/
def ofSettings? (settings : List (String × Setting)) : Option Config := do
  let validators ← valueOf? settings "validators"
  let contexts ← valueOf? settings "contexts"
  return {
    enabled := ← flagOf? settings "enabled" true
    strict := ← flagOf? settings "strict" false
    exportOnly := ← flagOf? settings "export_only" false
    cache := ← cacheOf? (← groupOf? settings "cache")
    incremental := ← incrementalOf? (← groupOf? settings "incremental")
    parallel := ← parallelOf? (← groupOf? settings "parallel")
    overrides := ← Overrides.ofJson? validators contexts }

/-! ### JSON -/

/-- The parts of a section of a JSON text; parts of other names are passed over. -/
def readGroup (names : List String) (budget : Nat) (outline : Json.Outline) :
    Except Json.Refusal Parts :=
  let fields := names.map fun name =>
    ({ names := [name]
       read := fun budget item parts => do return parts ++ [(name, ← item.value budget)] } :
      Json.Outline.FieldReader Parts)
  outline.record fields budget []

/-- The settings among the members of a JSON text. -/
def readSettings (budget : Nat) :
    List (Json.StringLexeme × Json.Outline) → Except Json.Refusal (List (String × Setting))
  | [] => .ok []
  | (key, item) :: rest => do
    let name ← key.text
    let setting ←
      match sectionNames? name with
      | some names => do pure (.group (← readGroup names budget item))
      | none => do pure (.value (← item.value budget))
    return (name, setting) :: (← readSettings budget rest)

/-- The configuration of a JSON text. -/
def readJson (budget : Nat) : Json.Outline → Except Json.Refusal Config
  | .object members fault => do
    let budget ← Json.Outline.enter budget
    let settings ← readSettings budget members
    Json.Outline.closed fault
    Json.required (ofSettings? settings)
  | other => other.refuse

/-- The configuration that a JSON text spells. -/
def ofJsonText? (text : String) : Option Config :=
  (Json.readText readJson text).toOption

/-! ### TOML -/

/-- The parts of a section of a TOML text, by name or in order. -/
def groupOfValue? (names : List String) : Json → Option Parts
  | .object members => some members
  | .array items => some (names.zip items)
  | _ => none

/-- The configuration that a TOML text spells. -/
def ofTomlText? (text : String) : Option Config := do
  let members ← Toml.parse? text
  let settings ← members.mapM fun (name, value) => do
    match sectionNames? name with
    | some names => return (name, Setting.group (← groupOfValue? names value))
    | none => return (name, .value value)
  ofSettings? settings

end Schemata.Config
