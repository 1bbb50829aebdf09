import Mathlib.Data.List.Nodup
import Schemata.Proofs.OrderedMap
import Schemata.Proofs.Walk.Postorder
import Schemata.Schema.Module

/-!
# Definitions and imports of modules

A module defines each of its schemas once.  What a schema needs at once is defined before it, unless
the needed schema needs it in turn.  A name is imported for every declaration that a schema depends
on and that has no schema in the module, and for no other.

## Main results

* `leads_definitionEdges_iff` : which places a place needs.
* `SchemaModule.definitions_perm` : the definitions of a module are its schemas.
* `SchemaModule.sublist_definitions` : a needed schema is defined first, cycles apart.
* `SchemaModule.imports_iff` : the imported names.
* `SchemaModule.nodup_boundNames` : when a module binds each name once.
* `SchemaModule.text_of_definitions_eq` : where the text of a module has the definition of a schema.
* `SchemaModule.Imports.importsIn_text` : where it has the import of a name.
-/

namespace Schemata

open Relation

variable {schemas : List Schema}

/-! ### Needed places -/

theorem getElem?_of_placeOf? {name : String} {place : Nat}
    (h : placeOf? schemas name = some place) :
    ∃ schema, schemas[place]? = some schema ∧ schema.name = name := by
  obtain ⟨⟨schema, other⟩, found, rfl⟩ := Option.map_eq_some_iff.mp h
  have listed := List.mem_reverse.mp (List.mem_of_find?_eq_some found)
  exact ⟨schema, List.mem_zipIdx_iff_getElem?.mp listed, by simpa using List.find?_some found⟩

/-- If no two schemas have the same name, a name stands for the schema that has it. -/
theorem placeOf?_of_getElem? (distinct : (schemas.map Schema.name).Nodup) {place : Nat}
    {schema : Schema} (h : schemas[place]? = some schema) :
    placeOf? schemas schema.name = some place := by
  have listed : (schema, place) ∈ schemas.zipIdx.reverse :=
    List.mem_reverse.mpr (List.mem_zipIdx_iff_getElem?.mpr h)
  cases found : placeOf? schemas schema.name with
  | none =>
    have missing := List.find?_eq_none.mp (Option.map_eq_none_iff.mp found) _ listed
    simp at missing
  | some other =>
    obtain ⟨twin, at_other, same⟩ := getElem?_of_placeOf? found
    have bound : place < (schemas.map Schema.name).length := by
      rw [List.length_map]
      exact (List.getElem?_eq_some_iff.mp h).1
    have equal : (schemas.map Schema.name)[place]? = (schemas.map Schema.name)[other]? := by
      rw [List.getElem?_map, List.getElem?_map, h, at_other, Option.map_some, Option.map_some, same]
    rw [(List.getElem?_inj bound distinct).mp equal]

private theorem nodup_places (schemas : List Schema) :
    ((definitionEdges schemas).map Prod.fst).Nodup := by
  have places : (definitionEdges schemas).map Prod.fst = List.range' 0 schemas.length := by
    rw [definitionEdges, List.map_map, ← List.zipIdx_map_snd 0 schemas]
    rfl
  rw [places]
  exact List.nodup_range'

/-- A place needs the places of the names that its schema needs at once. -/
theorem leads_definitionEdges_iff {place next : Nat} :
    Walk.Leads (definitionEdges schemas) place next ↔
      ∃ schema, schemas[place]? = some schema ∧
        (∃ name ∈ schema.eagerNames, placeOf? schemas name = some next) ∧ next ≠ place := by
  let table : OrderedMap Nat (List Nat) := ⟨definitionEdges schemas, nodup_places schemas⟩
  have entry {needed : List Nat} : (definitionEdges schemas).lookup place = some needed ↔
      ∃ schema, schemas[place]? = some schema ∧ neededPlaces schemas schema place = needed := by
    refine (table.get?_eq_some_iff).trans ?_
    simp only [table, definitionEdges, List.mem_map, Prod.mk.injEq, Prod.exists,
      List.mem_zipIdx_iff_getElem?]
    constructor
    · rintro ⟨schema, _, found, rfl, needed⟩
      exact ⟨schema, found, needed⟩
    · rintro ⟨schema, found, needed⟩
      exact ⟨schema, place, found, rfl, needed⟩
  unfold Walk.Leads Walk.successors
  constructor
  · intro member
    cases found : (definitionEdges schemas).lookup place with
    | none => simp [found] at member
    | some needed =>
      obtain ⟨schema, at_place, rfl⟩ := entry.mp found
      rw [found, Option.getD_some, neededPlaces, List.mem_filter, List.mem_filterMap] at member
      exact ⟨schema, at_place, member.1, by simpa using member.2⟩
  · rintro ⟨schema, at_place, named, other⟩
    rw [entry.mpr ⟨schema, at_place, rfl⟩, Option.getD_some, neededPlaces, List.mem_filter,
      List.mem_filterMap]
    exact ⟨named, by simpa using other⟩

/-! ### The order of definitions -/

/-- The order of definitions lists every place once. -/
theorem definitionOrder_perm (schemas : List Schema) :
    (definitionOrder schemas).Perm (List.range schemas.length) := by
  have found : (Walk.preorder (definitionEdges schemas) (List.range schemas.length)).Perm
      (List.range schemas.length) := by
    refine (List.perm_ext_iff_of_nodup (Walk.nodup_preorder _ _) List.nodup_range).mpr ?_
    intro place
    rw [Walk.mem_preorder_iff]
    constructor
    · rintro ⟨root, listed, path⟩
      induction path with
      | refl => exact listed
      | tail _ step ih =>
        obtain ⟨_, -, ⟨name, -, placed⟩, -⟩ := leads_definitionEdges_iff.mp step
        obtain ⟨schema, at_place, -⟩ := getElem?_of_placeOf? placed
        exact List.mem_range.mpr (List.getElem?_eq_some_iff.mp at_place).1
    · exact fun listed => ⟨place, listed, .refl⟩
  exact (Walk.postorder_perm_preorder _ _).trans found

private theorem filterMap_getElem?_range (schemas : List Schema) :
    (List.range schemas.length).filterMap (schemas[·]?) = schemas := by
  have kept : ∀ e ∈ schemas.zipIdx, schemas[e.2]? = some e.1 := fun e member =>
    List.mem_zipIdx_iff_getElem?.mp member
  calc (List.range schemas.length).filterMap (schemas[·]?)
      = (schemas.zipIdx.map Prod.snd).filterMap (schemas[·]?) := by
        rw [List.zipIdx_map_snd, List.range_eq_range']
    _ = schemas.zipIdx.filterMap fun e => schemas[e.2]? := List.filterMap_map
    _ = schemas.zipIdx.filterMap fun e => some e.1 := List.filterMap_congr kept
    _ = schemas.zipIdx.map Prod.fst := congrFun List.filterMap_eq_map _
    _ = schemas := List.zipIdx_map_fst 0 schemas

namespace SchemaModule

variable {file suffix : String} {graph : ShapeGraph}

/-- A module defines each of its schemas once. -/
theorem definitions_perm (file : String) (schemas : List Schema) (graph : ShapeGraph)
    (suffix : String) : (ofSchemas file schemas graph suffix).definitions.Perm schemas := by
  have perm := (definitionOrder_perm schemas).filterMap (schemas[·]?)
  rwa [filterMap_getElem?_range] at perm

/-- What a schema needs at once is defined before it, unless it is needed in turn. -/
theorem sublist_definitions {place next : Nat} {schema needed : Schema}
    (at_place : schemas[place]? = some schema) (at_next : schemas[next]? = some needed)
    (edge : Walk.Leads (definitionEdges schemas) place next)
    (oneWay : ¬ ReflTransGen (Walk.Leads (definitionEdges schemas)) next place) :
    [needed, schema].Sublist (ofSchemas file schemas graph suffix).definitions := by
  have listed : place ∈ definitionOrder schemas := by
    rw [(definitionOrder_perm schemas).mem_iff, List.mem_range]
    exact (List.getElem?_eq_some_iff.mp at_place).1
  have before := (Walk.sublist_postorder listed edge oneWay).filterMap (schemas[·]?)
  have kept : [next, place].filterMap (schemas[·]?) = [needed, schema] := by
    simp [at_place, at_next]
  rwa [kept] at before

/-! ### Imports -/

/-- The name is listed under the specifier. -/
def Listed (imports : OrderedMap String (List String)) (specifier name : String) : Prop :=
  ∃ names, imports.get? specifier = some names ∧ name ∈ names

instance (imports : OrderedMap String (List String)) (specifier name : String) :
    Decidable (Listed imports specifier name) :=
  inferInstanceAs (Decidable (∃ names ∈ imports.get? specifier, name ∈ names))

theorem listed_addImport_iff {imports : OrderedMap String (List String)}
    {specifier specifier' name name' : String} :
    Listed (addImport imports specifier name) specifier' name' ↔
      Listed imports specifier' name' ∨ specifier' = specifier ∧ name' = name := by
  unfold Listed addImport
  rw [OrderedMap.get?_insert]
  by_cases same : specifier' = specifier
  · subst same
    cases found : imports.get? specifier' with
    | none => simp
    | some names =>
      by_cases old : name ∈ names
      · have again (h : name' = name) : name' ∈ names := h ▸ old
        simpa [old] using again
      · simp [old]
  · simp [same]

theorem listed_foldl_iff (f : Declaration → String × String) (ds : List Declaration)
    {imports : OrderedMap String (List String)} {specifier name : String} :
    Listed (ds.foldl (fun imports d => addImport imports (f d).1 (f d).2) imports) specifier name ↔
      Listed imports specifier name ∨ ∃ d ∈ ds, specifier = (f d).1 ∧ name = (f d).2 := by
  induction ds generalizing imports with
  | nil => simp
  | cons d rest ih =>
    rw [List.foldl_cons, ih, listed_addImport_iff, or_assoc, List.exists_mem_cons_iff]

/-- A module imports a name from another one. -/
def Imports (m : SchemaModule) (specifier name : String) : Prop :=
  Listed m.imports specifier name

instance (m : SchemaModule) (specifier name : String) : Decidable (m.Imports specifier name) :=
  inferInstanceAs (Decidable (Listed m.imports specifier name))

/-- The imported names are those of the declarations that a schema depends on and that have no
schema in the module. -/
theorem imports_iff {specifier name : String} :
    (ofSchemas file schemas graph suffix).Imports specifier name ↔
      ∃ schema ∈ schemas, ∃ target ∈ schema.dependencies, target ∉ schemas.map Schema.id ∧
        ∃ d, graph.declaration? target = some d ∧
          specifier = ModulePath.specifier file d.file ∧ name = schemaName suffix d.name := by
  have none_yet : ¬ Listed .empty specifier name := fun ⟨_, found, _⟩ => by cases found
  unfold Imports ofSchemas importsOf
  dsimp only
  rw [listed_foldl_iff (fun d => (ModulePath.specifier file d.file, schemaName suffix d.name)),
    or_iff_right none_yet]
  simp only [List.mem_filterMap, List.mem_filter, List.mem_flatMap, Bool.not_eq_true',
    List.contains_eq_mem, decide_eq_false_iff_not]
  constructor
  · rintro ⟨d, ⟨target, ⟨⟨schema, member, dep⟩, foreign⟩, found⟩, named⟩
    exact ⟨schema, member, target, dep, foreign, d, found, named⟩
  · rintro ⟨schema, member, target, dep, foreign, d, found, named⟩
    exact ⟨d, ⟨target, ⟨⟨schema, member, dep⟩, foreign⟩, found⟩, named⟩

/-! ### Bound names -/

/-- The names that a module binds: those that it imports and those of its definitions. -/
def boundNames (m : SchemaModule) (suffix : String) : List String :=
  m.imports.entries.flatMap Prod.snd
    ++ m.definitions.map fun schema => schemaName suffix schema.name

theorem nodup_addImport {imports : OrderedMap String (List String)} {specifier name : String}
    (distinct : ∀ s names, imports.get? s = some names → names.Nodup) {s : String}
    {names : List String} (found : (addImport imports specifier name).get? s = some names) :
    names.Nodup := by
  unfold addImport at found
  rw [OrderedMap.get?_insert] at found
  split at found
  · have old : ((imports.get? specifier).getD []).Nodup := by
      cases listed : imports.get? specifier with
      | none => exact List.nodup_nil
      | some others => exact distinct specifier others listed
    rw [← Option.some.inj found]
    split
    · exact old
    · rename_i new
      exact old.append (List.nodup_singleton name)
        (List.disjoint_singleton.mpr (by simpa using new))
  · exact distinct s names found

/-- No name is imported twice from the same module. -/
theorem nodup_imports {specifier : String} {names : List String}
    (found : (ofSchemas file schemas graph suffix).imports.get? specifier = some names) :
    names.Nodup := by
  have fold (ds : List Declaration) (imports : OrderedMap String (List String))
      (distinct : ∀ s names, imports.get? s = some names → names.Nodup) :
      ∀ s names, (ds.foldl (fun imports d => addImport imports (ModulePath.specifier file d.file)
        (schemaName suffix d.name)) imports).get? s = some names → names.Nodup := by
    induction ds generalizing imports with
    | nil => exact distinct
    | cons d rest ih => exact ih _ fun s names => nodup_addImport distinct
  exact fold _ .empty (fun s names none => by cases none) specifier names found

/-- A module binds each name once if it imports no name from two modules and none that it defines,
and defines no name twice. -/
theorem nodup_boundNames {m : SchemaModule} (isModule : m = ofSchemas file schemas graph suffix)
    (apart : ∀ specifier specifier' name, m.Imports specifier name → m.Imports specifier' name →
      specifier = specifier')
    (foreign : ∀ specifier, ∀ schema ∈ m.definitions,
      ¬ m.Imports specifier (schemaName suffix schema.name))
    (distinct : (m.definitions.map Schema.name).Nodup) : (m.boundNames suffix).Nodup := by
  have listed {e : String × List String} (member : e ∈ m.imports.entries) :
      m.imports.get? e.1 = some e.2 := m.imports.get?_eq_some_iff.mpr member
  refine List.nodup_append'.mpr ⟨List.nodup_flatMap.mpr ⟨fun e member => ?_, ?_⟩, ?_, ?_⟩
  · subst isModule
    exact nodup_imports (listed member)
  · refine List.Pairwise.imp_of_mem ?_ (List.pairwise_map.mp m.imports.nodup)
    intro a b ha hb different name inA inB
    exact different (apart a.1 b.1 name ⟨a.2, listed ha, inA⟩ ⟨b.2, listed hb, inB⟩)
  · have injective : Function.Injective (schemaName suffix) := fun a b same =>
      (String.append_left_inj suffix).mp same
    have := distinct.map injective
    rwa [List.map_map] at this
  · intro name imported defined
    obtain ⟨e, member, inE⟩ := List.mem_flatMap.mp imported
    obtain ⟨schema, isDefined, rfl⟩ := List.mem_map.mp defined
    exact foreign e.1 schema isDefined ⟨e.2, listed member, inE⟩

/-! ### Texts of definitions -/

/-- The text starts with the definition of a name, with `export` or without. -/
def StartsDefinition (text name : String) (exported : Bool) : Prop :=
  ∃ rest, text = "\n" ++ (if exported then "export " else "") ++ "const " ++ name ++ rest

theorem startsDefinition_definitionText (suffix : String) (schema : Schema) :
    StartsDefinition (definitionText suffix schema) (schemaName suffix schema.name)
      schema.exported := by
  refine ⟨ annotation schema ++ " = " ++ schema.validator.render suffix ++ ";\n"
    ++ membersText suffix (if schema.exported then "export " else "") schema, ?_⟩
  simp only [definitionText, String.append_assoc]

/-! ### Texts of modules -/

/-- What a module says before its definitions: the header, the import lines and, if a schema needs
it, the helper for messages. -/
def preamble (m : SchemaModule) : String :=
  header ++ String.join ((("zod", ["z"]) :: m.imports.entries).map fun e => importLine e.1 e.2)
    ++ if m.definitions.any Schema.hasMessage then "\n" ++ messageHelper ++ "\n" else ""

/-- Definitions one after another. -/
def definitionsText (suffix : String) (schemas : List Schema) : String :=
  String.join (schemas.map (definitionText suffix))

/-- After its preamble the text of a module has its definitions and nothing else. -/
theorem text_eq_preamble (m : SchemaModule) (suffix : String) :
    m.text suffix = m.preamble ++ definitionsText suffix m.definitions := by
  simp only [text, preamble, definitionsText, List.map_cons, String.join_cons, String.append_assoc]

/-- The definition of a schema stands between those of the schemas before and after it. -/
theorem text_of_definitions_eq {m : SchemaModule} {before after : List Schema} {schema : Schema}
    (split : m.definitions = before ++ schema :: after) (suffix : String) :
    m.text suffix = m.preamble ++ definitionsText suffix before ++ definitionText suffix schema
      ++ definitionsText suffix after := by
  rw [text_eq_preamble, split]
  simp only [definitionsText, List.map_append, List.map_cons, String.join_append, String.join_cons,
    String.append_assoc]

/-- One of the import lines that follow the header of a text imports a name from a module. -/
def ImportsIn (text specifier name : String) : Prop :=
  ∃ (before : List (String × List String)) (names : List String) (after : String), name ∈ names ∧
    text = header ++ String.join (before.map fun e => importLine e.1 e.2)
      ++ ("import \x7b " ++ String.intercalate ", " names ++ " \x7d from \"" ++ specifier
        ++ "\";\n") ++ after

theorem Imports.importsIn_text {m : SchemaModule} {specifier name : String}
    (imported : m.Imports specifier name) (suffix : String) :
    ImportsIn (m.text suffix) specifier name := by
  obtain ⟨names, found, member⟩ := imported
  obtain ⟨before, after, entries⟩ := List.append_of_mem (m.imports.get?_eq_some_iff.mp found)
  let rest : String :=
    (if m.definitions.any Schema.hasMessage then "\n" ++ messageHelper ++ "\n" else "")
      ++ definitionsText suffix m.definitions
  refine ⟨("zod", ["z"]) :: before, names,
    String.join (after.map fun e => importLine e.1 e.2) ++ rest, member, ?_⟩
  rw [text_eq_preamble, preamble, entries]
  simp only [rest, importLine, commaList, List.map_append, List.map_cons, String.join_append,
    String.join_cons, String.append_assoc]

/-- In a list without repetitions, what comes before an entry as a sublist is in the part before
it. -/
theorem mem_of_sublist_of_eq_append {order before after : List Schema} {schema needed : Schema}
    (distinct : order.Nodup) (split : order = before ++ schema :: after)
    (sublist : [needed, schema].Sublist order) : needed ∈ before := by
  subst split
  have late : schema ∉ after := (List.nodup_cons.mp distinct.of_append_right).1
  obtain ⟨first, second, parts, inBefore, inRest⟩ := List.sublist_append_iff.mp sublist
  cases first with
  | nil =>
    rw [List.nil_append] at parts
    subst parts
    exact absurd (inRest.of_cons_cons.subset List.mem_cons_self) late
  | cons head tail =>
    obtain rfl : needed = head := (List.cons.inj parts).1
    exact inBefore.subset List.mem_cons_self

end SchemaModule

end Schemata
