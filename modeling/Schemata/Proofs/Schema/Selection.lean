import Schemata.Proofs.Schema.Deferral
import Schemata.Proofs.Shape.Selection

/-!
# Selection and generation

A walk looks into other declarations where a per-key transform takes the fields of their types, so
a schema may depend on declarations that its own declaration does not mention.  Each of them is
still at the end of a path of mentions.  So the exported declarations with all that they lead to are
enough: what is generated for them refers to nothing else.

## Main results

* `Generator.mem_select_of_mem_dependencies` : the selection holds the dependencies of its schemas.
* `Generator.select_least` : the selection of exported declarations is the least set that holds them
  and what its members mention.
-/

namespace Schemata

open Relation

namespace ShapeGraph

variable {g : ShapeGraph} {root id : ShapeId}

theorem Exported.isDeclared (exported : g.Exported root) : g.isDeclared root := by
  obtain ⟨d, found, -⟩ := exported
  exact g.isDeclared_of_declaration? found

/-- What an exported declaration leads to along mentions is declared. -/
theorem Exported.isDeclared_of_path (exported : g.Exported root)
    (path : ReflTransGen g.Mentions root id) : g.isDeclared id := by
  cases path with
  | refl => exact exported.isDeclared
  | tail _ mention => exact g.isDeclared_of_mentions mention

end ShapeGraph

namespace Generator

variable {graph : ShapeGraph} {rules : RuleSet} {options : GenerateOptions} {id : ShapeId}
  {schema : Schema} {stats : GeneratorStats}

/-- The dependencies of the schemas of selected declarations are selected. -/
theorem mem_select_of_mem_dependencies (filed : graph.Filed) {exportOnly : Bool}
    (selected : id ∈ graph.select exportOnly)
    (h : (new graph rules options).generate id = .ok (schema, stats)) {target : ShapeId}
    (member : target ∈ schema.dependencies) : target ∈ graph.select exportOnly := by
  obtain ⟨path, d, found⟩ := path_of_mem_dependencies h member
  exact filed.mem_select_of_path selected path (graph.isDeclared_of_declaration? found)

/-- If only exported declarations are asked for, those that paths of mentions lead to from them are
selected, in the order of the declarations and each once.  This is the least set that holds the
exported declarations and what its members mention, and it holds all dependencies of the schemas
that are generated for its members. -/
theorem select_least (filed : graph.Filed) :
    (graph.select true).Sublist graph.declaredIds ∧ (graph.select true).Nodup ∧
      (∀ id, id ∈ graph.select true ↔
        ∃ root, graph.Exported root ∧ ReflTransGen graph.Mentions root id) ∧
      (∀ inside : ShapeId → Prop, (∀ root, graph.Exported root → inside root) →
        (∀ a b, inside a → graph.Mentions a b → inside b) → ∀ id ∈ graph.select true, inside id) ∧
      ∀ rules options, ∀ id ∈ graph.select true,
        ∃ schema stats, (new graph rules options).generate id = .ok (schema, stats) ∧
          ∀ target ∈ schema.dependencies, target ∈ graph.select true := by
  have reached (id : ShapeId) : id ∈ graph.select true ↔
      ∃ root, graph.Exported root ∧ ReflTransGen graph.Mentions root id := by
    rw [filed.mem_select_iff]
    constructor
    · rintro ⟨-, path⟩
      exact path rfl
    · rintro ⟨root, exported, path⟩
      exact ⟨exported.isDeclared_of_path path, fun _ => ⟨root, exported, path⟩⟩
  refine ⟨graph.select_sublist true, filed.nodup_select true, reached, ?_, ?_⟩
  · intro inside start closed id selected
    obtain ⟨root, exported, path⟩ := (reached id).mp selected
    induction path with
    | refl => exact start root exported
    | tail before mention ih =>
      exact closed _ _ (ih ((reached _).mpr ⟨root, exported, before⟩)) mention
  · intro rules options id selected
    obtain ⟨declared, -⟩ := filed.mem_select_iff.mp selected
    rw [ShapeGraph.isDeclared_eq_isSome, Option.isSome_iff_exists] at declared
    obtain ⟨schema, stats, generated⟩ : ∃ schema stats,
        (new graph rules options).generate id = .ok (schema, stats) :=
      exists_generate_iff.mpr declared
    exact ⟨schema, stats, generated, fun target member =>
      mem_select_of_mem_dependencies filed selected generated member⟩

/-- An exported draft takes the fields of a text, and so refers to the author of the text, who has
drafts.  A note is not exported, and nothing leads to it. -/
def drafts : ShapeGraph where
  shapes := .ofList [
    (⟨1⟩, .mapped ⟨2⟩ (.perKey "Loose" .nullable)),
    (⟨2⟩, .object [⟨"author", ⟨3⟩, false, false⟩]),
    (⟨3⟩, .object [⟨"drafts", ⟨5⟩, false, false⟩]),
    (⟨4⟩, .reference ⟨1⟩ []),
    (⟨5⟩, .array ⟨1⟩)]
  declarations := .ofList [
    (⟨4⟩, ⟨⟨4⟩, "Note", "note.ts", .typeAlias, false⟩),
    (⟨3⟩, ⟨⟨3⟩, "Author", "author.ts", .interface, false⟩),
    (⟨2⟩, ⟨⟨2⟩, "Text", "text.ts", .interface, false⟩),
    (⟨1⟩, ⟨⟨1⟩, "Draft", "draft.ts", .typeAlias, true⟩)]

theorem select_least_drafts :
    drafts.Filed ∧ (drafts.select true).Nodup ∧
      (∀ id, id ∈ drafts.select true ↔
        ∃ root, drafts.Exported root ∧ ReflTransGen drafts.Mentions root id) ∧
      ∀ rules options, ∀ id ∈ drafts.select true,
        ∃ schema stats, (new drafts rules options).generate id = .ok (schema, stats) ∧
          ∀ target ∈ schema.dependencies, target ∈ drafts.select true := by
  obtain ⟨-, distinct, reached, -, closed⟩ := @select_least drafts (by decide)
  exact ⟨by decide, distinct, reached, closed⟩

example : drafts.select true = [⟨3⟩, ⟨2⟩, ⟨1⟩] := by decide +kernel

end Generator

end Schemata
