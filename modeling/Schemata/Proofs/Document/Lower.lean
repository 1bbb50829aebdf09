import Schemata.Document.Lower
import Schemata.Proofs.Shape.Graph

/-!
# Graphs of documents

The declarations of a graph that documents are lowered into are the declarations of the documents.

## Main definitions

* `Lowering.announced` : the declaration of a graph that a declaration of a file becomes.
* `Lowering.OneFileEach` : no name is declared in two files.

## Main results

* `ShapeGraph.filed_ofDocuments` : the graph of documents has every declaration under its own id.
* `ShapeGraph.declaredIds_sublist` : the declarations of the graph follow the order of the
  documents.
* `ShapeGraph.announced_of_declaration?` : every declaration of the graph is one of a document.
-/

namespace Schemata

namespace Lowering

variable {declarations : List (String × SourceDeclaration)} {seen : List (String × String)}
  {g h : ShapeGraph}

theorem filed_announce (filed : g.Filed) (announced : announce declarations seen g = .ok h) :
    h.Filed := by
  induction declarations generalizing seen g with
  | nil =>
    cases announced
    exact filed
  | cons e rest ih =>
    unfold announce at announced
    split at announced
    · cases announced
    · exact ih (filed.declare _ _ _ _) announced

/-- The declaration of a graph that a declaration of a file becomes. -/
def announced (file : String) (d : SourceDeclaration) : Declaration :=
  ⟨ShapeId.declaration file d.name, d.name, file, d.kind, d.exported⟩

theorem announced_of_announce (result : announce declarations seen g = .ok h) {id : ShapeId}
    {d : Declaration} (found : h.declaration? id = some d) :
    g.declaration? id = some d ∨
      ∃ file source, (file, source) ∈ declarations ∧ d = announced file source := by
  induction declarations generalizing seen g with
  | nil =>
    cases result
    exact Or.inl found
  | cons e rest ih =>
    obtain ⟨file, source⟩ := e
    unfold announce at result
    split at result
    · cases result
    · rcases ih result with old | ⟨file', source', listed, same⟩
      · unfold ShapeGraph.declaration? ShapeGraph.declare at old
        rw [OrderedMap.get?_insertNew] at old
        split at old
        · exact Or.inr ⟨file, source, List.mem_cons_self, (Option.some.inj old).symm⟩
        · exact Or.inl old
      · exact Or.inr ⟨file', source', List.mem_cons_of_mem _ listed, same⟩

/-- A file declares a name once, if its declarations can be announced. -/
theorem nodup_of_announce (result : announce declarations seen g = .ok h) :
    (declarations.map fun a => (a.1, a.2.name)).Nodup ∧
      ∀ a ∈ declarations, (a.1, a.2.name) ∉ seen := by
  induction declarations generalizing seen g with
  | nil => simp
  | cons e rest ih =>
    unfold announce at result
    split at result
    · cases result
    · rename_i fresh
      obtain ⟨distinct, unseen⟩ := ih result
      refine ⟨List.nodup_cons.mpr ⟨fun again => ?_, distinct⟩, List.forall_mem_cons.mpr ⟨fresh, ?_⟩⟩
      · obtain ⟨a, member, same⟩ := List.mem_map.mp again
        exact unseen a member (same ▸ List.mem_cons_self)
      · exact fun a member before => unseen a member (List.mem_cons_of_mem _ before)

/-- The declarations that are announced come after those of the graph, in their order. -/
theorem keys_announce (result : announce declarations seen g = .ok h) :
    ∃ later, h.declarations.keys = g.declarations.keys ++ later ∧
      later.Sublist (declarations.map fun a => ShapeId.declaration a.1 a.2.name) := by
  induction declarations generalizing seen g with
  | nil =>
    cases result
    exact ⟨[], (List.append_nil _).symm, List.Sublist.refl _⟩
  | cons e rest ih =>
    unfold announce at result
    split at result
    · cases result
    · obtain ⟨later, keys, part⟩ := ih result
      rw [ShapeGraph.declare, OrderedMap.keys_insertNew] at keys
      split at keys
      · exact ⟨later, keys, part.cons _⟩
      · exact ⟨_ :: later, by rw [keys, List.append_assoc, List.singleton_append],
          part.cons_cons _⟩

/-- No name is declared in two files. -/
def OneFileEach (documents : List Document) : Prop :=
  ∀ a ∈ declarationsOf documents, ∀ b ∈ declarationsOf documents, a.2.name = b.2.name → a.1 = b.1

instance (documents : List Document) : Decidable (OneFileEach documents) :=
  inferInstanceAs (Decidable (∀ a ∈ declarationsOf documents, ∀ b ∈ declarationsOf documents,
    a.2.name = b.2.name → a.1 = b.1))

theorem declarations_foldl_define (names : List Name)
    (declarations : List (String × SourceDeclaration)) (g : ShapeGraph) :
    (declarations.foldl (fun g (file, d) => defineDeclaration names g file d) g).declarations
      = g.declarations := by
  induction declarations generalizing g with
  | nil => rfl
  | cons e rest ih => exact ih _

end Lowering

namespace ShapeGraph

open Lowering

variable {documents : List Document} {g : ShapeGraph}

/-- Lowering announces all declarations and then defines them one by one. -/
theorem announce_of_ofDocuments (h : ofDocuments documents = .ok g) :
    ∃ start, announce (declarationsOf documents) [] empty = .ok start ∧
      g = (declarationsOf documents).foldl (fun g (file, d) =>
        defineDeclaration (namesOf (declarationsOf documents)) g file d) start := by
  dsimp only [ofDocuments] at h
  cases result : announce (declarationsOf documents) [] empty with
  | error error =>
    rw [result] at h
    cases h
  | ok start =>
    rw [result] at h
    cases h
    exact ⟨start, rfl, rfl⟩

theorem filed_ofDocuments (h : ofDocuments documents = .ok g) : g.Filed := by
  obtain ⟨start, result, rfl⟩ := announce_of_ofDocuments h
  have filed : start.Filed := filed_announce filed_empty result
  unfold Filed at *
  rwa [declarations_foldl_define]

/-- The declarations of a graph follow the order of the documents. -/
theorem declaredIds_sublist (h : ofDocuments documents = .ok g) :
    g.declaredIds.Sublist
      ((declarationsOf documents).map fun a => ShapeId.declaration a.1 a.2.name) := by
  rw [(filed_ofDocuments h).declaredIds_eq]
  obtain ⟨start, result, rfl⟩ := announce_of_ofDocuments h
  obtain ⟨later, keys, part⟩ := keys_announce result
  rw [declarations_foldl_define, keys]
  exact part

/-- A declaration is determined by its file and its name. -/
theorem eq_of_mem_declarationsOf (h : ofDocuments documents = .ok g)
    {a b : String × SourceDeclaration} (ha : a ∈ declarationsOf documents)
    (hb : b ∈ declarationsOf documents) (file : a.1 = b.1) (name : a.2.name = b.2.name) :
    a = b := by
  obtain ⟨start, result, -⟩ := announce_of_ofDocuments h
  exact List.inj_on_of_nodup_map (nodup_of_announce result).1 ha hb (Prod.ext file name)

/-- Every declaration of the graph is one of a document. -/
theorem announced_of_declaration? (h : ofDocuments documents = .ok g) {id : ShapeId}
    {d : Declaration} (found : g.declaration? id = some d) :
    ∃ file source, (file, source) ∈ declarationsOf documents ∧ d = announced file source := by
  obtain ⟨start, result, rfl⟩ := announce_of_ofDocuments h
  rw [declaration?, declarations_foldl_define] at found
  exact (announced_of_announce result found).resolve_left fun none => by cases none

/-- Every declaration of the graph has the id, the file and the name of one of a document. -/
theorem exists_of_declaration? (h : ofDocuments documents = .ok g) {id : ShapeId}
    {d : Declaration} (found : g.declaration? id = some d) :
    ∃ a ∈ declarationsOf documents, id = ShapeId.declaration a.1 a.2.name ∧ d.file = a.1 ∧
      d.name = a.2.name := by
  obtain ⟨file, source, listed, rfl⟩ := announced_of_declaration? h found
  exact ⟨(file, source), listed, ((filed_ofDocuments h).id_eq found).symm, rfl, rfl⟩

theorem file_mem_of_declaration? (h : ofDocuments documents = .ok g) {id : ShapeId}
    {d : Declaration} (found : g.declaration? id = some d) :
    d.file ∈ documents.map Document.file := by
  obtain ⟨file, source, listed, rfl⟩ := announced_of_declaration? h found
  obtain ⟨document, member, declared⟩ := List.mem_flatMap.mp listed
  obtain ⟨_, -, same⟩ := List.mem_map.mp declared
  exact List.mem_map.mpr ⟨document, member, congrArg Prod.fst same⟩

/-- A file and a name determine the declaration. -/
theorem eq_of_file_eq_of_name_eq (h : ofDocuments documents = .ok g) {a b : ShapeId}
    {da db : Declaration} (ha : g.declaration? a = some da) (hb : g.declaration? b = some db)
    (file : da.file = db.file) (name : da.name = db.name) : a = b := by
  have filed := filed_ofDocuments h
  obtain ⟨fileA, sourceA, -, isA⟩ := announced_of_declaration? h ha
  obtain ⟨fileB, sourceB, -, isB⟩ := announced_of_declaration? h hb
  rw [isA, isB] at file name
  rw [← filed.id_eq ha, ← filed.id_eq hb, isA, isB]
  exact congrArg₂ ShapeId.declaration file name

end ShapeGraph

end Schemata
