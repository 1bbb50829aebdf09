import Schemata.Proofs.Session.Incremental

/-!
# Sessions after any calls

A session is called on documents or on paths, in any order and with any documents, and some calls
fail.  Whatever has happened, the schemas that a call puts into its modules stand for the selected
declarations of the documents one by one.  For their ids nothing is assumed of fingerprints: a
schema from the cache bears the id that was looked up.  For their files and names it is assumed that
an id is never that of two declarations.

## Main definitions

* `Session.Call`, `Session.serveAll` : calls of a session.
* `Session.Unambiguous` : an id belongs to one file and one name.
* `Session.Dependable` : what is assumed of the calls of a session.

## Main results

* `Session.Sound.serveAll` : what holds of a session after any calls.
* `Session.unambiguous_graphsOf` : ids that do not collide are unambiguous.
* `Session.generateFiles_declared` : the schemas of a call stand for the selected declarations.
-/

namespace Schemata.Session

open Coordinator Lowering

/-! ### Calls -/

/-- A call of a session: on documents, or on paths of a store. -/
inductive Call
  | onDocuments (documents : List Document)
  | onPaths (files : FileStore) (paths : List Path)

/-- The documents of a call. -/
def Call.documents : Call → List Document
  | .onDocuments documents => documents
  | .onPaths files paths => documentsAt files paths

/-- A session after a call. -/
def serve (s : Session) : Call → Session
  | .onDocuments documents => (s.generate documents).2
  | .onPaths files paths => (s.generatePaths files paths).2

/-- A session after some calls. -/
def serveAll (s : Session) (calls : List Call) : Session :=
  calls.foldl serve s

section Sound

variable {config : Config} {run : ShapeGraph → Prop} {s : Session}

/-- A call keeps a session sound, whether it succeeds or not. -/
theorem Sound.serve (sound : s.Sound config run) (sendable : Sendable config run) {call : Call}
    (ran : ∀ g, ShapeGraph.ofDocuments call.documents = .ok g → run g) :
    (s.serve call).Sound config run := by
  cases call with
  | onDocuments documents => exact sound.generateFiles sendable ran _
  | onPaths files paths =>
    have made := sound.generateFiles sendable ran (s.changedFiles files paths)
    have call := s.called_generatePaths files paths
    show (s.generatePaths files paths).2.Sound config run
    generalize s.generatePaths files paths = result at call ⊢
    cases call with
    | unread _ _ => exact sound
    | refused _ _ _ => exact sound
    | made _ generated =>
      rw [Call.documents, generated] at made
      exact ⟨made.configured, made.options, made.rules, made.cache, made.coordinator⟩

/-- So a session is sound after any calls. -/
theorem Sound.serveAll (sound : s.Sound config run) (sendable : Sendable config run)
    {calls : List Call}
    (ran : ∀ call ∈ calls, ∀ g, ShapeGraph.ofDocuments call.documents = .ok g → run g) :
    (s.serveAll calls).Sound config run := by
  induction calls generalizing s with
  | nil => exact sound
  | cons call rest ih =>
    exact ih (sound.serve sendable (ran call List.mem_cons_self)) fun later member =>
      ran later (List.mem_cons_of_mem _ member)

end Sound

/-! ### Ids of declarations -/

/-- In all graphs of the run, an id is declared in one file and with one name. -/
def Unambiguous (run : ShapeGraph → Prop) : Prop :=
  ∀ g h, run g → run h → ∀ id d e, g.declaration? id = some d → h.declaration? id = some e →
    d.file = e.file ∧ d.name = e.name

/-- Ids are unambiguous if those of the declarations of all documents do not collide. -/
theorem unambiguous_graphsOf {runs : List (List Document)}
    (apart : ∀ a ∈ runs.flatMap declarationsOf, ∀ b ∈ runs.flatMap declarationsOf,
      ShapeId.declaration a.1 a.2.name = ShapeId.declaration b.1 b.2.name →
        a.1 = b.1 ∧ a.2.name = b.2.name) :
    Unambiguous (graphsOf runs) := by
  rintro g h ⟨documents, ran, lowered⟩ ⟨others, ran', lowered'⟩ id d e found found'
  obtain ⟨a, member, isA, fileA, nameA⟩ := ShapeGraph.exists_of_declaration? lowered found
  obtain ⟨b, member', isB, fileB, nameB⟩ := ShapeGraph.exists_of_declaration? lowered' found'
  rw [fileA, nameA, fileB, nameB]
  exact apart a (List.mem_flatMap.mpr ⟨documents, ran, member⟩) b
    (List.mem_flatMap.mpr ⟨others, ran', member'⟩) (isA.symm.trans isB)

/-- What is assumed of a session that is called on some lists of documents. -/
structure Dependable (config : Config) (workforce : Workforce) (runs : List (List Document)) :
    Prop where
  /-- Workers, if there are any, send what they generate, in whatever order. -/
  faithful : config.parallel.enabled → Faithful workforce.arrivals
  writable : config.parallel.enabled → Writable config (graphsOf runs)
  unambiguous : Unambiguous (graphsOf runs)

theorem Dependable.sendable {config : Config} {workforce : Workforce} {runs : List (List Document)}
    (dependable : Dependable config workforce runs) : Sendable config (graphsOf runs) where
  filed := by
    rintro g ⟨_, -, lowered⟩
    exact ShapeGraph.filed_ofDocuments lowered
  writable := dependable.writable

/-- A session is sound after calls on documents of the run. -/
theorem Dependable.sound {config : Config} {workforce : Workforce} {runs : List (List Document)}
    (dependable : Dependable config workforce runs) (files : FileStore) (available : Nat)
    {calls : List Call} (ran : ∀ call ∈ calls, call.documents ∈ runs) :
    ((withWorkforce config files available workforce).serveAll calls).Sound config
      (graphsOf runs) :=
  (sound_withWorkforce config files available dependable.faithful).serveAll dependable.sendable
    fun call member _ lowered => ⟨call.documents, ran call member, lowered⟩

/-- A session that meets only one graph is dependable, if its workers are faithful and the graph is
not too large to be written. -/
theorem dependable_of_forall_eq {config : Config} {workforce : Workforce}
    {runs : List (List Document)} {graph : ShapeGraph} (faithful : Faithful workforce.arrivals)
    (only : ∀ g, graphsOf runs g → g = graph)
    (short : (WorkUnit.mk ⟨0⟩ graph graph.declaredIds config.overrides.table
      (optionsOf config)).encode.length < UInt64.size) :
    Dependable config workforce runs where
  faithful _ := faithful
  writable _ g hg := only g hg ▸ short
  unambiguous := by
    rintro g h hg hh id d e found found'
    rw [only g hg] at found
    rw [only h hh, found] at found'
    obtain rfl : d = e := Option.some.inj found'
    exact ⟨rfl, rfl⟩

/-! ### Schemas of declarations -/

/-- Schemas that stand for declarations of a graph, in their order, with the files and the names of
the declarations. -/
structure Declared (graph : ShapeGraph) (ids : List ShapeId) (schemas : List Schema) : Prop where
  ids : schemas.map Schema.id = ids
  declaration : ∀ schema ∈ schemas, ∃ d, graph.declaration? schema.id = some d ∧
    d.file = schema.file ∧ d.name = schema.name

section Call

variable {config : Config} {run : ShapeGraph → Prop} {s : Session} {documents : List Document}
  {graph : ShapeGraph}

/-- A schema of the run has the file and the name of the declaration that its id belongs to. -/
theorem Known.label (unambiguous : Unambiguous run) (hg : run graph) {schema : Schema}
    (known : Known config run schema) {d : Declaration}
    (found : graph.declaration? schema.id = some d) :
    d.file = schema.file ∧ d.name = schema.name := by
  obtain ⟨h, hh, generated⟩ := known
  obtain ⟨e, found', name, file, -⟩ := Generator.declaration_of_schema? generated
  rw [file, name]
  exact unambiguous graph h hg hh schema.id d e found found'

/-- The schemas that a call puts into modules stand for the selected declarations of the files. -/
theorem generateFiles_declared (sendable : Sendable config run) (unambiguous : Unambiguous run)
    (sound : s.Sound config run) (enabled : config.enabled)
    (lowered : ShapeGraph.ofDocuments documents = .ok graph) (hg : run graph)
    (files : List String) :
    ∃ schemas s', s.generateFiles documents files
        = (.ok (modulesOf graph (optionsOf config).suffix
          ((documents.map Document.file).filter files.contains) schemas), s') ∧
      Declared graph (selectIn graph config.exportOnly files) schemas := by
  obtain ⟨schemas, s', made, labelled, -⟩ :=
    generateFiles_labelled sendable sound enabled lowered hg files
  refine ⟨schemas, s', made, labelled.ids, fun schema member => ?_⟩
  have selected : schema.id ∈ selectIn graph config.exportOnly files :=
    labelled.ids ▸ List.mem_map_of_mem member
  have declared := (selectIn_sublist graph config.exportOnly files).subset selected
  rw [(sendable.filed graph hg).mem_declaredIds_iff, ShapeGraph.isDeclared_eq_isSome,
    Option.isSome_iff_exists] at declared
  obtain ⟨d, found⟩ := declared
  exact ⟨d, found, (labelled.good schema member).label unambiguous hg found⟩

end Call

end Schemata.Session
