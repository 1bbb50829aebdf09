import Schemata.Proofs.Files.Persistence
import Schemata.Proofs.Session.Commitment

/-!
# Sessions that are taken up again

A session that has generated the documents at some paths knows their files.  As long as the files
are as they were, a call on the same paths makes no modules and passes over all of them: in the same
session, whatever other calls there were, and in another one, if the ledger was saved in between and
is read from the same file.

All documents are put together even if no file has changed.  A session that does not generate never
does this, so it may know files that a session that generates refuses.

## Main definitions

* `FileLedger.Knows` : files are as their records say.
* `FileStore.SameAt` : files are the same in two stores.
* `Session.HandsOver` : a session has left its ledger to another one.

## Main results

* `Session.knows_of_generatePaths`, `Session.knows_serveAll` : what is known after a call on paths,
  and stays known in others.
* `Session.generatePaths_of_knows` : known files are passed over.
* `Session.HandsOver.knows_openAt` : what another session knows.
* `Session.generatePaths_resumed` : a call on the same paths, in the same session or in another one.
-/

namespace Schemata

/-! ### Known files -/

/-- The files at some paths are the same in two stores. -/
def FileStore.SameAt (files : FileStore) (paths : List Path) (others : FileStore) : Prop :=
  ∀ path ∈ paths, others.file path = files.file path

theorem FileStore.SameAt.symm {paths : List Path} {files others : FileStore}
    (same : files.SameAt paths others) : others.SameAt paths files :=
  fun path listed => (same path listed).symm

namespace FileLedger

variable {ledger : FileLedger} {files others : FileStore} {paths : List Path}

/-- Each of some files is as its record says. -/
def Knows (ledger : FileLedger) (files : FileStore) (paths : List Path) : Prop :=
  ∀ path ∈ paths, ∃ now, current? files path = some now ∧
    (ledger.record? path).map FileRecord.stamp = some now.stamp

theorem Knows.unaltered (knows : ledger.Knows files paths) {path : Path} (listed : path ∈ paths) :
    unaltered (ledger.record? path) (current? files path) := by
  obtain ⟨now, current, known⟩ := knows path listed
  simp [FileLedger.unaltered, current, known]

/-- What is known does not depend on other files. -/
theorem Knows.of_sameAt (knows : ledger.Knows files paths) (same : files.SameAt paths others) :
    ledger.Knows others paths := by
  intro path listed
  obtain ⟨now, current, known⟩ := knows path listed
  refine ⟨now, ?_, known⟩
  rw [← current, current?, current?, same path listed]

theorem knows_commitDue (there : ∀ path ∈ paths, ∃ now, current? files path = some now) :
    ((paths.filterMap (ledger.due? files)).foldl commit ledger).Knows files paths := by
  intro path listed
  obtain ⟨now, current⟩ := there path listed
  exact ⟨now, current, stamp_record?_commitDue current (Or.inl listed)⟩

/-- What is known stays known when changed files are remembered, if the known files are the same. -/
theorem Knows.commitDue (knows : ledger.Knows files paths) (others : List Path) :
    ((others.filterMap (ledger.due? files)).foldl commit ledger).Knows files paths := by
  intro path listed
  obtain ⟨now, current, known⟩ := knows path listed
  exact ⟨now, current, stamp_record?_commitDue current (Or.inr known)⟩

end FileLedger

namespace Session

variable {s s' t : Session} {files others : FileStore} {paths : List Path} {report : GenerateReport}

/-! ### What calls keep -/

theorem config_generateFiles (s : Session) (documents : List Document) (wanted : List String) :
    (s.generateFiles documents wanted).2.config = s.config := by
  have ids (graph : ShapeGraph) (ids : List ShapeId) :
      (s.generateIds graph ids).2.config = s.config := by
    unfold generateIds
    split
    · split <;> rfl
    · rfl
  unfold generateFiles
  split
  · split
    · rfl
    · exact ids ..
  · rfl

/-- A call keeps the configuration, and only adds records to the ledger. -/
theorem config_serve (s : Session) (call : Call) :
    (s.serve call).config = s.config ∧
      ∃ records : List FileRecord,
        (s.serve call).ledger = records.foldl FileLedger.commit s.ledger := by
  cases call with
  | onDocuments documents =>
    exact ⟨s.config_generateFiles .., [], s.ledger_generateFiles ..⟩
  | onPaths files paths =>
    have call := s.called_generatePaths files paths
    simp only [serve]
    generalize s.generatePaths files paths = result at call ⊢
    cases call with
    | unread _ _ => exact ⟨rfl, [], rfl⟩
    | refused _ _ _ => exact ⟨rfl, [], rfl⟩
    | made _ generated =>
      have kept := s.config_generateFiles (documentsAt files paths) (s.changedFiles files paths)
      rw [generated] at kept
      exact ⟨kept, _, rfl⟩

theorem config_serveAll (s : Session) (calls : List Call) :
    (s.serveAll calls).config = s.config ∧
      ∃ records : List FileRecord,
        (s.serveAll calls).ledger = records.foldl FileLedger.commit s.ledger := by
  induction calls generalizing s with
  | nil => exact ⟨rfl, [], rfl⟩
  | cons call rest ih =>
    obtain ⟨config, records, ledger⟩ := s.config_serve call
    obtain ⟨config', records', ledger'⟩ := ih (s.serve call)
    refine ⟨config'.trans config, records ++ records', ?_⟩
    rw [List.foldl_append, ← ledger]
    exact ledger'

/-- The ledger that a session starts with has its records by their paths. -/
theorem keyed_ledgerOf (config : IncrementalConfig) (files : FileStore) :
    (ledgerOf config files).Keyed := by
  unfold ledgerOf
  split
  · split
    · exact FileLedger.keyed_openAt files _
    · exact FileLedger.keyed_of_empty rfl
  · exact FileLedger.keyed_of_empty rfl

/-- A session keeps its ledger where it is told to. -/
theorem store_ledgerOf {config : IncrementalConfig} (incremental : config.enabled) {home : Path}
    (told : config.cachePath = some home) (files : FileStore) :
    (ledgerOf config files).store = some home := by
  rw [ledgerOf, told]
  dsimp only
  rw [if_pos incremental]
  exact FileLedger.store_openAt files home

/-- What holds of a session after any calls. -/
theorem standing_of_served {config : Config} {start : FileStore} {available : Nat}
    {workforce : Workforce} {calls : List Call}
    (served : (withWorkforce config start available workforce).serveAll calls = s) :
    s.config = config ∧ s.ledger.Keyed ∧
      s.ledger.store = (ledgerOf config.incremental start).store := by
  obtain ⟨configured, records, ledger⟩ :=
    config_serveAll (withWorkforce config start available workforce) calls
  rw [served] at configured ledger
  refine ⟨configured, ?_, ?_⟩
  · rw [ledger]
    exact (keyed_ledgerOf config.incremental start).commitAll records
  · rw [ledger, FileLedger.foldl_commit_eq]
    rfl

/-- The files at some paths are in a call as they were. -/
def Call.Keeps (paths : List Path) (files : FileStore) : Call → Prop
  | .onDocuments _ => True
  | .onPaths others _ => files.SameAt paths others

/-- The records that a session remembers that keeps track of files. -/
theorem dueRecords_eq (incremental : s.config.incremental.enabled) (files : FileStore)
    (paths : List Path) : s.dueRecords files paths = paths.filterMap (s.ledger.due? files) :=
  if_pos incremental

/-- What is known stays known in a call. -/
theorem knows_serve (incremental : s.config.incremental.enabled)
    (knows : s.ledger.Knows files paths) {call : Call} (kept : call.Keeps paths files) :
    (s.serve call).ledger.Knows files paths := by
  cases call with
  | onDocuments documents =>
    rw [serve, generate, ledger_generateFiles]
    exact knows
  | onPaths others called =>
    have same : files.SameAt paths others := kept
    have call := s.called_generatePaths others called
    rw [serve]
    generalize s.generatePaths others called = result at call ⊢
    cases call with
    | unread _ _ => exact knows
    | refused _ _ _ => exact knows
    | made _ generated =>
      dsimp only
      rw [filterMap_noted?, dueRecords_eq incremental]
      exact ((knows.of_sameAt same).commitDue called).of_sameAt same.symm

/-- What is known stays known in any calls. -/
theorem knows_serveAll (incremental : s.config.incremental.enabled)
    (knows : s.ledger.Knows files paths) {calls : List Call}
    (kept : ∀ call ∈ calls, call.Keeps paths files) :
    (s.serveAll calls).ledger.Knows files paths := by
  induction calls generalizing s with
  | nil => exact knows
  | cons call rest ih =>
    obtain ⟨first, kept⟩ := List.forall_mem_cons.mp kept
    have config := (s.config_serve call).1
    exact ih (config ▸ incremental) (knows_serve incremental knows first) kept

/-! ### Known files are passed over -/

/-- No modules are made of no files. -/
theorem eq_nil_of_generateFiles {documents : List Document} {modules : List GeneratedModule}
    (made : s.generateFiles documents [] = (.ok modules, s')) : modules = [] := by
  have none : (documents.map Document.file).filter ([] : List String).contains = [] :=
    List.filter_eq_nil_iff.mpr fun _ _ => Bool.false_ne_true
  unfold generateFiles at made
  split at made
  · split at made
    · cases made
    · cases made
      rw [none, modulesOf]
  · cases made
    rfl

theorem load_congr {path : Path} (same : others.file path = files.file path) :
    Document.load others path = Document.load files path := by
  rw [Document.load, Document.load, FileStore.read, FileStore.read, same]

theorem documentsAt_of_sameAt (same : files.SameAt paths others) :
    documentsAt others paths = documentsAt files paths :=
  documentsAt_congr fun path listed => by
    rw [FileStore.read, FileStore.read, same path listed]

/-- After a call that succeeds, its files are known, if none is dated before 1970. -/
theorem knows_of_generatePaths (incremental : s.config.incremental.enabled)
    (called : s.generatePaths files paths = (.ok report, s'))
    (dated : ∀ path ∈ paths, ∀ file, files.file path = .ok file → 0 ≤ file.modified) :
    s'.ledger.Knows files paths := by
  obtain ⟨loads, -⟩ := exists_ok_generatePaths_iff.mp ⟨report, s', called⟩
  rw [(exists_of_generatePaths called).1, dueRecords_eq incremental]
  refine FileLedger.knows_commitDue fun path listed => ?_
  cases found : files.file path with
  | error error => simpa [found, Except.toBool] using file_of_load (loads path listed)
  | ok file =>
    rw [FileLedger.current?, found]
    exact ⟨_, if_neg (Int.not_lt.mpr (dated path listed file found))⟩

/-- Files that are known are passed over, unless their documents are refused together. -/
theorem generatePaths_of_knows (incremental : s.config.incremental.enabled)
    (knows : s.ledger.Knows files paths) (loads : AllLoad files paths) :
    (∃ s', s.generatePaths files paths = (.ok ⟨[], paths⟩, s')) ↔
      (s.config.enabled → ∃ graph, ShapeGraph.ofDocuments (documentsAt files paths) = .ok graph)
    := by
  refine ⟨fun ⟨s', called⟩ => (exists_ok_generatePaths_iff.mp ⟨_, s', called⟩).2,
    fun accepted => ?_⟩
  obtain ⟨report, s', called⟩ := exists_ok_generatePaths_iff.mpr ⟨loads, accepted⟩
  have passed (path : Path) (listed : path ∈ paths) : s.passesOver files path := by
    rw [passesOver, incremental, knows.unaltered listed]
    rfl
  have all : paths.filter (s.passesOver files) = paths := List.filter_eq_self.mpr passed
  have none : s.changedFiles files paths = [] := by
    have empty : paths.filter (fun path => !s.passesOver files path) = [] :=
      List.filter_eq_nil_iff.mpr fun path listed => by simp [passed path listed]
    rw [changedFiles, empty]
    rfl
  have call := s.called_generatePaths files paths
  rw [called] at call
  cases call with
  | made _ generated =>
    rw [none] at generated
    rw [all, eq_nil_of_generateFiles generated] at called
    exact ⟨_, called⟩

/-- So are files that are as they were when there was a document at each of them. -/
theorem generatePaths_of_sameAt (incremental : s.config.incremental.enabled)
    (knows : s.ledger.Knows others paths) (loads : AllLoad files paths)
    (same : files.SameAt paths others) :
    (∃ s', s.generatePaths others paths = (.ok ⟨[], paths⟩, s')) ↔
      (s.config.enabled → ∃ graph, ShapeGraph.ofDocuments (documentsAt files paths) = .ok graph)
    := by
  have loads' : AllLoad others paths := fun path listed => by
    rw [load_congr (same path listed)]
    exact loads path listed
  rw [generatePaths_of_knows incremental knows loads', documentsAt_of_sameAt same]

/-! ### Other sessions -/

/-- A session that reports that its ledger was saved has saved it. -/
theorem save_of_finish (saved : (s.finish files).1.saved = some true) :
    (s.ledger.save files).1 = .ok () ∧ (s.finish files).2 = (s.ledger.save files).2 := by
  unfold finish FileLedger.trySave at saved ⊢
  cases kept : s.ledger.store with
  | none =>
    rw [kept] at saved
    cases saved
  | some path =>
    rw [kept] at saved
    rcases wrote : s.ledger.save files with ⟨error | _, files'⟩
    · rw [wrote] at saved
      cases saved
    · exact ⟨rfl, rfl⟩

/-- A session is finished and leaves its ledger in a file.  The file is none of those at the paths,
and since then nobody has touched it or one of them. -/
structure HandsOver (s : Session) (last : FileStore) (home : Path) (paths : List Path)
    (later : FileStore) : Prop where
  saved : (s.finish last).1.saved = some true
  apart : ∀ path ∈ paths, (s.finish last).2.place? home ≠ (s.finish last).2.place? path
  ledger : later.read home = (s.finish last).2.read home
  files : (s.finish last).2.SameAt paths later

/-- Has the ledger been saved in the end, and to a file that is none of those at the paths? -/
def isApart (ended : SessionSummary × FileStore) (home : Path) (paths : List Path) : Bool :=
  ended.1.saved = some true && paths.all fun path => ended.2.place? home ≠ ended.2.place? path

/-- If so, the ledger is handed over at once. -/
theorem handsOver_of_isApart {last : FileStore} {home : Path}
    (finished : isApart (s.finish last) home paths) :
    s.HandsOver last home paths (s.finish last).2 := by
  obtain ⟨saved, apart⟩ : (s.finish last).1.saved = some true ∧
      ∀ path ∈ paths, (s.finish last).2.place? home ≠ (s.finish last).2.place? path := by
    simpa [isApart] using finished
  exact ⟨saved, apart, rfl, fun _ _ => rfl⟩

section HandsOver

variable {last later : FileStore} {home : Path} (hands : s.HandsOver last home paths later)
  (kept : s.ledger.store = some home) (same : files.SameAt paths last)
  (knows : s.ledger.Knows files paths)

include hands kept same knows

/-- Saving the ledger changes none of the known files. -/
theorem HandsOver.sameAt : files.SameAt paths later := by
  intro path listed
  obtain ⟨now, current, -⟩ := knows path listed
  cases found : files.file path with
  | error error => simpa [found, Except.toBool] using FileLedger.file_of_current? current
  | ok file =>
    have spares := FileLedger.spares_save kept last
    rw [← (save_of_finish hands.saved).2] at spares
    rw [hands.files path listed]
    exact spares.file ((same path listed).trans found) (hands.apart path listed)

/-- A ledger that is opened where a session left its own knows what that one knew. -/
theorem HandsOver.knows_openAt (keyed : s.ledger.Keyed) :
    (FileLedger.openAt later home).Knows later paths := by
  obtain ⟨went, left⟩ := save_of_finish hands.saved
  have saved : later.read home = .ok s.ledger.toJson.pretty := by
    rw [hands.ledger, left]
    exact FileLedger.isSaved_save kept went
  intro path listed
  obtain ⟨now, current, known⟩ :=
    (knows.of_sameAt (hands.sameAt kept same knows)) path listed
  refine ⟨now, current, ?_⟩
  rw [← known]
  exact congrArg _ (FileLedger.get?_openAt keyed saved path.parts)

end HandsOver

/-- After a call on some paths has succeeded, and as long as their files are as they were, a call on
these paths makes no modules and passes over all of them.  So it is in the same session, whatever
other calls there were.  So it is in another session that reads the ledger of the first one, unless
it generates and refuses the documents together; what the first one has generated is not refused. -/
theorem generatePaths_resumed {config : Config} {start : FileStore} {available : Nat}
    {workforce : Workforce} {calls between : List Call} (incremental : config.incremental.enabled)
    (served : (withWorkforce config start available workforce).serveAll calls = s)
    (dated : ∀ path ∈ paths, ∀ file, files.file path = .ok file → 0 ≤ file.modified)
    (called : s.generatePaths files paths = (.ok report, s'))
    (kept : ∀ call ∈ between, call.Keeps paths files) (continued : s'.serveAll between = t) :
    (∀ later, files.SameAt paths later →
      ∃ t', t.generatePaths later paths = (.ok ⟨[], paths⟩, t')) ∧
    (config.enabled → ∃ graph, ShapeGraph.ofDocuments (documentsAt files paths) = .ok graph) ∧
    ∀ (last later : FileStore) (home : Path) (next : Config) (available' : Nat)
      (workforce' : Workforce), files.SameAt paths last → t.HandsOver last home paths later →
      config.incremental.cachePath = some home → next.incremental = config.incremental →
      ((∃ t', (withWorkforce next later available' workforce').generatePaths later paths
          = (.ok ⟨[], paths⟩, t')) ↔
        (next.enabled →
          ∃ graph, ShapeGraph.ofDocuments (documentsAt files paths) = .ok graph)) := by
  obtain ⟨loads, accepted⟩ := exists_ok_generatePaths_iff.mp ⟨report, s', called⟩
  have configured := (standing_of_served served).1
  rw [configured] at accepted
  -- The call on the paths is one of the calls of the session.
  have first : s.serve (.onPaths files paths) = s' := congrArg Prod.snd called
  have ran : (withWorkforce config start available workforce).serveAll
      (calls ++ .onPaths files paths :: between) = t := by
    rw [← continued, ← first, ← served]
    exact List.foldl_append
  obtain ⟨configured', keyed, store⟩ := standing_of_served ran
  have knows : t.ledger.Knows files paths := by
    have configured'' := (s.config_serve (.onPaths files paths)).1
    rw [first, configured] at configured''
    rw [← continued]
    exact knows_serveAll (by rwa [configured''])
      (knows_of_generatePaths (by rwa [configured]) called dated) kept
  refine ⟨fun later same => ?_, accepted, ?_⟩
  · have known := knows.of_sameAt same
    refine (generatePaths_of_sameAt (by rwa [configured']) known loads same).mpr ?_
    rwa [configured']
  · intro last later home next available' workforce' same hands told shared
    have opened : ledgerOf next.incremental later = .openAt later home := by
      rw [shared, ledgerOf, told]
      exact if_pos incremental
    rw [store_ledgerOf incremental told] at store
    refine generatePaths_of_sameAt ?_ ?_ loads (hands.sameAt store same knows)
    · show next.incremental.enabled
      rwa [shared]
    · show (ledgerOf next.incremental later).Knows later paths
      rw [opened]
      exact hands.knows_openAt store same knows keyed

/-- A configuration that keeps a ledger in a file. -/
def persistently : Config :=
  { incremental := { enabled := true, cachePath := some ⟨"files.json"⟩ } }

/-- A session on two workers that has not begun. -/
def beginner (config : Config) : Session :=
  withWorkforce config (.new [] 0) 2 (.inOrder 2)

/-- Both documents are passed over afterwards, also in a session with other settings. -/
theorem generatePaths_resumed_draft :
    ∃ report s',
      (beginner persistently).generatePaths (draft (declaring "C") 1) draftPaths
        = (.ok report, s') ∧
      s'.HandsOver (draft (declaring "C") 1) ⟨"files.json"⟩ draftPaths
        (s'.finish (draft (declaring "C") 1)).2 ∧
      (∃ t, s'.generatePaths (draft (declaring "C") 1) draftPaths = (.ok ⟨[], draftPaths⟩, t)) ∧
      ∃ t, (withWorkforce { persistently with exportOnly := true }
        (s'.finish (draft (declaring "C") 1)).2 2 (.inOrder 2)).generatePaths
          (s'.finish (draft (declaring "C") 1)).2 draftPaths = (.ok ⟨[], draftPaths⟩, t) := by
  have loads : AllLoad (draft (declaring "C") 1) draftPaths := by
    unfold AllLoad
    decide +kernel
  have accepted : (ShapeGraph.ofDocuments
      (documentsAt (draft (declaring "C") 1) draftPaths)).toOption.any fun _ => True := by
    decide +kernel
  have recent : ∀ path ∈ draftPaths,
      ((draft (declaring "C") 1).file path).toOption.all (0 ≤ ·.modified) := by
    decide +kernel
  have finished : isApart (((beginner persistently).generatePaths (draft (declaring "C") 1)
      draftPaths).2.finish (draft (declaring "C") 1)) ⟨"files.json"⟩ draftPaths := by
    decide +kernel
  have dated (path : Path) (listed : path ∈ draftPaths) (file : StoredFile)
      (found : (draft (declaring "C") 1).file path = .ok file) : 0 ≤ file.modified := by
    simpa [found, Except.toOption] using recent path listed
  obtain ⟨graph, lowered, -⟩ := exists_ok_of_any accepted
  obtain ⟨report, s', called⟩ : ∃ report s', (beginner persistently).generatePaths
      (draft (declaring "C") 1) draftPaths = (.ok report, s') :=
    exists_ok_generatePaths_iff.mpr ⟨loads, fun _ => ⟨graph, lowered⟩⟩
  rw [called] at finished
  have hands := handsOver_of_isApart finished
  have served : (withWorkforce persistently (.new [] 0) 2 (.inOrder 2)).serveAll []
      = beginner persistently := rfl
  have continued : s'.serveAll [] = s' := rfl
  obtain ⟨again, taken, resumed⟩ :=
    generatePaths_resumed rfl served dated called (List.forall_mem_nil _) continued
  exact ⟨report, s', called, hands, again _ fun _ _ => rfl,
    (resumed _ _ _ { persistently with exportOnly := true } 2 (.inOrder 2) (fun _ _ => rfl) hands
      rfl rfl).mpr fun _ => taken rfl⟩

/-- The declarations of a document that is refused, because it declares a name twice. -/
def doubled : String :=
  declaring "C" ++ "," ++ declaring "C"

/-- A session that does not generate may know a document that is refused.  A session that takes over
its ledger and generates fails. -/
theorem generatePaths_resumed_refused :
    ∃ report s' error t,
      (beginner { persistently with enabled := false }).generatePaths (draft doubled 1)
        [⟨"b.json"⟩] = (.ok report, s') ∧
      s'.HandsOver (draft doubled 1) ⟨"files.json"⟩ [⟨"b.json"⟩] (s'.finish (draft doubled 1)).2 ∧
      (withWorkforce persistently (s'.finish (draft doubled 1)).2 2 (.inOrder 2)).generatePaths
        (s'.finish (draft doubled 1)).2 [⟨"b.json"⟩] = (.error error, t) := by
  have loads : AllLoad (draft doubled 1) [⟨"b.json"⟩] := by
    unfold AllLoad
    decide +kernel
  have finished : isApart (((beginner { persistently with enabled := false }).generatePaths
      (draft doubled 1) [⟨"b.json"⟩]).2.finish (draft doubled 1)) ⟨"files.json"⟩ [⟨"b.json"⟩] := by
    decide +kernel
  have refused : (ShapeGraph.ofDocuments (documentsAt
      (((beginner { persistently with enabled := false }).generatePaths (draft doubled 1)
        [⟨"b.json"⟩]).2.finish (draft doubled 1)).2 [⟨"b.json"⟩])).toOption.isNone := by
    decide +kernel
  obtain ⟨report, s', called⟩ : ∃ report s',
      (beginner { persistently with enabled := false }).generatePaths (draft doubled 1)
        [⟨"b.json"⟩] = (.ok report, s') :=
    exists_ok_generatePaths_iff.mpr ⟨loads, nofun⟩
  rw [called] at finished refused
  rcases outcome : (withWorkforce persistently (s'.finish (draft doubled 1)).2 2
      (.inOrder 2)).generatePaths (s'.finish (draft doubled 1)).2 [⟨"b.json"⟩]
    with ⟨error | report', t⟩
  · exact ⟨report, s', error, t, called, handsOver_of_isApart finished, outcome⟩
  · obtain ⟨graph, lowered⟩ := (exists_ok_generatePaths_iff.mp ⟨report', t, outcome⟩).2 rfl
    rw [lowered] at refused
    cases refused

end Session

end Schemata
