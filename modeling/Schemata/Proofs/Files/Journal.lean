import Schemata.Proofs.Files.Persistence

/-!
# Ledgers and journals

A ledger is compared with a journal, the plain list of the records that were stored since the last
reset.  Files are written and removed, the ledger is asked and told, saved and opened again, in any
order.  All the time it says of a file what can be read off the journal: that the file is missing,
that there is no record of it, or how it compares with the last one.

Saving a ledger and opening it again changes none of its records.  It writes a file, though, and
makes the directories around it, so that a path may lead to a file that it did not lead to before.

## Main definitions

* `Journal` : the records that were stored since the last reset.
* `Journal.Exact` : what is said of a file can be read off a journal.
* `LedgerStep`, `Watch.perform` : what can happen to a ledger and to files.
* `Watch.Leaves` : a step has nothing to do with a path.

## Main results

* `Journal.Reflects.perform` : a ledger keeps up with the journal in a step.
* `Watch.reflects_performAll` : so it does in any number of steps.
* `Watch.observe_perform_of_leaves` : a step that has nothing to do with a path.
* `Watch.exact_performAll` : what a ledger says after any steps, and which steps cannot change it.
-/

namespace Schemata

/-! ### Steps -/

/-- What can happen to a ledger and to files. -/
inductive LedgerStep
  /-- Time passes. -/
  | wait (now : Int)
  /-- A file is written, after the directories around it were made. -/
  | write (path : Path) (text : String) (modified : Int)
  | remove (path : Path)
  | observe (path : Path)
  | check (path : Path)
  /-- A record is stored, which may be out of date. -/
  | commit (record : FileRecord)
  | reset
  | save
  /-- The ledger is given up, and another one is opened at its file. -/
  | reopen

/-- The records that were stored since the last reset, the last one first. -/
abbrev Journal :=
  List FileRecord

namespace Journal

/-- The record of a path that was stored last. -/
def latest? (journal : Journal) (path : Path) : Option FileRecord :=
  journal.find? (·.path.parts = path.parts)

/-- How a file is now, unless the last record of its path says so. -/
def news? (journal : Journal) (files : FileStore) (path : Path) : Option FileRecord :=
  (FileLedger.current? files path).filter fun now =>
    (journal.latest? path).map FileRecord.stamp ≠ some now.stamp

/-- What a step stores or forgets. -/
def after (journal : Journal) (files : FileStore) : LedgerStep → Journal
  | .check path => (journal.news? files path).toList ++ journal
  | .commit record => record :: journal
  | .reset => []
  | _ => journal

/-- The records in the file of a ledger, none if it cannot be used. -/
def ofFile (files : FileStore) (path : Path) : Journal :=
  if files.exists? path then ((FileLedger.load files path).toOption.getD []).reverse else []

end Journal

/-- A ledger and the files that it is about, with the journal that it is compared with. -/
structure Watch where
  ledger : FileLedger
  files : FileStore
  journal : Journal

namespace Watch

/-- A ledger that was not used yet: one that is not kept in a file, or one that is opened at a path,
with what is in the file there. -/
def start (files : FileStore) : Option Path → Watch
  | none => ⟨.inMemory, files, []⟩
  | some path => ⟨.openAt files path, files, .ofFile files path⟩

/-- What a step does to the files. -/
def filesAfter (w : Watch) : LedgerStep → FileStore
  | .wait now => { w.files with now := now }
  | .write path text modified => (w.files.writeWithDirs path text modified).2
  | .remove path => (w.files.remove path).toOption.getD w.files
  | .save => (w.ledger.save w.files).2
  | _ => w.files

/-- What a step does to the ledger. -/
def ledgerAfter (w : Watch) : LedgerStep → FileLedger
  | .check path => (w.ledger.check w.files path).2
  | .commit record => w.ledger.commit record
  | .reset => w.ledger.reset
  | .save => (w.ledger.trySave w.files).2.1
  | .reopen => (w.ledger.store.map (FileLedger.openAt w.files)).getD w.ledger
  | _ => w.ledger

/-- What a step comes to. -/
def perform (w : Watch) (step : LedgerStep) : Watch where
  ledger := w.ledgerAfter step
  files := w.filesAfter step
  journal := w.journal.after w.files step

/-- What some steps come to. -/
def performAll (w : Watch) (steps : List LedgerStep) : Watch :=
  steps.foldl perform w

/-- A ledger may be opened again if its file has its text: it was saved since it was last told
something, and nobody has touched the file. -/
def Allows (w : Watch) : LedgerStep → Prop
  | .reopen => w.ledger.IsSaved w.files
  | _ => True

/-- Each of some steps is allowed when its turn comes. -/
def AllowsAll (w : Watch) : List LedgerStep → Prop
  | [] => True
  | step :: rest => w.Allows step ∧ (w.perform step).AllowsAll rest

/-- What the ledger says of a path. -/
def observe (w : Watch) (path : Path) : FileStatus × Option FileRecord :=
  w.ledger.observe w.files path

end Watch

/-! ### Ledgers that reflect journals -/

namespace FileLedger

variable {ledger ledger' : FileLedger} {files files' : FileStore} {path : Path}

/-- A check stores what the ledger has to be told. -/
theorem check_eq (ledger : FileLedger) (files : FileStore) (path : Path) :
    ledger.check files path =
      ((ledger.observe files path).1, (ledger.due? files path).elim ledger ledger.commit) := by
  rw [← ledger.observe_snd files path, check]
  rcases ledger.observe files path with ⟨status, _ | record⟩ <;> rfl

/-- Only trouble is noted when a ledger is saved. -/
theorem records_trySave (ledger : FileLedger) (files : FileStore) :
    (ledger.trySave files).2.1.records = ledger.records := by
  unfold trySave
  rcases ledger.save files with ⟨_ | _, files'⟩ <;> rfl

/-- What is said of a path depends on its record and its file. -/
theorem observe_congr (records : ledger'.record? path = ledger.record? path)
    (now : current? files' path = current? files path) :
    ledger'.observe files' path = ledger.observe files path := by
  rw [observe, observe, records, now]

theorem current?_congr
    (same : ∀ file, files'.file path = .ok file ↔ files.file path = .ok file) :
    current? files' path = current? files path := by
  cases found : files.file path with
  | ok file => rw [current?, current?, (same file).mpr found, found]
  | error error =>
    cases found' : files'.file path with
    | ok file => exact absurd ((same file).mp found') (by simp [found])
    | error error' => rw [current?, current?, found, found']

end FileLedger

namespace Journal

variable {journal : Journal} {ledger ledger' : FileLedger}

/-- The ledger knows of each path the record that was stored last. -/
def Reflects (journal : Journal) (ledger : FileLedger) : Prop :=
  ∀ key, ledger.records.get? key = journal.find? (·.path.parts = key)

theorem Reflects.record? (reflects : journal.Reflects ledger) (path : Path) :
    ledger.record? path = journal.latest? path :=
  reflects path.parts

theorem Reflects.keyed (reflects : journal.Reflects ledger) : ledger.Keyed := by
  intro key record found
  rw [reflects key] at found
  simpa using List.find?_some found

/-- Ledgers that reflect a journal say the same, whatever the files are. -/
theorem Reflects.observe_eq (reflects : journal.Reflects ledger)
    (reflects' : journal.Reflects ledger') (files : FileStore) (path : Path) :
    ledger'.observe files path = ledger.observe files path :=
  FileLedger.observe_congr ((reflects'.record? path).trans (reflects.record? path).symm) rfl

theorem Reflects.commit (reflects : journal.Reflects ledger) (record : FileRecord) :
    Reflects (record :: journal) (ledger.commit record) := by
  intro key
  rw [FileLedger.get?_commit, List.find?_cons]
  by_cases same : key = record.path.parts
  · simp [same]
  · simp [same, Ne.symm same, reflects key]

theorem Reflects.check (reflects : journal.Reflects ledger) (files : FileStore) (path : Path) :
    Reflects (journal.after files (.check path)) (ledger.check files path).2 := by
  have due : ledger.due? files path = journal.news? files path := by
    rw [FileLedger.due?, news?, reflects.record?]
  rw [FileLedger.check_eq, due, after]
  cases journal.news? files path with
  | none => exact reflects
  | some record => exact reflects.commit record

theorem reflects_ofFile (files : FileStore) (path : Path) :
    Reflects (ofFile files path) (.openAt files path) := by
  intro key
  unfold ofFile FileLedger.openAt
  dsimp only
  split
  · cases FileLedger.load files path with
    | error error => rfl
    | ok records =>
      dsimp only [Except.toOption, Option.getD]
      rw [FileLedger.get?_foldl_commit]
      exact Option.or_none
  · rfl

/-- A ledger keeps up with the journal in a step. -/
theorem Reflects.perform {w : Watch} (reflects : w.journal.Reflects w.ledger) {step : LedgerStep}
    (allowed : w.Allows step) : (w.perform step).journal.Reflects (w.perform step).ledger := by
  show Reflects (w.journal.after w.files step) (w.ledgerAfter step)
  cases step with
  | wait now => exact reflects
  | write path text modified => exact reflects
  | remove path => exact reflects
  | observe path => exact reflects
  | check path => exact reflects.check w.files path
  | commit record => exact reflects.commit record
  | reset => exact fun key => rfl
  | save =>
    intro key
    exact (congrArg (·.get? key) (w.ledger.records_trySave w.files)).trans (reflects key)
  | reopen =>
    obtain ⟨path, kept, saved⟩ := allowed
    have opened : w.ledgerAfter .reopen = .openAt w.files path := by
      rw [Watch.ledgerAfter, kept]
      rfl
    rw [opened]
    exact fun key => (FileLedger.get?_openAt reflects.keyed saved key).trans (reflects key)

end Journal

/-! ### What is said of files -/

/-- What a record of a file is compared by. -/
def StoredFile.stamp (file : StoredFile) : UInt64 × String :=
  (UInt64.ofNat file.modified.toNat, Bytes.toHex (Blake3.digest (Bytes.ofString file.text)))

/-- A path is said to be missing if there is no file, or one that is dated before 1970; to be new if
the journal does not have its path; and else to be unchanged or modified, by the last record. -/
structure Journal.Exact (journal : Journal) (files : FileStore) (path : Path)
    (status : FileStatus) : Prop where
  missing : status = .missing ↔ ∀ file, files.file path = .ok file → file.modified < 0
  new : status = .new ↔
    (∃ file, files.file path = .ok file ∧ 0 ≤ file.modified) ∧
      ∀ record ∈ journal, record.path.parts ≠ path.parts
  unchanged : status = .unchanged ↔
    ∃ file record, files.file path = .ok file ∧ 0 ≤ file.modified ∧
      journal.latest? path = some record ∧ record.stamp = file.stamp
  modified : status = .modified ↔
    ∃ file record, files.file path = .ok file ∧ 0 ≤ file.modified ∧
      journal.latest? path = some record ∧ record.stamp ≠ file.stamp

namespace Journal

variable {journal : Journal} {ledger : FileLedger} {files : FileStore} {path : Path}

theorem latest?_eq_none_iff :
    journal.latest? path = none ↔ ∀ record ∈ journal, record.path.parts ≠ path.parts := by
  simp [latest?, List.find?_eq_none]

/-- What is said of a path that leads to a file. -/
theorem Reflects.observe_of_file (reflects : journal.Reflects ledger) {file : StoredFile}
    (found : files.file path = .ok file) (dated : 0 ≤ file.modified) :
    (ledger.observe files path).1 = (journal.latest? path).elim .new fun record =>
      if record.stamp = file.stamp then .unchanged else .modified := by
  have now : FileLedger.current? files path = some ⟨path, file.stamp.1, file.stamp.2⟩ := by
    rw [FileLedger.current?, found]
    exact if_neg (Int.not_lt.mpr dated)
  rw [FileLedger.observe, now, reflects.record?]
  cases journal.latest? path with
  | none => rfl
  | some record =>
    have same : (record.modified = file.stamp.1 ∧ record.digest = file.stamp.2) ↔
        record.stamp = file.stamp := by
      rw [FileRecord.stamp, Prod.ext_iff]
    simp only [same, Option.elim_some]
    split <;> rfl

/-- What is said of a path that leads to no file, or to one that is dated before 1970. -/
theorem observe_of_absent (ledger : FileLedger)
    (absent : ∀ file, files.file path = .ok file → file.modified < 0) :
    (ledger.observe files path).1 = .missing := by
  have now : FileLedger.current? files path = none := by
    unfold FileLedger.current?
    split
    · rfl
    · rename_i file found
      exact if_pos (absent file found)
  rw [FileLedger.observe, now]

/-- A ledger that reflects a journal says what can be read off it. -/
theorem Reflects.exact (reflects : journal.Reflects ledger) (files : FileStore) (path : Path) :
    journal.Exact files path (ledger.observe files path).1 := by
  by_cases absent : ∀ file, files.file path = .ok file → file.modified < 0
  · have old (file : StoredFile) (found : files.file path = .ok file) (dated : 0 ≤ file.modified) :
        False :=
      Int.not_le.mpr (absent file found) dated
    rw [observe_of_absent ledger absent]
    refine ⟨iff_of_true rfl absent, iff_of_false nofun ?_, iff_of_false nofun ?_,
      iff_of_false nofun ?_⟩
    · exact fun ⟨⟨file, found, dated⟩, _⟩ => old file found dated
    · exact fun ⟨file, _, found, dated, _⟩ => old file found dated
    · exact fun ⟨file, _, found, dated, _⟩ => old file found dated
  · obtain ⟨file, found, dated⟩ : ∃ file, files.file path = .ok file ∧ 0 ≤ file.modified := by
      simpa using absent
    rw [reflects.observe_of_file found dated]
    cases latest : journal.latest? path with
    | none =>
      have unknown := latest?_eq_none_iff.mp latest
      refine ⟨iff_of_false nofun absent, iff_of_true rfl ⟨⟨file, found, dated⟩, unknown⟩, ?_, ?_⟩
      · simp [latest]
      · simp [latest]
    | some record =>
      have known : ¬ ∀ record ∈ journal, record.path.parts ≠ path.parts := by
        rw [← latest?_eq_none_iff, latest]
        nofun
      by_cases same : record.stamp = file.stamp
      · exact ⟨by simp [same, absent], by simp [same, known], by simp [same, found, dated, latest],
          by simp [same, found, latest]⟩
      · exact ⟨by simp [same, absent], by simp [same, known], by simp [same, found, latest],
          by simp [same, found, dated, latest]⟩

end Journal

/-! ### Whole runs -/

namespace Watch

variable {w : Watch} {step : LedgerStep} {path : Path}

/-- The directories on the way to a path are there, and in the end it does not lead where another
path leads. -/
def Passes (files after : FileStore) (path other : Path) : Prop :=
  (files.target path).isOk ∧ after.place? other ≠ after.place? path

/-- A step has nothing to do with a path: it is about a path with other parts or, if a file is
written or removed, about a path that leads elsewhere. -/
def Leaves (w : Watch) (path : Path) (step : LedgerStep) : Prop :=
  match step with
  | .wait _ | .observe _ | .reopen => True
  | .write other _ _ | .remove other => Passes w.files (w.filesAfter step) path other
  | .check other => other.parts ≠ path.parts
  | .commit record => record.path.parts ≠ path.parts
  | .reset => False
  | .save => ∀ other ∈ w.ledger.store, Passes w.files (w.filesAfter step) path other

theorem reflects_start (files : FileStore) (origin : Option Path) :
    (start files origin).journal.Reflects (start files origin).ledger := by
  cases origin with
  | none => exact fun key => rfl
  | some path => exact Journal.reflects_ofFile files path

/-- A ledger keeps up with the journal in any number of steps. -/
theorem reflects_performAll {steps : List LedgerStep} (reflects : w.journal.Reflects w.ledger)
    (allowed : w.AllowsAll steps) :
    (w.performAll steps).journal.Reflects (w.performAll steps).ledger := by
  induction steps generalizing w with
  | nil => exact reflects
  | cons step rest ih => exact ih (reflects.perform allowed.1) allowed.2

/-- A path that is passed by leads to the file that it led to. -/
theorem current?_of_passes {files after : FileStore} {other : Path}
    (spares : FileStore.Spares (after.place? other) files after)
    (passes : Passes files after path other) :
    FileLedger.current? after path = FileLedger.current? files path :=
  FileLedger.current?_congr fun _ => spares.file_iff passes.1 passes.2

/-- A step that has nothing to do with a path leaves its file alone. -/
theorem current?_filesAfter_of_leaves (leaves : w.Leaves path step) :
    FileLedger.current? (w.filesAfter step) path = FileLedger.current? w.files path := by
  cases step with
  | wait | observe | check | commit | reset | reopen => rfl
  | write other text modified =>
    simp only [Leaves, filesAfter] at leaves ⊢
    exact current?_of_passes (w.files.spares_writeWithDirs other text modified) leaves
  | remove other =>
    simp only [Leaves, filesAfter] at leaves ⊢
    cases removed : w.files.remove other with
    | error error => rfl
    | ok files' =>
      rw [removed] at leaves
      exact current?_of_passes (FileStore.spares_remove removed) leaves
  | save =>
    simp only [Leaves, filesAfter] at leaves ⊢
    cases kept : w.ledger.store with
    | none => rw [FileLedger.save, kept]
    | some other =>
      exact current?_of_passes (FileLedger.spares_save kept w.files) (leaves other kept)

/-- A step that has nothing to do with a path leaves its record alone. -/
theorem record?_perform_of_leaves (reflects : w.journal.Reflects w.ledger)
    (allowed : w.Allows step) (leaves : w.Leaves path step) :
    (w.perform step).ledger.record? path = w.ledger.record? path := by
  rw [(reflects.perform allowed).record?, reflects.record?]
  show Journal.latest? (w.journal.after w.files step) path = _
  cases step with
  | check other =>
    rw [Journal.after]
    cases news : w.journal.news? w.files other with
    | none => rfl
    | some record =>
      have about : record.path = other :=
        FileLedger.path_of_current? (Option.filter_eq_some_iff.mp news).1
      have apart : record.path.parts ≠ path.parts := about ▸ leaves
      exact List.find?_cons_of_neg (by simpa using apart)
  | commit record =>
    have apart : record.path.parts ≠ path.parts := leaves
    exact List.find?_cons_of_neg (by simpa using apart)
  | reset => exact leaves.elim
  | wait | write | remove | observe | save | reopen => rfl

/-- A step that has nothing to do with a path does not change what is said of it. -/
theorem observe_perform_of_leaves (reflects : w.journal.Reflects w.ledger)
    (allowed : w.Allows step) (leaves : w.Leaves path step) :
    (w.perform step).observe path = w.observe path :=
  FileLedger.observe_congr (record?_perform_of_leaves reflects allowed leaves)
    (current?_filesAfter_of_leaves leaves)

/-- A ledger that was saved may be opened again. -/
theorem allows_reopen (kept : w.ledger.store.isSome)
    (went : (w.ledger.save w.files).1 = .ok ()) : (w.perform .save).Allows .reopen := by
  obtain ⟨path, kept⟩ := Option.isSome_iff_exists.mp kept
  have same : (w.perform .save).ledger = w.ledger := by
    rw [perform, ledgerAfter, FileLedger.trySave]
    rcases saved : w.ledger.save w.files with ⟨_ | _, files'⟩
    · rw [saved] at went
      cases went
    · rfl
  refine ⟨path, ?_, ?_⟩
  · rw [same, kept]
  · rw [same]
    simp only [perform, filesAfter]
    exact FileLedger.isSaved_save kept went

/-- After any steps a ledger says what can be read off the journal, whether it is asked or checked.
Saving it and opening it again changes nothing that it says, whatever the files are then, and a
ledger that was saved may be opened.  A step that has nothing to do with a path does not change what
is said of it. -/
theorem exact_performAll (files : FileStore) (origin : Option Path) {steps : List LedgerStep}
    {w : Watch} (allowed : (start files origin).AllowsAll steps)
    (ran : (start files origin).performAll steps = w) :
    (∀ path, w.journal.Exact w.files path (w.observe path).1 ∧
        (w.ledger.check w.files path).1 = (w.observe path).1) ∧
      (∀ later path,
        (w.perform .save).ledger.observe later path = w.ledger.observe later path) ∧
      (w.Allows .reopen → ∀ later path,
        (w.perform .reopen).ledger.observe later path = w.ledger.observe later path) ∧
      (w.ledger.store.isSome → (w.ledger.save w.files).1 = .ok () →
        (w.perform .save).Allows .reopen) ∧
      ∀ step path, w.Allows step → w.Leaves path step →
        (w.perform step).observe path = w.observe path := by
  have reflects := reflects_performAll (reflects_start files origin) allowed
  rw [ran] at reflects
  refine ⟨fun path => ⟨reflects.exact w.files path, ?_⟩, ?_, ?_, allows_reopen, ?_⟩
  · rw [FileLedger.check_eq, observe]
  · exact reflects.observe_eq (reflects.perform trivial)
  · exact fun saved => reflects.observe_eq (reflects.perform saved)
  · exact fun _ _ => observe_perform_of_leaves reflects

/-- A store with one file, and a ledger that is to be kept in a directory that is not there yet. -/
def outset : Watch :=
  (start (.new ["work"] 7) (some ⟨"cache/files.json"⟩)).performAll [.write ⟨"a.json"⟩ "{}" 5]

theorem allowsAll_outset : outset.AllowsAll [.save, .reopen] :=
  ⟨trivial, allows_reopen (by decide +kernel) (by decide +kernel), trivial⟩

theorem exact_performAll_reopened :
    (start (.new ["work"] 7) (some ⟨"cache/files.json"⟩)).AllowsAll
        [.write ⟨"a.json"⟩ "{}" 5, .check ⟨"a.json"⟩, .save, .reopen] ∧
      ((outset.performAll [.check ⟨"a.json"⟩, .save, .reopen]).observe ⟨"a.json"⟩).1
          = .unchanged := by
  have allowed : (start (.new ["work"] 7) (some ⟨"cache/files.json"⟩)).AllowsAll
      [.write ⟨"a.json"⟩ "{}" 5, .check ⟨"a.json"⟩, .save, .reopen] :=
    ⟨trivial, trivial, trivial, allows_reopen (by decide +kernel) (by decide +kernel), trivial⟩
  have exact := ((exact_performAll _ _ allowed rfl).1 ⟨"a.json"⟩).1
  have empty : outset.journal = [] := by decide +kernel
  have found : outset.files.file ⟨"a.json"⟩ = .ok ⟨"{}", 5⟩ := by decide +kernel
  refine ⟨allowed, exact.unchanged.mpr ⟨⟨"{}", 5⟩,
    ⟨⟨"a.json"⟩, (StoredFile.stamp ⟨"{}", 5⟩).1, (StoredFile.stamp ⟨"{}", 5⟩).2⟩,
    by decide +kernel, by decide, ?_, rfl⟩⟩
  show Journal.latest? (outset.journal.after outset.files (.check ⟨"a.json"⟩)) ⟨"a.json"⟩ = _
  rw [empty]
  simp [Journal.after, Journal.news?, Journal.latest?, FileLedger.current?, Option.filter_some,
    found, StoredFile.stamp]

/-- A path may lead through the directory that is made when a ledger is saved. -/
theorem observe_outset_reopened :
    outset.AllowsAll [.save, .reopen] ∧
      (outset.observe ⟨"cache/../a.json"⟩).1 = .missing ∧
      ((outset.performAll [.save, .reopen]).observe ⟨"cache/../a.json"⟩).1 = .new := by
  have reflects : outset.journal.Reflects outset.ledger :=
    reflects_performAll (reflects_start _ _) ⟨trivial, trivial⟩
  refine ⟨allowsAll_outset, by decide +kernel, ?_⟩
  refine ((reflects_performAll reflects allowsAll_outset).exact _ _).new.mpr
    ⟨⟨⟨"{}", 5⟩, by decide +kernel, by decide⟩, ?_⟩
  exact nofun

end Watch

end Schemata
