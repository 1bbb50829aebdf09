import Schemata.Proofs.Files.Store
import Schemata.Proofs.Json.Pretty
import Schemata.Proofs.Json.Records

/-!
# Ledgers in files

A ledger is written with all its records, in the order of their paths, and every record is read back
as it was.  So a ledger that is opened at its file knows what the ledger knew that was saved there.

## Main definitions

* `FileLedger.Keyed` : records are kept by the parts of their paths.
* `FileLedger.IsSaved` : the file of a ledger has its text.

## Main results

* `FileLedger.readRecord_outline`, `FileLedger.readText_pretty` : records and ledgers are read back.
* `FileLedger.isSaved_save` : a ledger that was saved is in its file.
* `FileLedger.get?_openAt` : a ledger that is opened again knows what it knew.
-/

namespace Schemata.FileLedger

open Json Json.Outline

variable {ledger : FileLedger} {files : FileStore}

/-! ### Texts of ledgers -/

theorem isWord_toNat (word : UInt64) : isWord word.toNat := by
  have := word.toNat_lt
  simp only [isWord, Bool.and_eq_true, decide_eq_true_eq]
  have large : maxSignificand = 2 ^ 64 - 1 := by decide
  omega

theorem natural_outline {n bound : Nat} (small : n < bound) (word : isWord n) :
    (Json.int n).outline.natural bound = .ok n := by
  have inside : (0 : Int) ≤ n ∧ (n : Int) < bound := by omega
  rw [outline, natural, value_wholeLexeme word]
  simp only [bind, Except.bind, inside]
  rfl

theorem depthItems_le {items : List Json} {bound : Nat}
    (shallow : ∀ item ∈ items, item.depth ≤ bound) : depthItems items ≤ bound := by
  induction items with
  | nil => exact Nat.zero_le bound
  | cons item rest ih =>
    obtain ⟨first, shallow⟩ := List.forall_mem_cons.mp shallow
    rw [depthItems]
    exact Nat.max_le.mpr ⟨first, ih shallow⟩

/-- A record is read from its members. -/
theorem record_outline {σ : Type} {fields : List (FieldReader σ)} {members : List (String × Json)}
    {budget inside : Nat} {state draft : σ} (entered : enter budget = .ok inside)
    (read : recordMembers fields inside [] state (outlineMembers members) = .ok draft) :
    Outline.record fields budget state (Json.object members).outline = .ok draft := by
  rw [outline, Outline.record, entered]
  simp only [bind, Except.bind, read]
  rfl

theorem readRecord_outline (record : FileRecord) {budget : Nat}
    (shallow : (recordJson record).depth < budget) :
    readRecord budget (recordJson record).outline = .ok record := by
  obtain ⟨⟨path⟩, modified, digest⟩ := record
  obtain ⟨inside, entered, -⟩ := enter_of_lt shallow
  have number : (Json.int modified.toNat).outline.natural (Nat.pow 2 64) = .ok modified.toNat :=
    natural_outline modified.toNat_lt (isWord_toNat modified)
  unfold readRecord
  refine (congrArg (· >>= _) (record_outline entered
    ((recordMembers_cons rfl rfl rfl (read_field _ (text_outline path))).trans
    ((recordMembers_cons rfl rfl rfl (read_field _ number)).trans
    (recordMembers_cons rfl rfl rfl (read_field _ (text_outline digest))))))).trans ?_
  show Except.ok _ = _
  rw [UInt64.ofNat_toNat]

/-- The version and the records of a ledger are read back. -/
theorem readParts_outline (ledger : FileLedger) :
    readParts depthLimit ledger.toJson.outline = .ok (formatVersion, ledger.sorted) := by
  have flat : depthItems (ledger.sorted.map recordJson) ≤ 1 := by
    refine depthItems_le fun item member => ?_
    obtain ⟨record, -, rfl⟩ := List.mem_map.mp member
    exact Nat.le_refl 1
  have entered : enter depthLimit = .ok 127 := rfl
  have version : (Json.int formatVersion).outline.natural (Nat.pow 2 32) = .ok formatVersion :=
    natural_outline (by decide) (by decide)
  have records : (Json.array (ledger.sorted.map recordJson)).outline.list readRecord 127
      = .ok ledger.sorted :=
    list_outline (by rw [depth]; omega) fun record _ _ deep => readRecord_outline record deep
  unfold readParts
  exact (congrArg (· >>= _) (record_outline entered
    ((recordMembers_cons rfl rfl rfl (read_field _ version)).trans
    (recordMembers_cons rfl rfl rfl (read_field _ records))))).trans rfl

theorem isExact_toJson (ledger : FileLedger) : ledger.toJson.isExact := by
  have records : ∀ record : FileRecord, (recordJson record).isExact := by
    intro record
    simp only [recordJson, numbersPass, membersPass, isWord_toNat, Bool.and_self]
  simp only [toJson, numbersPass, membersPass, Bool.and_true, Bool.and_eq_true, itemsPass_iff]
  refine ⟨by decide, fun item member => ?_⟩
  obtain ⟨record, -, rfl⟩ := List.mem_map.mp member
  exact records record

/-- A ledger is read back from its text. -/
theorem readText_pretty (ledger : FileLedger) :
    Json.readText readParts ledger.toJson.pretty = .ok (formatVersion, ledger.sorted) := by
  rw [Json.readText, ofText_pretty ledger.isExact_toJson]
  dsimp only
  rw [readParts_outline]
  rfl

/-! ### The file of a ledger -/

/-- The ledger is kept in a file, and the file has its text. -/
def IsSaved (ledger : FileLedger) (files : FileStore) : Prop :=
  ∃ path, ledger.store = some path ∧ files.read path = .ok ledger.toJson.pretty

/-- Records are kept by the parts of their paths. -/
def Keyed (ledger : FileLedger) : Prop :=
  ∀ key record, ledger.records.get? key = some record → record.path.parts = key

theorem Keyed.commit (keyed : ledger.Keyed) (record : FileRecord) :
    (ledger.commit record).Keyed := by
  intro key found isFound
  rw [get?_commit] at isFound
  split at isFound
  · rename_i same
    cases isFound
    exact same.symm
  · exact keyed key found isFound

theorem keyed_of_empty (empty : ledger.records = .empty) : ledger.Keyed := by
  intro key record found
  rw [empty] at found
  cases found

theorem Keyed.commitAll (keyed : ledger.Keyed) (records : List FileRecord) :
    (records.foldl FileLedger.commit ledger).Keyed := by
  induction records generalizing ledger with
  | nil => exact keyed
  | cons record rest ih => exact ih (keyed.commit record)

theorem read_of_file {path : Path} {file : StoredFile} (found : files.file path = .ok file) :
    files.read path = .ok file.text := by
  rw [FileStore.read, found]
  rfl

theorem exists_of_read {path : Path} {text : String} (found : files.read path = .ok text) :
    files.exists? path := by
  unfold FileStore.read at found
  cases isFile : files.file path with
  | error error =>
    rw [isFile] at found
    cases found
  | ok file =>
    obtain ⟨entry, entered, -⟩ := exists_of_bind_eq_ok isFile
    rw [FileStore.exists?, entered]
    rfl

/-- Among records with different keys, the one with a key is found wherever it stands. -/
theorem find?_sorted (keyed : ledger.Keyed) (key : List PathPart) :
    ledger.sorted.reverse.find? (·.path.parts = key) = ledger.records.get? key := by
  have listed (record : FileRecord) : record ∈ ledger.sorted.reverse ↔
      ledger.records.get? record.path.parts = some record := by
    rw [List.mem_reverse, sorted, List.mem_mergeSort, OrderedMap.values, List.mem_map]
    constructor
    · rintro ⟨⟨key, _⟩, member, rfl⟩
      have found := ledger.records.get?_eq_some_iff.mpr member
      rwa [keyed key _ found]
    · exact fun found => ⟨_, ledger.records.get?_eq_some_iff.mp found, rfl⟩
  cases found : ledger.sorted.reverse.find? (·.path.parts = key) with
  | some record =>
    have same : record.path.parts = key := by simpa using List.find?_some found
    rw [← same]
    exact ((listed record).mp (List.mem_of_find?_eq_some found)).symm
  | none =>
    cases known : ledger.records.get? key with
    | none => rfl
    | some record =>
      have same := keyed key record known
      have member := (listed record).mpr (same ▸ known)
      simpa [same] using List.find?_eq_none.mp found record member

/-- A ledger that is opened where a ledger is saved knows what that one knows. -/
theorem get?_openAt (keyed : ledger.Keyed) {path : Path}
    (saved : files.read path = .ok ledger.toJson.pretty) (key : List PathPart) :
    (openAt files path).records.get? key = ledger.records.get? key := by
  have loaded : load files path = .ok ledger.sorted := by
    unfold load
    rw [saved]
    dsimp only
    rw [readText_pretty]
    rfl
  unfold openAt
  dsimp only
  rw [if_pos (exists_of_read saved), loaded]
  dsimp only
  rw [get?_foldl_commit, find?_sorted keyed]
  exact Option.or_none

theorem keyed_openAt (files : FileStore) (path : Path) : (openAt files path).Keyed := by
  have fresh : ({ store := some path } : FileLedger).Keyed := keyed_of_empty rfl
  unfold openAt
  dsimp only
  split
  · split
    · exact fresh.commitAll _
    · exact fresh
  · exact fresh

theorem store_openAt (files : FileStore) (path : Path) :
    (openAt files path).store = some path := by
  unfold openAt
  dsimp only
  split
  · split
    · rw [foldl_commit_eq]
    · rfl
  · rfl

/-- A ledger that was saved is in its file. -/
theorem isSaved_save {path : Path} (kept : ledger.store = some path)
    (went : (ledger.save files).1 = .ok ()) :
    (ledger.save files).2.read path = .ok ledger.toJson.pretty := by
  unfold save at went ⊢
  rw [kept] at went ⊢
  dsimp only at went ⊢
  rcases wrote : files.writeWithDirs path ledger.toJson.pretty files.now with ⟨error | _, files'⟩
  · rw [wrote] at went
    cases went
  · exact read_of_file (FileStore.file_writeWithDirs wrote)

/-- Saving a ledger changes nothing but its file. -/
theorem spares_save {path : Path} (kept : ledger.store = some path) (files : FileStore) :
    FileStore.Spares ((ledger.save files).2.place? path) files (ledger.save files).2 := by
  have spares := FileStore.spares_writeWithDirs files path ledger.toJson.pretty files.now
  unfold save
  rw [kept]
  exact spares

end Schemata.FileLedger
