import Mathlib.Data.List.DropRight
import Schemata.Files.Ledger
import Schemata.Proofs.OrderedMap

/-!
# What a ledger remembers

A ledger keeps its records by the parts of paths.  Two spellings of a path with the same parts lead
to the same file, so the record of a path is about the file at that path however it was spelled when
it was written.

## Main definitions

* `FileRecord.stamp` : what a file is compared by.
* `FileLedger.unaltered` : a file is as its record says.
* `FileLedger.due?` : what a ledger has to be told of a file.

## Main results

* `FileStore.file_eq_of_parts_eq` : spellings with the same parts lead to the same file.
* `FileLedger.observe_eq` : which files count as changed, and what is to be remembered of them.
* `FileLedger.get?_foldl_commit` : what a ledger knows after some records were remembered.
* `FileLedger.stamp_record?_commitDue`, `FileLedger.stamp_record?_commitAll` : what a ledger knows
  after the changed files of a call are remembered.
-/

namespace Schemata

/-- When two steps in a row succeed, each of them does. -/
theorem exists_of_bind_eq_ok {ε α β : Type} {first : Except ε α} {next : α → Except ε β}
    {result : β} (h : first >>= next = .ok result) :
    ∃ value, first = .ok value ∧ next value = .ok result := by
  cases first with
  | error error => cases h
  | ok value => exact ⟨value, rfl, h⟩

/-! ### Spellings of a path -/

namespace Path

/-- Does a part stand for a piece of the text? -/
def isStep : PathPart → Bool
  | .root | .here => false
  | .up | .name _ => true

theorem isStep_of_ofSegment? {segment : String} {part : PathPart}
    (h : PathPart.ofSegment? segment = some part) : isStep part := by
  unfold PathPart.ofSegment? at h
  split at h
  · cases h
  · split at h <;> cases h <;> rfl

theorem filter_parts (path : Path) :
    path.parts.filter isStep = path.segments.filterMap PathPart.ofSegment? := by
  have steps : (path.segments.filterMap PathPart.ofSegment?).filter isStep
      = path.segments.filterMap PathPart.ofSegment? := by
    refine List.filter_eq_self.mpr fun part member => ?_
    obtain ⟨segment, -, found⟩ := List.mem_filterMap.mp member
    exact isStep_of_ofSegment? found
  unfold parts
  dsimp only
  rw [List.filter_append, steps]
  split
  · rfl
  · split <;> rfl

theorem root_mem_parts_iff (path : Path) : .root ∈ path.parts ↔ path.isAbsolute := by
  have absent : .root ∉ path.segments.filterMap PathPart.ofSegment? := by
    intro member
    obtain ⟨segment, -, found⟩ := List.mem_filterMap.mp member
    exact Bool.false_ne_true (isStep_of_ofSegment? found)
  unfold parts
  dsimp only
  rw [List.mem_append, or_iff_left absent]
  split
  · simp_all
  · split <;> simp_all

end Path

namespace FileStore

variable {store : FileStore}

/-- One step further, by the part of the path. -/
def enterPart (store : FileStore) (place : FilePlace) (part : PathPart) :
    Except FileError FilePlace :=
  match part with
  | .root | .here => .ok place
  | .up => .ok place.dropLast
  | .name text => do
    checkName text
    match store.entryAt? (place ++ [text]) with
    | none => .error .notFound
    | some (.file _) => .error .notADirectory
    | some .directory => .ok (place ++ [text])

theorem enter_eq (place : FilePlace) (segment : String) :
    store.enter place segment =
      match PathPart.ofSegment? segment with
      | none => .ok place
      | some part => store.enterPart place part := by
  unfold enter enterPart
  cases PathPart.ofSegment? segment with
  | none => rfl
  | some part => cases part <;> rfl

/-- Only the parts of a path matter on the way. -/
theorem foldlM_enter (segments : List String) (place : FilePlace) :
    segments.foldlM store.enter place =
      (segments.filterMap PathPart.ofSegment?).foldlM store.enterPart place := by
  induction segments generalizing place with
  | nil => rfl
  | cons segment rest ih =>
    rw [List.foldlM_cons, enter_eq]
    cases found : PathPart.ofSegment? segment with
    | none =>
      rw [List.filterMap_cons_none found]
      exact ih place
    | some part =>
      rw [List.filterMap_cons_some found, List.foldlM_cons]
      exact congrArg _ (funext ih)

/-- Where a path points when a file stands there: its text ends in a name. -/
theorem exists_name_of_target {path : Path} {target : Target} {name : String}
    (found : store.target path = .ok target) (named : target.name = some name)
    (open? : target.slash = false) :
    ∃ before last, path.segments = before ++ [last] ∧
      PathPart.ofSegment? last = some (.name name) ∧
      before.foldlM store.enter (store.start path) = .ok target.directory := by
  obtain ⟨-, -, found⟩ := exists_of_bind_eq_ok found
  obtain ⟨place, entered, found⟩ := exists_of_bind_eq_ok found
  have kept : (path.segments.reverse.dropWhile (· = "")).reverse <+: path.segments :=
    List.rdropWhile_prefix _ _
  split at found
  · rename_i text isName
    cases found
    cases named
    obtain ⟨last, isLast, isName⟩ := Option.bind_eq_some_iff.mp isName
    -- No separator follows the name, so nothing was dropped.
    have whole := kept.eq_of_length_le (by simpa using open?)
    rw [whole] at entered isLast
    exact ⟨_, last, (List.dropLast_append_getLast? last isLast).symm, isName, entered⟩
  · cases found
    cases named
  · cases found
    cases named

/-- Where a file was found: the path ends in its name, and the directories before it are there. -/
theorem exists_name_of_file {path : Path} {file : StoredFile} (found : store.file path = .ok file) :
    ∃ before last name place,
      path.segments = before ++ [last] ∧ PathPart.ofSegment? last = some (.name name) ∧
      before.foldlM store.enter (store.start path) = .ok place ∧
      store.entryAt? (place ++ [name]) = some (.file file) := by
  obtain ⟨entry, entered, isFile⟩ := exists_of_bind_eq_ok found
  cases entry with
  | directory => cases isFile
  | file other =>
    cases isFile
    obtain ⟨target, pointed, entered⟩ := exists_of_bind_eq_ok entered
    split at entered
    · cases entered
    · rename_i name named
      obtain ⟨-, -, entered⟩ := exists_of_bind_eq_ok entered
      split at entered
      · cases entered
      · rename_i file at?
        split at entered
        · cases entered
        · rename_i open?
          cases entered
          obtain ⟨before, last, split, isName, way⟩ :=
            exists_name_of_target pointed named (by simpa using open?)
          exact ⟨before, last, name, target.directory, split, isName, way, at?⟩
      · cases entered

/-- Spellings of a path with the same parts lead to the same file. -/
theorem file_eq_of_parts_eq {path other : Path} (same : path.parts = other.parts)
    {file file' : StoredFile} (found : store.file path = .ok file)
    (found' : store.file other = .ok file') : file = file' := by
  obtain ⟨before, last, name, place, split, isName, entered, at?⟩ := exists_name_of_file found
  obtain ⟨before', last', name', place', split', isName', entered', at?'⟩ :=
    exists_name_of_file found'
  have steps : path.segments.filterMap PathPart.ofSegment?
      = other.segments.filterMap PathPart.ofSegment? := by
    rw [← Path.filter_parts, ← Path.filter_parts, same]
  have begin : store.start path = store.start other := by
    have : path.isAbsolute = other.isAbsolute := by
      rw [Bool.eq_iff_iff, ← Path.root_mem_parts_iff, ← Path.root_mem_parts_iff, same]
    unfold start
    rw [this]
  rw [split, split', List.filterMap_append, List.filterMap_append,
    List.filterMap_cons_some isName, List.filterMap_cons_some isName'] at steps
  obtain ⟨ways, ends⟩ := List.append_inj' steps rfl
  rw [foldlM_enter, ways, begin, ← foldlM_enter, entered'] at entered
  obtain rfl : name = name' := by simpa using ends
  cases entered
  rw [at?] at at?'
  cases at?'
  rfl

end FileStore

/-! ### Records -/

/-- What a file is compared by: when it was written, and the digest of its text. -/
def FileRecord.stamp (record : FileRecord) : UInt64 × String :=
  (record.modified, record.digest)

namespace FileLedger

variable {ledger : FileLedger} {files : FileStore}

/-- Is a file as its record says? -/
def unaltered (record now : Option FileRecord) : Bool :=
  now.isSome && record.map FileRecord.stamp == now.map FileRecord.stamp

/-- A readable file counts as changed unless it is as its record says, and a changed file is to be
remembered as it is now. -/
theorem observe_eq (ledger : FileLedger) (files : FileStore) (path : Path) :
    (ledger.observe files path).1.isChanged
        = !unaltered (ledger.record? path) (current? files path) ∧
      (ledger.observe files path).2
        = if unaltered (ledger.record? path) (current? files path) then none
          else current? files path := by
  unfold observe unaltered
  cases current? files path with
  | none => exact ⟨rfl, rfl⟩
  | some now =>
    cases ledger.record? path with
    | none => exact ⟨rfl, rfl⟩
    | some old =>
      dsimp only
      by_cases same : old.modified = now.modified ∧ old.digest = now.digest
      · simp [same, FileRecord.stamp, FileStatus.isChanged]
      · have other : (old.modified, old.digest) ≠ (now.modified, now.digest) := by
          simpa using same
        simp [same, other, FileRecord.stamp, FileStatus.isChanged]

/-- What a ledger has to be told of a file: how the file is now, unless its record says so. -/
def due? (ledger : FileLedger) (files : FileStore) (path : Path) : Option FileRecord :=
  (current? files path).filter fun now =>
    (ledger.record? path).map FileRecord.stamp ≠ some now.stamp

theorem observe_snd (ledger : FileLedger) (files : FileStore) (path : Path) :
    (ledger.observe files path).2 = ledger.due? files path := by
  rw [(ledger.observe_eq files path).2]
  unfold due? unaltered
  cases current? files path with
  | none => rfl
  | some now =>
    rw [Option.filter_some]
    by_cases same : (ledger.record? path).map FileRecord.stamp = some now.stamp <;> simp [same]

/-- The record of a file is about the path that it was asked for. -/
theorem path_of_current? {path : Path} {record : FileRecord}
    (h : current? files path = some record) : record.path = path := by
  unfold current? at h
  split at h
  · cases h
  · split at h
    · cases h
    · cases h
      rfl

/-- Spellings of a path with the same parts give records of the same file. -/
theorem stamp_current?_eq {path other : Path} (same : path.parts = other.parts)
    (there : (files.file path).toBool) (there' : (files.file other).toBool) :
    (current? files path).map FileRecord.stamp = (current? files other).map FileRecord.stamp := by
  cases found : files.file path with
  | error error => simp [found, Except.toBool] at there
  | ok file =>
    cases found' : files.file other with
    | error error => simp [found', Except.toBool] at there'
    | ok file' =>
      obtain rfl := FileStore.file_eq_of_parts_eq same found found'
      simp only [current?, found, found']
      split <;> rfl

theorem get?_commit (ledger : FileLedger) (record : FileRecord) (key : List PathPart) :
    (ledger.commit record).records.get? key
      = if key = record.path.parts then some record else ledger.records.get? key :=
  OrderedMap.get?_insert ..

/-- After some records were remembered, a ledger knows of a path the last of its records among them,
or else what it knew. -/
theorem get?_foldl_commit (records : List FileRecord) (ledger : FileLedger) (key : List PathPart) :
    (records.foldl commit ledger).records.get? key
      = (records.reverse.find? (·.path.parts = key)).or (ledger.records.get? key) := by
  induction records generalizing ledger with
  | nil => rfl
  | cons first rest ih =>
    rw [List.foldl_cons, ih, List.reverse_cons, List.find?_append, Option.or_assoc, get?_commit]
    congr 1
    by_cases same : key = first.path.parts
    · simp [same]
    · simp [same, Ne.symm same]

/-- Only the records change. -/
theorem foldl_commit_eq (records : List FileRecord) (ledger : FileLedger) :
    records.foldl commit ledger
      = { ledger with records := (records.foldl commit ledger).records } := by
  induction records generalizing ledger with
  | nil => rfl
  | cons first rest ih => exact ih (ledger.commit first)

theorem record?_foldl_commit (records : List FileRecord) (ledger : FileLedger) (path : Path) :
    (∃ record ∈ records, record.path.parts = path.parts ∧
        (records.foldl commit ledger).record? path = some record) ∨
      ((∀ record ∈ records, record.path.parts ≠ path.parts) ∧
        (records.foldl commit ledger).record? path = ledger.record? path) := by
  have known := get?_foldl_commit records ledger path.parts
  cases found : records.reverse.find? (·.path.parts = path.parts) with
  | some record =>
    rw [found] at known
    have same := List.find?_some found
    exact Or.inl ⟨record, List.mem_reverse.mp (List.mem_of_find?_eq_some found),
      of_decide_eq_true same, known⟩
  | none =>
    rw [found] at known
    refine Or.inr ⟨fun record member same => ?_, known⟩
    exact List.find?_eq_none.mp found record (List.mem_reverse.mpr member) (decide_eq_true same)

theorem file_of_current? {path : Path} {now : FileRecord}
    (current : current? files path = some now) : (files.file path).toBool := by
  unfold current? at current
  split at current
  · cases current
  · rename_i file found
    rw [found]
    rfl

/-- After the changed ones of some files are remembered, a file is known if it is one of them or was
known before.  Its path may be spelled in another way among them. -/
theorem stamp_record?_commitDue {paths : List Path} {path : Path} {now : FileRecord}
    (current : current? files path = some now)
    (before : path ∈ paths ∨ (ledger.record? path).map FileRecord.stamp = some now.stamp) :
    (((paths.filterMap (ledger.due? files)).foldl commit ledger).record? path).map FileRecord.stamp
      = some now.stamp := by
  rcases record?_foldl_commit (paths.filterMap (ledger.due? files)) ledger path with
    ⟨record, member, same, found⟩ | ⟨apart, found⟩
  · obtain ⟨other, -, due⟩ := List.mem_filterMap.mp member
    have current' := (Option.filter_eq_some_iff.mp due).1
    rw [path_of_current? current'] at same
    have stamps := stamp_current?_eq same (file_of_current? current') (file_of_current? current)
    rw [found, Option.map_some, ← Option.map_some, ← current', stamps, current, Option.map_some]
  · rw [found]
    rcases before with listed | known
    · -- The file is not among those to be remembered, so it is as its record says.
      by_contra altered
      have due : ledger.due? files path = some now :=
        Option.filter_eq_some_iff.mpr ⟨current, by simpa using altered⟩
      exact apart now (List.mem_filterMap.mpr ⟨path, listed, due⟩)
        (congrArg Path.parts (path_of_current? current))
    · exact known

/-- After the changed ones of some files are remembered, the ledger knows each of them as it is now;
of a file dated before 1970 it knows what it knew. -/
theorem stamp_record?_commitAll {paths : List Path}
    (there : ∀ path ∈ paths, (files.file path).toBool) {path : Path} (listed : path ∈ paths) :
    (((paths.filterMap fun path => (ledger.observe files path).2).foldl commit ledger).record?
        path).map FileRecord.stamp
      = ((current? files path).or (ledger.record? path)).map FileRecord.stamp := by
  simp only [observe_snd]
  cases current : current? files path with
  | some now => exact stamp_record?_commitDue current (Or.inl listed)
  | none =>
    rcases record?_foldl_commit (paths.filterMap (ledger.due? files)) ledger path with
      ⟨record, member, same, -⟩ | ⟨-, found⟩
    · obtain ⟨other, listed', due⟩ := List.mem_filterMap.mp member
      have current' := (Option.filter_eq_some_iff.mp due).1
      rw [path_of_current? current'] at same
      have stamps := stamp_current?_eq same (there other listed') (there path listed)
      rw [current', current] at stamps
      cases stamps
    · rw [found]
      rfl

end FileLedger

end Schemata
