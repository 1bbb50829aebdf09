import Schemata.Diagnostic
import Schemata.Digest.Blake3
import Schemata.Files.Store
import Schemata.Json.Read

/-!
# File ledgers

A file ledger remembers when files were last written and the digest of their content, and tells
for a path whether the file is new, changed or missing since.  It can be kept in a JSON file
beside the inputs; trouble with that file is reported and never stops the work.

## Main definitions

* `FileRecord`, `FileLedger` : what is remembered.
* `FileLedger.observe`, `FileLedger.commit`, `FileLedger.check` : comparing and remembering.
* `FileLedger.openAt`, `FileLedger.save`, `FileLedger.trySave` : the file of the ledger.
-/

namespace Schemata

/-- What a ledger remembers about a file. -/
structure FileRecord where
  path : Path
  /-- When it was written, in nanoseconds since 1970, as a 64-bit word. -/
  modified : UInt64
  /-- The digest of its content in hexadecimal. -/
  digest : String
deriving DecidableEq, Repr

/-- How a file compares with its record. -/
inductive FileStatus
  | new
  | modified
  /-- It cannot be read, or is dated before 1970. -/
  | missing
  | unchanged
deriving DecidableEq, Repr

namespace FileStatus

/-- Does the file need work? -/
def isChanged (status : FileStatus) : Bool :=
  status ≠ unchanged

/-- The name of a status. -/
def name : FileStatus → String
  | new => "new"
  | modified => "modified"
  | missing => "missing"
  | unchanged => "unchanged"

end FileStatus

/-- Why the file of a ledger could not be used. -/
inductive LedgerError
  | unreadable (path : Path) (cause : FileError)
  | unwritable (path : Path) (cause : FileError)
  | corrupt (path : Path)
  | unsupported (path : Path) (version : Nat)
deriving DecidableEq, Repr

/-- The text of a ledger error.  The words in which the reader of a file says how it is corrupt are
left out; they would follow the path. -/
def LedgerError.message : LedgerError → String
  | unreadable path cause => s!"failed to read {path.text}: {cause.message}"
  | unwritable path cause => s!"failed to write {path.text}: {cause.message}"
  | corrupt path => s!"corrupt file cache {path.text}"
  | unsupported path version => s!"file cache {path.text} has unsupported version {version}"

/-- The records by path, the file they are kept in, and the trouble there was with it. -/
structure FileLedger where
  /-- The records by the parts of their paths. -/
  records : OrderedMap (List PathPart) FileRecord := .empty
  store : Option Path := none
  diagnostics : List Diagnostic := []

namespace FileLedger

/-! ### Records -/

/-- A ledger that is not kept in a file. -/
def inMemory : FileLedger := {}

/-- The record of a path. -/
def record? (ledger : FileLedger) (path : Path) : Option FileRecord :=
  ledger.records.get? path.parts

/-- Remembers a record in place of an earlier one of the same path. -/
def commit (ledger : FileLedger) (record : FileRecord) : FileLedger :=
  { ledger with records := ledger.records.insert record.path.parts record }

/-- Forgets all records. -/
def reset (ledger : FileLedger) : FileLedger :=
  { ledger with records := .empty }

/-- The records in the order of their paths. -/
def sorted (ledger : FileLedger) : List FileRecord :=
  ledger.records.values.mergeSort fun a b => a.path.le b.path

/-- The number of records. -/
def size (ledger : FileLedger) : Nat :=
  ledger.records.size

/-- The record that describes a file now; a file dated before 1970 has none. -/
def current? (files : FileStore) (path : Path) : Option FileRecord :=
  match files.file path with
  | .error _ => none
  | .ok file =>
    if file.modified < 0 then none
    else some
      { path := path
        modified := UInt64.ofNat file.modified.toNat
        digest := Bytes.toHex (Blake3.digest (Bytes.ofString file.text)) }

/-- Compares a file with its record.  A readable file that changed comes with the record to be
remembered. -/
def observe (ledger : FileLedger) (files : FileStore) (path : Path) :
    FileStatus × Option FileRecord :=
  match current? files path with
  | none => (.missing, none)
  | some now =>
    match ledger.record? path with
    | none => (.new, some now)
    | some old =>
      if old.modified = now.modified ∧ old.digest = now.digest then (.unchanged, none)
      else (.modified, some now)

/-- Compares a file with its record and remembers a change at once. -/
def check (ledger : FileLedger) (files : FileStore) (path : Path) : FileStatus × FileLedger :=
  match ledger.observe files path with
  | (status, some record) => (status, ledger.commit record)
  | (status, none) => (status, ledger)

/-! ### The file of a ledger -/

/-- The version of the file format. -/
def formatVersion : Nat := 1

/-- A record as a JSON value. -/
def recordJson (record : FileRecord) : Json :=
  .object [("path", .string record.path.text), ("modified", .int record.modified.toNat),
    ("digest", .string record.digest)]

/-- The ledger as a JSON value. -/
def toJson (ledger : FileLedger) : Json :=
  .object [("version", .int formatVersion), ("files", .array (ledger.sorted.map recordJson))]

/-- The fields of a record as they come in. -/
structure RecordDraft where
  path : Option String := none
  modified : Option Nat := none
  digest : Option String := none

/-- Reads a record. -/
def readRecord (budget : Nat) (outline : Json.Outline) : Except Json.Refusal FileRecord := do
  let draft ← Json.Outline.record (σ := RecordDraft)
    [⟨["path"], fun _ o d => do return { d with path := some (← o.text) }⟩,
      ⟨["modified"], fun _ o d => do
        return { d with modified := some (← o.natural (Nat.pow 2 64)) }⟩,
      ⟨["digest"], fun _ o d => do return { d with digest := some (← o.text) }⟩]
    budget {} outline
  let path ← Json.required draft.path
  let modified ← Json.required draft.modified
  let digest ← Json.required draft.digest
  return ⟨⟨path⟩, UInt64.ofNat modified, digest⟩

/-- The fields of a ledger as they come in. -/
structure Draft where
  version : Option Nat := none
  files : Option (List FileRecord) := none

/-- Reads the version and the records of a ledger. -/
def readParts (budget : Nat) (outline : Json.Outline) :
    Except Json.Refusal (Nat × List FileRecord) := do
  let draft ← Json.Outline.record (σ := Draft)
    [⟨["version"], fun _ o d => do return { d with version := some (← o.natural (Nat.pow 2 32)) }⟩,
      ⟨["files"], fun b o d => do return { d with files := some (← o.list readRecord b) }⟩]
    budget {} outline
  let version ← Json.required draft.version
  let files ← Json.required draft.files
  return (version, files)

/-- The records in a file. -/
def load (files : FileStore) (path : Path) : Except LedgerError (List FileRecord) := do
  match files.read path with
  | .error cause => throw (.unreadable path cause)
  | .ok text =>
    match Json.readText readParts text with
    | .error _ => throw (.corrupt path)
    | .ok (version, records) =>
      if version = formatVersion then return records else throw (.unsupported path version)

/-- Notes trouble with the file. -/
def report (ledger : FileLedger) (error : LedgerError) : FileLedger :=
  { ledger with
    diagnostics := ledger.diagnostics ++ [Diagnostic.warning .cacheIo error.message] }

/-- The ledger kept at `path`.  It starts empty when there is no such file yet, and with a report
when the file cannot be used. -/
def openAt (files : FileStore) (path : Path) : FileLedger :=
  let fresh : FileLedger := { store := some path }
  if files.exists? path then
    match load files path with
    | .ok records => records.foldl commit fresh
    | .error error => fresh.report error
  else fresh

/-- Writes the file of the ledger, with the directories around it; a ledger without a file has
nothing to write. -/
def save (ledger : FileLedger) (files : FileStore) : Except LedgerError Unit × FileStore :=
  match ledger.store with
  | none => (.ok (), files)
  | some path =>
    let (written, files) := files.writeWithDirs path ledger.toJson.pretty files.now
    (written.mapError (.unwritable path), files)

/-- Writes the file of the ledger and reports trouble; the answer tells whether it went well. -/
def trySave (ledger : FileLedger) (files : FileStore) : Bool × FileLedger × FileStore :=
  match ledger.save files with
  | (.ok (), files) => (true, ledger, files)
  | (.error error, files) => (false, ledger.report error, files)

end FileLedger

end Schemata
