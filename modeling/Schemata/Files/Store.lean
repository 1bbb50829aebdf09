import Schemata.Files.Path
import Schemata.OrderedMap

/-!
# File stores

A file store is a tree of directories and files, seen from a working directory.  Its operations
take paths and fail for the reasons for which a file system refuses them.

## Main definitions

* `FileError` : why an operation is refused, with the text of the system.
* `FileStore` : the tree, the working directory and the time.
* `FileStore.read`, `FileStore.write`, `FileStore.createDirs`, `FileStore.remove`,
  `FileStore.makeDir` : the operations.
* `FileStore.files` : the files below the working directory.
-/

namespace Schemata

/-- Why a file operation is refused. -/
inductive FileError
  | notFound
  | alreadyExists
  | notADirectory
  | isADirectory
  /-- A name or a whole path is too long. -/
  | nameTooLong
  /-- A path holds the character with code zero, which ends paths. -/
  | zeroInPath
deriving DecidableEq, Repr

/-- The text of a refusal. -/
def FileError.message : FileError → String
  | notFound => "No such file or directory (os error 2)"
  | alreadyExists => "File exists (os error 17)"
  | notADirectory => "Not a directory (os error 20)"
  | isADirectory => "Is a directory (os error 21)"
  | nameTooLong => "File name too long (os error 36)"
  | zeroInPath => "file name contained an unexpected NUL byte"

/-- A file: its text and when it was last written, in nanoseconds since 1970.  Every file may be
read and holds a text: files without leave to read them, or whose octets are not those of a text,
are not modelled. -/
structure StoredFile where
  text : String
  modified : Int
deriving DecidableEq, Repr

/-- What stands at a place of the tree. -/
inductive FileEntry
  | file (file : StoredFile)
  | directory
deriving DecidableEq, Repr

/-- Where something stands: the names on the way from the root. -/
abbrev FilePlace :=
  List String

/-- A tree of files seen from a working directory. -/
structure FileStore where
  entries : OrderedMap FilePlace FileEntry
  workDir : FilePlace
  /-- The time that a file gets when it is written. -/
  now : Int

namespace FileStore

/-- The store with nothing but its working directory. -/
def new (workDir : FilePlace) (now : Int) : FileStore where
  entries := (List.range workDir.length).foldl
    (fun m depth => m.insert (workDir.take (depth + 1)) .directory) OrderedMap.empty
  workDir := workDir
  now := now

/-- What stands at a place; the root is always there. -/
def entryAt? (store : FileStore) (place : FilePlace) : Option FileEntry :=
  if place = [] then some .directory else store.entries.get? place

/-- Refuses paths that no system looks at. -/
def checkPath (path : Path) : Except FileError Unit :=
  if path.text.toList.contains '\x00' then .error .zeroInPath
  else if path.text = "" then .error .notFound
  else if 4095 < path.text.utf8ByteSize then .error .nameTooLong
  else .ok ()

/-- Refuses names that are too long for an entry. -/
def checkName (name : String) : Except FileError Unit :=
  if 255 < name.utf8ByteSize then .error .nameTooLong else .ok ()

/-- The place one step further; what stands there has to be a directory. -/
def enter (store : FileStore) (place : FilePlace) (segment : String) :
    Except FileError FilePlace :=
  match PathPart.ofSegment? segment with
  | none | some .root | some .here => .ok place
  | some .up => .ok place.dropLast
  | some (.name text) => do
    checkName text
    let next := place ++ [text]
    match store.entryAt? next with
    | none => .error .notFound
    | some (.file _) => .error .notADirectory
    | some .directory => .ok next

/-- What a path points to: a name in a directory, or the directory itself. -/
structure Target where
  directory : FilePlace
  name : Option String
  /-- Does a separator follow the name? -/
  slash : Bool

/-- Where a path starts. -/
def start (store : FileStore) (path : Path) : FilePlace :=
  if path.isAbsolute then [] else store.workDir

/-- What a path points to.  All but its last name have to be directories. -/
def target (store : FileStore) (path : Path) : Except FileError Target := do
  checkPath path
  let segments := path.segments
  let kept := (segments.reverse.dropWhile (· = "")).reverse
  let directory ← kept.dropLast.foldlM store.enter (store.start path)
  match kept.getLast?.bind PathPart.ofSegment? with
  | some (.name text) => return ⟨directory, some text, kept.length < segments.length⟩
  | some .up => return ⟨directory.dropLast, none, false⟩
  | _ => return ⟨directory, none, false⟩

/-- What stands at a path. -/
def entry (store : FileStore) (path : Path) : Except FileError FileEntry := do
  let target ← store.target path
  match target.name with
  | none => return .directory
  | some name =>
    checkName name
    match store.entryAt? (target.directory ++ [name]) with
    | none => throw .notFound
    | some (.file file) => if target.slash then throw .notADirectory else return .file file
    | some .directory => return .directory

/-- Does something stand at a path? -/
def exists? (store : FileStore) (path : Path) : Bool :=
  (store.entry path).toBool

/-- Does a directory stand at a path? -/
def isDirectory (store : FileStore) (path : Path) : Bool :=
  match store.entry path with
  | .ok .directory => true
  | _ => false

/-- Does a file stand at a path? -/
def isFile (store : FileStore) (path : Path) : Bool :=
  match store.entry path with
  | .ok (.file _) => true
  | _ => false

/-- The file at a path. -/
def file (store : FileStore) (path : Path) : Except FileError StoredFile := do
  match ← store.entry path with
  | .file file => .ok file
  | .directory => .error .isADirectory

/-- The text of the file at a path. -/
def read (store : FileStore) (path : Path) : Except FileError String :=
  (store.file path).map StoredFile.text

/-- Puts an entry at a place. -/
def put (store : FileStore) (place : FilePlace) (entry : FileEntry) : FileStore :=
  { store with entries := store.entries.insert place entry }

/-- Makes a directory; the one around it has to be there. -/
def makeDir (store : FileStore) (path : Path) : Except FileError FileStore := do
  let target ← store.target path
  match target.name with
  | none => throw .alreadyExists
  | some name =>
    checkName name
    let place := target.directory ++ [name]
    match store.entryAt? place with
    | some _ => throw .alreadyExists
    | none => return store.put place .directory

/-- A path and at most `count` paths around it, inner ones first; roots and empty paths are always
there and not listed. -/
def ancestorsUpTo : Nat → Path → List Path
  | 0, _ => []
  | count + 1, path =>
    match path.parent? with
    | none => []
    | some parent => path :: ancestorsUpTo count parent

/-- The path and the paths around it, inner ones first. -/
def ancestors (path : Path) : List Path :=
  ancestorsUpTo path.parts.length path

/-- Looks from inside outwards for a directory that is there or can be made, and makes it: gives
the directories inside of it, which are still missing. -/
def createInnermost (store : FileStore) : List Path → Except FileError (List Path × FileStore)
  | [] => .ok ([], store)
  | path :: outer =>
    match store.makeDir path with
    | .ok store => .ok ([], store)
    | .error .notFound => (store.createInnermost outer).map fun (inner, store) =>
      (path :: inner, store)
    | .error .alreadyExists =>
      if store.isDirectory path then .ok ([], store) else .error .alreadyExists
    | .error error => .error error

/-- Makes directories one after the other, until one is refused. -/
def createEach (store : FileStore) : List Path → Except FileError Unit × FileStore
  | [] => (.ok (), store)
  | path :: rest =>
    match store.makeDir path with
    | .ok store => store.createEach rest
    | .error .alreadyExists =>
      if store.isDirectory path then store.createEach rest else (.error .alreadyExists, store)
    | .error error => (.error error, store)

/-- Makes a directory and those around it, where they are missing.  What was made before a refusal
stays. -/
def createDirs (store : FileStore) (path : Path) : Except FileError Unit × FileStore :=
  match store.createInnermost (ancestors path) with
  | .error error => (.error error, store)
  | .ok (inner, store) => store.createEach inner.reverse

/-- Writes a file with a time; the directory around it has to be there. -/
def writeAt (store : FileStore) (path : Path) (text : String) (modified : Int) :
    Except FileError FileStore := do
  let target ← store.target path
  match target.name with
  | none => throw .isADirectory
  | some name =>
    if target.slash then throw .isADirectory
    checkName name
    let place := target.directory ++ [name]
    match store.entryAt? place with
    | some .directory => throw .isADirectory
    | _ => return store.put place (.file ⟨text, modified⟩)

/-- Writes a file; the directory around it has to be there. -/
def write (store : FileStore) (path : Path) (text : String) : Except FileError FileStore :=
  store.writeAt path text store.now

/-- Writes a file with a time, after the directories around it have been made. -/
def writeWithDirs (store : FileStore) (path : Path) (text : String) (modified : Int) :
    Except FileError Unit × FileStore :=
  match store.createDirs (path.parent?.getD ⟨""⟩) with
  | (.error error, store) => (.error error, store)
  | (.ok (), store) =>
    match store.writeAt path text modified with
    | .error error => (.error error, store)
    | .ok store => (.ok (), store)

/-- Removes a file. -/
def remove (store : FileStore) (path : Path) : Except FileError FileStore := do
  let target ← store.target path
  match target.name with
  | none => throw .isADirectory
  | some name =>
    checkName name
    let place := target.directory ++ [name]
    match store.entryAt? place with
    | none => throw .notFound
    | some .directory => throw .isADirectory
    | some (.file _) =>
      if target.slash then throw .notADirectory
      else return { store with entries := store.entries.erase place }

/-- The files below the working directory, by their relative paths. -/
def files (store : FileStore) : List String :=
  let found := store.entries.entries.filterMap fun (place, entry) =>
    match entry with
    | .directory => none
    | .file _ =>
      if place.take store.workDir.length = store.workDir
      then some ("/".intercalate (place.drop store.workDir.length))
      else none
  found.mergeSort (· ≤ ·)

end FileStore

end Schemata
