import Schemata.CommandLine.Run

/-!
# The program

The outer layer of the command line.  It copies what the command looks at from the disk into a file
store, runs the command on the store, writes changes back and prints the output.

## Main definitions

* `main` : the program.
-/

namespace Schemata.Program

/-- The text of a place. -/
def placeText (place : FilePlace) : String :=
  "/" ++ "/".intercalate place

/-- The place of a path, by its text alone. -/
def placeOf (files : FileStore) (path : Path) : FilePlace :=
  path.parts.foldl
    (fun place part =>
      match part with
      | .root => []
      | .here => place
      | .up => place.dropLast
      | .name text => place ++ [text])
    files.workDir

/-- What stands at a place on the disk. -/
def inspect (place : FilePlace) : IO (Option FileEntry) := do
  let path := (← IO.currentDir) / placeText place
  try
    let info ← path.metadata
    match info.type with
    | .dir => return some .directory
    | .file =>
      let text ← IO.FS.readFile path
      return some (.file ⟨text, info.modified.sec * 1000000000 + info.modified.nsec.toNat⟩)
    | _ => return none
  catch _ => return none

/-- Copies what stands at places, and around them, from the disk into a store. -/
def copyIn (files : FileStore) (places : List FilePlace) : IO FileStore := do
  let mut files := files
  for place in places do
    for depth in List.range place.length do
      let outer := place.take (depth + 1)
      if (files.entryAt? outer).isNone then
        match ← inspect outer with
        | some entry => files := files.put outer entry
        | none => pure ()
  return files

/-- Writes an entry to the disk. -/
def copyOut (place : FilePlace) : FileEntry → IO Unit
  | .directory => IO.FS.createDirAll (placeText place)
  | .file file => IO.FS.writeFile (placeText place) file.text

/-- The entries that a run has changed. -/
def changes (before after : FileStore) : List (FilePlace × FileEntry) :=
  after.entries.entries.filter fun (place, entry) => before.entries.get? place != some entry

/-- The working directory. -/
def workDir : IO FilePlace := do
  let path := (← IO.currentDir).toString
  return (Path.mk path).segments.filter (· ≠ "")

end Schemata.Program

open Schemata Schemata.Program

/-- The program. -/
def main (arguments : List String) : IO UInt32 := do
  let files := FileStore.new (← workDir) 0
  let files ← copyIn files ((CommandLine.inputs files arguments).map (placeOf files))
  let files ← copyIn files ((CommandLine.inputs files arguments).map (placeOf files))
  -- A first run shows which places are written; what stands there counts too.
  let draft := CommandLine.run files 1 arguments
  let files ← copyIn files ((changes files draft.files).map Prod.fst)
  let outcome := CommandLine.run files 1 arguments
  for (place, entry) in changes files outcome.files do
    copyOut place entry
  IO.print outcome.stdout
  IO.eprint outcome.stderr
  return UInt32.ofNat outcome.exit
