import Schemata.Config.Read
import Schemata.Files.Store

/-!
# Configuration files

A configuration is loaded from a file, whose ending tells the format, or from the first file with
a known name in a directory.

## Main definitions

* `ConfigError` : why a configuration cannot be loaded.
* `Config.load` : the configuration in a file.
* `Config.discover` : the configuration of a directory.
-/

namespace Schemata

/-- Why a configuration cannot be loaded. -/
inductive ConfigError
  | unreadable (path : Path) (cause : FileError)
  | invalidToml (path : Path)
  | invalidJson (path : Path)
  | unknownFormat (path : Path)
deriving DecidableEq, Repr

/-- The text of an error.  The words in which the reader of a text says what is wrong with it are
left out; they would follow the path. -/
def ConfigError.message : ConfigError → String
  | unreadable path cause => s!"failed to read {path.text}: {cause.message}"
  | invalidToml path => s!"invalid TOML in {path.text}"
  | invalidJson path => s!"invalid JSON in {path.text}"
  | unknownFormat path =>
    s!"unsupported config format: {path.text} (expected .toml or .json)"

namespace Config

/-- The configuration in a file.  The file has to be readable, whatever its ending is. -/
def load (files : FileStore) (path : Path) : Except ConfigError Config :=
  match files.read path with
  | .error cause => .error (.unreadable path cause)
  | .ok text =>
    match path.extension? with
    | some "toml" =>
      match ofTomlText? text with
      | some config => .ok config
      | none => .error (.invalidToml path)
    | some "json" =>
      match ofJsonText? text with
      | some config => .ok config
      | none => .error (.invalidJson path)
    | _ => .error (.unknownFormat path)

/-- The names of configuration files, in the order in which they are looked for. -/
def fileNames : List String :=
  ["shapecheck.toml", "shapecheck.json"]

/-- The configuration in the first file of a directory that has one of the names, or the defaults
when there is none. -/
def discover (files : FileStore) (dir : Path) : Except ConfigError Config :=
  match (fileNames.map fun name => dir.join ⟨name⟩).find? files.isFile with
  | some path => load files path
  | none => .ok {}

end Config

end Schemata
