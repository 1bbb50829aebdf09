import Schemata.Text.Segments

/-!
# Paths of generated modules

The module generated for a file lies beside it, under the same name with another ending.  One
module imports another by a path relative to its own.

## Main definitions

* `ModulePath.ofFile` : the path of the module of a file.
* `ModulePath.specifier` : how the module of one file imports that of another.
-/

namespace Schemata.ModulePath

/-- The last segment of a path. -/
def fileName (path : List Char) : List Char :=
  (Segments.split '/' path).getLastD []

/-- Everything up to and including the last slash of a path. -/
def folderPrefix (path : List Char) : List Char :=
  path.take (path.length - (fileName path).length)

/-- A file name without its last extension; a leading dot starts no extension. -/
def stem (name : List Char) : List Char :=
  match name.reverse.dropWhile (· ≠ '.') with
  | '.' :: c :: rest => (c :: rest).reverse
  | _ => name

/-- A path without the extension of its file name. -/
def stripExtension (path : List Char) : List Char :=
  folderPrefix path ++ stem (fileName path)

/-- The path of the module generated for `file`. -/
def ofFile (file : String) : String :=
  String.ofList (stripExtension file.toList) ++ ".schema.ts"

/-- The folders on the way to a file; empty segments and single dots are no folders. -/
def folders (path : List Char) : List (List Char) :=
  ((Segments.split '/' path).filter fun segment => !segment.isEmpty && segment != ['.']).dropLast

/-- What two lists have in common at their start is dropped from both. -/
def dropCommon : List (List Char) → List (List Char) → List (List Char) × List (List Char)
  | a :: as, b :: bs => if a = b then dropCommon as bs else (a :: as, b :: bs)
  | as, bs => (as, bs)

/-- The segments that lead from the folder of `source` to the module of `target`. -/
def relativeSegments (source target : List Char) : List (List Char) :=
  let (up, down) := dropCommon (folders source) (folders target)
  up.map (fun _ => ['.', '.']) ++ down ++ [stem (fileName target) ++ ".schema".toList]

/-- Segments joined by slashes. -/
def joinSegments : List (List Char) → List Char
  | [] => []
  | [segment] => segment
  | segment :: next :: rest => segment ++ '/' :: joinSegments (next :: rest)

/-- How the module of `source` imports the module of `target`. -/
def specifier (source target : String) : String :=
  let joined := joinSegments (relativeSegments source.toList target.toList)
  String.ofList (match joined with
    | '.' :: '.' :: _ => joined
    | _ => '.' :: '/' :: joined)

end Schemata.ModulePath
