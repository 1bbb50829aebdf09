import Schemata.Toml.Scalar
import Schemata.Toml.Table

/-!
# Reading TOML

A TOML text is read line by line into a tree of tables.

## Main definitions

* `Toml.value` : a value of any shape.
* `Toml.parse?` : the members of the table that a whole text spells.
-/

namespace Schemata.Toml

/-! ### Values -/

/-- The items of a list after its bracket, each read by `item`.  Comments and line ends may stand
around them, and a comma behind the last. -/
def listItems (item : Reader Json) (text : List Char) : Option (List Json × List Char) :=
  match skipLines text with
  | ']' :: rest => some ([], rest)
  | start => do
    let (value, rest) ← item start
    match skipLines rest with
    | ']' :: rest => return ([value], rest)
    | ',' :: rest =>
      if rest.length < text.length then
        let (values, rest) ← listItems item rest
        return (value :: values, rest)
      else none
    | _ => none
termination_by text.length

/-- The entries of a table in braces, read by `item` into the members so far.  It ends on the line
on which it starts. -/
def tableEntries (item : Reader Json) (members : Members) (text : List Char) :
    Option (Members × List Char) := do
  let ((path, key), rest) ← keyPath text
  let rest ← char? '=' rest
  let (value, rest) ← item (skipBlanks rest)
  let members ← addValue path key value members
  match skipBlanks rest with
  | '\x7d' :: rest => return (members, rest)
  | ',' :: rest => if rest.length < text.length then tableEntries item members rest else none
  | _ => none
termination_by text.length

/-- A value whose parts are read by `item`. -/
def valueWith (item : Reader Json) : Reader Json
  | '[' :: rest => (listItems item rest).map (·.map Json.array id)
  | '\x7b' :: rest =>
    match skipBlanks rest with
    | '\x7d' :: rest => some (.object [], rest)
    | rest => (tableEntries item [] rest).map (·.map (.object ∘ membersJson) id)
  | text => scalar text

/-- A value with at most `depth` brackets and braces open at once. -/
def value : (depth : Nat) → Reader Json
  | 0 => fun text =>
    match text with
    | '[' :: _ | '\x7b' :: _ => none
    | text => scalar text
  | depth + 1 => valueWith (value depth)

/-- The number of brackets and braces that may be open at once. -/
def depthLimit : Nat := 79

/-! ### Lines -/

/-- What was read so far: the whole tree, and the keys of the last header. -/
structure Draft where
  members : Members := []
  header : List String := []

/-- A header, after its first bracket. -/
def header (draft : Draft) (text : List Char) : Option (Draft × List Char) := do
  let ((path, key), rest) ← keyPath text
  let rest ← char? ']' rest
  let members ← addTable path key draft.members
  return (⟨members, path ++ [key]⟩, ← lineEnd rest)

/-- A header of a listed table, after its first two brackets. -/
def listedHeader (draft : Draft) (text : List Char) : Option (Draft × List Char) := do
  let ((path, key), rest) ← keyPath text
  let rest ← char? ']' rest
  let rest ← char? ']' rest
  let members ← addListed path key draft.members
  return (⟨members, path ++ [key]⟩, ← lineEnd rest)

/-- A key with its value, which goes into the table of the last header. -/
def assignment (draft : Draft) (text : List Char) : Option (Draft × List Char) := do
  let ((path, key), rest) ← keyPath text
  let rest ← char? '=' rest
  let (found, rest) ← value depthLimit (skipBlanks rest)
  let members ← update .implied (fun _ => addValue path key found) draft.header .given
    draft.members
  return (⟨members, draft.header⟩, ← lineEnd rest)

/-- One line that is neither blank nor a comment. -/
def line (draft : Draft) : List Char → Option (Draft × List Char)
  | '[' :: '[' :: rest => listedHeader draft rest
  | '[' :: rest => header draft rest
  | text => assignment draft text

/-- The lines of a text. -/
def lines (draft : Draft) (text : List Char) : Option Draft :=
  match skipLines text with
  | [] => some draft
  | start => do
    let (draft, rest) ← line draft start
    if rest.length < text.length then lines draft rest else none
termination_by text.length

/-- The members of the table that a text spells.  A byte order mark may stand in front. -/
def parse? (text : String) : Option (List (String × Json)) := do
  let chars :=
    match text.toList with
    | '\ufeff' :: rest => rest
    | chars => chars
  let draft ← lines {} chars
  return membersJson draft.members

end Schemata.Toml
