import Schemata.Number.Decimal
import Schemata.Text.Quoted

/-!
# JSON values

A JSON value keeps the members of an object in the order in which they were written, repeated keys
included.  Integers and floating-point numbers are kept apart.

## Main definitions

* `Json` : the value type.
* `Json.sorted` : objects with one member per key, in the order of the keys.
* `Json.compact`, `Json.pretty` : the two written forms.
-/

namespace Schemata

/-- A JSON value. -/
inductive Json
  | null
  | bool (value : Bool)
  | int (value : Int)
  | float (value : Double)
  | string (text : String)
  | array (items : List Json)
  | object (members : List (String × Json))
deriving Inhabited, Repr

namespace Json

/-- Puts a member into its place in a list sorted by key; a present key gets the new value. -/
def insertSorted (key : String) (value : Json) : List (String × Json) → List (String × Json)
  | [] => [(key, value)]
  | (k, v) :: rest =>
    if key = k then (key, value) :: rest
    else if key < k then (key, value) :: (k, v) :: rest
    else (k, v) :: insertSorted key value rest

mutual

/-- The value with all objects sorted by key; the last of several members with one key wins. -/
def sorted : Json → Json
  | .array items => .array (sortedItems items)
  | .object members => .object (sortedMembers members [])
  | value => value

/-- Sorts inside every item. -/
def sortedItems : List Json → List Json
  | [] => []
  | item :: rest => sorted item :: sortedItems rest

/-- Adds members to a sorted list, from first to last. -/
def sortedMembers : List (String × Json) → List (String × Json) → List (String × Json)
  | [], done => done
  | (key, value) :: rest, done => sortedMembers rest (insertSorted key (sorted value) done)

end

mutual

/-- The written form without blanks. -/
def compactChars : Json → List Char
  | .null => "null".toList
  | .bool true => "true".toList
  | .bool false => "false".toList
  | .int n => (toString n).toList
  | .float d => d.toJsonText.toList
  | .string text => Quoted.quoteChars text.toList
  | .array items => '[' :: compactItems items ++ [']']
  | .object members => '{' :: compactMembers members ++ ['}']

/-- Items parted by commas. -/
def compactItems : List Json → List Char
  | [] => []
  | [item] => compactChars item
  | item :: next :: rest => compactChars item ++ ',' :: compactItems (next :: rest)

/-- Members parted by commas. -/
def compactMembers : List (String × Json) → List Char
  | [] => []
  | [(key, value)] => Quoted.quoteChars key.toList ++ ':' :: compactChars value
  | (key, value) :: next :: rest =>
    Quoted.quoteChars key.toList ++ ':' :: compactChars value ++
      ',' :: compactMembers (next :: rest)

end

/-- The written form without blanks. -/
def compact (value : Json) : String :=
  String.ofList value.compactChars

/-- A line break and the indentation of a depth. -/
def newLine (depth : Nat) : List Char :=
  '\n' :: List.replicate (2 * depth) ' '

mutual

/-- The written form with one item or member a line, `depth` levels deep. -/
def prettyChars (depth : Nat) : Json → List Char
  | .array (item :: rest) =>
    '[' :: prettyItems (depth + 1) (item :: rest) ++ newLine depth ++ [']']
  | .object (member :: rest) =>
    '{' :: prettyMembers (depth + 1) (member :: rest) ++ newLine depth ++ ['}']
  | .array [] => ['[', ']']
  | .object [] => ['{', '}']
  | .null => "null".toList
  | .bool true => "true".toList
  | .bool false => "false".toList
  | .int n => (toString n).toList
  | .float d => d.toJsonText.toList
  | .string text => Quoted.quoteChars text.toList

/-- Items, each on its own line. -/
def prettyItems (depth : Nat) : List Json → List Char
  | [] => []
  | [item] => newLine depth ++ prettyChars depth item
  | item :: next :: rest =>
    newLine depth ++ prettyChars depth item ++ ',' :: prettyItems depth (next :: rest)

/-- Members, each on its own line. -/
def prettyMembers (depth : Nat) : List (String × Json) → List Char
  | [] => []
  | [(key, value)] =>
    newLine depth ++ Quoted.quoteChars key.toList ++ ':' :: ' ' :: prettyChars depth value
  | (key, value) :: next :: rest =>
    newLine depth ++ Quoted.quoteChars key.toList ++ ':' :: ' ' :: prettyChars depth value ++
      ',' :: prettyMembers depth (next :: rest)

end

/-- The written form with one item or member a line. -/
def pretty (value : Json) : String :=
  String.ofList (value.prettyChars 0)

end Json

end Schemata
