import Schemata.Json.Basic

/-!
# Tables under construction

A TOML text fills one tree of tables, line by line.  A table remembers how it came about, because
that decides who may still add to it: a header, the way to a header, or a dotted key.

## Main definitions

* `Toml.Item` : a value, a table or a list of tables.
* `Toml.update` : changes the table at the end of a path of keys.
* `Toml.addValue`, `Toml.addTable`, `Toml.addListed` : what a key with a value, a header and a
  header of a listed table do.
* `Toml.membersJson` : the finished tree as members of a JSON object.
-/

namespace Schemata.Toml

/-- How a table came about. -/
inductive TableKind
  /-- It has a header of its own, or is written in braces, or is the whole text. -/
  | given
  /-- It stands on the way to a header. -/
  | implied
  /-- It stands on the way of a dotted key. -/
  | dotted
deriving DecidableEq, Repr

/-- What a key stands for. -/
inductive Item
  | value (value : Json)
  | table (kind : TableKind) (members : List (String × Item))
  /-- The tables of repeated headers. -/
  | listed (tables : List (List (String × Item)))

/-- The members of a table. -/
abbrev Members :=
  List (String × Item)

/-- Sets the item at a key that is present. -/
def replace (members : Members) (key : String) (item : Item) : Members :=
  members.map fun member => if member.1 = key then (key, item) else member

/-- Changes the table at the end of a path.  Tables that are missing on the way are made, of the
kind `made`.  A path of dotted keys may not lead through a table with a header. -/
def update (made : TableKind) (change : TableKind → Members → Option Members) :
    List String → TableKind → Members → Option Members
  | [], kind, members => change kind members
  | key :: path, _, members =>
    match members.lookup key with
    | none => do
      let inner ← update made change path made []
      return members ++ [(key, .table made inner)]
    | some (.value _) => none
    | some (.table kind inner) =>
      if made = .dotted ∧ kind = .given then none
      else do
        let inner ← update made change path kind inner
        return replace members key (.table kind inner)
    | some (.listed tables) => do
      let inner ← update made change path .given (← tables.getLast?)
      return replace members key (.listed (tables.dropLast ++ [inner]))

/-- Adds a value under a key, `path` being the keys before the last dot.  A key that is present
stays as it is, and a dotted key adds only to tables that came from dotted keys. -/
def addValue (path : List String) (key : String) (value : Json) (members : Members) :
    Option Members :=
  update .dotted
    (fun kind members =>
      if decide (kind = .dotted) = path.isEmpty ∨ (members.lookup key).isSome then none
      else some (members ++ [(key, .value value)]))
    path .given members

/-- Adds a table with a header.  A table that was only implied is moved to the end and keeps its
members. -/
def addTable (path : List String) (key : String) (members : Members) : Option Members :=
  update .implied
    (fun _ members =>
      match members.lookup key with
      | none => some (members ++ [(key, .table .given [])])
      | some (.table .implied inner) =>
        some (members.filter (·.1 ≠ key) ++ [(key, .table .given inner)])
      | some _ => none)
    path .given members

/-- Adds a table to the list of tables at a key. -/
def addListed (path : List String) (key : String) (members : Members) : Option Members :=
  update .implied
    (fun _ members =>
      match members.lookup key with
      | none => some (members ++ [(key, .listed [[]])])
      | some (.listed tables) => some (replace members key (.listed (tables ++ [[]])))
      | some _ => none)
    path .given members

mutual

/-- The finished tree as a JSON value. -/
def Item.toJson : Item → Json
  | .value value => value
  | .table _ members => .object (membersJson members)
  | .listed tables => .array (tablesJson tables)

/-- The members of a table as members of an object. -/
def membersJson : List (String × Item) → List (String × Json)
  | [] => []
  | (key, item) :: rest => (key, item.toJson) :: membersJson rest

/-- Tables as objects. -/
def tablesJson : List (List (String × Item)) → List Json
  | [] => []
  | members :: rest => .object (membersJson members) :: tablesJson rest

end

end Schemata.Toml
