import Schemata.Shape.Basic

/-!
# Validators

A validator is a tree of combinators: a kind, with modifiers applied on top of it in order.

## Main definitions

* `Validator`, `ValidatorKind`, `Modifier` : the combinators.
* `Validator.eagerRefs` : the schemas that have to exist when the validator is built.
* `Validator.expression` : a hand-written expression in place of a validator.
-/

namespace Schemata

/-- A refinement on top of a validator. -/
inductive Modifier
  | optional
  | nullable
  | readonly
  | toPartial
  | toRequired
  | pick (keys : List String)
  | omit (keys : List String)
  | bounds (min max : Option Double)
  | pattern (pattern : String)
  | message (text : String)
deriving DecidableEq, Repr

mutual

/-- A kind of validator with modifiers, applied in order. -/
inductive Validator
  | mk (kind : ValidatorKind) (modifiers : List Modifier)

/-- What a validator checks before its modifiers. -/
inductive ValidatorKind
  | primitive (type : Primitive)
  | literal (value : Literal)
  | array (element : Validator)
  | tuple (items : List Validator)
  | object (entries : List (String × Validator))
  | union (members : List Validator)
  | intersection (members : List Validator)
  | record (key value : Validator)
  | function (params : List Validator) (returns : Validator)
  /-- A schema by name, needed at once. -/
  | ref (name : String) (args : List Validator)
  /-- A schema by name, looked up when it is used. -/
  | deferred (name : String) (args : List Validator)
  | generic (params : List String) (body : Validator)
  | param (name : String)
  /-- A hand-written expression. -/
  | expression (text : String)
  /-- A hand-written expression around another validator. -/
  | template (text : String) (base : Validator)

end

namespace Validator

/-- What the validator checks before its modifiers. -/
def kind : Validator → ValidatorKind
  | .mk kind _ => kind

/-- The modifiers, first applied first. -/
def modifiers : Validator → List Modifier
  | .mk _ modifiers => modifiers

/-- A kind without modifiers. -/
def ofKind (kind : ValidatorKind) : Validator :=
  .mk kind []

/-- A built-in type. -/
def primitive (type : Primitive) : Validator :=
  ofKind (.primitive type)

/-- Accepts everything. -/
def any : Validator :=
  primitive .any

instance : Inhabited Validator :=
  ⟨any⟩

/-- A choice; a single alternative stands for itself. -/
def union : List Validator → Validator
  | [member] => member
  | members => ofKind (.union members)

/-- A conjunction; a single part stands for itself. -/
def intersection : List Validator → Validator
  | [member] => member
  | members => ofKind (.intersection members)

/-- Adds a modifier on top. -/
def modify (v : Validator) (modifier : Modifier) : Validator :=
  .mk v.kind (v.modifiers ++ [modifier])

/-- Does it accept a missing value? -/
def isOptional (v : Validator) : Bool :=
  v.modifiers.contains .optional

/-- Accepts a missing value too. -/
def optional (v : Validator) : Validator :=
  if v.isOptional then v else v.modify .optional

/-- Accepts null too. -/
def nullable (v : Validator) : Validator :=
  if v.modifiers.contains .nullable then v else v.modify .nullable

/-- Does the text hold the place of a base validator? -/
def hasBase : List Char → Bool
  | [] => false
  | '{' :: 'b' :: 'a' :: 's' :: 'e' :: '}' :: _ => true
  | _ :: rest => hasBase rest

/-- A hand-written expression; where it says so, `base` is put in. -/
def expression (text : String) (base : Validator) : Validator :=
  if hasBase text.toList then ofKind (.template text base) else ofKind (.expression text)

end Validator

/-- The validators inside a kind, in order. -/
def ValidatorKind.children : ValidatorKind → List Validator
  | .primitive _ => []
  | .literal _ => []
  | .array element => [element]
  | .tuple items => items
  | .object entries => entries.map Prod.snd
  | .union members => members
  | .intersection members => members
  | .record key value => [key, value]
  | .function params returns => params ++ [returns]
  | .ref _ args => args
  | .deferred _ args => args
  | .generic _ body => [body]
  | .param _ => []
  | .expression _ => []
  | .template _ base => [base]

namespace Validator

mutual

/-- What `f` finds at each validator of a tree, outer ones first. -/
def collect {α : Type} (f : Validator → List α) : Validator → List α
  | .mk kind modifiers => f (.mk kind modifiers) ++ collectKind f kind

/-- The same inside a kind. -/
def collectKind {α : Type} (f : Validator → List α) : ValidatorKind → List α
  | .primitive _ => []
  | .literal _ => []
  | .array element => collect f element
  | .tuple items => collectList f items
  | .object entries => collectEntries f entries
  | .union members => collectList f members
  | .intersection members => collectList f members
  | .record key value => collect f key ++ collect f value
  | .function params returns => collectList f params ++ collect f returns
  | .ref _ args => collectList f args
  | .deferred _ args => collectList f args
  | .generic _ body => collect f body
  | .param _ => []
  | .expression _ => []
  | .template _ base => collect f base

/-- The same over a list. -/
def collectList {α : Type} (f : Validator → List α) : List Validator → List α
  | [] => []
  | v :: rest => collect f v ++ collectList f rest

/-- The same over the entries of an object. -/
def collectEntries {α : Type} (f : Validator → List α) : List (String × Validator) → List α
  | [] => []
  | (_, v) :: rest => collect f v ++ collectEntries f rest

end

/-- The name of a schema that is needed at once. -/
def eagerName (v : Validator) : List String :=
  match v.kind with
  | .ref name _ => [name]
  | _ => []

/-- The schemas that have to exist when the validator is built, each once, in order. -/
def eagerRefs (v : Validator) : List String :=
  (v.collect eagerName).eraseDups

/-- Is the validator itself a deferred reference? -/
def isDeferred (v : Validator) : Bool :=
  match v.kind with
  | .deferred _ _ => true
  | _ => false

/-- Does the tree hold a deferred reference? -/
def hasDeferred (v : Validator) : Bool :=
  (v.collect fun v => [v.isDeferred]).any id

/-- Does the validator itself carry a message? -/
def carriesMessage (v : Validator) : Bool :=
  v.modifiers.any fun m => match m with
    | .message _ => true
    | _ => false

/-- Does the tree carry a message? -/
def hasMessage (v : Validator) : Bool :=
  (v.collect fun v => [v.carriesMessage]).any id

end Validator

end Schemata
