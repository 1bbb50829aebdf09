import Schemata.Validator.Basic

/-!
# Validators as source text

Every validator is written as one expression of the target library.  Schemas are named after their
declarations, with a suffix.

## Main definitions

* `Validator.render` : the expression of a validator.
* `objectKey` : a key of an object literal.
-/

namespace Schemata

/-- The name of the schema of a declaration. -/
def schemaName (suffix name : String) : String :=
  name ++ suffix

/-- May the character start an identifier? -/
def isIdentifierStart (c : Char) : Bool :=
  c.isAlpha || c = '_' || c = '$'

/-- May the character go on in an identifier? -/
def isIdentifierPart (c : Char) : Bool :=
  isIdentifierStart c || c.isDigit

/-- Is the text an identifier of ASCII characters? -/
def isIdentifier : List Char → Bool
  | [] => false
  | c :: rest => isIdentifierStart c && rest.all isIdentifierPart

/-- A key of an object literal: bare when it is an identifier, quoted otherwise. -/
def objectKey (name : String) : String :=
  if isIdentifier name.toList then name else Quoted.quote name

/-- Texts parted by commas and blanks. -/
def commaList (texts : List String) : String :=
  String.intercalate ", " texts

namespace Primitive

/-- The expression of a built-in type. -/
def render : Primitive → String
  | .integer => "z.number().int()"
  | type => s!"z.{type.name}()"

end Primitive

/-- An object literal that marks keys. -/
def keyMask (keys : List String) : String :=
  if keys.isEmpty then "\x7b\x7d"
  else "\x7b " ++ commaList (keys.map fun key => s!"{objectKey key}: true") ++ " \x7d"

/-- A bound as a method call, if there is one. -/
def boundCall (method : String) : Option Double → String
  | none => ""
  | some bound => s!".{method}({bound.toSource})"

/-- The expression of a validator with one more modifier on it. -/
def Modifier.apply (expr : String) : Modifier → String
  | .optional => expr ++ ".optional()"
  | .nullable => expr ++ ".nullable()"
  | .readonly => expr ++ ".readonly()"
  | .toPartial => expr ++ ".partial()"
  | .toRequired => expr ++ ".required()"
  | .pick keys => expr ++ ".pick(" ++ keyMask keys ++ ")"
  | .omit keys => expr ++ ".omit(" ++ keyMask keys ++ ")"
  | .bounds min max => expr ++ boundCall "min" min ++ boundCall "max" max
  | .pattern text => expr ++ ".regex(new RegExp(" ++ Quoted.quote text ++ "))"
  | .message text => "withMessage(" ++ expr ++ ", " ++ Quoted.quote text ++ ")"

/-- Puts `base` in all the places that a template holds for it. -/
def fillTemplate (base : List Char) : List Char → List Char
  | [] => []
  | '{' :: 'b' :: 'a' :: 's' :: 'e' :: '}' :: rest => base ++ fillTemplate base rest
  | c :: rest => c :: fillTemplate base rest

/-- A schema, called with its arguments if there are any. -/
def schemaCall (suffix name : String) (args : List String) : String :=
  if args.isEmpty then schemaName suffix name
  else schemaName suffix name ++ "(" ++ commaList args ++ ")"

/-- Two-place intersections, nested to the left. -/
def intersectionText : List String → String
  | [] => "z.unknown()"
  | first :: rest => rest.foldl (fun acc next => s!"z.intersection({acc}, {next})") first

/-- The parameter list of a generic schema. -/
def genericParams (params : List String) : String :=
  commaList (params.map fun param => s!"{param}: z.ZodTypeAny = z.any()")

namespace Validator

mutual

/-- The expression of a validator; schemas have the given suffix. -/
def render (suffix : String) : Validator → String
  | .mk kind modifiers => modifiers.foldl Modifier.apply (renderKind suffix kind)

/-- The expression of a kind. -/
def renderKind (suffix : String) : ValidatorKind → String
  | .primitive type => type.render
  | .literal value =>
    match value with
    | .null => "z.null()"
    | value => s!"z.literal({value.toSource})"
  | .array element => "z.array(" ++ render suffix element ++ ")"
  | .tuple items => "z.tuple([" ++ commaList (renderList suffix items) ++ "])"
  | .object [] => "z.object(\x7b\x7d)"
  | .object (entry :: rest) =>
    "z.object(\x7b " ++ commaList (renderEntries suffix (entry :: rest)) ++ " \x7d)"
  | .union members => "z.union([" ++ commaList (renderList suffix members) ++ "])"
  | .intersection members => intersectionText (renderList suffix members)
  | .record key value => "z.record(" ++ render suffix key ++ ", " ++ render suffix value ++ ")"
  | .function params returns =>
    "z.function().args(" ++ commaList (renderList suffix params) ++ ").returns(" ++
      render suffix returns ++ ")"
  | .ref name args => schemaCall suffix name (renderList suffix args)
  | .deferred name args =>
    "z.lazy(() => " ++ schemaCall suffix name (renderList suffix args) ++ ")"
  | .generic params body => "(" ++ genericParams params ++ ") => " ++ render suffix body
  | .param name => name
  | .expression text => text
  | .template text base =>
    String.ofList (fillTemplate (render suffix base).toList text.toList)

/-- The expressions of a list of validators. -/
def renderList (suffix : String) : List Validator → List String
  | [] => []
  | v :: rest => render suffix v :: renderList suffix rest

/-- The entries of an object literal. -/
def renderEntries (suffix : String) : List (String × Validator) → List String
  | [] => []
  | (name, v) :: rest =>
    (objectKey name ++ ": " ++ render suffix v) :: renderEntries suffix rest

end

end Validator

/-- The helper that replaces the message of a schema; a module defines it if it uses messages. -/
def messageHelper : String :=
  "const withMessage = <T extends z.ZodTypeAny>(schema: T, message: string) =>\n" ++
    "  z.custom<z.infer<T>>((value) => schema.safeParse(value).success, \x7b message \x7d);"

end Schemata
