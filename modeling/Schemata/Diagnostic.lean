import Schemata.Json.Basic

/-!
# Diagnostics

What went wrong, how badly, where, and in whose work.

## Main definitions

* `Diagnostic` : one report.
* `Diagnostic.toText` : its line in the output.
-/

namespace Schemata

/-- The part of the work that a diagnostic is about. -/
inductive DiagnosticKind
  | configuration
  | generation
  | worker
  | cacheIo
deriving DecidableEq, Repr

namespace DiagnosticKind

/-- The name of the kind in a line of text. -/
def label : DiagnosticKind → String
  | .configuration => "configuration"
  | .generation => "generation"
  | .worker => "worker"
  | .cacheIo => "cache-io"

/-- The name of the kind in data formats. -/
def name : DiagnosticKind → String
  | .cacheIo => "cache_io"
  | kind => kind.label

end DiagnosticKind

/-- How bad it is. -/
inductive DiagnosticLevel
  | warning
  | error
deriving DecidableEq, Repr

/-- The name of a level. -/
def DiagnosticLevel.name : DiagnosticLevel → String
  | .warning => "warning"
  | .error => "error"

/-- A report on something that went wrong. -/
structure Diagnostic where
  kind : DiagnosticKind
  level : DiagnosticLevel
  message : String
  context : Option String
deriving DecidableEq, Repr

namespace Diagnostic

/-- A warning without a context. -/
def warning (kind : DiagnosticKind) (message : String) : Diagnostic :=
  ⟨kind, .warning, message, none⟩

/-- Is it an error? -/
def isError (d : Diagnostic) : Bool :=
  d.level = .error

/-- The report as a line of text. -/
def toText (d : Diagnostic) : String :=
  let head := s!"{d.level.name}[{d.kind.label}]"
  match d.context with
  | some context => s!"{head} {context}: {d.message}"
  | none => s!"{head} {d.message}"

/-- The report as a JSON value. -/
def toJson (d : Diagnostic) : Json :=
  .object [("kind", .string d.kind.name), ("level", .string d.level.name),
    ("message", .string d.message),
    ("context", match d.context with
      | some context => .string context
      | none => .null)]

end Diagnostic

end Schemata
