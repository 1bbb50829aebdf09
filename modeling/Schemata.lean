import Schemata.Binary.Codec
import Schemata.Binary.Shape
import Schemata.Bytes
import Schemata.CommandLine.Arguments
import Schemata.CommandLine.Run
import Schemata.Config.Basic
import Schemata.Config.Load
import Schemata.Config.Overrides
import Schemata.Config.Read
import Schemata.Diagnostic
import Schemata.Digest.Blake3
import Schemata.Document.Basic
import Schemata.Document.Lower
import Schemata.Document.Read
import Schemata.Document.Write
import Schemata.Files.Ledger
import Schemata.Files.Path
import Schemata.Files.Store
import Schemata.Json.Basic
import Schemata.Json.Lexeme
import Schemata.Json.Outline
import Schemata.Json.Parts
import Schemata.Json.Read
import Schemata.Number.Decimal
import Schemata.Number.Double
import Schemata.OrderedMap
import Schemata.Pattern.Assembly
import Schemata.Pattern.Automaton
import Schemata.Pattern.Basic
import Schemata.Pattern.CharClass
import Schemata.Pattern.Class
import Schemata.Pattern.Escape
import Schemata.Pattern.Flags
import Schemata.Pattern.Look
import Schemata.Pattern.Regex
import Schemata.Pattern.Search
import Schemata.Pieces
import Schemata.Rules.Basic
import Schemata.Rules.Explain
import Schemata.Rules.Overrides
import Schemata.Rules.Resolve
import Schemata.Rules.Set
import Schemata.Rules.Wire
import Schemata.Schema.Basic
import Schemata.Schema.Cache
import Schemata.Schema.Generate
import Schemata.Schema.Module
import Schemata.Schema.ModulePath
import Schemata.Schema.Run
import Schemata.Schema.Trace
import Schemata.Session.Basic
import Schemata.Session.Generate
import Schemata.Shape.Basic
import Schemata.Shape.Canonical
import Schemata.Shape.Cycle
import Schemata.Shape.Graph
import Schemata.Shape.Id
import Schemata.Shape.Wire
import Schemata.Text.CharSet
import Schemata.Text.CodePoint
import Schemata.Text.Quoted
import Schemata.Text.Segments
import Schemata.Text.Unicode.Age
import Schemata.Text.Unicode.Break
import Schemata.Text.Unicode.CaseFolding
import Schemata.Text.Unicode.Category
import Schemata.Text.Unicode.CodeMap
import Schemata.Text.Unicode.Property
import Schemata.Text.Unicode.Recent
import Schemata.Text.Unicode.Script
import Schemata.Text.Utf8
import Schemata.Text.Visible
import Schemata.Toml.Read
import Schemata.Toml.Scalar
import Schemata.Toml.Table
import Schemata.Toml.Text
import Schemata.Validator.Basic
import Schemata.Validator.Render
import Schemata.Validator.Wire
import Schemata.Walk
import Schemata.Walk.Components
import Schemata.Work.Coordinator
import Schemata.Work.Pool
import Schemata.Work.Unit
import Schemata.Main
import Schemata.Proofs.OrderedMap
import Schemata.Proofs.Shape.Graph
import Schemata.Proofs.Walk.Components
import Schemata.Proofs.Shape.Cycle
import Schemata.Proofs.Schema.Locality
import Schemata.Proofs.Schema.Run
import Schemata.Proofs.Schema.Cache
import Schemata.Proofs.Schema.StampedCache
import Schemata.Proofs.Schema.Selection
import Schemata.Proofs.Schema.Arity
import Schemata.Proofs.Schema.Objects
import Schemata.Proofs.Work.Coordinator
import Schemata.Proofs.Work.Parallel
import Schemata.Proofs.Binary.Codec
import Schemata.Proofs.Binary.Shape
import Schemata.Proofs.Work.Unit
import Schemata.Proofs.Document.Lower
import Schemata.Proofs.Session.History
import Schemata.Proofs.Schema.Compose
import Schemata.Proofs.Schema.Deferral
import Schemata.Proofs.Walk.Postorder
import Schemata.Proofs.Schema.Module
import Schemata.Proofs.Session.Modules
import Schemata.Proofs.Session.Linkage
import Schemata.Proofs.Session.DefinitionOrder
import Schemata.Proofs.Document.Provenance
import Schemata.Proofs.Session.Hygiene
import Schemata.Proofs.Schema.Scope
import Schemata.Proofs.Work.Calls
import Schemata.Proofs.Work.Settlement
import Schemata.Proofs.Work.Accounting
import Schemata.Proofs.Files.Ledger
import Schemata.Proofs.Session.Incremental
import Schemata.Proofs.Number.Text
import Schemata.Proofs.Text.Readable
import Schemata.Proofs.Shape.Canonical
import Schemata.Proofs.Shape.Legible
import Schemata.Proofs.Shape.Fingerprint
import Schemata.Proofs.Document.Resolved
import Schemata.Proofs.Document.Faithful
import Schemata.Proofs.Document.Identity
import Schemata.Proofs.Rules.Priority
import Schemata.Proofs.Rules.Explain
import Schemata.Proofs.Schema.Findings
import Schemata.Proofs.Schema.Fallbacks
import Schemata.Proofs.Schema.Termination
import Schemata.Proofs.Schema.Steering
import Schemata.Proofs.Document.Closed
import Schemata.Proofs.Document.Reordering
import Schemata.Proofs.Session.Calls
import Schemata.Proofs.Session.Partition
import Schemata.Proofs.Session.Commitment
import Schemata.Proofs.Schema.Dependencies
import Schemata.Proofs.Schema.Retention
import Schemata.Proofs.Session.Regeneration
import Schemata.Proofs.Json.Lexeme
import Schemata.Proofs.Json.RoundTrip
import Schemata.Proofs.Json.Records
import Schemata.Proofs.Document.Form
import Schemata.Proofs.Document.RoundTrip
import Schemata.Proofs.Schema.ModulePath
import Schemata.Proofs.Session.Destinations
import Schemata.Proofs.Files.Store
import Schemata.Proofs.Json.Pretty
import Schemata.Proofs.Files.Persistence
import Schemata.Proofs.Files.Journal
import Schemata.Proofs.Session.Resumption
import Schemata.Proofs.Rules.Overrides
import Schemata.Proofs.Config.Contexts
import Schemata.Proofs.Validator.Brackets
import Schemata.Proofs.Shape.Preorder
import Schemata.Proofs.Shape.Id
