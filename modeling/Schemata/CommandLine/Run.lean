import Schemata.CommandLine.Arguments
import Schemata.Config.Load
import Schemata.Session.Generate

/-!
# Running a command

A command works on a file store and gives back the store, the two output texts and the exit status.

## Main definitions

* `CommandLine.Outcome` : what a run leaves behind.
* `CommandLine.run` : runs the command that arguments ask for.
* `CommandLine.inputs` : the paths that a run looks at.
-/

namespace Schemata.CommandLine

/-- What a run leaves behind. -/
structure Outcome where
  exit : Nat
  stdout : String
  stderr : String
  files : FileStore

/-- How the program is used. -/
def usage : String :=
  "\n".intercalate
    ["Compile type declarations into Zod runtime validators",
      "",
      "Usage: shapecheck [OPTIONS] <COMMAND>",
      "",
      "Commands:",
      "  generate <DOCUMENTS>...  Generate schema modules from declaration documents",
      "      -o, --out-dir <DIR>  Directory to write modules into (stdout if not specified)",
      "          --json           Print the summary as JSON",
      "  explain <FIELD>          Show which override rule a field resolves to",
      "      -c, --context <NAME> Enclosing declaration name",
      "          --json           Output as JSON",
      "  check-config             Validate the override tables",
      "          --json           Output as JSON",
      "  help                     Print this message",
      "",
      "Options:",
      "  -v, --verbose            Verbose logging",
      "      --config <CONFIG>    Config file (shapecheck.toml or shapecheck.json)",
      "  -h, --help               Print help",
      "  -V, --version            Print version",
      ""]

/-- The name and version of the program. -/
def versionLine : String :=
  "shapecheck 0.1.0\n"

/-- An error as it is told to the user: its text, and the cause once more if there is one. -/
def configErrorText : ConfigError → String
  | .unreadable path cause =>
    ConfigError.message (.unreadable path cause) ++ ": " ++ cause.message
  | error => error.message

/-- An error as it is told to the user: its text, and the cause once more if there is one. -/
def sessionErrorText : SessionError → String
  | .unreadable path cause =>
    SessionError.message (.unreadable path cause) ++ ": " ++ cause.message
  | error => error.message

/-- The working directory as a path. -/
def workPath (files : FileStore) : Path :=
  ⟨"/" ++ "/".intercalate files.workDir⟩

/-- Loads the configuration that was named, or else that of the working directory. -/
def loadConfig (files : FileStore) : Option Path → Except String Config
  | some path =>
    (Config.load files path).mapError fun error =>
      s!"loading config {path.text}: {configErrorText error}"
  | none =>
    (Config.discover files (workPath files)).mapError fun error =>
      s!"discovering config: {configErrorText error}"

/-- A run that ends with an error, after some output. -/
def failed (outcome : Outcome) (message : String) : Outcome :=
  { outcome with exit := 2, stderr := outcome.stderr ++ s!"error: {message}\n" }

/-- Adds a line to the error output. -/
def Outcome.report (outcome : Outcome) (line : String) : Outcome :=
  { outcome with stderr := outcome.stderr ++ line ++ "\n" }

/-- Adds reports to the error output. -/
def Outcome.reportAll (outcome : Outcome) (diagnostics : List Diagnostic) : Outcome :=
  diagnostics.foldl (fun outcome d => outcome.report d.toText) outcome

/-- Writes a module below a directory. -/
def writeModule (files : FileStore) (dir : Path) (m : GeneratedModule) :
    Except String Unit × FileStore :=
  let target := dir.join ⟨m.path⟩
  let (made, files) : Except String Unit × FileStore :=
    match target.parent? with
    | none => (.ok (), files)
    | some parent =>
      let (made, files) := files.createDirs parent
      (made.mapError fun cause => s!"creating {parent.text}: {cause.message}", files)
  match made with
  | .error message => (.error message, files)
  | .ok () =>
    match files.write target m.text with
    | .error cause => (.error s!"writing {target.text}: {cause.message}", files)
    | .ok files => (.ok (), files)

/-- Puts a module out: into a directory if there is one, else to the output. -/
def putModule (outDir : Option Path) (outcome : Outcome) (m : GeneratedModule) :
    Except Outcome Outcome := do
  let outcome ←
    match outDir with
    | none => pure { outcome with stdout := outcome.stdout ++ m.text }
    | some dir =>
      match writeModule outcome.files dir m with
      | (.ok (), files) => pure { outcome with files := files }
      | (.error message, files) => throw (failed { outcome with files := files } message)
  return outcome.reportAll m.diagnostics

/-- The summary of a session as a line. -/
def summaryLine (stats : SessionStats) : String :=
  let declarations := stats.generator.declarationsGenerated + stats.cacheHits
  s!"{stats.modules} module(s), {declarations} declaration(s), " ++
    s!"{stats.documentsSkipped} skipped, {stats.generator.fallbacks} fallback(s)"

/-- Generates the modules of documents. -/
def runGenerate (files : FileStore) (available : Nat) (config : Config) (documents : List Path)
    (outDir : Option Path) (json : Bool) : Outcome :=
  let start : Outcome := ⟨0, "", "", files⟩
  let result : Except Outcome Outcome := do
    let (outcome, session) := (Session.new config files available).generatePaths files documents
    match outcome with
    | .error error => throw (failed start (sessionErrorText error))
    | .ok report =>
      let put ← report.modules.foldlM (putModule outDir) start
      let told := put.reportAll session.diagnostics
      let (summary, files) := session.finish told.files
      let last := if json then summary.toJson.pretty else summaryLine summary.stats
      let exit := if config.strict && report.hasErrors then 1 else 0
      return { told.report last with exit := exit, files := files }
  match result with
  | .ok outcome => outcome
  | .error outcome => outcome

/-- Explains which rule a field has. -/
def runExplain (files : FileStore) (available : Nat) (config : Config) (field : String)
    (context : Option String) (json : Bool) : Outcome :=
  let explanation := (Session.new config files available).explain field context
  let text := if json then explanation.toJson.pretty else explanation.toText
  ⟨0, text ++ "\n", "", files⟩

/-- Checks the rules of a configuration. -/
def runCheckConfig (files : FileStore) (config : Config) (json : Bool) : Outcome :=
  let rules := RuleSet.ofTable config.overrides.table
  let diagnostics := rules.diagnostics
  let text :=
    if json then
      (Json.object [("rules", .int rules.size),
        ("diagnostics", .array (diagnostics.map Diagnostic.toJson))]).sorted.pretty ++ "\n"
    else
      s!"{rules.size} rule(s)\n" ++ String.join (diagnostics.map fun d => d.toText ++ "\n")
  ⟨if diagnostics.isEmpty then 0 else 1, text, "", files⟩

/-- Runs the command that arguments ask for, on a machine with `available` workers. -/
def run (files : FileStore) (available : Nat) (arguments : List String) : Outcome :=
  match parse arguments with
  | .error .help => ⟨0, usage, "", files⟩
  | .error .version => ⟨0, versionLine, "", files⟩
  | .error .misuse => ⟨2, "", usage, files⟩
  | .ok invocation =>
    match loadConfig files invocation.config with
    | .error message => failed ⟨2, "", "", files⟩ message
    | .ok config =>
      match invocation.command with
      | .generate documents outDir json =>
        runGenerate files available config documents outDir json
      | .explain field context json => runExplain files available config field context json
      | .checkConfig json => runCheckConfig files config json

/-- The paths that a run looks at: configurations, documents and the ledger, as far as the store
tells. -/
def inputs (files : FileStore) (arguments : List String) : List Path :=
  match parse arguments with
  | .error _ => []
  | .ok invocation =>
    let configs :=
      match invocation.config with
      | some path => [path]
      | none => Config.fileNames.map fun name => (workPath files).join ⟨name⟩
    let documents :=
      match invocation.command with
      | .generate documents _ _ => documents
      | _ => []
    let ledger :=
      match loadConfig files invocation.config with
      | .ok config => config.incremental.cachePath.toList
      | .error _ => []
    configs ++ documents ++ ledger

end Schemata.CommandLine
