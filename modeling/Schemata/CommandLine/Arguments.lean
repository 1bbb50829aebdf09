import Schemata.Files.Path

/-!
# Command line arguments

Arguments are options, values of options, a command with arguments of its own, and positional
arguments.  Some options may stand before or after the command.

## Main definitions

* `CommandLine.Level` : what may stand before or after the command.
* `CommandLine.read` : reads the arguments of a level.
* `CommandLine.Invocation` : what the arguments ask for.
* `CommandLine.parse` : reads all arguments.
-/

namespace Schemata.CommandLine

/-- Why reading stops without a command to be run. -/
inductive Stop
  | help
  | version
  | misuse
deriving DecidableEq, Repr

/-- What an option does. -/
inductive Effect
  /-- It is set; `repeatable` tells whether it may be set again. -/
  | flag (repeatable : Bool)
  /-- It takes a value; `nonEmpty` tells whether an empty one is refused. -/
  | value (nonEmpty : Bool)
  /-- It ends the reading. -/
  | stop (reason : Stop)
deriving DecidableEq, Repr

/-- An option with its names. -/
structure OptionSpec where
  name : String
  short : Option Char
  effect : Effect
deriving DecidableEq, Repr

/-- What may stand before or after the command. -/
structure Level where
  options : List OptionSpec
  /-- The number of positional arguments, if there is a bound. -/
  places : Option Nat
  /-- Empty positional arguments are refused. -/
  nonEmpty : Bool
  commands : List String
deriving Repr

/-- An option that waits for its value. -/
structure Waiting where
  name : String
  nonEmpty : Bool
deriving DecidableEq, Repr

/-- What was given so far. -/
structure Given where
  flags : List String := []
  values : List (String × String) := []
  positionals : List String := []
  /-- An option whose value was the last argument.  It is checked when the next one comes, but not
  before the arguments of a command. -/
  unchecked : Option (Waiting × String) := none
deriving Repr

namespace Given

/-- Sets a flag. -/
def setFlag (given : Given) (name : String) (repeatable : Bool) : Except Stop Given :=
  if !repeatable && given.flags.contains name then .error .misuse
  else .ok { given with flags := given.flags ++ [name] }

/-- Sets the value of an option, which may be done once. -/
def setValue (given : Given) (name : String) (nonEmpty : Bool) (value : String) :
    Except Stop Given :=
  if (nonEmpty && value = "") || (given.values.lookup name).isSome then .error .misuse
  else .ok { given with values := given.values ++ [(name, value)] }

/-- Adds a positional argument, if there is a place for it. -/
def addPositional (given : Given) (level : Level) (value : String) : Except Stop Given :=
  if level.places.any (· ≤ given.positionals.length) || (level.nonEmpty && value = "") then
    .error .misuse
  else .ok { given with positionals := given.positionals ++ [value] }

/-- Checks the value that was given last. -/
def settle (given : Given) : Except Stop Given :=
  match given.unchecked with
  | none => .ok given
  | some (option, value) =>
    { given with unchecked := none }.setValue option.name option.nonEmpty value

/-- Is a flag set? -/
def has (given : Given) (name : String) : Bool :=
  given.flags.contains name

/-- The value of an option. -/
def value? (given : Given) (name : String) : Option String :=
  given.values.lookup name

end Given

/-- Reads an argument of short options, after its dash.  What follows an option with a value is the
value, with or without an equals sign. -/
def readShort (level : Level) (given : Given) :
    List Char → Except Stop (Given × Option Waiting)
  | [] => .ok (given, none)
  | c :: rest =>
    match level.options.find? (·.short = some c) with
    | none => .error .misuse
    | some spec =>
      match spec.effect with
      | .stop reason => .error reason
      | .flag repeatable => do
        let given ← given.setFlag spec.name repeatable
        readShort level given rest
      | .value nonEmpty =>
        match rest with
        | [] => .ok (given, some ⟨spec.name, nonEmpty⟩)
        | '=' :: value => do
          return (← given.setValue spec.name nonEmpty (String.ofList value), none)
        | value => do
          return (← given.setValue spec.name nonEmpty (String.ofList value), none)

/-- Reads a long option, after its dashes. -/
def readLong (level : Level) (given : Given) (text : List Char) :
    Except Stop (Given × Option Waiting) :=
  let name := String.ofList (text.takeWhile (· ≠ '='))
  let attached :=
    match text.dropWhile (· ≠ '=') with
    | [] => none
    | _ :: value => some (String.ofList value)
  match level.options.find? (·.name = name) with
  | none => .error .misuse
  | some spec =>
    match spec.effect, attached with
    | .stop reason, none => .error reason
    | .flag repeatable, none => do return (← given.setFlag spec.name repeatable, none)
    | .value nonEmpty, none => .ok (given, some ⟨spec.name, nonEmpty⟩)
    | .value nonEmpty, some value => do
      return (← given.setValue spec.name nonEmpty value, none)
    | _, some _ => .error .misuse

/-- Reads the arguments of a level up to a command, if it has commands.  After two dashes all
arguments are positional. -/
def read (level : Level) (given : Given) (waiting : Option Waiting) (plain : Bool) :
    List String → Except Stop (Given × Option (String × List String))
  | [] =>
    if waiting.isSome then .error .misuse
    else do return (← given.settle, none)
  | argument :: rest =>
    if plain then do
      read level (← (← given.settle).addPositional level argument) none true rest
    else
      match waiting, argument.toList with
      | some _, ['-', '-'] => .error .misuse
      | none, ['-', '-'] => read level given none true rest
      | some _, '-' :: _ :: _ => .error .misuse
      | none, '-' :: '-' :: text => do
        let (given, waiting) ← readLong level (← given.settle) text
        read level given waiting false rest
      | none, '-' :: c :: text => do
        let (given, waiting) ← readShort level (← given.settle) (c :: text)
        read level given waiting false rest
      | some option, _ =>
        read level { given with unchecked := some (option, argument) } none false rest
      | none, _ =>
        if level.commands.contains argument then .ok (given, some (argument, rest))
        else do read level (← (← given.settle).addPositional level argument) none false rest

/-! ### The options and commands -/

/-- Options that may stand before and after the command. -/
def sharedOptions : List OptionSpec :=
  [⟨"verbose", some 'v', .flag true⟩, ⟨"config", none, .value true⟩,
    ⟨"help", some 'h', .stop .help⟩]

/-- What may stand before the command. -/
def topLevel : Level where
  options := ⟨"version", some 'V', .stop .version⟩ :: sharedOptions
  places := some 0
  nonEmpty := false
  commands := ["generate", "explain", "check-config", "help"]

/-- What may follow the command that generates. -/
def generateLevel : Level where
  options :=
    [⟨"out-dir", some 'o', .value true⟩, ⟨"json", none, .flag false⟩] ++ sharedOptions
  places := none
  nonEmpty := true
  commands := []

/-- What may follow the command that explains. -/
def explainLevel : Level where
  options :=
    [⟨"context", some 'c', .value false⟩, ⟨"json", none, .flag false⟩] ++ sharedOptions
  places := some 1
  nonEmpty := false
  commands := []

/-- What may follow the command that checks a configuration. -/
def checkLevel : Level where
  options := ⟨"json", none, .flag false⟩ :: sharedOptions
  places := some 0
  nonEmpty := false
  commands := []

/-- What is to be done. -/
inductive Command
  | generate (documents : List Path) (outDir : Option Path) (json : Bool)
  | explain (field : String) (context : Option String) (json : Bool)
  | checkConfig (json : Bool)
deriving DecidableEq, Repr

/-- A command with the configuration it is to use. -/
structure Invocation where
  config : Option Path
  command : Command
deriving DecidableEq, Repr

/-- The command of what was given after its name. -/
def commandOf (name : String) (given : Given) : Except Stop Command :=
  match name, given.positionals with
  | "generate", document :: documents =>
    .ok (.generate ((document :: documents).map Path.mk) ((given.value? "out-dir").map Path.mk)
      (given.has "json"))
  | "explain", [field] => .ok (.explain field (given.value? "context") (given.has "json"))
  | "check-config", [] => .ok (.checkConfig (given.has "json"))
  | _, _ => .error .misuse

/-- The level behind a command. -/
def levelOf (name : String) : Level :=
  match name with
  | "generate" => generateLevel
  | "explain" => explainLevel
  | _ => checkLevel

/-- Reads all arguments.  A configuration named after the command wins over one named before it,
and a value right before the command is checked after the arguments of the command. -/
def parse (arguments : List String) : Except Stop Invocation := do
  let (before, found) ← read topLevel {} none false arguments
  match found with
  | none => throw .misuse
  | some ("help", []) => throw .help
  | some ("help", [name]) =>
    throw (if topLevel.commands.contains name then Stop.help else .misuse)
  | some ("help", _) => throw .misuse
  | some (name, rest) =>
    let (after, _) ← read (levelOf name) {} none false rest
    let command ← commandOf name after
    let before ← before.settle
    let config := (after.value? "config") <|> (before.value? "config")
    return ⟨config.map Path.mk, command⟩

end Schemata.CommandLine
