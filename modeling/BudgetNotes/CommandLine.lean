import BudgetNotes.Command
import BudgetNotes.Toml.Document

/-!
# The command line

`[--config PATH] [--json] COMMAND FILE`. The two options stand before the
command or after it, once each in either place; after it they win. Everything
that does not fit is a usage error. Running reads the settings first and the
file of the command after them.

A settings file chooses the filter of the log and the form of the output. It
may leave out either, and may hold anything else besides.

Files are looked up through a function, so that a run is a value: what is
printed, and the exit status.
-/

namespace BudgetNotes

/-! ## Settings -/

/-- The form in which results are printed. -/
inductive OutputFormat where
  | text
  | json
deriving DecidableEq

def OutputFormat.name : OutputFormat → String
  | text => "text"
  | json => "json"

structure Settings where
  logFilter : String
  output : OutputFormat
deriving DecidableEq

namespace Settings

/-- What holds without a settings file. -/
def default : Settings := ⟨"warn", .text⟩

/-- Reads the filter of the log. -/
def logFilterOf? : Option Toml.Value → Option String
  | none => some default.logFilter
  | some (.text s) => some s
  | some _ => none

/-- Reads the form of the output. -/
def outputOf? : Option Toml.Value → Option OutputFormat
  | none => some default.output
  | some value =>
    value.choice?.bind fun s => [OutputFormat.text, OutputFormat.json].find? (·.name = s)

def ofToml? (content : String) : Option Settings := do
  let doc ← Toml.parse? content
  let logFilter ← logFilterOf? (doc.topLevel? "log_filter")
  let output ← outputOf? (doc.topLevel? "output")
  some ⟨logFilter, output⟩

end Settings

/-! ## Arguments -/

/-- The options of one place of the command line. -/
structure Options where
  config : Option String
  json : Bool
deriving DecidableEq

namespace Options

def none : Options := ⟨.none, false⟩

/-- Sets the settings file, which has a name and is given once in a place. -/
def withConfig? (options : Options) (path : String) : Option Options :=
  if path.isEmpty || options.config.isSome then .none
  else some { options with config := some path }

/-- Asks for JSON, once in a place. -/
def withJson? (options : Options) : Option Options :=
  if options.json then .none else some { options with json := true }

/-- The options of both places; those after the command win. -/
def overriding (inner outer : Options) : Options :=
  ⟨inner.config.or outer.config, inner.json || outer.json⟩

end Options

/-- What a command line asks for. -/
inductive Invocation where
  | version
  | help
  | run (options : Options) (command : Command) (file : String)
deriving DecidableEq

/-- What a command line says so far: the command, the options before and after it, and its file. -/
structure CommandArguments where
  command : Command
  before : Options
  options : Options
  file : Option String

namespace CommandArguments

/-- Takes the file of a command, which has a name and is given once. -/
def withFile? (given : CommandArguments) (file : String) : Option CommandArguments :=
  if file.isEmpty || given.file.isSome then none
  else some { given with file := some file }

/-- What a complete command line asks for. -/
def invocation? (given : CommandArguments) : Option Invocation :=
  given.file.map fun file => .run (given.options.overriding given.before) given.command file

end CommandArguments

namespace CommandLine

/-- The name and version that `--version` prints. -/
def versionLine : String := "goalnote 2026.10.1"

/-- How the program is called. -/
def usageLine : String :=
  "Usage: goalnote [--config <PATH>] [--json] <compile|locate|drafts|apply|merge> <FILE>"

/-- Whether an argument is written as an option. A dash by itself is a file. -/
def looksLikeOption (arg : String) : Bool :=
  match arg.toList with
  | '-' :: _ :: _ => true
  | _ => false

/-- The path of an argument `--config=PATH`. -/
def inlineConfig? (arg : String) : Option String :=
  let start := "--config=".toList
  if start.isPrefixOf arg.toList then some (String.ofList (arg.toList.drop start.length))
  else none

/-- Whether an argument is an option of one letter, or a row of such options that starts with it.
An option that is answered at once leaves the rest of its row unread. -/
def startsWithLetter (letter : Char) (arg : String) : Bool :=
  ['-', letter].isPrefixOf arg.toList

/-- Whether an argument asks how the program is called. -/
def asksForHelp (arg : String) : Bool := arg = "--help" || startsWithLetter 'h' arg

/-- Whether an argument asks for the version. -/
def asksForVersion (arg : String) : Bool := arg = "--version" || startsWithLetter 'V' arg

/-- What follows the command `help`: nothing, or a command to explain. -/
def readHelp : List String → Option Invocation
  | [] => some .help
  | [topic] => if topic = "help" || (Command.ofName? topic).isSome then some .help else none
  | _ => none

/-- Reads the arguments after a command, which say `given` so far; after `--` all are files. -/
def readAfter (given : CommandArguments) : List String → Option Invocation
  | [] => given.invocation?
  | "--" :: files => (files.foldlM CommandArguments.withFile? given).bind (·.invocation?)
  | "--json" :: rest => do
    let options ← given.options.withJson?
    readAfter { given with options := options } rest
  | "--config" :: path :: rest =>
    if looksLikeOption path then none
    else do
      let options ← given.options.withConfig? path
      readAfter { given with options := options } rest
  | arg :: rest =>
    match inlineConfig? arg with
    | some path => do
      let options ← given.options.withConfig? path
      readAfter { given with options := options } rest
    | none =>
      if asksForHelp arg then some .help
      else if looksLikeOption arg then none
      else do
        let given ← given.withFile? arg
        readAfter given rest

/-- Reads a command line whose options so far are `options`; nothing on a usage error. -/
def read? (options : Options) : List String → Option Invocation
  | [] => none
  | "--json" :: rest => do
    let options ← options.withJson?
    read? options rest
  | "--config" :: path :: rest =>
    if looksLikeOption path then none
    else do
      let options ← options.withConfig? path
      read? options rest
  | arg :: rest =>
    match inlineConfig? arg with
    | some path => do
      let options ← options.withConfig? path
      read? options rest
    | none =>
      if asksForVersion arg then some .version
      else if asksForHelp arg then some .help
      else if arg = "help" then readHelp rest
      else do
        let command ← Command.ofName? arg
        readAfter ⟨command, options, Options.none, none⟩ rest

end CommandLine

/-! ## Running -/

inductive RunResult where
  | printed (text : String)
  | rejected (text : String)
  | rejectedJson (text : String)
  | failed (error : CommandError)
  | usageError
deriving DecidableEq

namespace RunResult

def exitCode : RunResult → Nat
  | printed _ => 0
  | rejected _ => 1
  | rejectedJson _ => 1
  | failed _ => 1
  | usageError => 2

def stdout : RunResult → String
  | printed text => text ++ "\n"
  | rejectedJson text => text ++ "\n"
  | _ => ""

/-- The first words on the standard error. The cause of a failure and the usage come after them. -/
def stderr : RunResult → String
  | rejected text => text ++ "\n"
  | failed e => "Error: " ++ e.context
  | _ => ""

end RunResult

/-- The answer of a command in the chosen form. -/
def CommandResult.printed (result : CommandResult) : OutputFormat → RunResult
  | .text => if result.ok then .printed result.text else .rejected result.text
  | .json =>
    let body := Json.obj [("ok", .bool result.ok), ("result", result.value)]
    let text := body.print .indented
    if result.ok then .printed text else .rejectedJson text

/-- Reads the content of a settings file. -/
def Settings.ofContent (content : String) : Except CommandError Settings :=
  match Settings.ofToml? content with
  | some settings => .ok settings
  | none => .error ⟨"Failed to parse settings TOML", none⟩

/-- Loads the settings; a file that is named must be there. -/
def Settings.load (contentOf : String → Option String) :
    Option String → Except CommandError Settings
  | none => .ok .default
  | some path =>
    match contentOf path with
    | none => .error ⟨"Failed to read settings file " ++ path, none⟩
    | some content => Settings.ofContent content

def runCommand (newId : Nat → String) (contentOf : String → Option String) (options : Options)
    (command : Command) (file : String) : Except CommandError RunResult := do
  let settings ← Settings.load contentOf options.config
  let format := if options.json then .json else settings.output
  match contentOf file with
  | none => .error ⟨"Failed to read " ++ file, none⟩
  | some content =>
    let result ← command.run newId content
    .ok (result.printed format)

/-- Runs the program on its arguments. -/
def runProgram (newId : Nat → String) (contentOf : String → Option String) (args : List String) :
    RunResult :=
  match CommandLine.read? Options.none args with
  | none => .usageError
  | some .version => .printed CommandLine.versionLine
  | some .help => .printed CommandLine.usageLine
  | some (.run options command file) =>
    match runCommand newId contentOf options command file with
    | .ok result => result
    | .error e => .failed e

end BudgetNotes
