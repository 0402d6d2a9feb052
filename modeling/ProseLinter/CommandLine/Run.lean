import ProseLinter.CommandLine.Arguments
import ProseLinter.Engine.Basic
import ProseLinter.Rule.Catalog

/-!
# Runs

A run of the command line lints files or a text from standard input and writes a report. Its exit
code is zero when nothing was found but warnings, one when there was an error or the report could
not be written, and two when the run itself failed. A report with a column that is too wide stops
the run with a code of its own.

* `Input` is what standard input has, and `Console` what standard output does with a text.
* `run` is a run over a tree of files.
-/

namespace ProseLinter.CommandLine

/-- The text that explains the command line. -/
def helpText : String :=
  String.intercalate "\n"
    ["kotolint - pluggable prose linter",
     "",
     "Usage: kotolint [OPTIONS] [FILES]...",
     "",
     "Arguments:",
     "  [FILES]...  Files to lint",
     "",
     "Options:",
     "  -c, --config <CONFIG>             Configuration file path (default: nearest "
       ++ ".kotolintrc.json)",
     "      --rule <RULE>                 Rule to load, by name or path (repeatable)",
     "      --rulesdir <DIR>              Directory whose rule modules are all loaded "
       ++ "(repeatable)",
     "      --plugin <PLUGIN>             Plugin to load, by name or path (repeatable)",
     "      --rules-base-directory <DIR>  Directory searched first for rule and plugin names",
     "  -f, --format <FORMAT>             Formatter name (stylish, compact, json, unix) or "
       ++ "formatter module path",
     "  -o, --output-file <PATH>          Write the report to this file instead of stdout",
     "      --stdin                       Lint text read from stdin",
     "      --ext <EXT>                   Extensions to lint; the first one also applies to "
       ++ "--stdin (default: txt)",
     "  -v, --verbose                     Enable verbose output",
     "  -h, --help                        Print help",
     "  -V, --version                     Print version",
     ""]

/-- The text that names the version. -/
def versionText : String := "kotolint 0.1.0\n"

/-! ### Outcomes -/

/-- Why a report could not be written. -/
inductive OutputError where
  | isDirectory (path : Path)
  | file (path : Path) (fault : FileFault)
  | console (reason : String)

/-- The text of an error. -/
def OutputError.message : OutputError → String
  | isDirectory path => "Cannot write report to '" ++ path.text ++ "': it is a directory"
  | file path fault =>
    "Failed to write report to '" ++ path.text ++ "': " ++ fault.message
  | console reason => "Failed to write report to stdout: " ++ reason

/-- Why a run failed. -/
inductive RunError where
  | usage (error : UsageError)
  | lint (error : LintError)
  | stdin (reason : String)
  | stdinNotUnicode
  /-- The run stopped over a report with a column that is too wide. -/
  | stopped (fault : TooWide)

/-- The text of an error. -/
def RunError.message : RunError → String
  | usage error => "error: " ++ error.message
  | lint error => error.message
  | stdin reason => reason
  | stdinNotUnicode => "stream did not contain valid UTF-8"
  | stopped fault => fault.message

/-- The exit code of a run that failed. -/
def RunError.code : RunError → Nat
  | stopped _ => 101
  | _ => 2

/-- What a run leaves behind. -/
structure Outcome where
  code : Nat
  stdout : String
  /-- What the run has to say about its own failure. -/
  complaint : Option String
  files : FileTree

namespace Outcome

/-- A run that only printed a text. -/
def printed (files : FileTree) (code : Nat) (text : String) : Outcome :=
  ⟨code, text, none, files⟩

/-- A run that failed. -/
def failed (files : FileTree) (error : RunError) : Outcome :=
  ⟨error.code, "", some error.message, files⟩

end Outcome

/-- Standard input: it has some bytes, or it cannot be read. -/
inductive Input where
  | bytes (content : ByteArray)
  | failing (reason : String)

instance : Coe ByteArray Input :=
  ⟨.bytes⟩

/-- The text on standard input, if it can be read and is one. -/
def Input.text : Input → Except RunError String
  | bytes content =>
    match String.fromUTF8? content with
    | some text => .ok text
    | none => .error .stdinNotUnicode
  | failing reason => .error (.stdin reason)

/-- Standard output: it takes every text, or only so many characters and then fails. -/
inductive Console where
  | working
  | failing (room : Nat) (reason : String)

/-- What standard output takes of a text, and why it does not take all of it, if so. -/
def Console.write : Console → String → String × Option String
  | working, text => (text, none)
  | failing room reason, text =>
    if text.length ≤ room then (text, none)
    else (String.ofList (text.toList.take room), some reason)

/-! ### Linting -/

/-- Adds items to a list that may be missing; nothing changes without items. -/
def extended {α : Type} (old : Option (List α)) (items : List α) : Option (List α) :=
  if items.isEmpty then old else some (old.getD [] ++ items)

/-- The configuration of a run: that of the file that was named or found, with the arguments
taking precedence. -/
def configure (files : FileTree) (a : Arguments) : Except ConfigError ConfigOptions := do
  let o ← match a.config.or (Config.discover files ⟨"."⟩) with
    | some path => ConfigOptions.ofFile files path
    | none => .ok {}
  return { o with
    rules := extended o.rules a.rules
    rulePaths := extended o.rulePaths a.ruleDirectories
    plugins := extended o.plugins a.plugins
    rulesBaseDirectory := a.baseDirectory.or o.rulesBaseDirectory
    formatterName := a.format.or o.formatterName
    extensions := if a.extensions.isEmpty then o.extensions else some a.extensions }

/-- The extension of the text on standard input. -/
def stdinExtension (a : Arguments) : String :=
  match a.extensions with
  | e :: _ => Parsers.trimDots e
  | [] => Engine.defaultExtension

/-- Lints what the arguments name: the report, and whether there were errors. -/
def lint (files : FileTree) (home : Path) (a : Arguments) (stdin : Input) :
    Except RunError (String × Bool) := do
  let options ← (configure files a).mapError fun e => .lint (.config e)
  let engine ← (Engine.ofConfig files options.normalize ⟨.bundled, home⟩ home).mapError .lint
  let step : Engine.Step (List FileResult) ←
    if a.readsStdin then
      pure (Engine.executeOnText files (← stdin.text) (stdinExtension a))
    else pure (Engine.executeOnFiles files a.files)
  let (results?, state) := Engine.exec step ⟨engine, .empty⟩
  let results ← results?.mapError .lint
  let report ← (← (state.engine.formatResults files results).mapError .lint).mapError .stopped
  return (report, hasErrorResults results)

/-! ### Writing -/

/-- Makes the directory of a path and those above it, unless the path is a mere name. -/
def makeDirectoryOf (files : FileTree) (path : Path) : Except FileFault Unit × FileTree :=
  match path.parent? with
  | some above => if above.text == "" then (.ok (), files) else files.makeDirectories above
  | none => (.ok (), files)

/-- Writes a report to a file, making the directories above it, and gives the tree that this
leaves. -/
def writeReport (files : FileTree) (path : Path) (report : String) :
    Except OutputError Unit × FileTree :=
  if files.isDirectory path then (.error (.isDirectory path), files)
  else
    match makeDirectoryOf files path with
    | (.error fault, files) => (.error (.file path fault), files)
    | (.ok (), files) =>
      match files.write path report.toUTF8 with
      | .error fault => (.error (.file path fault), files)
      | .ok files => (.ok (), files)

/-- Writes a report to a file or to standard output; `code` is the exit code if this succeeds. -/
def deliver (files : FileTree) (console : Console) (outputFile : Option Path) (code : Nat)
    (report : String) : Outcome :=
  match outputFile with
  | some path =>
    match writeReport files path report with
    | (.ok (), files) => .printed files code ""
    | (.error e, files) => ⟨1, "", some e.message, files⟩
  | none =>
    match console.write report with
    | (taken, none) => .printed files code taken
    | (taken, some reason) => ⟨1, taken, some (OutputError.console reason).message, files⟩

/-- Lints what the arguments name and writes the report. -/
def lintAndReport (files : FileTree) (home : Path) (a : Arguments) (stdin : Input)
    (console : Console) : Outcome :=
  match lint files home a stdin with
  | .error e => .failed files e
  | .ok (report, hasErrors) =>
    deliver files console a.outputFile (if hasErrors then 1 else 0) report

/-- Explains the command line to a caller who names nothing to lint. -/
def printHelp (files : FileTree) (console : Console) : Outcome :=
  match console.write helpText with
  | (taken, none) => .printed files 0 taken
  | (taken, some reason) => ⟨2, taken, some reason, files⟩

/-- A run with the given arguments and standard input. Help and version that were asked for end it
well whatever standard output does. -/
def run (files : FileTree) (home : Path) (args : List String) (stdin : Input)
    (console : Console := .working) : Outcome :=
  match Arguments.parse args with
  | .error e => .failed files (.usage e)
  | .ok .help => .printed files 0 (console.write helpText).1
  | .ok .version => .printed files 0 (console.write versionText).1
  | .ok (.lint a) =>
    if a.files.isEmpty && !a.readsStdin then printHelp files console
    else lintAndReport files home a stdin console

end ProseLinter.CommandLine
