import PackageModel.Batch
import PackageModel.CommandLine.Arguments
import PackageModel.Json.Document
import PackageModel.Layout.Document
import PackageModel.Settings.Lookup

/-!
# PackageModel.CommandLine.Run

The command line: what each command prints, how it ends, and which file it changes.  Only
`format` with `--write` changes a file, and only if the canonical form differs from its content.
-/

namespace PackageModel.CommandLine

/-- The name of the program and its version. -/
def versionText : String := "classmodel 0.3.0\n"

/-- What `--help` answers. -/
def helpText : String :=
  "Parse, format and validate class-model notation files\n\n" ++
  "Usage: classmodel [OPTIONS] <COMMAND>\n\n" ++
  "Commands:\n" ++
  "  check PATH... [--json]          Parse and validate files or directories\n" ++
  "  format FILE [--check | --write] Print a file in canonical form\n" ++
  "  dump FILE                       Print the declaration tree as JSON\n" ++
  "  version                         Print version information\n\n" ++
  "Options:\n" ++
  "  -v, --verbose        Enable verbose output\n" ++
  "      --config <FILE>  Configuration file to use instead of the default lookup\n" ++
  "  -h, --help           Print help\n" ++
  "  -V, --version        Print version\n"

/-- How a run ends. -/
structure Outcome where
  exitCode : UInt8 := 0
  stdout : String := ""
  stderr : String := ""
deriving Repr, DecidableEq

/-! ## Errors -/

/-- A cause behind its margin, further lines of it flush with the first. -/
def indent (first more : String) (cause : String) : String :=
  first ++ ("\n" ++ more).intercalate ((cause.toList.splitOn '\n').map String.ofList) ++ "\n"

/-- The report of an error that ends a run, with what it comes from.  Several causes are
numbered. -/
def errorText (message : String) (causes : List String) : String :=
  "Error: " ++ message ++ "\n" ++
  match causes with
  | [] => ""
  | [cause] => "\nCaused by:\n" ++ indent "    " "    " cause
  | causes =>
    "\nCaused by:\n" ++ String.join (causes.zipIdx.map fun (cause, n) =>
      let number := toString n
      let margin := String.ofList (List.replicate (5 - number.length) ' ')
      indent (margin ++ number ++ ": ") "       " cause)

/-- The end of a run that fails behind what it has logged. -/
def failure (log message : String) (causes : List String) : Outcome :=
  { exitCode := 1, stderr := log ++ errorText message causes }

/-- What is said about a file that does not parse. -/
def parseFailureText (settings : Settings) (file source : String) (e : ParseError) : String :=
  let header := "error[" ++ (Problem.parse e).stage ++ "]: " ++ file
  (if settings.colors then Style.bold (Style.red header) else header) ++ "\n" ++
    e.message source ++ "\n"

/-- The code with which the program ends. -/
def exitCode (success : Bool) : UInt8 := if success then 0 else 1

/-! ## Commands -/

variable {m : Type → Type} [Monad m] [FileAccess m]

/-- Checks files and reports on them. -/
def runCheck (settings : Settings) (paths : List String) (json : Bool) : m Outcome := do
  let log := Event.log settings.level
  match ← Batch.check settings paths with
  | (.error e, events) => return failure (log events) e.message e.causes
  | (.ok report, events) =>
    return {
      exitCode := exitCode report.succeeded
      stdout := if json then report.json ++ "\n" else report.text settings.colors
      stderr := log (events ++ [.checked report.length]) }

/-- Reads and parses a file, and goes on with its document. -/
def withDocument (settings : Settings) (file : String)
    (go : String → Document → List Event → m Outcome) : m Outcome := do
  match ← FileAccess.readText file with
  | .error reason =>
    let e := BatchError.unreadable file reason
    return failure "" e.message e.causes
  | .ok source =>
    match Document.parseLogged settings source with
    | (.error e, events) =>
      return {
        exitCode := 1
        stderr := Event.log settings.level events ++ parseFailureText settings file source e }
    | (.ok d, events) => go source d events

/-- Prints, compares or writes the canonical form of a file. -/
def runFormat (settings : Settings) (file : String) (mode : FormatMode) : m Outcome :=
  withDocument settings file fun source d events => do
    let canonical := d.canonicalText
    let log := Event.log settings.level
    match mode with
    | .print => return { stdout := canonical, stderr := log events }
    | .compare =>
      let complaint := if canonical = source then "" else file ++ " is not in canonical form\n"
      return { exitCode := exitCode (canonical = source), stderr := log events ++ complaint }
    | .write =>
      if canonical = source then return { stderr := log events }
      else
        match ← FileAccess.write file canonical with
        | .ok () => return { stderr := log (events ++ [.formatted file]) }
        | .error reason =>
          return failure (log events) ("Failed to write file " ++ file) [reason.message]

/-- Prints the declarations of a file as JSON. -/
def runDump (settings : Settings) (file : String) : m Outcome :=
  withDocument settings file fun _ d events =>
    return { stdout := d.toJson.pretty 0 ++ "\n", stderr := Event.log settings.level events }

/-- Runs a command. -/
def runCommand (settings : Settings) : Command → m Outcome
  | .check paths json => runCheck settings paths json
  | .format file mode => runFormat settings file mode
  | .dump file => runDump settings file
  | .version => return { stdout := versionText }

/-- Runs the command line. -/
def run (env : Settings.Environment) (arguments : List String) : m Outcome := do
  match Invocation.ofArguments arguments with
  | .error .misused => return { exitCode := 2, stderr := "error: invalid arguments\n" }
  | .error .help => return { stdout := helpText }
  | .error .version => return { stdout := versionText }
  | .ok i =>
    match ← Settings.load env i.settingsFile with
    | .error e => return failure "" "Failed to load configuration" e.causes
    | .ok settings =>
      let level := if i.verbose then .debug else settings.level
      runCommand { settings with level } i.command

end PackageModel.CommandLine
