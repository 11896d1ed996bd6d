import PackageModel.FileTree.Access
import PackageModel.Logged
import PackageModel.Report

/-!
# PackageModel.Batch

Checking many files at once.  Files that are named are always checked; in directories only those
with the right extension are.  A batch gives a report on all its files or none: a path with
nothing there, a directory that cannot be listed, or a file that is no text ends it.
-/

namespace PackageModel

/-- Why a batch gives no report. -/
inductive BatchError where
  | missingPath (path : String)
  /-- A directory at the path, or one below it, cannot be listed. -/
  | unlisted (path : String) (error : FileTree.WalkError)
  | unreadable (file : String) (reason : FileError)
deriving Repr, DecidableEq

namespace BatchError

/-- The text of the error. -/
def message : BatchError → String
  | missingPath path => "Path does not exist: " ++ path
  | unlisted path _ => "Failed to read directory entry in " ++ path
  | unreadable file _ => "Failed to read file " ++ file

/-- What the error comes from. -/
def causes : BatchError → List String
  | missingPath _ => []
  | unlisted _ e => [e.message, e.reason.message]
  | unreadable _ reason => [reason.message]

end BatchError

namespace Batch

variable {m : Type → Type} [Monad m] [FileAccess m]

/-- Whether the last of the names has the extension. -/
def hasExtension (extension : String) (names : List String) : Bool :=
  names.getLast?.bind Path.extension? = some extension

/-- The source files at a path: the file itself, or those of a directory. -/
def sourcesAt (extension path : String) : m (Except BatchError (List String)) := do
  match ← FileAccess.kind? path with
  | none => return .error (.missingPath path)
  | some .file => return .ok [path]
  | some .directory =>
    match ← FileAccess.filesBelow path with
    | .error e => return .error (.unlisted path e)
    | .ok files => return .ok ((files.filter (hasExtension extension)).map (·.foldl Path.join path))

/-- The source files at several paths, in the order of the paths. -/
def sources (extension : String) : List String → m (Except BatchError (List String))
  | [] => return .ok []
  | path :: paths => do
    match ← sourcesAt extension path with
    | .error e => return .error e
    | .ok files => return (← sources extension paths).map (files ++ ·)

/-- Checks a file. -/
def checkFile (settings : Settings) (file : String) :
    m (Except BatchError FileReport × List Event) := do
  match ← FileAccess.readText file with
  | .error reason => return (.error (.unreadable file reason), [])
  | .ok source =>
    let (result, events) := Document.checkLogged settings source
    return (.ok (.ofCheck file source result), events)

/-- Checks files up to the first one that cannot be read. -/
def checkFiles (settings : Settings) : List String → m (Except BatchError Report × List Event)
  | [] => return (.ok [], [])
  | file :: files => do
    match ← checkFile settings file with
    | (.error e, events) => return (.error e, events)
    | (.ok report, events) =>
      let (reports, more) ← checkFiles settings files
      return (reports.map (report :: ·), events ++ more)

/-- Checks the source files at several paths. -/
def check (settings : Settings) (paths : List String) :
    m (Except BatchError Report × List Event) := do
  match ← sources settings.extension paths with
  | .error e => return (.error e, [])
  | .ok files =>
    let nothing := if files.isEmpty then [Event.nothingFound settings.extension] else []
    match ← checkFiles settings files with
    | (.error e, events) => return (.error e, nothing ++ events)
    | (.ok report, events) =>
      return (.ok report, nothing ++ events ++ [.tallied report.length report.failures.length])

end Batch

end PackageModel
