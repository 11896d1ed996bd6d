import PackageModel.FileTree.System

/-!
# PackageModel.FileTree.Access

What the program asks of the files around it.  The program is written for any monad that can
answer, so that the same definitions run on the files of a real machine and on a `FileSystem`.
-/

namespace PackageModel

/-- Access to files by their paths. -/
class FileAccess (m : Type → Type) where
  /-- What is at a path, if anything. -/
  kind? : String → m (Option FileTree.EntryKind)
  /-- The names that lead to each file below a directory, depth first, the entries of a directory
  in the order of their names. -/
  filesBelow : String → m (Except FileTree.WalkError (List (List String)))
  /-- The bytes of a file. -/
  read : String → m (Except FileError ByteArray)
  /-- Gives a file this text, and creates it if nothing is there. -/
  write : String → String → m (Except FileError Unit)

namespace FileAccess

variable {m : Type → Type} [Monad m] [FileAccess m]

/-- The text of a file. -/
def readText (path : String) : m (Except FileError String) := do
  return (← read path).bind decodeText

/-- Whether a file is at the path. -/
def isFile (path : String) : m Bool := do
  return (← kind? path) = some .file

end FileAccess

/-- Programs run on a file system as on the files of a real machine. -/
instance : FileAccess (StateM FileSystem) where
  kind? path := return (((← get).find? path).toOption).map FileTree.kind
  filesBelow path := do
    match (← get).find? path with
    | .ok t => return t.files path
    | .error reason => return .error ⟨path, reason⟩
  read path := return (← get).read path
  write path text := do
    match (← get).write path text with
    | .ok fs => modifyGet fun _ => (.ok (), fs)
    | .error e => return .error e

end PackageModel
