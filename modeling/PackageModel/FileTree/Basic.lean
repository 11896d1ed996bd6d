import PackageModel.FileTree.Path

/-!
# PackageModel.FileTree.Basic

Files in directories, what is below the names of a tree, and the walk through all its files.
-/

namespace PackageModel

/-- Why a file cannot be read or written. -/
inductive FileError where
  | missing
  | notDirectory
  | isDirectory
  /-- The path, or a name in it, has too many bytes. -/
  | tooLong
  /-- The path holds the character that ends a path. -/
  | nulInPath
  /-- The bytes are no UTF-8. -/
  | notText
  /-- Any other reason. -/
  | other (reason : String)
deriving Repr, DecidableEq

/-- What is said about the error. -/
def FileError.message : FileError → String
  | missing => "No such file or directory (os error 2)"
  | notDirectory => "Not a directory (os error 20)"
  | isDirectory => "Is a directory (os error 21)"
  | tooLong => "File name too long (os error 36)"
  | nulInPath => "file name contained an unexpected NUL byte"
  | notText => "stream did not contain valid UTF-8"
  | other reason => reason

/-- The text of a file's bytes. -/
def decodeText (content : ByteArray) : Except FileError String :=
  match String.fromUTF8? content with
  | some text => .ok text
  | none => .error .notText

/-- A file, or a directory with its entries in the order of their names. -/
inductive FileTree where
  | file (content : ByteArray)
  | directory (entries : List (String × FileTree))
deriving Inhabited

namespace FileTree

/-- Whether a file or a directory is at a path. -/
inductive EntryKind where
  | file
  | directory
deriving Repr, DecidableEq

/-- What an entry is, without its content. -/
def kind : FileTree → EntryKind
  | file _ => .file
  | directory _ => .directory

/-- The entry of a directory with this name. -/
def entry? (name : String) : FileTree → Option FileTree
  | file _ => none
  | directory entries => entries.lookup name

/-- What is below the names. -/
def get? : List String → FileTree → Option FileTree
  | [], t => some t
  | n :: ns, t => (t.entry? n).bind (get? ns)

/-- Puts an entry in the place of its name. -/
def setEntry (name : String) (t : FileTree) : List (String × FileTree) → List (String × FileTree)
  | [] => [(name, t)]
  | e :: es =>
    if name < e.1 then (name, t) :: e :: es
    else if name = e.1 then (name, t) :: es
    else e :: setEntry name t es

/-- Puts a tree below the names.  Directories on the way that are not there yet are created. -/
def set (here : FileTree) (names : List String) (t : FileTree) : FileTree :=
  match names, here with
  | [], _ => t
  | n :: ns, directory entries =>
    directory (setEntry n (set ((entries.lookup n).getD (directory [])) ns t) entries)
  | _, file content => file content

/-- Why a path cannot be looked up, whatever files there are. -/
def pathError? (path : String) : Option FileError :=
  if '\x00' ∈ path.toList then some .nulInPath
  else if path = "" then some .missing
  else if Path.maxBytes < path.utf8ByteSize then some .tooLong
  else none

/-! ## Walks -/

/-- Why a walk through a directory fails: a directory that cannot be listed. -/
structure WalkError where
  directory : String
  reason : FileError
deriving Repr, DecidableEq

/-- The text of the error. -/
def WalkError.message (e : WalkError) : String :=
  "IO error for operation on " ++ e.directory ++ ": " ++ e.reason.message

mutual

/-- The names that lead to each file of the tree, depth first.  The path is the one that leads to
the tree; it grows with each directory, and can grow too long to list the next one. -/
def files (path : String) : FileTree → Except WalkError (List (List String))
  | file _ => .ok [[]]
  | directory entries =>
    match pathError? path with
    | some reason => .error ⟨path, reason⟩
    | none => filesOf path entries

/-- The names that lead to each file of the entries of the directory at the path. -/
def filesOf (path : String) : List (String × FileTree) → Except WalkError (List (List String))
  | [] => .ok []
  | (name, t) :: entries => do
    let below ← files (Path.join path name) t
    let others ← filesOf path entries
    return below.map (name :: ·) ++ others

end

end FileTree

end PackageModel
