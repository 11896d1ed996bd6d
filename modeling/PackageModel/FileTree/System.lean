import PackageModel.FileTree.Basic

/-!
# PackageModel.FileTree.System

The files of a machine: a tree with the directory `/` at its top, and the directory in it where
relative paths start.  Both kinds of paths are followed name by name; `.` stays where it is, and
`..` leads to the directory above, which for the top is the top itself.
-/

namespace PackageModel

/-- Follows the parts of a path from the place below some names.  Only a directory can be left; what
the last part names need not be there. -/
def FileTree.follow (root : FileTree) :
    (here : List String) → (parts : List String) → Except FileError (List String)
  | here, [] => .ok here
  | here, part :: parts =>
    match (root.get? here).map kind with
    | none => .error .missing
    | some .file => .error .notDirectory
    | some .directory =>
      if part = "." then follow root here parts
      else if part = ".." then follow root here.dropLast parts
      else if Path.maxNameBytes < part.utf8ByteSize then .error .tooLong
      else follow root (here ++ [part]) parts

/-- The files of a machine, as a program finds them. -/
structure FileSystem where
  /-- The directory `/`. -/
  root : FileTree
  /-- The names that lead from there to the working directory. -/
  workingDirectory : List String

namespace FileSystem

open FileTree (file directory)

/-- The names that lead to the place that a path means.  A path that ends in a slash means a
directory. -/
def locate (fs : FileSystem) (path : String) : Except FileError (List String) :=
  match FileTree.pathError? path with
  | some e => .error e
  | none =>
    fs.root.follow (if Path.isAbsolute path then [] else fs.workingDirectory)
      (Path.parts path ++ if Path.endsInSlash path then ["."] else [])

/-- What a path means. -/
def find? (fs : FileSystem) (path : String) : Except FileError FileTree := do
  match fs.root.get? (← fs.locate path) with
  | some t => return t
  | none => throw .missing

/-- The bytes of a file. -/
def read (fs : FileSystem) (path : String) : Except FileError ByteArray := do
  match ← fs.find? path with
  | file content => return content
  | directory _ => throw .isDirectory

/-- Gives a file this text, and creates it if nothing is there. -/
def write (fs : FileSystem) (path text : String) : Except FileError FileSystem := do
  let names ← fs.locate path
  match fs.root.get? names with
  | some (directory _) => throw .isDirectory
  | _ => return { fs with root := fs.root.set names (file text.toUTF8) }

end FileSystem

end PackageModel
