/-!
# PackageModel.FileTree.Path

Paths as they are written.  A path is kept as it is: `.` and `..` in it are followed where files
are looked up, and never taken out of its text.
-/

namespace PackageModel.Path

/-- The names between the slashes of a path, without the empty ones. -/
def parts (path : String) : List String :=
  ((path.toList.splitOn '/').filter (!·.isEmpty)).map String.ofList

/-- Whether the path starts at the root of the file system. -/
def isAbsolute (path : String) : Bool := path.toList.head? = some '/'

/-- Whether the path ends in a slash, and so can only mean a directory. -/
def endsInSlash (path : String) : Bool := path.toList.getLast? = some '/'

/-- How many bytes a name in a directory can have. -/
def maxNameBytes : Nat := 255

/-- How many bytes a path can have. -/
def maxBytes : Nat := 4095

/-- The path of something inside a directory. -/
def join (directory path : String) : String :=
  if isAbsolute path ∨ directory = "" then path
  else if endsInSlash directory then directory ++ path
  else directory ++ "/" ++ path

/-- The extension of a file name: what follows the last dot, if anything stands before it. -/
def extension? (name : String) : Option String :=
  let reversed := name.toList.reverse
  match reversed.dropWhile (· ≠ '.') with
  | '.' :: _ :: _ => some (String.ofList (reversed.takeWhile (· ≠ '.')).reverse)
  | _ => none

end PackageModel.Path
