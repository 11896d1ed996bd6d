import PackageModel.Position

/-!
# PackageModel.Excerpt

The part of a source text that an error message quotes: the line of the error between its
neighbours, numbered, with a caret under the place.  Tabs are widened, so that the caret row
counts the same columns as the line above it.
-/

namespace PackageModel.Excerpt

/-- The lines of a text, without the line ends; a text always has at least one line. -/
def lines (cs : List Char) : List (List Char) := cs.splitOn '\n'

/-- The number of columns that a tab takes. -/
def tabWidth : Nat := 4

/-- The text with every tab widened to spaces. -/
def expandTabs (cs : List Char) : List Char :=
  cs.flatMap fun c => if c = '\t' then List.replicate tabWidth ' ' else [c]

/-- The number in decimal, with zeros in front up to `width` digits. -/
def padded (width n : Nat) : List Char :=
  let digits := Nat.toDigits 10 n
  List.replicate (width - digits.length) '0' ++ digits

/-- A line behind its number, which takes at least four digits. -/
def numbered (number : Nat) (line : List Char) : List Char :=
  padded 4 number ++ [':', ' '] ++ expandTabs line ++ ['\n']

/-- The caret row for the given column of a line: the caret stands below that column. -/
def caretRow (line : List Char) (column : Nat) : List Char :=
  [' ', '>', '>', '>', '─'] ++
    List.replicate ((expandTabs (line.take (column - 1))).length + 1) '─' ++ ['⌃', '\n']

/-- The excerpt of a source around a line and column; empty if there is no such line. -/
def excerpt (source : List Char) (line column : Nat) : List Char :=
  let all := lines source
  match line with
  | 0 => []
  | n + 1 =>
    match all[n]? with
    | none => []
    | some current =>
      (if n = 0 then [] else numbered n (all[n - 1]?.getD [])) ++
        numbered (n + 1) current ++ caretRow current column ++
        (match all[n + 1]? with
          | some following => numbered (n + 2) following
          | none => []) ++
        ['\n']

end PackageModel.Excerpt
