/-!
# PackageModel.Toml.Text

The text level of TOML: blanks, line ends, comments and the four kinds of strings.  A reader
takes the characters ahead and gives back what it read and the rest, or nothing if the text is
not well formed.
-/

namespace PackageModel.Toml

/-- A reader of values of type `α`. -/
abbrev Reader (α : Type) := List Char → Option (α × List Char)

/-- Spaces and tabs. -/
def isBlank (c : Char) : Bool := c = ' ' || c = '\t'

/-- Characters that comments and strings may hold as they are: all but control characters, and
the tab. -/
def isPlain (c : Char) : Bool := c = '\t' || (0x20 ≤ c.toNat && c.toNat ≠ 0x7F)

/-- Blanks and tabs, but no line ends. -/
def skipBlanks (s : List Char) : List Char := s.dropWhile isBlank

/-- Reads a line end. -/
def newline? : List Char → Option (List Char)
  | '\n' :: r => some r
  | '\r' :: '\n' :: r => some r
  | _ => none

/-- Reads the rest of a line that may hold only a comment. -/
def endOfLine (s : List Char) : Option (List Char) :=
  let s := skipBlanks s
  let s := match s with
    | '#' :: r => r.dropWhile isPlain
    | s => s
  match s with
  | [] => some []
  | s => newline? s

/-- Skips blanks, line ends and comments. -/
def skipFiller (inComment : Bool) : List Char → List Char
  | [] => []
  | '\n' :: r => skipFiller false r
  | '\r' :: '\n' :: r => skipFiller false r
  | c :: r =>
    if inComment then if isPlain c then skipFiller true r else c :: r
    else if c = '#' then skipFiller true r
    else if isBlank c then skipFiller false r
    else c :: r

/-! ## Strings -/

/-- The value of a hexadecimal digit. -/
def hexDigit? (c : Char) : Option Nat :=
  if c.isDigit then some (c.toNat - '0'.toNat)
  else if 'a' ≤ c && c ≤ 'f' then some (c.toNat - 'a'.toNat + 10)
  else if 'A' ≤ c && c ≤ 'F' then some (c.toNat - 'A'.toNat + 10)
  else none

/-- The character that hexadecimal digits stand for, if there is one. -/
def codePoint? (digits : List Char) : Option Char := do
  let n ← digits.foldlM (fun n c => (hexDigit? c).map (16 * n + ·)) 0
  if n.isValidChar then some (Char.ofNat n) else none

/-- The character that a letter stands for behind a backslash. -/
def escaped? : Char → Option Char
  | 'b' => some '\x08'
  | 't' => some '\t'
  | 'n' => some '\n'
  | 'f' => some '\x0c'
  | 'r' => some '\r'
  | '"' => some '"'
  | '\\' => some '\\'
  | _ => none

/-- Puts a character in front of what was read behind it. -/
def andThen (c : Char) (r : Option (List Char × List Char)) : Option (List Char × List Char) :=
  r.map fun p => (c :: p.1, p.2)

/-- The rest of a string in quotation marks on one line. -/
def basicBody : Reader (List Char)
  | '"' :: r => some ([], r)
  | '\\' :: 'u' :: a :: b :: c :: d :: r =>
    (codePoint? [a, b, c, d]).bind fun x => andThen x (basicBody r)
  | '\\' :: 'U' :: a :: b :: c :: d :: e :: f :: g :: h :: r =>
    (codePoint? [a, b, c, d, e, f, g, h]).bind fun x => andThen x (basicBody r)
  | '\\' :: c :: r => (escaped? c).bind fun x => andThen x (basicBody r)
  | c :: r => if isPlain c && c ≠ '\\' then andThen c (basicBody r) else none
  | [] => none

/-- The rest of a string in single quotation marks on one line; it has no escapes. -/
def literalBody (s : List Char) : Option (List Char × List Char) :=
  match s.span fun c => isPlain c && c ≠ '\'' with
  | (body, '\'' :: r) => some (body, r)
  | _ => none

/-- Ends a string of several lines at a run of marks, of which the reader stands behind the third.
Up to two more belong to the text. -/
def closing (mark : Char) (s : List Char) : List Char × List Char :=
  let more := (s.takeWhile (· = mark)).take 2
  (more, s.drop more.length)

/-- What the reader of a string of several lines has just passed. -/
inductive Passed where
  /-- Part of the text. -/
  | text
  /-- A backslash and blanks, which have to go on to the end of the line. -/
  | backslash
  /-- A line end behind a backslash; blanks and further line ends are skipped. -/
  | brokenLine
deriving Repr

/-- The rest of a string of several lines with escapes.  A line end is kept as one character,
unless a backslash stands before it. -/
def longBody : Passed → Reader (List Char)
  | .backslash, '\n' :: r => longBody .brokenLine r
  | .backslash, '\r' :: '\n' :: r => longBody .brokenLine r
  | .backslash, c :: r => if isBlank c then longBody .backslash r else none
  | .brokenLine, '\n' :: r => longBody .brokenLine r
  | .brokenLine, '\r' :: '\n' :: r => longBody .brokenLine r
  | .brokenLine, ' ' :: r => longBody .brokenLine r
  | .brokenLine, '\t' :: r => longBody .brokenLine r
  | _, '"' :: '"' :: '"' :: r => some (closing '"' r)
  | _, '\\' :: 'u' :: a :: b :: c :: d :: r =>
    (codePoint? [a, b, c, d]).bind fun x => andThen x (longBody .text r)
  | _, '\\' :: 'U' :: a :: b :: c :: d :: e :: f :: g :: h :: r =>
    (codePoint? [a, b, c, d, e, f, g, h]).bind fun x => andThen x (longBody .text r)
  | _, '\\' :: '\n' :: r => longBody .brokenLine r
  | _, '\\' :: '\r' :: '\n' :: r => longBody .brokenLine r
  | _, '\\' :: c :: r =>
    if isBlank c then longBody .backslash r
    else (escaped? c).bind fun x => andThen x (longBody .text r)
  | _, '\r' :: '\n' :: r => andThen '\n' (longBody .text r)
  | _, '\n' :: r => andThen '\n' (longBody .text r)
  | _, c :: r => if isPlain c && c ≠ '\\' then andThen c (longBody .text r) else none
  | _, [] => none

/-- The rest of a string of several lines without escapes. -/
def longLiteralBody : Reader (List Char)
  | '\'' :: '\'' :: '\'' :: r => some (closing '\'' r)
  | '\n' :: r => andThen '\n' (longLiteralBody r)
  | '\r' :: '\n' :: r => andThen '\n' (longLiteralBody r)
  | c :: r => if isPlain c then andThen c (longLiteralBody r) else none
  | [] => none

/-- A line end right behind the opening marks is no part of the text. -/
def skipFirstNewline (s : List Char) : List Char := (newline? s).getD s

/-- Reads a string on one line. -/
def shortString (s : List Char) : Option (String × List Char) :=
  let body := match s with
    | '"' :: r => basicBody r
    | '\'' :: r => literalBody r
    | _ => none
  body.map fun p => (String.ofList p.1, p.2)

/-- Reads a string of any kind. -/
def text (s : List Char) : Option (String × List Char) :=
  let long := match s with
    | '"' :: '"' :: '"' :: r => some (longBody .text (skipFirstNewline r))
    | '\'' :: '\'' :: '\'' :: r => some (longLiteralBody (skipFirstNewline r))
    | _ => none
  match long with
  | some body => body.map fun p => (String.ofList p.1, p.2)
  | none => shortString s

end PackageModel.Toml
