import PackageModel.Token.Basic
import PackageModel.Unicode.Letter

/-!
# PackageModel.Token.Shape

The six shapes that a source text is made of: the five kinds of tokens, and blank space between
them.  `Shape.split` cuts a piece of one shape off the front of a text.  No text starts with
pieces of two shapes, so the order in which `matchAt` tries them does not matter.
-/

namespace PackageModel

/-- The shapes of the pieces of a source text. -/
inductive Shape where
  | comment
  | delimiter
  | identifier
  | note
  | blank
  | text
deriving Repr, DecidableEq

namespace Shape

/-- The kind of token that a piece of this shape is; blank space is no token. -/
def kind? : Shape → Option Kind
  | comment => some .comment
  | delimiter => some .delimiter
  | identifier => some .identifier
  | note => some .note
  | blank => none
  | text => some .text

/-! ## Characters -/

/-- The marks that are tokens by themselves. -/
def isDelimiter (c : Char) : Bool :=
  ['[', ']', '(', ')', '{', '}', '.', ',', '='].contains c

/-- Names start with a letter or an underscore; letters without case do not count. -/
def startsName (c : Char) : Bool :=
  Unicode.isSmallLetter c || Unicode.isCapitalLetter c || c == '_'

/-- The characters behind the first one of a name. -/
def continuesName (c : Char) : Bool := startsName c || Unicode.isDecimalDigit c

/-- Blank space is made of spaces, tabs and line ends; a carriage return is not blank. -/
def isBlank (c : Char) : Bool := c == ' ' || c == '\t' || c == '\n'

/-- The control characters, general category `Cc`. -/
def isControl (c : Char) : Bool := c.toNat < 0x20 || (0x7f ≤ c.toNat && c.toNat ≤ 0x9f)

/-! ## Pieces -/

/-- The line that opens a comment. -/
def opening : List Char := ['/', '*', '\n']

/-- The line that closes a comment, with the line end before it. -/
def closing : List Char := ['\n', '*', '/', '\n']

/-- The marker that opens a note. -/
def noteMarker : List Char := ['/', '/', ' ']

/-- Cuts behind the first closing line and all line ends that follow it. -/
def splitClosing : List Char → Option (List Char × List Char)
  | [] => none
  | c :: cs =>
    if closing.isPrefixOf (c :: cs) then
      let rest := (c :: cs).drop closing.length
      some (closing ++ rest.takeWhile (· == '\n'), rest.dropWhile (· == '\n'))
    else (splitClosing cs).map fun (piece, rest) => (c :: piece, rest)

/-- Cuts behind the first quotation mark. -/
def splitQuote : List Char → Option (List Char × List Char)
  | [] => none
  | c :: cs =>
    if c = '"' then some ([c], cs)
    else (splitQuote cs).map fun (piece, rest) => (c :: piece, rest)

/-- Cuts a piece of the given shape off the front of the text, if the text starts with one; the
second part is the rest of the text. -/
def split : Shape → List Char → Option (List Char × List Char)
  | comment, cs =>
    if opening.isPrefixOf cs then
      (splitClosing (cs.drop opening.length)).map fun (piece, rest) => (opening ++ piece, rest)
    else none
  | delimiter, c :: cs => if isDelimiter c then some ([c], cs) else none
  | identifier, c :: cs =>
    if startsName c then some (c :: cs.takeWhile continuesName, cs.dropWhile continuesName)
    else none
  | note, cs =>
    if noteMarker.isPrefixOf cs then
      let line := cs.drop noteMarker.length
      some (noteMarker ++ line.takeWhile (!isControl ·), line.dropWhile (!isControl ·))
    else none
  | blank, c :: cs =>
    if isBlank c then some (c :: cs.takeWhile isBlank, cs.dropWhile isBlank) else none
  | text, c :: cs =>
    if c = '"' then (splitQuote cs).map fun (piece, rest) => (c :: piece, rest) else none
  | _, [] => none

/-- All shapes, in the order in which they are tried. -/
def all : List Shape := [comment, delimiter, identifier, note, blank, text]

end Shape

/-- The shape of the piece at the front of the text, the piece, and the rest of the text. -/
def matchAt (cs : List Char) : Option (Shape × List Char × List Char) :=
  Shape.all.findSome? fun shape => (shape.split cs).map fun parts => (shape, parts)

/-- The kind of the token at the front of the text, its characters, and the rest of the text. -/
def tokenAt (cs : List Char) : Option (Kind × List Char × List Char) :=
  Shape.all.findSome? fun shape =>
    shape.kind?.bind fun kind => (shape.split cs).map fun parts => (kind, parts)

end PackageModel
