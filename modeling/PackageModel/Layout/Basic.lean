import PackageModel.Token.Basic

/-!
# PackageModel.Layout.Basic

Laid-out text: tokens with spaces and line ends between them.  A layout is a list of pieces, so
that the tokens of a text can be told from the blank space between them; `Layout.render` writes
it out.
-/

namespace PackageModel

/-- A piece of laid-out text. -/
inductive Piece where
  /-- A token. -/
  | token (l : Lexeme)
  /-- A single space. -/
  | space
  /-- A line end, and the indentation of the next line. -/
  | line (depth : Nat)
deriving Repr, DecidableEq

namespace Piece

/-- A name, which may be any. -/
def name (identifier : String) : Piece := token ⟨.identifier, identifier⟩

/-- One of the words of the language. -/
def keyword (word : String) : Piece := token ⟨.identifier, word⟩

/-- A delimiter. -/
def mark (delimiter : String) : Piece := token ⟨.delimiter, delimiter⟩

/-- A heading of a section. -/
def note (line : String) : Piece := token ⟨.note, line⟩

/-- A comment. -/
def comment (text : String) : Piece := token ⟨.comment, text⟩

/-- A quoted locator. -/
def text (locator : String) : Piece := token ⟨.text, locator⟩

/-- The text of a piece.  Each level of indentation is one tab. -/
def render : Piece → String
  | token l => l.value
  | space => " "
  | line depth => String.ofList ('\n' :: List.replicate depth '\t')

/-- The token that a piece is. -/
def lexeme? : Piece → Option Lexeme
  | token l => some l
  | _ => none

end Piece

/-- Laid-out text. -/
abbrev Layout := List Piece

namespace Layout

/-- The text of a layout. -/
def render (l : Layout) : String := String.join (l.map Piece.render)

/-- The tokens of a layout. -/
def lexemes (l : Layout) : List Lexeme := l.filterMap Piece.lexeme?

/-- The largest number of items that stand on one line. -/
def inlineLimit : Nat := 2

/-- The depth of the items of a list that itself starts at the given depth. -/
def itemDepth (depth count : Nat) : Nat := if inlineLimit < count then depth + 1 else depth

/-- A list with commas.  A short one stands on one line; a longer one has each item on a line of
its own and a comma behind the last. -/
def sequence (depth : Nat) (items : List Layout) : Layout :=
  if inlineLimit < items.length then
    .line (depth + 1) :: [.mark ",", .line (depth + 1)].intercalate items ++
      [.mark ",", .line depth]
  else [.mark ",", .space].intercalate items

/-- A list with commas in brackets, or nothing for an empty list. -/
def bracketed (depth : Nat) (items : List Layout) : Layout :=
  if items.isEmpty then [] else .mark "[" :: sequence depth items ++ [.mark "]"]

/-- A note and the items below it, each on a line of its own at the same depth. -/
def titled (depth : Nat) (note : String) (items : List Layout) : Layout :=
  .line depth :: .note note :: items.flatMap (.line depth :: ·)

/-- Puts a blank line between parts; empty parts are left out. -/
def separated (parts : List Layout) : Layout :=
  [.line 0].intercalate (parts.filter (!·.isEmpty))

end Layout

end PackageModel
