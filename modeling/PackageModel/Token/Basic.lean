import PackageModel.Position

/-!
# PackageModel.Token.Basic

Tokens: what the reader of a source text sees of it.  A `Lexeme` is a token without its place;
two texts with the same lexemes differ in their layout only.
-/

namespace PackageModel

/-- The kinds of tokens.  An `error` token holds the one character at which scanning failed, and
`eof` marks the end of every token list. -/
inductive Kind where
  | comment
  | delimiter
  | identifier
  | note
  | text
  | eof
  | error
deriving Repr, DecidableEq, Inhabited

/-- The name of the kind in messages. -/
def Kind.name : Kind → String
  | comment => "Comment"
  | delimiter => "Delimiter"
  | identifier => "Identifier"
  | note => "Note"
  | text => "Text"
  | eof => "EOF"
  | error => "Error"

/-- A token without its place. -/
structure Lexeme where
  kind : Kind
  value : String
deriving Repr, DecidableEq, Inhabited

/-- A token at its place in the source. -/
structure Token extends Lexeme where
  position : Position
deriving Repr, DecidableEq, Inhabited

/-- What a place in the grammar asks of a token: a kind, and perhaps one exact value. -/
structure Terminal where
  kind : Kind
  value : Option String
deriving Repr, DecidableEq

namespace Terminal

/-- Any comment. -/
def comment : Terminal := ⟨.comment, none⟩

/-- Any name. -/
def identifier : Terminal := ⟨.identifier, none⟩

/-- Any quoted text. -/
def text : Terminal := ⟨.text, none⟩

/-- The end of the file. -/
def eof : Terminal := ⟨.eof, none⟩

/-- A keyword is an identifier with a fixed spelling. -/
def keyword (word : String) : Terminal := ⟨.identifier, some word⟩

/-- One of the delimiters. -/
def delimiter (mark : String) : Terminal := ⟨.delimiter, some mark⟩

/-- One of the headings. -/
def note (line : String) : Terminal := ⟨.note, some line⟩

/-- How error messages name what they miss: a keyword in quotation marks, a delimiter or note as
it is written, anything else by its kind. -/
def expected (t : Terminal) : String :=
  match t.kind, t.value with
  | .identifier, some word => "\"" ++ word ++ "\""
  | _, some v => v
  | kind, none => kind.name.toUpper

/-- Whether the lexeme has the kind asked for and, if one is given, the value. -/
def accepts (t : Terminal) (l : Lexeme) : Bool :=
  l.kind = t.kind && t.value.all (l.value = ·)

end Terminal

/-- Names the control characters that have a conventional short name. -/
def controlName? : Char → Option String
  | '\x00' => some "<NULL>"
  | '\x07' => some "<BELL>"
  | '\x08' => some "<BKSP>"
  | '\t' => some "<HTAB>"
  | '\x0c' => some "<FMFD>"
  | '\n' => some "<EOLN>"
  | '\r' => some "<CRTN>"
  | '\x0b' => some "<VTAB>"
  | _ => none

/-- The text with its named control characters spelt out, so that it fits on one line. -/
def spellControls (s : String) : String :=
  String.join (s.toList.map fun c => (controlName? c).getD (String.singleton c))

namespace Token

/-- The token's value on one line. -/
def printable (t : Token) : String := spellControls t.value

/-- A token is shown with its position, its kind and its text. -/
instance : ToString Token where
  toString t := "Token [type: " ++ t.kind.name ++ ", line: " ++ toString t.position.line ++
    ", position: " ++ toString t.position.column ++ "]: " ++ t.printable

end Token

end PackageModel
