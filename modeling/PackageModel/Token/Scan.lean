import PackageModel.Token.Shape

/-!
# PackageModel.Token.Scan

Scanning: from a source text to its tokens.  Blank space is skipped.  A text that no shape
matches yields one error token with the next character, and nothing after it is scanned.  Every
scan ends with exactly one end-of-file token.
-/

namespace PackageModel

/-- A scan in progress. -/
structure Scanner where
  /-- The characters that are not scanned yet. -/
  rest : List Char
  /-- The place of the first of them. -/
  position : Position
  /-- Whether an error token has been found. -/
  failed : Bool
  /-- Whether the end-of-file token has been given out. -/
  finished : Bool
deriving Repr, DecidableEq

namespace Scanner

/-- The scan of a text at its first character. -/
def ofList (source : List Char) : Scanner := ⟨source, .start, false, false⟩

/-- The scanner in front of a source. -/
def ofString (source : String) : Scanner := ofList source.toList

/-- Moves behind a piece; `rest` is what follows it. -/
def skip (s : Scanner) (piece rest : List Char) : Scanner :=
  { s with rest, position := s.position.advance piece }

/-- Moves behind the blank space at the front, if there is any. -/
def skipBlank (s : Scanner) : Scanner :=
  match Shape.blank.split s.rest with
  | some (piece, rest) => s.skip piece rest
  | none => s

/-- Gives out the end-of-file token. -/
def finish (s : Scanner) : Token × Scanner :=
  (⟨⟨.eof, ""⟩, s.position⟩, { s with finished := true })

/-- Scans the token at the front; blank space has been skipped. -/
def token (s : Scanner) : Token × Scanner :=
  match s.rest with
  | [] => s.finish
  | c :: cs =>
    match tokenAt s.rest with
    | some (kind, piece, rest) => (⟨⟨kind, String.ofList piece⟩, s.position⟩, s.skip piece rest)
    | none =>
      (⟨⟨.error, String.singleton c⟩, s.position⟩, { s.skip [c] cs with failed := true })

/-- The next token, or `none` if the end-of-file token has been given out. -/
def next? (s : Scanner) : Option Token × Scanner :=
  if s.finished then (none, s)
  else
    let (t, s') := if s.failed then s.finish else s.skipBlank.token
    (some t, s')

/-- The tokens of a scan of at most `n` characters. -/
def tokens : Nat → Scanner → List Token
  | 0, _ => []
  | n + 1, s =>
    match s.next? with
    | (some t, s') => t :: tokens n s'
    | (none, _) => []

end Scanner

/-- The tokens of a source text, up to and including the end-of-file token.  A token other than
the last has at least one character and an error token comes last but one, so there are at most
two tokens more than characters. -/
def tokenize (source : String) : List Token :=
  (Scanner.ofString source).tokens (source.length + 2)

end PackageModel
