import PackageModel.Excerpt
import PackageModel.Grammar.Table

/-!
# PackageModel.ParseError

Why a source text has no declaration tree.
-/

namespace PackageModel

/-- The causes for which reading tokens fails. -/
inductive ParseError where
  /-- The text has a character that starts no token. -/
  | lexical (token : Token)
  /-- The token does not fit; something else was expected, as the rules say. -/
  | unexpected (token : Token) (expected : String) (rules : List Rule)
  /-- The tokens came to an end without an end-of-file token. -/
  | closed
deriving Repr, DecidableEq

namespace ParseError

/-- The token at fault, if there is one. -/
def token? : ParseError → Option Token
  | lexical t => some t
  | unexpected t _ _ => some t
  | closed => none

/-- Quotes the token and the part of the source around it. -/
def describe (source : String) (t : Token) : String :=
  "An unexpected token was received by the parser: " ++ toString t ++ "\n" ++
    String.ofList (Excerpt.excerpt source.toList t.position.line t.position.column)

/-- The full text of the error, quoting the source. -/
def message (source : String) : ParseError → String
  | lexical t => describe source t
  | unexpected t expected rules =>
    describe source t ++ "Was expecting '" ++ expected ++ "' from:\n" ++
      String.join (rules.map fun r => "  " ++ toString r ++ "\n\n")
  | closed => "The token stream terminated without an EOF token."

end ParseError

/-- The first line of a message, without the line end and a carriage return before it. -/
def headline (message : String) : String :=
  let line := message.toList.takeWhile (· ≠ '\n')
  if line.length < message.length ∧ line.getLast? = some '\r' then String.ofList line.dropLast
  else String.ofList line

end PackageModel
