import PackageModel.Reading.Interfaces
import PackageModel.Token.Scan

/-!
# PackageModel.Reading.Document

The rule for a whole source text, and parsing: from a source text to its declaration tree.
-/

namespace PackageModel

open Reading

/-- Reads the package clause. -/
def Header.read : Reading (Option Header) := do
  let some comment ← text? .comment | return none
  keyword "package" [.header]
  let identifier ← Reading.identifier [.header]
  return some { comment, identifier }

/-- Reads an imported module. -/
def Module.read : Reading (Option Module) := do
  let some identifier ← identifier? | return none
  let text ← Reading.text .text [.module]
  return some { identifier, text }

/-- Reads the imports and puts the modules in canonical order. -/
def Module.readImports (n : Nat) : Reading (Option (List Module)) := do
  let rules := [.imports, .modules, .module]
  if ← keyword? "import" then
    mark "(" rules
    let modules ← orEmpty (oneOrMore read n)
    mark ")" rules
    return some (canonicalSort modules)
  return none

namespace Document

/-- Reads a document. -/
def read (n : Nat) : Reading (Option Document) := do
  let some notice ← text? .comment | return none
  let header ← required Header.read "header"
    [.document, .notice, .header, .imports, .types, .interfaces]
  let imports ← Module.readImports n
  let types ← Types.read n
  let interfaces ← Interfaces.read n
  return some { notice, header, imports, types, interfaces }

/-- Reads a document that is followed by the end of the source. -/
def readSource (n : Nat) : Reading Document := do
  let rules := [.source, .document]
  let document ← required (read n) "document" rules
  let _ ← Reading.text .eof rules
  return document

/-- Reads a document from a stream of tokens.  No rule nests deeper, and no list is longer, than
there are tokens ahead. -/
def ofStream (s : TokenStream) : Except ParseError Document × TokenStream :=
  (readSource (s.ahead.length + 1)).run s

/-- The declaration tree of a list of tokens. -/
def ofTokens (tokens : List Token) : Except ParseError Document :=
  (ofStream (.ofList tokens)).1

/-- The declaration tree of a source text. -/
def parse (source : String) : Except ParseError Document := ofTokens (tokenize source)

end Document

end PackageModel
