import PackageModel.Generic
import PackageModel.Reading.Document
import PackageModel.Validation

/-!
# PackageModel.Problem

Everything that can be wrong with a source text, and what can be done with a text: parse it,
check it, and put it into canonical form.
-/

namespace PackageModel

/-- What is wrong with a source text or a claim. -/
inductive Problem where
  | parse (e : ParseError)
  | violation (v : Violation)
  | claim (e : ClaimError)
deriving Repr, DecidableEq

namespace Problem

/-- The stage of processing at which the problem was found. -/
def stage : Problem → String
  | parse (.lexical _) => "lexical"
  | parse _ => "syntax"
  | violation _ => "semantic"
  | claim _ => "generics"

/-- The full text of the problem; that of a parse error quotes the source. -/
def message (source : String) : Problem → String
  | parse e => e.message source
  | violation v => v.message
  | claim e => e.message

/-- The token at fault, if there is one. -/
def token? : Problem → Option Token
  | parse e => e.token?
  | _ => none

end Problem

namespace Document

/-- Parses and validates a source text. -/
def check (source : String) : Except Problem Document := do
  let d ← (parse source).mapError .parse
  d.validate.mapError .violation
  return d

/-- A text that does not parse does not pass. -/
theorem check_of_parse_error {source : String} {e : ParseError} (h : parse source = .error e) :
    check source = .error (.parse e) := by
  rw [check, h]
  rfl

/-- A text that parses passes if its document is valid. -/
theorem check_of_parse_ok {source : String} {d : Document} (h : parse source = .ok d) :
    check source = match d.validate with
      | .ok () => .ok d
      | .error v => .error (.violation v) := by
  rw [check, h]
  change (d.validate.mapError Problem.violation >>= fun _ => Except.ok d) = _
  cases d.validate <;> rfl

/-- The canonical form of a source text. -/
def format (source : String) : Except ParseError String :=
  (parse source).map canonicalText

/-- How many modules, specializations, functionals, aspects, classes and instances there are. -/
def counts (d : Document) : List Nat :=
  [d.modules.length, d.specializations.length, d.functionals.length, d.aspects.length,
    d.classes.length, d.instances.length]

end Document

end PackageModel
