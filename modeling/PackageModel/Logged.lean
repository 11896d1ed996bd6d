import PackageModel.Logging
import PackageModel.Problem
import PackageModel.Settings.Basic

/-!
# PackageModel.Logged

Parsing and checking together with what a run reports about them.  The events tell what
happened and never change it: leaving them out gives the plain result.
-/

namespace PackageModel.Document

/-- Parses a source text. -/
def parseLogged (settings : Settings) (source : String) :
    Except ParseError Document × List Event :=
  let start := Event.parsing source.utf8ByteSize settings.roundedCapacity
  match parse source with
  | .ok d => (.ok d, [start, .parsed d.header.identifier])
  | .error e => (.error e, [start, .unparsed (headline (e.message source))])

@[simp] theorem fst_parseLogged (settings : Settings) (source : String) :
    (parseLogged settings source).1 = parse source := by
  unfold parseLogged
  cases parse source <;> rfl

/-- Parses and validates a source text. -/
def checkLogged (settings : Settings) (source : String) :
    Except Problem Document × List Event :=
  let (parsed, events) := parseLogged settings source
  let events := .checking source.utf8ByteSize :: events
  match parsed with
  | .error e => (.error (.parse e), events)
  | .ok d =>
    match d.validate with
    | .error v => (.error (.violation v), events ++ [.invalid v.message])
    | .ok () => (.ok d, events ++ [.validated d.header.identifier, .accepted])

@[simp] theorem fst_checkLogged (settings : Settings) (source : String) :
    (checkLogged settings source).1 = check source := by
  unfold checkLogged parseLogged
  cases hp : parse source with
  | error e => rw [check_of_parse_error hp]
  | ok d =>
    rw [check_of_parse_ok hp]
    cases hv : d.validate <;> simp [hv]

end PackageModel.Document
