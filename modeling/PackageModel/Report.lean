import PackageModel.Json.Basic
import PackageModel.Problem
import PackageModel.Style

/-!
# PackageModel.Report

What came out of checking files: one entry for each file, in the order in which they were
checked, as text or as JSON.
-/

namespace PackageModel

/-- The outcome for one file.  What is wrong is told only of a file that did not pass. -/
structure FileReport where
  file : String
  passed : Bool
  stage : Option String := none
  line : Option Nat := none
  column : Option Nat := none
  message : Option String := none
deriving Repr, DecidableEq

namespace FileReport

/-- The report on a file from what checking its text gave. -/
def ofCheck (file source : String) : Except Problem Document → FileReport
  | .ok _ => { file, passed := true }
  | .error p =>
    { file
      passed := false
      stage := some p.stage
      line := p.token?.map (·.position.line)
      column := p.token?.map (·.position.column)
      message := some (p.message source) }

/-- The report as JSON; what is not known is left out. -/
def toJson (r : FileReport) : Json :=
  let known {α : Type} (name : String) (encode : α → Json) (a : Option α) : List (String × Json) :=
    (a.map fun a => (name, encode a)).toList
  .object ([("file", .string r.file), ("passed", .bool r.passed)] ++
    known "stage" .string r.stage ++ known "line" .number r.line ++
    known "column" .number r.column ++ known "message" .string r.message)

/-- What the text report says about a file that did not pass: a header, the message on lines of
its own, and a blank line. -/
def text (colors : Bool) (r : FileReport) : String :=
  let header := "error: " ++ r.file
  let message := r.message.getD ""
  let ended := r.message.isNone || message.toList.getLast? = some '\n'
  (if colors then Style.bold (Style.red header) else header) ++ "\n" ++
    message ++ (if ended then "" else "\n") ++ "\n"

end FileReport

/-- The reports on all files. -/
abbrev Report := List FileReport

namespace Report

/-- Whether every file has passed. -/
def succeeded (r : Report) : Bool := r.all (·.passed)

/-- The files that have not passed. -/
def failures (r : Report) : Report := r.filter fun f => !f.passed

/-- The last line of the text report. -/
def summary (colors : Bool) (r : Report) : String :=
  let files := toString r.length ++ if r.length = 1 then " file" else " files"
  let failed := r.failures.length
  if failed = 0 then
    let s := "All checks passed (" ++ files ++ ")"
    if colors then Style.green s else s
  else
    let s := toString failed ++ " of " ++ files ++ " failed"
    if colors then Style.red s else s

/-- The text report: each failure in full, then a summary. -/
def text (colors : Bool) (r : Report) : String :=
  String.join (r.failures.map (FileReport.text colors)) ++ r.summary colors ++ "\n"

/-- The report as JSON. -/
def json (r : Report) : String := (Json.ofList FileReport.toJson r).pretty 0

end Report

end PackageModel
