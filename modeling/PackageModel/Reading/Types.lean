import PackageModel.Document.Order
import PackageModel.Reading.Abstraction

/-!
# PackageModel.Reading.Types

The rules for declarations of types.  Sections of declarations are put in canonical order as
soon as they are read.
-/

namespace PackageModel

open Reading

/-- Reads a section whose items have a canonical order; an absent section is empty. -/
def Reading.sorted {α : Type} [Ranked α] (note : String) (item : Reading (Option α))
    (expected : String) (rules : List Rule) (n : Nat) : Reading (List α) :=
  return canonicalSort (← orEmpty (titled note item expected rules n))

namespace Declaration

/-- The rules that errors in a declaration name. -/
def rules : List Rule := [.declaration, .parameters]

/-- Reads a declaration. -/
def read (n : Nat) : Reading (Option Declaration) := do
  let some comment ← text? .comment | return none
  keyword "type" rules
  let identifier ← Reading.identifier rules
  let parameters ← bracketed (Parameter.readList n) "parameters" rules
  return some { comment, identifier, parameters }

end Declaration

namespace Values

/-- The rules that errors in a list of values name. -/
def rules : List Rule := [.values, .parameter]

/-- Reads the values of an enumeration. -/
def read (n : Nat) : Reading (Option Values) := do
  let some identifier ← identifier? | return none
  let abstraction ← required (Abstraction.read n) "abstraction" rules
  mark "=" rules
  keyword "iota" rules
  let identifiers ← many identifier? n
  return some { parameter := { identifier, abstraction }, identifiers }

/-- The rules that errors in an enumeration name. -/
def enumerationRules : List Rule := [.enumeration, .values]

/-- Reads an enumeration. -/
def readEnumeration (n : Nat) : Reading (Option Values) := do
  if ← keyword? "const" then
    mark "(" enumerationRules
    let values ← required (read n) "values" enumerationRules
    mark ")" enumerationRules
    return some values
  return none

end Values

/-- Reads a specialization. -/
def Specialization.read (n : Nat) : Reading (Option Specialization) := do
  let some declaration ← Declaration.read n | return none
  let abstraction ← required (Abstraction.read n) "abstraction"
    [.specialization, .declaration, .abstraction, .enumeration]
  let enumeration ← Values.readEnumeration n
  return some { declaration, abstraction, enumeration }

namespace Functional

/-- The rules that errors in a functional name. -/
def rules : List Rule := [.functional, .declaration, .parameters, .result]

/-- Reads a functional. -/
def read (n : Nat) : Reading (Option Functional) := do
  let some declaration ← Declaration.read n | return none
  keyword "func" rules
  mark "(" rules
  let parameters ← orEmpty (Parameter.readList n)
  mark ")" rules
  let result ← required (Result.read n) "result" rules
  return some { declaration, parameters, result }

end Functional

/-- Reads the declared types. -/
def Types.read (n : Nat) : Reading (Option Types) := do
  if ← note? "// TYPES" then
    let specializations ← sorted "// Specializations" (Specialization.read n) "specialization"
      [.specializations, .specialization] n
    let functionals ← sorted "// Functionals" (Functional.read n) "functional"
      [.functionals, .functional] n
    return some { specializations, functionals }
  return none

end PackageModel
