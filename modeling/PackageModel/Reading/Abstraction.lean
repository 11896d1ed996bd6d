import PackageModel.Document.Basic
import PackageModel.Reading.Basic

/-!
# PackageModel.Reading.Abstraction

The rules for uses of types: prefixes, abstractions, parameters and results.  Abstractions nest,
so their rule takes a bound `n` on the number of tokens ahead.  An identifier in front of an
opening parenthesis names the method or attribute that comes next and is no abstraction.
-/

namespace PackageModel

open Reading

/-- Reads a prefix. -/
def Prefix.read : Reading (Option Prefix) := do
  if (← take (.delimiter "[") (.taken (.delimiter "]")) done).isSome then return some .array
  if ← keyword? "map" then
    mark "[" [.qualifier]
    let key ← identifier [.qualifier]
    mark "]" [.qualifier]
    return some (.map key)
  if ← keyword? "chan" then return some .channel
  return (← take .identifier (.taken (.delimiter ".")) done).map .aliased

namespace Abstraction

/-- The rules that errors in an abstraction name. -/
def rules : List Rule := [.abstraction, .qualifier, .arguments]

/-- Reads the name behind the prefix; without a prefix there may be none. -/
def readName : Option Prefix → Reading (Option String)
  | some _ => return some (← Reading.identifier rules)
  | none => take .identifier (.not (.delimiter "(")) done

/-- Reads an abstraction. -/
def read : Nat → Reading (Option Abstraction)
  | 0 => done none
  | n + 1 => do
    let qualifier ← Prefix.read
    match ← readName qualifier with
    | none => return none
    | some identifier =>
      let arguments ← bracketed (commaList (read n) n) "arguments" rules
      return some (mk qualifier identifier arguments)

end Abstraction

/-- Reads a parameter. -/
def Parameter.read (n : Nat) : Reading (Option Parameter) := do
  let some identifier ← identifier? | return none
  let abstraction ← required (Abstraction.read n) "abstraction" [.parameter, .abstraction]
  return some { identifier, abstraction }

/-- Reads a parameter list. -/
def Parameter.readList (n : Nat) : Reading (Option (List Parameter)) := commaList (read n) n

namespace Result

/-- The rules that errors in a result name. -/
def rules : List Rule := [.result, .abstraction, .parameters]

/-- Reads a result. -/
def read (n : Nat) : Reading (Option Result) := do
  if let some value ← Abstraction.read n then return some (.abstraction value)
  if ← mark? "(" then
    let values ← required (Parameter.readList n) "parameters" rules
    mark ")" rules
    return some (.parameters values)
  return none

end Result

end PackageModel
