import PackageModel.Layout.Document

/-!
# PackageModel.Generic

Generic aspects.  A claim names an aspect and gives an argument for each of its generic
parameters; the methods of the claimed aspect are those of the aspect with every parameter
replaced by its argument.
-/

namespace PackageModel

/-- Why a claim has no methods. -/
inductive ClaimError where
  /-- No aspect has this name. -/
  | missingAspect (identifier : String)
  /-- The aspect takes another number of arguments. -/
  | arity (aspect : String) (expected found : Nat)
deriving Repr, DecidableEq

/-- The text of the error. -/
def ClaimError.message : ClaimError → String
  | missingAspect identifier => "Missing the following aspect definition: " ++ identifier
  | arity aspect expected found =>
    "The aspect " ++ aspect ++ " takes " ++ toString expected ++ " generic arguments but " ++
      toString found ++ " were given"

/-- The arguments that stand for generic parameters, by the names of the parameters. -/
abbrev Bindings := List (String × Abstraction)

namespace Bindings

/-- Binds parameters to arguments.  Of parameters with the same name the last one counts. -/
def ofLists (parameters : List Parameter) (arguments : List Abstraction) : Bindings :=
  ((parameters.map (·.identifier)).zip arguments).reverse

/-- The argument that the name stands for. -/
def find? (b : Bindings) (identifier : String) : Option Abstraction := b.lookup identifier

end Bindings

/-- The prefix with its map key replaced.  A map key is a bare name, so an argument takes its
place as it is written. -/
def Prefix.substitute (b : Bindings) : Prefix → Prefix
  | map key =>
    match b.find? key with
    | some argument => map (argument.layout 0).render
    | none => map key
  | p => p

/-- Puts a prefix in front of an argument.  If the argument has a prefix of its own, the whole
argument as it is written becomes the name. -/
def Prefix.prepend (p : Prefix) (argument : Abstraction) : Abstraction :=
  match argument.qualifier with
  | none => .mk (some p) argument.identifier argument.arguments
  | some _ => .mk (some p) (argument.layout 0).render []

namespace Abstraction

mutual

/-- Replaces generic parameters in a use of a type.  Arguments are put in as they are; a name
with arguments of its own is no parameter. -/
def substitute (b : Bindings) : Abstraction → Abstraction
  | mk qualifier identifier arguments =>
    let q := qualifier.map (Prefix.substitute b)
    match arguments, b.find? identifier with
    | [], some argument =>
      match q with
      | some p => p.prepend argument
      | none => argument
    | as, _ => mk q identifier (substituteList b as)

/-- Replaces generic parameters in several uses of types. -/
def substituteList (b : Bindings) : List Abstraction → List Abstraction
  | [] => []
  | a :: as => a.substitute b :: substituteList b as

end

end Abstraction

/-- The type of a parameter is replaced, its name stays. -/
def Parameter.substitute (b : Bindings) (p : Parameter) : Parameter :=
  { p with abstraction := p.abstraction.substitute b }

/-- The types in a result are replaced. -/
def Result.substitute (b : Bindings) : Result → Result
  | abstraction value => abstraction (value.substitute b)
  | parameters values => parameters (values.map (Parameter.substitute b))

/-- The types in the parameters and the result of a method are replaced, its name stays. -/
def Method.substitute (b : Bindings) (m : Method) : Method :=
  { m with
    parameters := m.parameters.map (Parameter.substitute b)
    result := m.result.map (Result.substitute b) }

/-- The methods of an aspect for the arguments of a claim. -/
def Aspect.specialize (a : Aspect) (claim : Abstraction) : Except ClaimError (List Method) :=
  let expected := a.declaration.parameters.length
  let found := claim.arguments.length
  if expected = found then
    let b := Bindings.ofLists a.declaration.parameters claim.arguments
    .ok (a.methods.map (Method.substitute b))
  else .error (.arity a.declaration.identifier expected found)

namespace Document

/-- The first aspect with exactly this name. -/
def findAspect (d : Document) (identifier : String) : Except ClaimError Aspect :=
  match d.aspects.find? (·.declaration.identifier = identifier) with
  | some a => .ok a
  | none => .error (.missingAspect identifier)

/-- The methods of the aspect that a claim names. -/
def specializeClaim (d : Document) (claim : Abstraction) : Except ClaimError (List Method) := do
  (← d.findAspect claim.identifier).specialize claim

/-- The claims that the instances of a document make, in order. -/
def claims (d : Document) : List Abstraction := d.instances.flatMap (·.abstractions)

end Document

end PackageModel
