import PackageModel.Proofs.Document.Uses
import PackageModel.Proofs.Validation.Survivors
import PackageModel.Validation

/-!
# PackageModel.Proofs.Validation.Violations

The rules of validation as lists: everything that a document violates, and every use of a name in
it, without regard to where a walk would stop.  Each declaration is an `Entry`, with the parts that
are checked from left to right.
-/

namespace PackageModel

/-- The result of a check that stops at the first of the violations. -/
def firstOf : List Violation → Except Violation Unit
  | [] => .ok ()
  | v :: _ => .error v

/-! ## Imported modules -/

/-- Some module is imported under the alias, without regard to case. -/
def Document.Imports (d : Document) (name : String) : Prop :=
  ∃ m ∈ d.modules, Unicode.lowercase m.identifier = Unicode.lowercase name

/-- Whether a module is imported can be computed. -/
instance (d : Document) (name : String) : Decidable (d.Imports name) :=
  inferInstanceAs (Decidable (∃ m ∈ d.modules, _))

/-- The aliases that name no module. -/
def Document.unknown (d : Document) (aliases : List String) : List Violation :=
  (aliases.filter fun name => ¬ d.Imports name).map .unknownModule

/-! ## Attributes -/

namespace Attribute

/-- The words with which the name of a question may start. -/
def questionWords : List String := ["Is", "Are", "Was", "Were", "Has", "Had"]

/-- The name of the attribute starts with the word. -/
def StartsWith (word : String) (a : Attribute) : Prop := word.toList <+: a.identifier.toList

/-- Whether a name starts with a word can be computed. -/
instance (word : String) (a : Attribute) : Decidable (a.StartsWith word) :=
  inferInstanceAs (Decidable (_ <+: _))

/-- What is wrong with the answer to a question. -/
def answerFaults (identifier : String) (answer : Abstraction) : List Violation :=
  (if answer.qualifier.isSome then [.booleanPrefix identifier] else []) ++
    (if answer.identifier ≠ "bool" then [.booleanType identifier] else []) ++
    (if answer.arguments ≠ [] then [.booleanGeneric identifier] else [])

/-- What is wrong with the name and the shape of the attribute. -/
def faults (a : Attribute) : List Violation :=
  if a.StartsWith "Get" then
    if a.parameter.isNone ∧ a.abstraction.isSome then [] else [.getter a.identifier]
  else if a.StartsWith "Set" then
    if a.parameter.isSome ∧ a.abstraction.isNone then [] else [.setter a.identifier]
  else if ∃ word ∈ questionWords, a.StartsWith word then
    match a.parameter, a.abstraction with
    | none, some answer => answerFaults a.identifier answer
    | _, _ => [.getter a.identifier]
  else [.illegalAttribute a.identifier]

/-- The uses of types in the attribute that count: what a getter gives and what a setter takes, but
not the answer to a question. -/
def walked (a : Attribute) : List Abstraction :=
  if a.StartsWith "Get" then a.abstraction.toList
  else if a.StartsWith "Set" then (a.parameter.map (·.abstraction)).toList
  else []

end Attribute

/-! ## Declarations -/

/-- What is checked of a declaration. -/
inductive Part where
  /-- A use of a type. -/
  | use (a : Abstraction)
  /-- Access to an attribute. -/
  | access (a : Attribute)

namespace Part

/-- The uses of types that count. -/
def walked : Part → List Abstraction
  | use a => [a]
  | access a => a.walked

/-- A use of a type has no shape to be wrong. -/
def faults : Part → List Violation
  | use _ => []
  | access a => a.faults

/-- What is wrong with the part. -/
def violations (d : Document) (p : Part) : List Violation :=
  p.faults ++ p.walked.flatMap fun a => d.unknown a.aliases

/-- The type names that the part uses. -/
def names (p : Part) : List String := p.walked.flatMap (·.names)

end Part

/-- A declaration: whether it has to be used, its name, and what is checked of it, from left to
right. -/
structure Entry where
  mustBeUsed : Option Unused
  identifier : String
  parts : List Part

/-- Each parameter uses the type that it has. -/
def Parameter.parts (ps : List Parameter) : List Part := ps.map fun p => .use p.abstraction

/-- The uses of types in a result. -/
def Result.parts : Result → List Part
  | abstraction value => [.use value]
  | parameters values => Parameter.parts values

/-- The parameters of a constructor, and then what it gives. -/
def Constructor.parts (c : Constructor) : List Part :=
  Parameter.parts c.parameters ++ [.use c.abstraction]

/-- The parameters of a function, and then its result. -/
def Function.parts (f : Function) : List Part := Parameter.parts f.parameters ++ f.result.parts

/-- The parameters of a method, and then its result where it has one. -/
def Method.parts (m : Method) : List Part :=
  Parameter.parts m.parameters ++ m.result.toList.flatMap Result.parts

/-- The entry of a declaration whose body has the given parts. -/
def Declaration.entry (d : Declaration) (mustBeUsed : Option Unused) (body : List Part) : Entry :=
  ⟨mustBeUsed, d.identifier, Parameter.parts d.parameters ++ body⟩

/-- The entry of a class, which need not be used. -/
def Class.entry (c : Class) : Entry :=
  c.declaration.entry none (c.constants.map (fun k => .use k.abstraction) ++
    c.constructors.flatMap Constructor.parts ++ c.functions.flatMap Function.parts)

/-- The entry of an instance, which need not be used. -/
def Instance.entry (i : Instance) : Entry :=
  i.declaration.entry none (i.attributes.map .access ++ i.abstractions.map .use ++
    i.methods.flatMap Method.parts)

/-- The entry of an aspect, which has to be used. -/
def Aspect.entry (a : Aspect) : Entry :=
  a.declaration.entry (some .aspect) (a.methods.flatMap Method.parts)

/-- The entry of a specialization, which has to be used. -/
def Specialization.entry (s : Specialization) : Entry :=
  s.declaration.entry (some .specialization) (.use s.abstraction ::
    s.enumeration.toList.map fun values => .use values.parameter.abstraction)

/-- The entry of a functional, which has to be used. -/
def Functional.entry (f : Functional) : Entry :=
  f.declaration.entry (some .functional) (Parameter.parts f.parameters ++ f.result.parts)

namespace Entry

/-- What is wrong with the declaration itself. -/
def violations (d : Document) (e : Entry) : List Violation := e.parts.flatMap (·.violations d)

/-- The type names that the declaration uses, apart from its own. -/
def uses (e : Entry) : List String := (e.parts.flatMap Part.names).filter (· ≠ e.identifier)

/-- What is wrong if these are the names in use. -/
def unused (names : List String) (e : Entry) : List Violation :=
  match e.mustBeUsed with
  | some kind => if e.identifier ∈ names then [] else [.unused kind e.identifier]
  | none => []

end Entry

/-! ## Documents -/

namespace Document

/-- The declarations, of each kind those that `kept` leaves. -/
def entriesOf (d : Document) (kept : {α : Type} → [Ranked α] → List α → List α) : List Entry :=
  (kept d.classes).map Class.entry ++ (kept d.instances).map Instance.entry ++
    (kept d.aspects).map Aspect.entry ++ (kept d.specializations).map Specialization.entry ++
    (kept d.functionals).map Functional.entry

/-- All declarations. -/
def declared (d : Document) : List Entry := d.entriesOf id

/-- The declarations that no later one of the same kind and with the same key replaces, each kind in
the order of its keys. -/
def entries (d : Document) : List Entry := d.entriesOf (survivors rankKey)

/-- The modules that no later one with the same alias replaces, in the order of their aliases. -/
def namedModules (d : Document) : List Module :=
  survivors (fun m => Unicode.lowercase m.identifier) d.modules

/-- The aliases that do not have the right length. -/
def aliasViolations (d : Document) : List Violation :=
  d.namedModules.flatMap fun m =>
    if m.identifier.length = 3 then [] else [.moduleAlias m.identifier]

/-- The keys of the classes and of the instances, if they differ. -/
def pairingViolations (d : Document) : List Violation :=
  let classes := (survivors rankKey d.classes).map rankKey
  let instances := (survivors rankKey d.instances).map rankKey
  if classes = instances then [] else [.mismatched classes instances]

/-- What is wrong before the uses of names are known. -/
def walkViolations (d : Document) : List Violation :=
  d.aliasViolations ++ d.pairingViolations ++ d.entries.flatMap (·.violations d)

/-- The uses of names, each from a declaration with another name. -/
def uses (d : Document) : List String := d.entries.flatMap Entry.uses

/-- The declarations that have to be used and are not. -/
def unusedViolations (d : Document) : List Violation := d.entries.flatMap (·.unused d.uses)

/-- Everything that is wrong with the document. -/
def violations (d : Document) : List Violation := d.walkViolations ++ d.unusedViolations

end Document

end PackageModel
