import PackageModel.Catalog

/-!
# PackageModel.Validation

The rules that a document keeps beyond the grammar: aliases have three characters, every class
has its instance interface, every alias in use is imported, attributes are named and shaped for
what they do, and every declared type and aspect is used.  `validate` walks the declarations in a
fixed order and stops at the first violation.
-/

namespace PackageModel

/-- The kinds of declarations that have to be used. -/
inductive Unused where
  | aspect
  | specialization
  | functional
deriving Repr, DecidableEq

/-- The word for the declaration in the report. -/
def Unused.name : Unused → String
  | aspect => "aspect"
  | specialization => "specialization"
  | functional => "functional"

/-- The ways in which a document can break a rule. -/
inductive Violation where
  /-- The alias of a module is too long or too short. -/
  | moduleAlias (name : String)
  /-- The classes and the instances of a document do not belong together. -/
  | mismatched (classes instances : List String)
  /-- The name of an attribute does not tell what it does. -/
  | illegalAttribute (identifier : String)
  /-- A setter does not take one value, or gives one back. -/
  | setter (identifier : String)
  /-- A getter or a question takes a value, or gives none back. -/
  | getter (identifier : String)
  /-- The answer to a question has a prefix. -/
  | booleanPrefix (identifier : String)
  /-- The answer to a question is not a truth value. -/
  | booleanType (identifier : String)
  /-- The answer to a question has generic arguments. -/
  | booleanGeneric (identifier : String)
  /-- The alias names no imported module. -/
  | unknownModule (name : String)
  /-- A declaration is not used by another one. -/
  | unused (kind : Unused) (identifier : String)
deriving Repr, DecidableEq

/-- The text of the violation. -/
def Violation.message : Violation → String
  | moduleAlias name =>
    "The length of the identifier for an imported module must be 3: " ++ name
  | mismatched classes instances =>
    "Mismatched class and instance interfaces:\n[" ++ ", ".intercalate classes ++ "]\n[" ++
      ", ".intercalate instances ++ "]"
  | illegalAttribute identifier => "Found an illegal attribute method name: " ++ identifier
  | setter identifier =>
    "A setter attribute takes one parameter and returns nothing: " ++ identifier
  | getter identifier =>
    "A getter attribute takes no parameter and returns a value: " ++ identifier
  | booleanPrefix identifier => "A boolean type cannot have a prefix: " ++ identifier
  | booleanType identifier => "A question attribute must have a boolean type: " ++ identifier
  | booleanGeneric identifier => "A boolean type cannot be a generic type: " ++ identifier
  | unknownModule name => "Unknown module alias: " ++ name
  | unused kind identifier =>
    "The following " ++ kind.name ++ " is declared but never referenced in this package: " ++
      identifier

/-! ## Walking -/

/-- A walk over declarations.  It collects the names that are used, each once and in the order in
which they are first seen, and stops at a violation. -/
abbrev Walk := ExceptT Violation (StateM (List String))

/-- What a walk knows: the catalog of the document, and the declaration that it is in. -/
structure Scope where
  catalog : Catalog
  current : String

namespace Scope

/-- Records the use of a name.  A declaration's uses of itself do not count. -/
def use (s : Scope) (identifier : String) : Walk Unit :=
  modify fun used =>
    if identifier = s.current ∨ identifier ∈ used then used else used ++ [identifier]

/-- Checks a prefix: a module has to be imported, and the key of a map is a use. -/
def checkPrefix (s : Scope) : Option Prefix → Walk Unit
  | some (.aliased name) =>
    if s.catalog.hasModule name then pure () else throw (.unknownModule name)
  | some (.map key) => s.use key
  | _ => pure ()

mutual

/-- Checks a use of a type. -/
def checkAbstraction (s : Scope) : Abstraction → Walk Unit
  | .mk qualifier identifier arguments => do
    s.checkPrefix qualifier
    s.use identifier
    s.checkAbstractions arguments

/-- Checks several uses of types. -/
def checkAbstractions (s : Scope) : List Abstraction → Walk Unit
  | [] => pure ()
  | a :: as => do
    s.checkAbstraction a
    s.checkAbstractions as

end

/-- Checks the type of a parameter. -/
def checkParameter (s : Scope) (p : Parameter) : Walk Unit := s.checkAbstraction p.abstraction

/-- Checks parameters in order. -/
def checkParameters (s : Scope) (ps : List Parameter) : Walk Unit := ps.forM s.checkParameter

/-- Checks an abstraction, or the parameters in parentheses. -/
def checkResult (s : Scope) : Result → Walk Unit
  | .abstraction value => s.checkAbstraction value
  | .parameters values => s.checkParameters values

/-! ### Attributes -/

end Scope

/-- What an attribute is for, as its name tells. -/
inductive Purpose where
  | get
  | set
  | ask
deriving Repr, DecidableEq

namespace Purpose

/-- The words that an attribute's name may start with. -/
def starts : List (String × Purpose) :=
  [("Get", get), ("Set", set), ("Is", ask), ("Are", ask), ("Was", ask), ("Were", ask),
    ("Has", ask), ("Had", ask)]

/-- The purpose of an attribute with this name. -/
def ofName? (identifier : String) : Option Purpose :=
  (starts.find? fun entry => entry.1.toList.isPrefixOf identifier.toList).map (·.2)

end Purpose

/-- Checks the answer to a question: it has to be a plain truth value. -/
def checkBoolean (identifier : String) (answer : Abstraction) : Except Violation Unit :=
  if answer.qualifier.isSome then throw (.booleanPrefix identifier)
  else if answer.identifier ≠ "bool" then throw (.booleanType identifier)
  else if ¬answer.arguments.isEmpty then throw (.booleanGeneric identifier)
  else pure ()

namespace Scope

/-- Checks an attribute.  The answer to a question is no use of a type. -/
def checkAttribute (s : Scope) (a : Attribute) : Walk Unit :=
  match Purpose.ofName? a.identifier, a.parameter, a.abstraction with
  | some .get, none, some abstraction => s.checkAbstraction abstraction
  | some .get, _, _ => throw (.getter a.identifier)
  | some .set, some parameter, none => s.checkParameter parameter
  | some .set, _, _ => throw (.setter a.identifier)
  | some .ask, none, some answer => ExceptT.mk (pure (checkBoolean a.identifier answer))
  | some .ask, _, _ => throw (.getter a.identifier)
  | none, _, _ => throw (.illegalAttribute a.identifier)

/-! ### Declarations -/

/-- Checks the parameters of a method, and then its result where it has one. -/
def checkMethod (s : Scope) (m : Method) : Walk Unit := do
  s.checkParameters m.parameters
  m.result.forM s.checkResult

/-- Checks the parameters of a constructor, and then what it gives. -/
def checkConstructor (s : Scope) (c : Constructor) : Walk Unit := do
  s.checkParameters c.parameters
  s.checkAbstraction c.abstraction

/-- Checks the parameters of a function, and then its result. -/
def checkFunction (s : Scope) (f : Function) : Walk Unit := do
  s.checkParameters f.parameters
  s.checkResult f.result

end Scope

namespace Catalog

/-- Enters a declaration, checks its generic parameters and then its body. -/
def checkDeclaration (c : Catalog) (d : Declaration) (body : Scope → Walk Unit) : Walk Unit := do
  let s : Scope := ⟨c, d.identifier⟩
  s.checkParameters d.parameters
  body s

/-- Checks a class: its constants, constructors and functions. -/
def checkClass (c : Catalog) (x : Class) : Walk Unit :=
  c.checkDeclaration x.declaration fun s => do
    x.constants.forM fun k => s.checkAbstraction k.abstraction
    x.constructors.forM s.checkConstructor
    x.functions.forM s.checkFunction

/-- Checks an instance: its attributes, abstractions and methods. -/
def checkInstance (c : Catalog) (x : Instance) : Walk Unit :=
  c.checkDeclaration x.declaration fun s => do
    x.attributes.forM s.checkAttribute
    s.checkAbstractions x.abstractions
    x.methods.forM s.checkMethod

/-- Checks the methods of an aspect. -/
def checkAspect (c : Catalog) (x : Aspect) : Walk Unit :=
  c.checkDeclaration x.declaration fun s => x.methods.forM s.checkMethod

/-- Checks a specialization: what it stands for, and the type of its values. -/
def checkSpecialization (c : Catalog) (x : Specialization) : Walk Unit :=
  c.checkDeclaration x.declaration fun s => do
    s.checkAbstraction x.abstraction
    x.enumeration.forM fun values => s.checkParameter values.parameter

/-- Checks a functional: its parameters and its result. -/
def checkFunctional (c : Catalog) (x : Functional) : Walk Unit :=
  c.checkDeclaration x.declaration fun s => do
    s.checkParameters x.parameters
    s.checkResult x.result

/-! ### The whole document -/

/-- The number of characters in the alias of a module. -/
def aliasLength : Nat := 3

/-- Checks that the alias of a module has three characters. -/
def checkModule (m : Module) : Walk Unit :=
  if m.identifier.length = aliasLength then pure () else throw (.moduleAlias m.identifier)

/-- Checks that the classes and the instances have the same keys. -/
def checkPairing (c : Catalog) : Walk Unit :=
  if c.classes.keys = c.instances.keys then pure ()
  else throw (.mismatched c.classes.keys c.instances.keys)

/-- Checks that the declaration has been used. -/
def checkUsed (kind : Unused) (d : Declaration) : Walk Unit := do
  if d.identifier ∉ (← get) then throw (.unused kind d.identifier)

/-- Checks all rules, in a fixed order. -/
def check (c : Catalog) : Walk Unit := do
  c.modules.values.forM checkModule
  c.checkPairing
  c.classes.values.forM c.checkClass
  c.instances.values.forM c.checkInstance
  c.aspects.values.forM c.checkAspect
  c.specializations.values.forM c.checkSpecialization
  c.functionals.values.forM c.checkFunctional
  c.aspects.values.forM fun a => checkUsed .aspect a.declaration
  c.specializations.values.forM fun s => checkUsed .specialization s.declaration
  c.functionals.values.forM fun f => checkUsed .functional f.declaration

/-- The result of checking all rules, and the names that have been seen in use. -/
def validation (c : Catalog) : Except Violation Unit × List String := c.check.run.run []

end Catalog

/-- Checks a document, up to the first violation. -/
def Document.validate (d : Document) : Except Violation Unit := (Catalog.ofDocument d).validation.1

end PackageModel
