/-!
# PackageModel.Document.Basic

The declaration tree of a package: the types that it defines and the interfaces of its aspects,
classes and instances.  Names, comments and locators are kept as they are spelt in the source, a
comment with its delimiters and the line ends behind it, a locator with its quotation marks.
-/

namespace PackageModel

/-- What may stand in front of a type name. -/
inductive Prefix where
  /-- A sequence of values of the type. -/
  | array
  /-- A channel for values of the type. -/
  | channel
  /-- The module that the type comes from. -/
  | aliased (name : String)
  /-- A map from keys of the type `key`. -/
  | map (key : String)
deriving Repr, DecidableEq

/-- A use of a type: its name, perhaps with a prefix and generic arguments. -/
inductive Abstraction where
  | mk (qualifier : Option Prefix) (identifier : String) (arguments : List Abstraction)
deriving Repr

namespace Abstraction

/-- The prefix in front of the name. -/
def qualifier : Abstraction → Option Prefix
  | mk q _ _ => q

/-- The name, without its prefix. -/
def identifier : Abstraction → String
  | mk _ i _ => i

/-- The arguments in brackets. -/
def arguments : Abstraction → List Abstraction
  | mk _ _ as => as

@[simp] theorem qualifier_mk (q i as) : (mk q i as).qualifier = q := rfl

@[simp] theorem identifier_mk (q i as) : (mk q i as).identifier = i := rfl

@[simp] theorem arguments_mk (q i as) : (mk q i as).arguments = as := rfl

/-- The plain use of a type name. -/
def named (identifier : String) : Abstraction := mk none identifier []

instance : Inhabited Abstraction := ⟨named ""⟩

end Abstraction

/-- A named value of a type. -/
structure Parameter where
  identifier : String
  abstraction : Abstraction
deriving Repr, Inhabited

/-- What a function gives back: one value, or several with names. -/
inductive Result where
  | abstraction (value : Abstraction)
  | parameters (values : List Parameter)
deriving Repr

/-- The head of a type or interface: its comment, its name and its generic parameters. -/
structure Declaration where
  comment : String
  identifier : String
  parameters : List Parameter
deriving Repr, Inhabited

/-! ## Imports and types -/

/-- An imported module: the alias that it has in this package, and its quoted locator. -/
structure Module where
  identifier : String
  text : String
deriving Repr, Inhabited

/-- The values of an enumerated type; the first is declared with the type. -/
structure Values where
  parameter : Parameter
  identifiers : List String
deriving Repr, Inhabited

/-- A type that is defined by another type, perhaps with its possible values. -/
structure Specialization where
  declaration : Declaration
  abstraction : Abstraction
  enumeration : Option Values
deriving Repr, Inhabited

/-- A function type. -/
structure Functional where
  declaration : Declaration
  parameters : List Parameter
  result : Result
deriving Repr

/-! ## Interfaces -/

/-- A value that belongs to a class. -/
structure Constant where
  identifier : String
  abstraction : Abstraction
deriving Repr, Inhabited

/-- A way to make an instance of a class. -/
structure Constructor where
  identifier : String
  parameters : List Parameter
  abstraction : Abstraction
deriving Repr, Inhabited

/-- A function that belongs to a class. -/
structure Function where
  identifier : String
  parameters : List Parameter
  result : Result
deriving Repr

/-- Access to an attribute of an instance: a getter has a result, a setter a parameter. -/
structure Attribute where
  identifier : String
  parameter : Option Parameter
  abstraction : Option Abstraction
deriving Repr, Inhabited

/-- A method of an instance. -/
structure Method where
  identifier : String
  parameters : List Parameter
  result : Option Result
deriving Repr, Inhabited

/-- A set of methods that several instances may share. -/
structure Aspect where
  declaration : Declaration
  methods : List Method
deriving Repr, Inhabited

/-- The interface of a class. -/
structure Class where
  declaration : Declaration
  constants : List Constant
  constructors : List Constructor
  functions : List Function
deriving Repr, Inhabited

/-- The interface of the instances of a class; `abstractions` are the aspects that they have. -/
structure Instance where
  declaration : Declaration
  attributes : List Attribute
  abstractions : List Abstraction
  methods : List Method
deriving Repr, Inhabited

/-! ## Documents -/

/-- The package clause. -/
structure Header where
  comment : String
  identifier : String
deriving Repr, DecidableEq, Inhabited

/-- The declared types. -/
structure Types where
  specializations : List Specialization
  functionals : List Functional
deriving Repr, Inhabited

/-- The declared interfaces. -/
structure Interfaces where
  aspects : List Aspect
  classes : List Class
  instances : List Instance
deriving Repr, Inhabited

/-- A package.  An absent part differs from one that is there and empty. -/
structure Document where
  notice : String
  header : Header
  imports : Option (List Module)
  types : Option Types
  interfaces : Option Interfaces
deriving Repr, Inhabited

namespace Document

/-- The imported modules. -/
def modules (d : Document) : List Module := d.imports.getD []

/-- The specializations of a document; none if it has no types. -/
def specializations (d : Document) : List Specialization :=
  (d.types.map (·.specializations)).getD []

/-- The functionals of a document. -/
def functionals (d : Document) : List Functional := (d.types.map (·.functionals)).getD []

/-- The aspects of a document; none if it has no interfaces. -/
def aspects (d : Document) : List Aspect := (d.interfaces.map (·.aspects)).getD []

/-- The classes of a document. -/
def classes (d : Document) : List Class := (d.interfaces.map (·.classes)).getD []

/-- The instances of a document. -/
def instances (d : Document) : List Instance := (d.interfaces.map (·.instances)).getD []

end Document

end PackageModel
