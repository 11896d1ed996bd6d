import PackageModel.Reading.Types

/-!
# PackageModel.Reading.Interfaces

The rules for the interfaces of aspects, classes and instances.  Constants, attributes and the
abstractions of an instance keep the order in which they are written; all other sections are put
in canonical order.
-/

namespace PackageModel

open Reading

/-! ## Members -/

/-- Reads the name of a member and its parameter list, which may be empty. -/
def Reading.called (rules : List Rule) (n : Nat) : Reading (Option (String × List Parameter)) := do
  let some identifier ← identifier? | return none
  mark "(" rules
  let parameters ← orEmpty (Parameter.readList n)
  mark ")" rules
  return some (identifier, parameters)

/-- Reads a constant. -/
def Constant.read (n : Nat) : Reading (Option Constant) := do
  let rules := [.constant, .abstraction]
  let some identifier ← identifier? | return none
  mark "(" rules
  mark ")" rules
  let abstraction ← required (Abstraction.read n) "abstraction" rules
  return some { identifier, abstraction }

/-- Reads a constructor. -/
def Constructor.read (n : Nat) : Reading (Option Constructor) := do
  let rules := [.constructor, .parameters, .abstraction]
  let some (identifier, parameters) ← called rules n | return none
  let abstraction ← required (Abstraction.read n) "abstraction" rules
  return some { identifier, parameters, abstraction }

/-- Reads a function. -/
def Function.read (n : Nat) : Reading (Option Function) := do
  let rules := [.function, .parameters, .result]
  let some (identifier, parameters) ← called rules n | return none
  let result ← required (Result.read n) "result" rules
  return some { identifier, parameters, result }

/-- Reads a method. -/
def Method.read (n : Nat) : Reading (Option Method) := do
  let some (identifier, parameters) ← called [.method, .parameters, .result] n | return none
  let result ← Result.read n
  return some { identifier, parameters, result }

/-- Reads an attribute. -/
def Attribute.read (n : Nat) : Reading (Option Attribute) := do
  let rules := [.attributeMethod, .parameter, .abstraction]
  let some identifier ← identifier? | return none
  mark "(" rules
  let parameter ← Parameter.read n
  mark ")" rules
  let abstraction ← Abstraction.read n
  return some { identifier, parameter, abstraction }

/-! ## Interfaces -/

/-- Reads a declaration with an interface body. -/
def Reading.interface {α : Type} (rules : List Rule) (body : Reading α) (n : Nat) :
    Reading (Option (Declaration × α)) := do
  let some declaration ← Declaration.read n | return none
  keyword "interface" rules
  mark "\x7b" rules
  let members ← body
  mark "\x7d" rules
  return some (declaration, members)

/-- Reads the section of methods. -/
def Method.readSection (n : Nat) : Reading (List Method) :=
  sorted "// Methods" (read n) "method" [.methods, .method] n

/-- Reads an aspect. -/
def Aspect.read (n : Nat) : Reading (Option Aspect) := do
  let some (declaration, methods) ←
    interface [.aspect, .declaration, .methods] (Method.readSection n) n | return none
  return some { declaration, methods }

namespace Class

/-- Reads the sections of a class. -/
def readBody (n : Nat) : Reading (List Constant × List Constructor × List Function) := do
  let constants ← orEmpty
    (titled "// Constants" (Constant.read n) "constant" [.constants, .constant] n)
  let constructors ← sorted "// Constructors" (Constructor.read n) "constructor"
    [.constructors, .constructor] n
  let functions ← sorted "// Functions" (Function.read n) "function" [.functions, .function] n
  return (constants, constructors, functions)

/-- Reads a class. -/
def read (n : Nat) : Reading (Option Class) := do
  let rules := [.classInterface, .declaration, .constants, .constructors, .functions]
  let some (declaration, constants, constructors, functions) ← interface rules (readBody n) n
    | return none
  return some { declaration, constants, constructors, functions }

end Class

namespace Instance

/-- Reads the sections of an instance. -/
def readBody (n : Nat) : Reading (List Attribute × List Abstraction × List Method) := do
  let attributes ← orEmpty
    (titled "// Attributes" (Attribute.read n) "attribute" [.attributes, .attributeMethod] n)
  let abstractions ← orEmpty
    (titled "// Abstractions" (Abstraction.read n) "abstraction" [.abstractions, .abstraction] n)
  let methods ← Method.readSection n
  return (attributes, abstractions, methods)

/-- Reads an instance. -/
def read (n : Nat) : Reading (Option Instance) := do
  let rules := [.instanceInterface, .declaration, .attributes, .abstractions, .methods]
  let some (declaration, attributes, abstractions, methods) ← interface rules (readBody n) n
    | return none
  return some { declaration, attributes, abstractions, methods }

end Instance

/-- Reads the declared interfaces. -/
def Interfaces.read (n : Nat) : Reading (Option Interfaces) := do
  if ← note? "// INTERFACES" then
    let aspects ← sorted "// Aspects" (Aspect.read n) "aspect" [.aspects, .aspect] n
    let classes ← sorted "// Classes" (Class.read n) "class" [.classes, .classInterface] n
    let instances ← sorted "// Instances" (Instance.read n) "instance"
      [.instances, .instanceInterface] n
    return some { aspects, classes, instances }
  return none

end PackageModel
