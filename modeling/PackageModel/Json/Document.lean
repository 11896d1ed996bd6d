import PackageModel.Document.Basic
import PackageModel.Json.Basic

/-!
# PackageModel.Json.Document

The JSON form of the declaration tree.
-/

namespace PackageModel

open Json

/-- A prefix by the name of its kind, and with its alias or key if it has one. -/
def Prefix.toJson : Prefix → Json
  | array => .string "Array"
  | channel => .string "Channel"
  | aliased name => .object [("Alias", .string name)]
  | map key => .object [("Map", .string key)]

mutual

/-- An abstraction with its prefix, which is null if there is none, and its arguments. -/
def Abstraction.toJson : Abstraction → Json
  | .mk qualifier identifier arguments =>
    .object [
      ("prefix", ofOption Prefix.toJson qualifier),
      ("identifier", .string identifier),
      ("arguments", .array (Abstraction.toJsonList arguments))]

/-- Abstractions, each in its JSON form. -/
def Abstraction.toJsonList : List Abstraction → List Json
  | [] => []
  | a :: as => a.toJson :: Abstraction.toJsonList as

end

/-- A parameter with its name and its abstraction. -/
def Parameter.toJson (p : Parameter) : Json :=
  .object [("identifier", .string p.identifier), ("abstraction", p.abstraction.toJson)]

/-- A result by the name of its kind. -/
def Result.toJson : Result → Json
  | abstraction value => .object [("Abstraction", value.toJson)]
  | parameters values => .object [("Parameters", ofList Parameter.toJson values)]

/-- A declaration with its comment, its name and its generic parameters. -/
def Declaration.toJson (d : Declaration) : Json :=
  .object [
    ("comment", .string d.comment),
    ("identifier", .string d.identifier),
    ("parameters", ofList Parameter.toJson d.parameters)]

/-- A module with its alias and its path. -/
def Module.toJson (m : Module) : Json :=
  .object [("identifier", .string m.identifier), ("text", .string m.text)]

/-- The values of an enumeration, with the parameter that names their type. -/
def Values.toJson (v : Values) : Json :=
  .object [("parameter", v.parameter.toJson), ("identifiers", ofList .string v.identifiers)]

/-- A specialization; the values of its enumeration stand in an object of their own, or it is
null. -/
def Specialization.toJson (s : Specialization) : Json :=
  .object [
    ("declaration", s.declaration.toJson),
    ("abstraction", s.abstraction.toJson),
    ("enumeration", ofOption (fun v => .object [("values", v.toJson)]) s.enumeration)]

/-- A functional with its declaration, its parameters and its result. -/
def Functional.toJson (f : Functional) : Json :=
  .object [
    ("declaration", f.declaration.toJson),
    ("parameters", ofList Parameter.toJson f.parameters),
    ("result", f.result.toJson)]

/-- A constant with its name and its abstraction. -/
def Constant.toJson (c : Constant) : Json :=
  .object [("identifier", .string c.identifier), ("abstraction", c.abstraction.toJson)]

/-- A constructor with its name, its parameters and what it makes. -/
def Constructor.toJson (c : Constructor) : Json :=
  .object [
    ("identifier", .string c.identifier),
    ("parameters", ofList Parameter.toJson c.parameters),
    ("abstraction", c.abstraction.toJson)]

/-- A function with its name, its parameters and its result. -/
def Function.toJson (f : Function) : Json :=
  .object [
    ("identifier", .string f.identifier),
    ("parameters", ofList Parameter.toJson f.parameters),
    ("result", f.result.toJson)]

/-- An attribute; its parameter and its abstraction are null where they are missing. -/
def Attribute.toJson (a : Attribute) : Json :=
  .object [
    ("identifier", .string a.identifier),
    ("parameter", ofOption Parameter.toJson a.parameter),
    ("abstraction", ofOption Abstraction.toJson a.abstraction)]

/-- A method; its result is null if there is none. -/
def Method.toJson (m : Method) : Json :=
  .object [
    ("identifier", .string m.identifier),
    ("parameters", ofList Parameter.toJson m.parameters),
    ("result", ofOption Result.toJson m.result)]

/-- An aspect with its declaration and its methods. -/
def Aspect.toJson (a : Aspect) : Json :=
  .object [("declaration", a.declaration.toJson), ("methods", ofList Method.toJson a.methods)]

/-- A class with its declaration and its three sections. -/
def Class.toJson (c : Class) : Json :=
  .object [
    ("declaration", c.declaration.toJson),
    ("constants", ofList Constant.toJson c.constants),
    ("constructors", ofList Constructor.toJson c.constructors),
    ("functions", ofList Function.toJson c.functions)]

/-- An instance with its declaration and its three sections. -/
def Instance.toJson (i : Instance) : Json :=
  .object [
    ("declaration", i.declaration.toJson),
    ("attributes", ofList Attribute.toJson i.attributes),
    ("abstractions", ofList Abstraction.toJson i.abstractions),
    ("methods", ofList Method.toJson i.methods)]

/-- The types with both of their sections. -/
def Types.toJson (t : Types) : Json :=
  .object [
    ("specializations", ofList Specialization.toJson t.specializations),
    ("functionals", ofList Functional.toJson t.functionals)]

/-- The interfaces with their three sections. -/
def Interfaces.toJson (i : Interfaces) : Json :=
  .object [
    ("aspects", ofList Aspect.toJson i.aspects),
    ("classes", ofList Class.toJson i.classes),
    ("instances", ofList Instance.toJson i.instances)]

/-- A header with its comment and the name of the package. -/
def Header.toJson (h : Header) : Json :=
  .object [("comment", .string h.comment), ("identifier", .string h.identifier)]

/-- A document; each part that is missing is null. -/
def Document.toJson (d : Document) : Json :=
  .object [
    ("notice", .object [("comment", .string d.notice)]),
    ("header", d.header.toJson),
    ("imports", ofOption (fun ms => .object [("modules", ofList Module.toJson ms)]) d.imports),
    ("types", ofOption Types.toJson d.types),
    ("interfaces", ofOption Interfaces.toJson d.interfaces)]

end PackageModel
