import PackageModel.Proofs.Grammar.Stretch

/-!
# PackageModel.Proofs.Document.Texts

The texts that a document keeps from its source: its comments, its names and the locators of its
modules, each with the kind of its token.  Whatever else its tokens are is fixed by the grammar.
-/

namespace PackageModel

/-! ## Uses of types -/

/-- The alias or the key of a prefix. -/
def Prefix.texts : Prefix → List Lexeme
  | array | channel => []
  | aliased name => [.name name]
  | map key => [.name key]

mutual

/-- The texts of an abstraction, those of its prefix first. -/
def Abstraction.texts : Abstraction → List Lexeme
  | .mk qualifier identifier arguments =>
    qualifier.toList.flatMap Prefix.texts ++ .name identifier ::
      Abstraction.textsOfAll arguments

/-- The texts of several abstractions. -/
def Abstraction.textsOfAll : List Abstraction → List Lexeme
  | [] => []
  | a :: as => a.texts ++ Abstraction.textsOfAll as

end

/-- The texts of several abstractions stand behind each other. -/
@[simp] theorem Abstraction.textsOfAll_eq (as : List Abstraction) :
    textsOfAll as = as.flatMap texts := by
  induction as with
  | nil => rw [textsOfAll, List.flatMap_nil]
  | cons a as ih => rw [textsOfAll, ih, List.flatMap_cons]

/-- The name of a parameter, and the texts of its abstraction. -/
def Parameter.texts (p : Parameter) : List Lexeme := .name p.identifier :: p.abstraction.texts

/-- The texts of a result. -/
def Result.texts : Result → List Lexeme
  | abstraction value => value.texts
  | parameters values => values.flatMap Parameter.texts

/-! ## Types -/

/-- The comment and the name of a declaration, and the texts of its parameters. -/
def Declaration.texts (d : Declaration) : List Lexeme :=
  ⟨.comment, d.comment⟩ :: .name d.identifier :: d.parameters.flatMap Parameter.texts

/-- The texts of the first value, and the names of the others. -/
def Values.texts (v : Values) : List Lexeme := v.parameter.texts ++ v.identifiers.map .name

/-- The texts of a specialization, part by part. -/
def Specialization.texts (s : Specialization) : List Lexeme :=
  s.declaration.texts ++ s.abstraction.texts ++ s.enumeration.toList.flatMap Values.texts

/-- The texts of a functional, part by part. -/
def Functional.texts (f : Functional) : List Lexeme :=
  f.declaration.texts ++ f.parameters.flatMap Parameter.texts ++ f.result.texts

/-! ## Interfaces -/

/-- The name of a constant, and the texts of its abstraction. -/
def Constant.texts (c : Constant) : List Lexeme := .name c.identifier :: c.abstraction.texts

/-- The texts of a constructor. -/
def Constructor.texts (c : Constructor) : List Lexeme :=
  .name c.identifier :: c.parameters.flatMap Parameter.texts ++ c.abstraction.texts

/-- The texts of a function. -/
def Function.texts (f : Function) : List Lexeme :=
  .name f.identifier :: f.parameters.flatMap Parameter.texts ++ f.result.texts

/-- The texts of an attribute, of the parts that are there. -/
def Attribute.texts (a : Attribute) : List Lexeme :=
  .name a.identifier :: a.parameter.toList.flatMap Parameter.texts ++
    a.abstraction.toList.flatMap Abstraction.texts

/-- The texts of a method. -/
def Method.texts (m : Method) : List Lexeme :=
  .name m.identifier :: m.parameters.flatMap Parameter.texts ++
    m.result.toList.flatMap Result.texts

/-- The texts of an aspect. -/
def Aspect.texts (a : Aspect) : List Lexeme :=
  a.declaration.texts ++ a.methods.flatMap Method.texts

/-- The texts of a class, section by section. -/
def Class.texts (c : Class) : List Lexeme :=
  c.declaration.texts ++ c.constants.flatMap Constant.texts ++
    c.constructors.flatMap Constructor.texts ++ c.functions.flatMap Function.texts

/-- The texts of an instance, section by section. -/
def Instance.texts (i : Instance) : List Lexeme :=
  i.declaration.texts ++ i.attributes.flatMap Attribute.texts ++
    i.abstractions.flatMap Abstraction.texts ++ i.methods.flatMap Method.texts

/-! ## Documents -/

/-- The comment and the name of the package. -/
def Header.texts (h : Header) : List Lexeme := [⟨.comment, h.comment⟩, .name h.identifier]

/-- The alias and the locator of a module. -/
def Module.texts (m : Module) : List Lexeme := [.name m.identifier, ⟨.text, m.text⟩]

/-- The texts of the types. -/
def Types.texts (t : Types) : List Lexeme :=
  t.specializations.flatMap Specialization.texts ++ t.functionals.flatMap Functional.texts

/-- The texts of the interfaces. -/
def Interfaces.texts (i : Interfaces) : List Lexeme :=
  i.aspects.flatMap Aspect.texts ++ i.classes.flatMap Class.texts ++
    i.instances.flatMap Instance.texts

/-- The comments, names and locators of the document. -/
def Document.texts (d : Document) : List Lexeme :=
  ⟨.comment, d.notice⟩ :: d.header.texts ++ d.modules.flatMap Module.texts ++
    d.types.toList.flatMap Types.texts ++ d.interfaces.toList.flatMap Interfaces.texts

/-- The texts of a node. -/
def Rule.texts : (r : Rule) → r.Node → List Lexeme
  | .abstraction, a => Abstraction.texts a
  | .abstractions, as | .arguments, as => List.flatMap Abstraction.texts as
  | .aspect, a => Aspect.texts a
  | .aspects, as => List.flatMap Aspect.texts as
  | .attributeMethod, a => Attribute.texts a
  | .attributes, as => List.flatMap Attribute.texts as
  | .classInterface, c => Class.texts c
  | .classes, cs => List.flatMap Class.texts cs
  | .constant, c => Constant.texts c
  | .constants, cs => List.flatMap Constant.texts cs
  | .constructor, c => Constructor.texts c
  | .constructors, cs => List.flatMap Constructor.texts cs
  | .declaration, d => Declaration.texts d
  | .document, d | .source, d => Document.texts d
  | .enumeration, v | .values, v => Values.texts v
  | .function, f => Function.texts f
  | .functional, f => Functional.texts f
  | .functionals, fs => List.flatMap Functional.texts fs
  | .functions, fs => List.flatMap Function.texts fs
  | .header, h => Header.texts h
  | .imports, ms | .modules, ms => List.flatMap Module.texts ms
  | .instanceInterface, i => Instance.texts i
  | .instances, is => List.flatMap Instance.texts is
  | .interfaces, i => Interfaces.texts i
  | .method, m => Method.texts m
  | .methods, ms => List.flatMap Method.texts ms
  | .module, m => Module.texts m
  | .notice, c => [⟨.comment, c⟩]
  | .parameter, p => Parameter.texts p
  | .parameters, ps => List.flatMap Parameter.texts ps
  | .qualifier, q => Prefix.texts q
  | .result, r => Result.texts r
  | .specialization, s => Specialization.texts s
  | .specializations, ss => List.flatMap Specialization.texts ss
  | .types, t => Types.texts t

end PackageModel
