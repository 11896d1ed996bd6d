import PackageModel.Document.Basic
import PackageModel.Layout.Basic

/-!
# PackageModel.Layout.Document

The canonical layout of the declaration tree.  What may stand inside an interface takes the depth
of the line on which it starts.
-/

namespace PackageModel

open Layout

/-! ## Uses of types -/

/-- The layout of a prefix. -/
def Prefix.layout : Prefix → Layout
  | array => [.mark "[", .mark "]"]
  | channel => [.keyword "chan", .space]
  | aliased name => [.name name, .mark "."]
  | map key => [.keyword "map", .mark "[", .name key, .mark "]"]

mutual

/-- The layout of an abstraction. -/
def Abstraction.layout (depth : Nat) : Abstraction → Layout
  | .mk qualifier identifier arguments =>
    (qualifier.map Prefix.layout).getD [] ++ .name identifier ::
      bracketed depth (Abstraction.layouts (itemDepth depth arguments.length) arguments)

/-- The layouts of several abstractions. -/
def Abstraction.layouts (depth : Nat) : List Abstraction → List Layout
  | [] => []
  | a :: as => a.layout depth :: Abstraction.layouts depth as

end

/-- The layout of an argument list. -/
def Abstraction.layoutList (depth : Nat) (arguments : List Abstraction) : Layout :=
  sequence depth (Abstraction.layouts (itemDepth depth arguments.length) arguments)

/-- The layout of a parameter. -/
def Parameter.layout (depth : Nat) (p : Parameter) : Layout :=
  .name p.identifier :: .space :: p.abstraction.layout depth

/-- The layout of a parameter list. -/
def Parameter.layoutList (depth : Nat) (parameters : List Parameter) : Layout :=
  sequence depth (parameters.map (Parameter.layout (itemDepth depth parameters.length)))

/-- The layout of a parameter list in parentheses. -/
def Parameter.layoutCall (depth : Nat) (parameters : List Parameter) : Layout :=
  .mark "(" :: layoutList depth parameters ++ [.mark ")"]

/-- The names of parameters, laid out as a list. -/
def Parameter.layoutNames (depth : Nat) (parameters : List Parameter) : Layout :=
  sequence depth (parameters.map fun p => [.name p.identifier])

/-- The layout of a result. -/
def Result.layout (depth : Nat) : Result → Layout
  | abstraction value => value.layout depth
  | parameters values => Parameter.layoutCall depth values

/-! ## Members of interfaces -/

/-- The layout of a constant. -/
def Constant.layout (depth : Nat) (c : Constant) : Layout :=
  .name c.identifier :: .mark "(" :: .mark ")" :: .space :: c.abstraction.layout depth

/-- The layout of a constructor. -/
def Constructor.layout (depth : Nat) (c : Constructor) : Layout :=
  .name c.identifier :: Parameter.layoutCall depth c.parameters ++
    .space :: c.abstraction.layout depth

/-- The layout of a function. -/
def Function.layout (depth : Nat) (f : Function) : Layout :=
  .name f.identifier :: Parameter.layoutCall depth f.parameters ++ .space :: f.result.layout depth

/-- The layout of a method, with its result where it has one. -/
def Method.layout (depth : Nat) (m : Method) : Layout :=
  .name m.identifier :: Parameter.layoutCall depth m.parameters ++
    (match m.result with
      | some result => .space :: result.layout depth
      | none => [])

/-- The layout of an attribute, with what it takes and gives where it is there. -/
def Attribute.layout (depth : Nat) (a : Attribute) : Layout :=
  .name a.identifier :: .mark "(" ::
    ((a.parameter.map (Parameter.layout depth)).getD [] ++ .mark ")" ::
      (match a.abstraction with
        | some abstraction => .space :: abstraction.layout depth
        | none => []))

/-! ## Declarations -/

/-- The layout of a declaration's head. -/
def Declaration.layout (d : Declaration) : Layout :=
  .line 0 :: .comment d.comment :: .keyword "type" :: .space :: .name d.identifier ::
    bracketed 0 (d.parameters.map (Parameter.layout (itemDepth 0 d.parameters.length)))

/-- The layout of the values of an enumeration. -/
def Values.layout (v : Values) : Layout :=
  [.line 0, .line 0, .keyword "const", .space, .mark "(", .line 1] ++ v.parameter.layout 1 ++
    [.space, .mark "=", .space, .keyword "iota"] ++
    v.identifiers.flatMap (fun i => [.line 1, .name i]) ++ [.line 0, .mark ")"]

/-- The layout of a specialization, with its values behind it. -/
def Specialization.layout (s : Specialization) : Layout :=
  s.declaration.layout ++ .space :: s.abstraction.layout 0 ++
    (s.enumeration.map Values.layout).getD []

/-- The layout of a functional. -/
def Functional.layout (f : Functional) : Layout :=
  f.declaration.layout ++ .space :: .keyword "func" :: Parameter.layoutCall 0 f.parameters ++
    .space :: f.result.layout 0

/-- A section of an interface body; nothing if it has no items. -/
def Layout.memberSection {α : Type} (note : String) (layout : Nat → α → Layout)
    (items : List α) : Layout :=
  if items.isEmpty then [] else titled 1 note (items.map (layout 1))

/-- An interface: its head, and its sections in braces. -/
def Declaration.layoutInterface (d : Declaration) (sections : List Layout) : Layout :=
  d.layout ++ [.space, .keyword "interface", .space, .mark "\x7b"] ++ separated sections ++
    [.line 0, .mark "\x7d"]

/-- The layout of an aspect. -/
def Aspect.layout (a : Aspect) : Layout :=
  a.declaration.layoutInterface [memberSection "// Methods" Method.layout a.methods]

/-- The layout of a class, section by section. -/
def Class.layout (c : Class) : Layout :=
  c.declaration.layoutInterface [
    memberSection "// Constants" Constant.layout c.constants,
    memberSection "// Constructors" Constructor.layout c.constructors,
    memberSection "// Functions" Function.layout c.functions]

/-- The layout of an instance, section by section. -/
def Instance.layout (i : Instance) : Layout :=
  i.declaration.layoutInterface [
    memberSection "// Attributes" Attribute.layout i.attributes,
    memberSection "// Abstractions" Abstraction.layout i.abstractions,
    memberSection "// Methods" Method.layout i.methods]

/-! ## Documents -/

/-- The declarations below a note, with blank lines between them; nothing if there are none. -/
def Layout.declarationBlock {α : Type} (note : String) (layout : α → Layout) (items : List α) :
    Layout :=
  if items.isEmpty then []
  else [.line 0, .note note, .line 0] ++ items.flatMap fun a => layout a ++ [.line 0]

/-- The layout of a module. -/
def Module.layout (m : Module) : Layout := [.name m.identifier, .space, .text m.text]

/-- The layout of the imports. -/
def Module.layoutImports (modules : List Module) : Layout :=
  [.line 0, .keyword "import", .space, .mark "("] ++
    (if modules.isEmpty then [] else modules.flatMap (fun m => .line 1 :: m.layout) ++ [.line 0]) ++
    [.mark ")", .line 0]

/-- The layout of the types, each group below its note. -/
def Types.layout (t : Types) : Layout :=
  [.line 0, .note "// TYPES", .line 0] ++
    declarationBlock "// Specializations" Specialization.layout t.specializations ++
    declarationBlock "// Functionals" Functional.layout t.functionals

/-- The layout of the interfaces, each group below its note. -/
def Interfaces.layout (i : Interfaces) : Layout :=
  [.line 0, .note "// INTERFACES", .line 0] ++
    declarationBlock "// Aspects" Aspect.layout i.aspects ++
    declarationBlock "// Classes" Class.layout i.classes ++
    declarationBlock "// Instances" Instance.layout i.instances

/-- The canonical layout of a document. -/
def Document.layout (d : Document) : Layout :=
  [.comment d.notice, .comment d.header.comment, .keyword "package", .space,
    .name d.header.identifier, .line 0] ++
    (d.imports.map Module.layoutImports).getD [] ++ (d.types.map Types.layout).getD [] ++
    (d.interfaces.map Interfaces.layout).getD []

/-- The canonical text of a document. -/
def Document.canonicalText (d : Document) : String := d.layout.render

/-- The names of an enumeration's values with bars between them. -/
def Values.names (v : Values) : String :=
  "|".intercalate (v.parameter.identifier :: v.identifiers)

end PackageModel
