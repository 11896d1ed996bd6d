import PackageModel.Layout.Document

/-!
# PackageModel.Layout.Formatter

Layouts written out step by step.  A layout is told the depth of its lines, a formatter keeps it: it
raises the depth in front of what stands deeper and lowers it again behind.  What it does for a node
is the routine of the node, a list of actions that are the same at every depth.
-/

namespace PackageModel

/-- The depth of the lines that are begun, and the text that has been written. -/
structure Formatter where
  depth : Nat
  buffer : String
deriving Repr, DecidableEq

/-- What a formatter does at once. -/
inductive Formatter.Action where
  /-- Writes a text. -/
  | push (text : String)
  /-- Ends the line and begins the next one. -/
  | newline
  /-- Raises the depth. -/
  | indent
  /-- Lowers the depth; zero stays zero. -/
  | dedent
deriving Repr, DecidableEq

/-- Actions of a formatter, in order. -/
abbrev Routine := List Formatter.Action

namespace Formatter

/-- A formatter that has written nothing. -/
def new : Formatter := ⟨0, ""⟩

/-- What an action does to the depth and to the text. -/
def perform (f : Formatter) : Action → Formatter
  | .push text => { f with buffer := f.buffer ++ text }
  | .newline => { f with buffer := f.buffer ++ String.ofList ('\n' :: List.replicate f.depth '\t') }
  | .indent => { f with depth := f.depth + 1 }
  | .dedent => { f with depth := f.depth - 1 }

/-- Performs the actions in order. -/
def run (f : Formatter) (r : Routine) : Formatter := r.foldl perform f

/-- Starts from nothing at depth zero, and hands out what the routine writes. -/
def format (f : Formatter) (r : Routine) : String × Formatter :=
  let done := run { f with depth := 0, buffer := "" } r
  (done.buffer, { done with buffer := "" })

end Formatter

/-- The text that the routine writes if it starts at the given depth. -/
def Routine.written (depth : Nat) (r : Routine) : String := (Formatter.run ⟨depth, ""⟩ r).buffer

/-! ## Lists -/

namespace Routine

/-- A list with commas.  A short one stands on one line; a longer one has each item on a line of
its own and a comma behind the last. -/
def sequence (items : List Routine) : Routine :=
  if Layout.inlineLimit < items.length then
    .indent :: .newline :: [.push ",", .newline].intercalate items ++
      [.push ",", .dedent, .newline]
  else [.push ",", .push " "].intercalate items

/-- A list with commas in brackets, or nothing for an empty list. -/
def bracketed (items : List Routine) : Routine :=
  if items.isEmpty then [] else .push "[" :: sequence items ++ [.push "]"]

/-- A note and the items below it, each on a line of its own. -/
def titled (note : String) (items : List Routine) : Routine :=
  .newline :: .push note :: items.flatMap (.newline :: ·)

/-- The sections of an interface body: notes with their items.  A section without items is left
out; another one has a blank line in front of it if something is written already. -/
def sections (written : Bool) : List (String × List Routine) → Routine
  | [] => []
  | (note, items) :: rest =>
    (if items.isEmpty then []
      else (if written then [.push "\n"] else []) ++ titled note items) ++
      sections (written || !items.isEmpty) rest

/-- The declarations below a note, with blank lines between them; nothing if there are none. -/
def block (note : String) (items : List Routine) : Routine :=
  if items.isEmpty then []
  else [.newline, .push note, .newline] ++ items.flatMap (· ++ [.newline])

end Routine

open Routine

/-! ## Uses of types -/

/-- The routine of a prefix: `[]`, `chan `, `alias.` or `map[key]`. -/
def Prefix.routine : Prefix → Routine
  | array => [.push "[]"]
  | channel => [.push "chan "]
  | aliased name => [.push name, .push "."]
  | map key => [.push "map[", .push key, .push "]"]

mutual

/-- The routine of an abstraction: a prefix, a name and arguments in brackets. -/
def Abstraction.routine : Abstraction → Routine
  | .mk qualifier identifier arguments =>
    (qualifier.map Prefix.routine).getD [] ++ .push identifier ::
      bracketed (Abstraction.routines arguments)

/-- The routines of several abstractions. -/
def Abstraction.routines : List Abstraction → List Routine
  | [] => []
  | a :: as => a.routine :: Abstraction.routines as

end

/-- The routine of an argument list. -/
def Abstraction.routineList (arguments : List Abstraction) : Routine :=
  sequence (Abstraction.routines arguments)

/-- The routine of a parameter: its name and its abstraction. -/
def Parameter.routine (p : Parameter) : Routine :=
  .push p.identifier :: .push " " :: p.abstraction.routine

/-- The routine of a parameter list. -/
def Parameter.routineList (parameters : List Parameter) : Routine :=
  sequence (parameters.map Parameter.routine)

/-- The routine of the names of parameters. -/
def Parameter.routineNames (parameters : List Parameter) : Routine :=
  sequence (parameters.map fun p => [.push p.identifier])

/-- The routine of a result: an abstraction, or parameters in parentheses. -/
def Result.routine : Result → Routine
  | abstraction value => value.routine
  | parameters values => .push "(" :: Parameter.routineList values ++ [.push ")"]

/-! ## Members of interfaces -/

/-- The routine of a constant: `name() abstraction`. -/
def Constant.routine (c : Constant) : Routine :=
  .push c.identifier :: .push "() " :: c.abstraction.routine

/-- The routine of a constructor: `name(parameters) abstraction`. -/
def Constructor.routine (c : Constructor) : Routine :=
  .push c.identifier :: .push "(" :: Parameter.routineList c.parameters ++
    .push ") " :: c.abstraction.routine

/-- The routine of a function: `name(parameters) result`. -/
def Function.routine (f : Function) : Routine :=
  .push f.identifier :: .push "(" :: Parameter.routineList f.parameters ++
    .push ") " :: f.result.routine

/-- The routine of a method: `name(parameters)`, and its result where it has one. -/
def Method.routine (m : Method) : Routine :=
  .push m.identifier :: .push "(" :: Parameter.routineList m.parameters ++ .push ")" ::
    (match m.result with
      | some result => .push " " :: result.routine
      | none => [])

/-- The routine of an attribute: `name(parameter) abstraction`, each where it is there. -/
def Attribute.routine (a : Attribute) : Routine :=
  .push a.identifier :: .push "(" ::
    ((a.parameter.map Parameter.routine).getD [] ++ .push ")" ::
      (match a.abstraction with
        | some abstraction => .push " " :: abstraction.routine
        | none => []))

/-! ## Declarations -/

/-- The routine of a declaration: its comment on a new line, `type name` and parameters in
brackets. -/
def Declaration.routine (d : Declaration) : Routine :=
  .newline :: .push d.comment :: .push "type " :: .push d.identifier ::
    bracketed (d.parameters.map Parameter.routine)

/-- The routine of values: the first one with its abstraction, the others on lines of their own. -/
def Values.routine (v : Values) : Routine :=
  v.parameter.routine ++ .push " = iota" :: v.identifiers.flatMap fun i => [.newline, .push i]

/-- The routine of an enumeration: its values in parentheses. -/
def Values.routineEnumeration (v : Values) : Routine :=
  [.newline, .push "const (", .indent, .newline] ++ v.routine ++ [.dedent, .newline, .push ")"]

/-- The routine of a specialization: a declaration, an abstraction and perhaps an enumeration. -/
def Specialization.routine (s : Specialization) : Routine :=
  s.declaration.routine ++ .push " " :: s.abstraction.routine ++
    (match s.enumeration with
      | some v => .newline :: v.routineEnumeration
      | none => [])

/-- The routine of a functional: `func(parameters) result` behind its declaration. -/
def Functional.routine (f : Functional) : Routine :=
  f.declaration.routine ++ .push " func(" :: Parameter.routineList f.parameters ++
    .push ") " :: f.result.routine

/-- The head of an interface.  It leaves the formatter one level deeper. -/
def Declaration.routineOpen (d : Declaration) : Routine :=
  d.routine ++ [.push " interface \x7b", .indent]

/-- The end of an interface, back on the level of its head. -/
def Routine.close : Routine := [.dedent, .newline, .push "\x7d"]

/-- An interface: its head, and its sections in braces. -/
def Declaration.routineInterface (d : Declaration) (parts : List (String × List Routine)) :
    Routine :=
  d.routineOpen ++ sections false parts ++ Routine.close

/-- The routine of an aspect, which has methods only. -/
def Aspect.routine (a : Aspect) : Routine :=
  a.declaration.routineInterface [("// Methods", a.methods.map Method.routine)]

/-- The routine of a class: constants, constructors and functions. -/
def Class.routine (c : Class) : Routine :=
  c.declaration.routineInterface [
    ("// Constants", c.constants.map Constant.routine),
    ("// Constructors", c.constructors.map Constructor.routine),
    ("// Functions", c.functions.map Function.routine)]

/-- The routine of an instance: attributes, abstractions and methods. -/
def Instance.routine (i : Instance) : Routine :=
  i.declaration.routineInterface [
    ("// Attributes", i.attributes.map Attribute.routine),
    ("// Abstractions", i.abstractions.map Abstraction.routine),
    ("// Methods", i.methods.map Method.routine)]

/-! ## Documents -/

/-- The routine of a module: its alias and its quoted locator. -/
def Module.routine (m : Module) : Routine := [.push m.identifier, .push " ", .push m.text]

/-- The routine of the imports. -/
def Module.routineImports (modules : List Module) : Routine :=
  [.newline, .push "import ("] ++
    (if modules.isEmpty then []
      else .indent :: modules.flatMap (fun m => .newline :: m.routine) ++ [.dedent, .newline]) ++
    [.push ")", .newline]

/-- The routine of the types, each group below its heading. -/
def Types.routine (t : Types) : Routine :=
  [.newline, .push "// TYPES", .newline] ++
    block "// Specializations" (t.specializations.map Specialization.routine) ++
    block "// Functionals" (t.functionals.map Functional.routine)

/-- The routine of the interfaces, each group below its heading. -/
def Interfaces.routine (i : Interfaces) : Routine :=
  [.newline, .push "// INTERFACES", .newline] ++
    block "// Aspects" (i.aspects.map Aspect.routine) ++
    block "// Classes" (i.classes.map Class.routine) ++
    block "// Instances" (i.instances.map Instance.routine)

/-- The routine of a document: notice, header, imports, types and interfaces. -/
def Document.routine (d : Document) : Routine :=
  [.push d.notice, .push d.header.comment, .push "package ", .push d.header.identifier,
    .newline] ++
    (d.imports.map Module.routineImports).getD [] ++ (d.types.map Types.routine).getD [] ++
    (d.interfaces.map Interfaces.routine).getD []

/-! ## Nodes -/

/-- What may stand at any depth. -/
inductive Fragment where
  | abstraction (a : Abstraction)
  | arguments (as : List Abstraction)
  | parameter (p : Parameter)
  | parameters (ps : List Parameter)
  | parameterNames (ps : List Parameter)
  | result (r : Result)
  | constant (c : Constant)
  | constructor (c : Constructor)
  | function (f : Function)
  | method (m : Method)
  | attributeMethod (a : Attribute)

namespace Fragment

/-- The routine of a fragment. -/
def routine : Fragment → Routine
  | abstraction a => a.routine
  | arguments as => Abstraction.routineList as
  | parameter p => p.routine
  | parameters ps => Parameter.routineList ps
  | parameterNames ps => Parameter.routineNames ps
  | result r => r.routine
  | constant c => c.routine
  | constructor c => c.routine
  | function f => f.routine
  | method m => m.routine
  | attributeMethod a => a.routine

/-- The layout of the fragment if it starts on a line of the given depth. -/
def layout (depth : Nat) : Fragment → Layout
  | abstraction a => a.layout depth
  | arguments as => Abstraction.layoutList depth as
  | parameter p => p.layout depth
  | parameters ps => Parameter.layoutList depth ps
  | parameterNames ps => Parameter.layoutNames depth ps
  | result r => r.layout depth
  | constant c => c.layout depth
  | constructor c => c.layout depth
  | function f => f.layout depth
  | method m => m.layout depth
  | attributeMethod a => a.layout depth

end Fragment

/-- What has a routine of its own. -/
inductive Node where
  | fragment (x : Fragment)
  | qualifier (q : Prefix)
  | declaration (d : Declaration)
  | values (v : Values)
  | enumeration (v : Values)
  | specialization (s : Specialization)
  | functional (f : Functional)
  | aspect (a : Aspect)
  | classInterface (c : Class)
  | instanceInterface (i : Instance)
  | module (m : Module)
  | imports (ms : List Module)
  | types (t : Types)
  | interfaces (i : Interfaces)
  | document (d : Document)

/-- The routine of a node. -/
def Node.routine : Node → Routine
  | fragment x => x.routine
  | qualifier q => q.routine
  | declaration d => d.routine
  | values v => v.routine
  | enumeration v => v.routineEnumeration
  | specialization s => s.routine
  | functional f => f.routine
  | aspect a => a.routine
  | classInterface c => c.routine
  | instanceInterface i => i.routine
  | module m => m.routine
  | imports ms => Module.routineImports ms
  | types t => t.routine
  | interfaces i => i.routine
  | document d => d.routine

end PackageModel
