import PackageModel.Token.Basic

/-!
# PackageModel.Grammar.Production

The rules of the notation and their right-hand sides.  A right-hand side is a regular expression
over terminals and rules, kept as data: error messages and the grammar table print it, and it
says which token lists a rule stands for.
-/

namespace PackageModel

/-- The rules of the grammar, in alphabetical order of their printed names. -/
inductive Rule where
  | abstraction
  | abstractions
  | arguments
  | aspect
  | aspects
  | attributeMethod
  | attributes
  | classInterface
  | classes
  | constant
  | constants
  | constructor
  | constructors
  | declaration
  | document
  | enumeration
  | function
  | functional
  | functionals
  | functions
  | header
  | imports
  | instanceInterface
  | instances
  | interfaces
  | method
  | methods
  | module
  | modules
  | notice
  | parameter
  | parameters
  | qualifier
  | result
  | source
  | specialization
  | specializations
  | types
  | values
deriving Repr, DecidableEq, Inhabited

namespace Rule

/-- The name of the rule inside right-hand sides. -/
def name : Rule → String
  | abstraction => "abstraction"
  | abstractions => "abstractions"
  | arguments => "arguments"
  | aspect => "aspect"
  | aspects => "aspects"
  | attributeMethod => "attribute"
  | attributes => "attributes"
  | classInterface => "class"
  | classes => "classes"
  | constant => "constant"
  | constants => "constants"
  | constructor => "constructor"
  | constructors => "constructors"
  | declaration => "declaration"
  | document => "document"
  | enumeration => "enumeration"
  | function => "function"
  | functional => "functional"
  | functionals => "functionals"
  | functions => "functions"
  | header => "header"
  | imports => "imports"
  | instanceInterface => "instance"
  | instances => "instances"
  | interfaces => "interfaces"
  | method => "method"
  | methods => "methods"
  | module => "module"
  | modules => "modules"
  | notice => "notice"
  | parameter => "parameter"
  | parameters => "parameters"
  | qualifier => "prefix"
  | result => "result"
  | source => "source"
  | specialization => "specialization"
  | specializations => "specializations"
  | types => "types"
  | values => "values"

/-- The name of the rule on the left of its definition. -/
def symbol (r : Rule) : String := "$" ++ r.name

/-- All rules. -/
def all : List Rule :=
  [.abstraction, .abstractions, .arguments, .aspect, .aspects, .attributeMethod, .attributes,
    .classInterface, .classes, .constant, .constants, .constructor, .constructors, .declaration,
    .document, .enumeration, .function, .functional, .functionals, .functions, .header, .imports,
    .instanceInterface, .instances, .interfaces, .method, .methods, .module, .modules, .notice,
    .parameter, .parameters, .qualifier, .result, .source, .specialization, .specializations,
    .types, .values]

end Rule

/-- A right-hand side. -/
inductive Production where
  | terminal (t : Terminal)
  | rule (r : Rule)
  | optional (p : Production)
  | many (p : Production)
  | some (p : Production)
  | sequence (p q : Production)
  | choice (p q : Production)
deriving Repr, DecidableEq

namespace Production

/-- Two parts that stand behind each other. -/
instance : Append Production := ⟨sequence⟩

/-- One of two parts. -/
instance : OrElse Production := ⟨fun p q => choice p (q ())⟩

/-! ## Printed form -/

/-- How a terminal is written: a fixed token between quotation marks, any other by its kind. -/
def terminalText (t : Terminal) : String :=
  match t.value with
  | .some v => "\"" ++ v ++ "\""
  | none => t.kind.name.toUpper

/-- How tightly the parts of a right-hand side hold together: a choice least, a sequence more,
all else most. -/
def binding : Production → Nat
  | choice .. => 0
  | sequence .. => 1
  | _ => 2

/-- The text of a part in a place that asks for at least the given binding; a part that binds
less goes between parentheses. -/
def enclose (place : Nat) (part : Production) (text : String) : String :=
  if part.binding < place then "(" ++ text ++ ")" else text

/-- The printed form. -/
def render : Production → String
  | terminal t => terminalText t
  | rule r => r.name
  | optional p => enclose 2 p p.render ++ "?"
  | many p => enclose 2 p p.render ++ "*"
  | some p => enclose 2 p p.render ++ "+"
  | sequence p q => enclose 1 p p.render ++ " " ++ enclose 1 q q.render
  | choice p q => p.render ++ " | " ++ q.render

/-! ## Shorthands -/

/-- Any name. -/
def identifier : Production := terminal .identifier

/-- Any comment. -/
def comment : Production := terminal .comment

/-- A keyword. -/
def word (w : String) : Production := terminal (.keyword w)

/-- A delimiter. -/
def mark (m : String) : Production := terminal (.delimiter m)

/-- Items with commas between them and perhaps one behind the last. -/
def commaList (item : Rule) : Production :=
  rule item ++ many (mark "," ++ rule item) ++ optional (mark ",")

/-- A list in square brackets, if there is one. -/
def bracketed (list : Rule) : Production := optional (mark "[" ++ rule list ++ mark "]")

/-- A name with a parameter list that may be empty. -/
def called (list : Rule) : Production :=
  identifier ++ mark "(" ++ optional (rule list) ++ mark ")"

/-- A declaration with an interface body. -/
def interface (body : Production) : Production :=
  rule .declaration ++ word "interface" ++ mark "\x7b" ++ body ++ mark "\x7d"

/-- A note and, below it, at least one item. -/
def titled (note : String) (item : Rule) : Production :=
  terminal (.note note) ++ some (rule item)

end Production

end PackageModel
