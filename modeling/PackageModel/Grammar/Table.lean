import PackageModel.Grammar.Production

/-!
# PackageModel.Grammar.Table

The grammar of the notation: the right-hand side of every rule, and the table that prints them.
-/

namespace PackageModel.Rule

open Production in
/-- The right-hand side of the rule. -/
def production : Rule → Production
  | abstraction => optional (rule qualifier) ++ Production.identifier ++ bracketed arguments
  | abstractions => titled "// Abstractions" abstraction
  | arguments => commaList abstraction
  | aspect => interface (optional (rule methods))
  | aspects => titled "// Aspects" aspect
  | attributeMethod => called parameter ++ optional (rule abstraction)
  | attributes => titled "// Attributes" attributeMethod
  | classInterface =>
    interface (optional (rule constants) ++ optional (rule constructors) ++
      optional (rule functions))
  | classes => titled "// Classes" classInterface
  | constant => Production.identifier ++ mark "(" ++ mark ")" ++ rule abstraction
  | constants => titled "// Constants" constant
  | constructor => called parameters ++ rule abstraction
  | constructors => titled "// Constructors" constructor
  | declaration => comment ++ word "type" ++ Production.identifier ++ bracketed parameters
  | document =>
    rule notice ++ rule header ++ optional (rule imports) ++ optional (rule types) ++
      optional (rule interfaces)
  | enumeration => word "const" ++ mark "(" ++ rule values ++ mark ")"
  | function => called parameters ++ rule result
  | functional =>
    rule declaration ++ word "func" ++ mark "(" ++ optional (rule parameters) ++ mark ")" ++
      rule result
  | functionals => titled "// Functionals" functional
  | functions => titled "// Functions" function
  | header => comment ++ word "package" ++ Production.identifier
  | imports => word "import" ++ mark "(" ++ optional (rule modules) ++ mark ")"
  | instanceInterface =>
    interface (optional (rule attributes) ++ optional (rule abstractions) ++
      optional (rule methods))
  | instances => titled "// Instances" instanceInterface
  | interfaces =>
    terminal (.note "// INTERFACES") ++ optional (rule aspects) ++ optional (rule classes) ++
      optional (rule instances)
  | method => called parameters ++ optional (rule result)
  | methods => titled "// Methods" method
  | module => Production.identifier ++ terminal .text
  | modules => Production.some (rule module)
  | notice => comment
  | parameter => Production.identifier ++ rule abstraction
  | parameters => commaList parameter
  | qualifier =>
    mark "[" ++ mark "]" <|> word "map" ++ mark "[" ++ Production.identifier ++ mark "]" <|>
      word "chan" <|> Production.identifier ++ mark "."
  | result => rule abstraction <|> mark "(" ++ rule parameters ++ mark ")"
  | source => rule document ++ terminal .eof
  | specialization => rule declaration ++ rule abstraction ++ optional (rule enumeration)
  | specializations => titled "// Specializations" specialization
  | types =>
    terminal (.note "// TYPES") ++ optional (rule specializations) ++
      optional (rule functionals)
  | values => rule parameter ++ mark "=" ++ word "iota" ++ many Production.identifier

/-- A remark printed behind the right-hand side. -/
def remark : Rule → String
  | source => "  ! Terminated with an end-of-file marker."
  | _ => ""

/-- The printed right-hand side. -/
def text (r : Rule) : String := r.production.render ++ r.remark

/-- A rule is shown as the line of the grammar that it is. -/
instance : ToString Rule where
  toString r := r.symbol ++ ": " ++ r.text

/-- The length of the longest symbol. -/
def symbolWidth : Nat := (all.map fun r => r.symbol.length).max?.getD 0

/-- All rules, one on a line, with the right-hand sides below each other. -/
def table : String :=
  String.join <| all.map fun r =>
    r.symbol ++ String.ofList (List.replicate (symbolWidth - r.symbol.length) ' ') ++ " " ++
      r.text ++ "\n"

end PackageModel.Rule
