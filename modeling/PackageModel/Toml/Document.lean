import PackageModel.Toml.Number

/-!
# PackageModel.Toml.Document

Reading a TOML document: values of any depth up to a limit, the lines of the document, and the
table that the lines build.
-/

namespace PackageModel.Toml

/-- How many names a dotted key can have. -/
def maxKeyParts : Nat := 79

/-- How deep arrays and tables in braces can lie in one another. -/
def maxDepth : Nat := 79

/-! ## Keys -/

/-- The characters of a key without quotes. -/
def isBareKeyChar (c : Char) : Bool := c.isAlphanum || c = '_' || c = '-'

/-- Reads one name of a key. -/
def simpleKey (s : List Char) : Option (String × List Char) :=
  match s.span isBareKeyChar with
  | ([], s) => shortString s
  | (name, r) => some (String.ofList name, r)

/-- Reads the names of a dotted key, at most so many, with the blanks around them. -/
def keyParts : Nat → List Char → Option (String × List String × List Char)
  | 0, _ => none
  | n + 1, s => do
    let (name, s) ← simpleKey (skipBlanks s)
    match skipBlanks s with
    | '.' :: r =>
      let (next, more, r) ← keyParts n r
      return (name, next :: more, r)
    | s => return (name, [], s)

/-- Reads a dotted key. -/
def keyPath (s : List Char) : Option (KeyPath × List Char) := do
  let (first, more, r) ← keyParts maxKeyParts s
  let names := first :: more
  return (⟨names.dropLast, names.getLastD first⟩, r)

/-! ## Values -/

/-- Reads a value that holds no other values. -/
def scalar (s : List Char) : Option (Value × List Char) :=
  match s with
  | '"' :: _ => (text s).map fun p => (.string p.1, p.2)
  | '\'' :: _ => (text s).map fun p => (.string p.1, p.2)
  | 't' :: 'r' :: 'u' :: 'e' :: r => some (.boolean true, r)
  | 'f' :: 'a' :: 'l' :: 's' :: 'e' :: r => some (.boolean false, r)
  | s => if startsMoment s then moment s else number s

/-- Reads items up to the closing bracket, with at most so many commas. -/
def items (item : Reader Value) : Nat → Reader (List Value)
  | 0, _ => none
  | n + 1, s =>
    match skipFiller false s with
    | ']' :: r => some ([], r)
    | s => do
      let (v, s) ← item s
      match skipFiller false s with
      | ',' :: r =>
        let (vs, r) ← items item n r
        return (v :: vs, r)
      | ']' :: r => return ([v], r)
      | _ => none

/-- Reads a key and its value. -/
def pair (item : Reader Value) (s : List Char) : Option ((KeyPath × Value) × List Char) := do
  let (key, s) ← keyPath s
  let s ← mark '=' s
  let (v, s) ← item (skipBlanks s)
  return ((key, v), s)

/-- Reads the pairs of a table in braces up to the closing brace, with at most so many commas. -/
def pairs (item : Reader Value) : Nat → Reader (List (KeyPath × Value))
  | 0, _ => none
  | n + 1, s => do
    let (p, s) ← pair item s
    match skipBlanks s with
    | ',' :: r =>
      let (ps, r) ← pairs item n r
      return (p :: ps, r)
    | '\x7d' :: r => return ([p], r)
    | _ => none

/-- Reads a table behind its opening brace.  Unlike an array it takes no comma behind the last
item. -/
def bracedTable (item : Reader Value) (s : List Char) : Option (Value × List Char) :=
  match skipBlanks s with
  | '\x7d' :: r => some (.table .braced [], r)
  | s => do
    let (ps, r) ← pairs item s.length s
    return (.table .braced (← Entries.addAll .bracedDotted [] ps), r)

/-- Reads a value in which arrays and tables lie at most so deep. -/
def value : Nat → Reader Value
  | 0, s => scalar s
  | depth + 1, s =>
    match s with
    | '[' :: r => (items (value depth) s.length r).map fun p => (.array p.1, p.2)
    | '\x7b' :: r => bracedTable (value depth) r
    | s => scalar s

/-! ## Lines -/

/-- What a line of a document says. -/
inductive Line where
  | blank
  | pair (key : KeyPath) (value : Value)
  /-- A header: the following pairs belong to this table. -/
  | header (path : KeyPath)
  /-- A repeated header: the following pairs belong to one more table of this name. -/
  | element (path : KeyPath)
deriving Repr

/-- Reads a line. -/
def line (s : List Char) : Option (Line × List Char) :=
  match skipBlanks s with
  | '[' :: '[' :: r => do
    let (path, r) ← keyPath r
    let r ← mark ']' r
    let r ← mark ']' r
    return (.element path, ← endOfLine r)
  | '[' :: r => do
    let (path, r) ← keyPath r
    let r ← mark ']' r
    return (.header path, ← endOfLine r)
  | s =>
    if s.head?.any fun c => c = '#' || c = '\n' || c = '\r' then
      (endOfLine s).map fun r => (.blank, r)
    else do
      let (p, r) ← Toml.pair (value maxDepth) s
      return (.pair p.1 p.2, ← endOfLine r)

/-- Reads lines to the end, at most so many. -/
def lines : Nat → List Char → Option (List Line)
  | 0, _ => none
  | n + 1, s =>
    if skipBlanks s = [] then some []
    else do
      let (l, r) ← line s
      return l :: (← lines n r)

/-! ## Documents -/

/-- A header and the pairs below it. -/
structure Block where
  heading : Line
  pairs : List (KeyPath × Value)
deriving Repr

/-- The pairs before the first header, and the blocks. -/
def blocks : List Line → List (KeyPath × Value) × List Block
  | [] => ([], [])
  | .blank :: ls => blocks ls
  | .pair key v :: ls => ((key, v) :: (blocks ls).1, (blocks ls).2)
  | heading :: ls => ([], ⟨heading, (blocks ls).1⟩ :: (blocks ls).2)

/-- Adds a block to a document. -/
def Block.addTo (b : Block) (root : Entries) : Option Entries :=
  match b.heading with
  | .header path => root.addTable path b.pairs
  | .element path => root.addElement path b.pairs
  | _ => some root

/-- Reads a document; nothing, if it is not well formed. -/
def parse? (source : String) : Option Entries := do
  let s := match source.toList with
    | '\ufeff' :: r => r
    | s => s
  let (pairs, bs) := blocks (← lines (s.length + 1) s)
  bs.foldlM (fun root b => b.addTo root) (← Entries.addAll .dotted [] pairs)

end PackageModel.Toml
