/-!
# PackageModel.Toml.Value

TOML values, and how tables grow.  A table can be named in several ways, and the way decides
what may be added to it later: a header may come after tables that lie inside its own, but no
table can be written twice, and a table in braces is complete at its closing brace.
-/

namespace PackageModel.Toml

/-- How a table came to be. -/
inductive TableForm where
  /-- Named only inside the header of another table. -/
  | implied
  /-- Named by a header of its own. -/
  | header
  /-- Named inside the dotted key of a line. -/
  | dotted
  /-- Written in braces. -/
  | braced
  /-- Named inside a dotted key between braces. -/
  | bracedDotted
deriving Repr, DecidableEq

/-- A value.  Floats, dates and times have only to be well formed, so their values are not
kept. -/
inductive Value where
  | string (s : String)
  | integer (n : Int)
  | float
  | boolean (b : Bool)
  | moment
  | array (items : List Value)
  /-- Tables under a repeated header, the first one first. -/
  | tables (items : List (List (String × Value)))
  | table (form : TableForm) (entries : List (String × Value))
deriving Repr, Inhabited

/-- The entries of a table, in the order in which they first appear. -/
abbrev Entries := List (String × Value)

/-- A dotted key: the tables that it goes through, and the last name. -/
structure KeyPath where
  parents : List String
  name : String
deriving Repr, DecidableEq

namespace Entries

/-- Gives an entry that is there another value. -/
def replace (es : Entries) (key : String) (v : Value) : Entries :=
  es.map fun e => if e.1 = key then (key, v) else e

/-- Adds the value under a dotted key.  The key creates tables of the form `named`, and goes
through such tables again; it can also pass through a table that only headers name, but not add
to it. -/
def add (named : TableForm) (name : String) (v : Value) : List String → Entries → Option Entries
  | [], es => if (es.lookup name).isNone then some (es ++ [(name, v)]) else none
  | p :: ps, es =>
    match es.lookup p with
    | none => (add named name v ps []).map fun inner => es ++ [(p, .table named inner)]
    | some (.table form inner) =>
      if form = named ∨ (form = .implied ∧ ps ≠ []) then
        (add named name v ps inner).map fun inner => es.replace p (.table form inner)
      else none
    | some (.tables items) =>
      match ps, items.getLast? with
      | _ :: _, some last =>
        (add named name v ps last).map fun last => es.replace p (.tables (items.dropLast ++ [last]))
      | _, _ => none
    | some _ => none

/-- Adds values under dotted keys, one after the other. -/
def addAll (named : TableForm) (es : Entries) (pairs : List (KeyPath × Value)) : Option Entries :=
  pairs.foldlM (fun es p => es.add named p.1.name p.2 p.1.parents) es

/-- Changes the table that the parents of a header lead to.  Tables that are not there yet are
implied; of tables under a repeated header the last one is meant. -/
def under (change : Entries → Option Entries) : List String → Entries → Option Entries
  | [], es => change es
  | p :: ps, es =>
    match es.lookup p with
    | none => (under change ps []).map fun inner => es ++ [(p, .table .implied inner)]
    | some (.table form inner) =>
      if form = .braced ∨ form = .bracedDotted then none
      else (under change ps inner).map fun inner => es.replace p (.table form inner)
    | some (.tables items) =>
      items.getLast?.bind fun last =>
        (under change ps last).map fun last => es.replace p (.tables (items.dropLast ++ [last]))
    | some _ => none

/-- Writes the table of a header, which may hold tables of earlier headers already. -/
def addTable (path : KeyPath) (pairs : List (KeyPath × Value)) : Entries → Option Entries :=
  under (fun es =>
    match es.lookup path.name with
    | none => (addAll .dotted [] pairs).map fun inner => es ++ [(path.name, .table .header inner)]
    | some (.table .implied inner) =>
      (addAll .dotted inner pairs).map fun inner => es.replace path.name (.table .header inner)
    | some _ => none) path.parents

/-- Writes one more table under a repeated header. -/
def addElement (path : KeyPath) (pairs : List (KeyPath × Value)) : Entries → Option Entries :=
  under (fun es =>
    match es.lookup path.name with
    | none => (addAll .dotted [] pairs).map fun inner => es ++ [(path.name, .tables [inner])]
    | some (.tables items) =>
      (addAll .dotted [] pairs).map fun inner => es.replace path.name (.tables (items ++ [inner]))
    | some _ => none) path.parents

end Entries

end PackageModel.Toml
