import PackageModel.Document.Order

/-!
# PackageModel.Catalog

The declarations of a document by name.  Names that differ in case only share an entry, and so do
a class's names with and without its suffix; of declarations that share an entry, the last one
stands in it.
-/

namespace PackageModel

/-- Entries by key, in increasing order of their keys and with one entry for each key. -/
abbrev Table (α : Type) := List (String × α)

namespace Table

variable {α : Type}

/-- Puts an entry in its place; an entry with the same key is replaced. -/
def put (key : String) (a : α) : Table α → Table α
  | [] => [(key, a)]
  | (k, b) :: entries =>
    if key < k then (key, a) :: (k, b) :: entries
    else if key = k then (key, a) :: entries
    else (k, b) :: put key a entries

/-- The table of the items by their keys. -/
def ofList (key : α → String) (items : List α) : Table α :=
  items.foldl (fun t a => put (key a) a t) []

/-- The keys of a table, in order. -/
def keys (t : Table α) : List String := t.map (·.1)

/-- The values of a table, in the order of their keys. -/
def values (t : Table α) : List α := t.map (·.2)

end Table

/-- The declarations of a document by name. -/
structure Catalog where
  modules : Table Module
  specializations : Table Specialization
  functionals : Table Functional
  aspects : Table Aspect
  classes : Table Class
  instances : Table Instance

namespace Catalog

/-- The catalog of a document. -/
def ofDocument (d : Document) : Catalog where
  modules := .ofList (fun m => Unicode.lowercase m.identifier) d.modules
  specializations := .ofList rankKey d.specializations
  functionals := .ofList rankKey d.functionals
  aspects := .ofList rankKey d.aspects
  classes := .ofList rankKey d.classes
  instances := .ofList rankKey d.instances

/-- Whether a module is imported under the alias, without regard to case. -/
def hasModule (c : Catalog) (name : String) : Bool :=
  c.modules.keys.contains (Unicode.lowercase name)

end Catalog

end PackageModel
