import PackageModel.Document.Basic
import PackageModel.Unicode.Lowercase

/-!
# PackageModel.Document.Order

The canonical order of sibling declarations.  Each declaration has a key, siblings are sorted by
it, and those with equal keys keep their places.  Keys are names without regard to case; a class
and its instances have names that differ in a suffix only, which does not count.
-/

namespace PackageModel

/-- Declarations with a key that ranks them among their siblings. -/
class Ranked (α : Type) where
  rankKey : α → String

export Ranked (rankKey)

/-- The text without the ending, if it ends so. -/
def dropEnding (ending s : String) : String :=
  if ending.toList.isSuffixOf s.toList then
    String.ofList (s.toList.take (s.toList.length - ending.toList.length))
  else s

/-- The key of a class: its name without `ClassLike`, in lower case. -/
def classKey (identifier : String) : String :=
  Unicode.lowercase (dropEnding "ClassLike" identifier)

/-- The key of the instances of a class: their name without `Like`, in lower case. -/
def instanceKey (identifier : String) : String :=
  Unicode.lowercase (dropEnding "Like" identifier)

instance : Ranked Aspect := ⟨fun a => Unicode.lowercase a.declaration.identifier⟩

instance : Ranked Class := ⟨fun c => classKey c.declaration.identifier⟩

instance : Ranked Instance := ⟨fun i => instanceKey i.declaration.identifier⟩

instance : Ranked Constructor := ⟨fun c => Unicode.lowercase c.identifier⟩

instance : Ranked Function := ⟨fun f => Unicode.lowercase f.identifier⟩

instance : Ranked Method := ⟨fun m => Unicode.lowercase m.identifier⟩

instance : Ranked Specialization := ⟨fun s => Unicode.lowercase s.declaration.identifier⟩

instance : Ranked Functional := ⟨fun f => Unicode.lowercase f.declaration.identifier⟩

/-- Modules are ranked by their locators, in which case counts. -/
instance : Ranked Module := ⟨fun m => m.text⟩

/-- The canonical order: sorted by key, by code points; siblings with equal keys stay in order. -/
def canonicalSort {α : Type} [Ranked α] (items : List α) : List α :=
  ((items.map fun a => (rankKey a, a)).mergeSort fun a b => decide (a.1 ≤ b.1)).map (·.2)

end PackageModel
