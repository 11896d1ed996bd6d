import PackageModel.Document.Basic

/-!
# PackageModel.Proofs.Document.Uses

The uses of types in a document, at any depth: what stands in the arguments of an abstraction, and
in the parameters and the result of a method.
-/

namespace PackageModel

/-- The alias of a module. -/
def Prefix.alias? : Prefix → Option String
  | aliased name => some name
  | _ => none

/-- The type of the keys of a map. -/
def Prefix.key? : Prefix → Option String
  | map key => some key
  | _ => none

namespace Abstraction

mutual

/-- The abstraction and all those in its arguments, depth first. -/
def all : Abstraction → List Abstraction
  | mk qualifier identifier arguments => mk qualifier identifier arguments :: allOf arguments

/-- The abstractions of a list and all those in their arguments. -/
def allOf : List Abstraction → List Abstraction
  | [] => []
  | a :: as => a.all ++ allOf as

end

/-- The alias in front of the name. -/
def alias? (a : Abstraction) : Option String := a.qualifier.bind Prefix.alias?

/-- The type names that the abstraction uses itself: the key of a map, and its own name. -/
def ownNames (a : Abstraction) : List String :=
  (a.qualifier.bind Prefix.key?).toList ++ [a.identifier]

/-- The type names that the abstraction uses at any depth. -/
def names (a : Abstraction) : List String := a.all.flatMap ownNames

example : (mk (some (.map "K")) "A" [.mk (some .array) "B" [], .named "C"]).names =
    ["K", "A", "B", "C"] := rfl

/-- The aliases that stand in the abstraction at any depth. -/
def aliases (a : Abstraction) : List String := a.all.flatMap (·.alias?.toList)

/-- Uses of several types stand behind each other. -/
theorem allOf_eq (as : List Abstraction) : allOf as = as.flatMap all := by
  induction as with
  | nil => rfl
  | cons a as ih => rw [allOf, ih, List.flatMap_cons]

/-- An abstraction is used, and so is all that its arguments use. -/
theorem all_mk (q : Option Prefix) (i : String) (as : List Abstraction) :
    (mk q i as).all = mk q i as :: as.flatMap all := by
  rw [all, allOf_eq]

/-- An abstraction is one of its own uses. -/
theorem mem_all_self (a : Abstraction) : a ∈ a.all := by
  obtain ⟨q, i, as⟩ := a
  rw [all]
  exact List.mem_cons_self

/-- An abstraction uses its own name. -/
theorem identifier_mem_names (a : Abstraction) : a.identifier ∈ a.names :=
  List.mem_flatMap.2 ⟨a, a.mem_all_self, List.mem_append_right _ List.mem_cons_self⟩

/-- The names of an abstraction, those of its own first. -/
theorem names_mk (q : Option Prefix) (i : String) (as : List Abstraction) :
    (mk q i as).names = (mk q i as).ownNames ++ as.flatMap names := by
  rw [names, all_mk, List.flatMap_cons, List.flatMap_assoc]
  rfl

/-- The aliases of an abstraction, that of its own prefix first. -/
theorem aliases_mk (q : Option Prefix) (i : String) (as : List Abstraction) :
    (mk q i as).aliases = (q.bind Prefix.alias?).toList ++ as.flatMap aliases := by
  rw [aliases, all_mk, List.flatMap_cons, List.flatMap_assoc]
  rfl

end Abstraction

/-! ## Methods -/

/-- The abstractions in a result. -/
def Result.abstractions : Result → List Abstraction
  | abstraction value => [value]
  | parameters values => values.map (·.abstraction)

namespace Method

/-- The types of the parameters and of the result, from left to right. -/
def abstractions (m : Method) : List Abstraction :=
  m.parameters.map (·.abstraction) ++ m.result.toList.flatMap Result.abstractions

/-- The uses of types in the method, at any depth. -/
def uses (m : Method) : List Abstraction := m.abstractions.flatMap Abstraction.all

end Method

end PackageModel
