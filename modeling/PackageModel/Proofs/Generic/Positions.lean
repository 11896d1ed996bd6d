import PackageModel.Proofs.Document.Uses
import PackageModel.Proofs.Generic

/-!
# PackageModel.Proofs.Generic.Positions

What stands where in a specialized method.  A type of an imported module stays one of this module,
and its arguments are specialized; its name is taken for a generic parameter if the two are spelt
alike and it has no arguments.
-/

namespace PackageModel

/-! ## Positions -/

namespace Abstraction

/-- The abstraction at the end of a path through arguments. -/
def at? : List Nat → Abstraction → Option Abstraction
  | [], a => some a
  | n :: path, a => a.arguments[n]?.bind (at? path)

example : at? [1, 0] (mk none "A" [.named "B", .mk none "C" [.named "D"]]) = some (.named "D") :=
  rfl

/-- The first step of a path chooses an argument. -/
theorem at?_cons {n : Nat} {path : List Nat} {a y : Abstraction} :
    a.at? (n :: path) = some y ↔ ∃ c, a.arguments[n]? = some c ∧ c.at? path = some y :=
  Option.bind_eq_some_iff

mutual

/-- The abstractions that stand in `a` are those at the ends of paths. -/
theorem mem_all_iff {y : Abstraction} : (a : Abstraction) →
    (y ∈ a.all ↔ ∃ path, a.at? path = some y)
  | mk q i as => by
    rw [all_mk, List.mem_cons, mem_all_iff_list as]
    constructor
    · rintro (rfl | ⟨n, c, path, hc, hy⟩)
      · exact ⟨[], rfl⟩
      · exact ⟨n :: path, at?_cons.2 ⟨c, hc, hy⟩⟩
    · rintro ⟨_ | ⟨n, path⟩, hy⟩
      · exact .inl (Option.some.inj hy).symm
      · obtain ⟨c, hc, hy⟩ := at?_cons.1 hy
        exact .inr ⟨n, c, path, hc, hy⟩

/-- The arguments, each at its own position. -/
theorem mem_all_iff_list {y : Abstraction} : (as : List Abstraction) →
    (y ∈ as.flatMap all ↔ ∃ (n : Nat) (c : Abstraction) (path : List Nat),
      as[n]? = some c ∧ c.at? path = some y)
  | [] => by simp
  | a :: as => by
    rw [List.flatMap_cons, List.mem_append, mem_all_iff a, mem_all_iff_list as]
    constructor
    · rintro (⟨path, hy⟩ | ⟨n, c, path, hc, hy⟩)
      · exact ⟨0, a, path, rfl, hy⟩
      · exact ⟨n + 1, c, path, hc, hy⟩
    · rintro ⟨_ | n, c, path, hc, hy⟩
      · cases hc
        exact .inl ⟨path, hy⟩
      · exact .inr ⟨n, c, path, hc, hy⟩

end

/-- A substitution replaces what stands at a position where it is. -/
theorem at?_substitute {b : Bindings} {path : List Nat} {a y : Abstraction}
    (h : a.at? path = some y) : (a.substitute b).at? path = some (y.substitute b) := by
  induction path generalizing a with
  | nil =>
    cases h
    rfl
  | cons n path ih =>
    obtain ⟨q, i, as⟩ := a
    obtain ⟨c, hc, hy⟩ := at?_cons.1 h
    rcases substitute_cases b q i as with ⟨-, heq⟩ | ⟨_, rfl, -⟩
    · rw [heq]
      refine at?_cons.2 ⟨c.substitute b, ?_, ih hy⟩
      rw [arguments_mk, List.getElem?_map]
      exact congrArg (Option.map (substitute b)) hc
    · cases hc

end Abstraction

/-- The abstraction at the end of a path that starts at one of the types of the method. -/
def Method.at? (m : Method) (n : Nat) (path : List Nat) : Option Abstraction :=
  m.abstractions[n]?.bind (Abstraction.at? path)

/-- The uses of a method are what stands at its positions. -/
theorem Method.mem_uses_iff {m : Method} {y : Abstraction} :
    y ∈ m.uses ↔ ∃ n path, m.at? n path = some y := by
  simp only [uses, Abstraction.mem_all_iff_list, at?, Option.bind_eq_some_iff, exists_and_left]
  exact ⟨fun ⟨n, c, hc, path, hy⟩ => ⟨n, path, c, hc, hy⟩,
    fun ⟨n, path, c, hc, hy⟩ => ⟨n, c, hc, path, hy⟩⟩

/-- Substitution replaces the abstractions of a method one by one. -/
theorem Method.abstractions_substitute (b : Bindings) (m : Method) :
    (m.substitute b).abstractions = m.abstractions.map (.substitute b) := by
  obtain ⟨i, ps, result⟩ := m
  rcases result with _ | r
  · simp [substitute, abstractions, Parameter.substitute, Function.comp_def]
  · cases r <;>
      simp [substitute, abstractions, Result.substitute, Result.abstractions, Parameter.substitute,
        Function.comp_def]

/-- Substitution keeps every position. -/
theorem Method.at?_substitute {b : Bindings} {m : Method} {n : Nat} {path : List Nat}
    {y : Abstraction} (h : m.at? n path = some y) :
    (m.substitute b).at? n path = some (y.substitute b) := by
  obtain ⟨c, hc, hy⟩ := Option.bind_eq_some_iff.1 h
  rw [at?, abstractions_substitute, List.getElem?_map, hc]
  exact Abstraction.at?_substitute hy

/-! ## Aliases -/

/-- The abstraction `x`, which was made of `y`, has the same alias, and its name and arguments,
which are specialized.  If `y` has no arguments and its name is that of a parameter, name and
arguments are those of what is bound to it; if this has a prefix, its text is the name. -/
structure Abstraction.KeepsAlias (b : Bindings) (y x : Abstraction) : Prop where
  alias_eq : x.alias? = y.alias?
  of_fixed : (y.arguments = [] → b.find? y.identifier = none) →
    x.identifier = y.identifier ∧ x.arguments = y.arguments.map (.substitute b)
  of_bound : ∀ u, y.arguments = [] → b.find? y.identifier = some u → u.qualifier = none →
    x.identifier = u.identifier ∧ x.arguments = u.arguments
  of_bound_prefixed : ∀ u p, y.arguments = [] → b.find? y.identifier = some u →
    u.qualifier = some p → x.identifier = (u.layout 0).render ∧ x.arguments = []

/-- An alias in front of an argument stays there. -/
theorem Abstraction.keepsAlias_prepend {b : Bindings} {name i : String} {u : Abstraction}
    (hu : b.find? i = some u) :
    KeepsAlias b (mk (some (.aliased name)) i []) ((Prefix.aliased name).prepend u) := by
  refine ⟨?_, fun hnone => ?_, fun v _ hv hq => ?_, fun v p _ hv hq => ?_⟩
  · rw [Prefix.prepend]
    split <;> rfl
  · have hnone : b.find? i = none := hnone rfl
    rw [hu] at hnone
    cases hnone
  · obtain rfl : u = v := Option.some.inj (hu.symm.trans hv)
    rw [Prefix.prepend, hq]
    exact ⟨rfl, rfl⟩
  · obtain rfl : u = v := Option.some.inj (hu.symm.trans hv)
    rw [Prefix.prepend, hq]
    exact ⟨rfl, rfl⟩

/-- Substitution keeps an alias, whatever becomes of the name behind it. -/
theorem Abstraction.keepsAlias_substitute (b : Bindings) (name i : String)
    (as : List Abstraction) :
    KeepsAlias b (mk (some (.aliased name)) i as)
      ((mk (some (.aliased name)) i as).substitute b) := by
  rcases substitute_cases b (some (.aliased name)) i as with ⟨hfixed, heq⟩ | ⟨u, rfl, hbound, heq⟩
  · have hne {u : Abstraction} (has : as = []) (hu : b.find? i = some u) : False := by
      rw [hfixed has] at hu
      cases hu
    rw [heq]
    exact ⟨rfl, fun _ => ⟨rfl, rfl⟩, fun u has hu _ => (hne has hu).elim,
      fun u _ has hu _ => (hne has hu).elim⟩
  · rw [heq]
    exact keepsAlias_prepend hbound

/-- Wherever a type of an imported module stands in the method `m`, one of the same module stands in
`m'`, which was made of `m`. -/
def Method.KeepsAliases (b : Bindings) (m m' : Method) : Prop :=
  ∀ n path y name, m.at? n path = some y → y.alias? = some name →
    ∃ x, m'.at? n path = some x ∧ y.KeepsAlias b x

/-- Substitution keeps the aliases of a method at their positions. -/
theorem Method.keepsAliases_substitute (b : Bindings) (m : Method) :
    KeepsAliases b m (m.substitute b) := by
  rintro n path ⟨q, i, as⟩ name hy halias
  obtain ⟨q, rfl, hq⟩ := Option.bind_eq_some_iff.1 halias
  obtain rfl : q = .aliased name := by cases q <;> cases hq; rfl
  exact ⟨_, at?_substitute hy, Abstraction.keepsAlias_substitute b name i as⟩

/-- Specializing an aspect keeps every type of an imported module one of this module. -/
theorem Aspect.specialize_keepsAliases (a : Aspect) (claim : Abstraction)
    (hlength : a.declaration.parameters.length = claim.arguments.length) :
    ∃ ms, a.specialize claim = .ok ms ∧ List.Forall₂
      (Method.KeepsAliases (.ofLists a.declaration.parameters claim.arguments)) a.methods ms := by
  refine ⟨_, by rw [specialize, if_pos hlength], ?_⟩
  rw [List.forall₂_map_right_iff, List.forall₂_same]
  exact fun m _ => m.keepsAliases_substitute _

/-- Arguments are specialized below an alias, and so is the name behind it. -/
theorem Aspect.specialize_keepsAliases_nested :
    let m : Method := ⟨"Zip", [⟨"values", .mk (some (.aliased "age")) "V" [.named "V"]⟩],
      some (.abstraction (.mk (some (.aliased "col")) "List" [.mk (some (.aliased "age")) "V" []]))⟩
    let a : Aspect := ⟨⟨"/*\n\n*/\n", "Sequence", [⟨"V", .named "any"⟩]⟩, [m]⟩
    let claim : Abstraction := .mk none "Sequence" [.named "Widget"]
    a.declaration.parameters.length = claim.arguments.length ∧
    ∃ ms, a.specialize claim = .ok ms ∧ List.Forall₂
        (Method.KeepsAliases (.ofLists a.declaration.parameters claim.arguments)) a.methods ms ∧
      ms.map (fun m => (m.layout 0).render) =
        ["Zip(values age.V[Widget]) col.List[age.Widget]"] := by
  intro m a claim
  have hlength : a.declaration.parameters.length = claim.arguments.length := rfl
  obtain ⟨ms, hms, hkeeps⟩ := specialize_keepsAliases a claim hlength
  refine ⟨hlength, ms, hms, hkeeps, ?_⟩
  cases hms
  decide

/-- The name of a type of an imported module is not kept where a parameter is spelt like it. -/
theorem Aspect.specialize_not_keepsName :
    let a : Aspect := ⟨⟨"/*\n\n*/\n", "Sequence", [⟨"V", .named "any"⟩]⟩,
      [⟨"Get", [], some (.abstraction (.mk (some (.aliased "age")) "V" []))⟩]⟩
    let claim : Abstraction := .mk none "Sequence" [.named "Widget"]
    a.declaration.parameters.length = claim.arguments.length ∧
    ¬∃ ms, a.specialize claim = .ok ms ∧ List.Forall₂ (fun m m' => ∀ n path name i as,
      Method.at? m n path = some (.mk (some (.aliased name)) i as) →
      ∃ as', Method.at? m' n path = some (.mk (some (.aliased name)) i as')) a.methods ms := by
  refine ⟨rfl, ?_⟩
  rintro ⟨ms, hms, hkeeps⟩
  cases hms
  obtain ⟨hget, -⟩ := List.forall₂_cons.1 hkeeps
  obtain ⟨as', hname⟩ := hget 0 [] "age" "V" [] rfl
  injection hname with hname
  injection hname with _ hname
  exact absurd hname (by decide)

end PackageModel
