import PackageModel.Proofs.Document.Arranged
import PackageModel.Proofs.Grammar.Derivation

/-!
# PackageModel.Proofs.Grammar.Arranged

The canonical order in terms of the grammar.  Which items are sorted is a matter of their rule, so
the tree of every right-hand side can be put in order from the inside, and `Rule.build` makes the
node in order of it.
-/

namespace PackageModel

/-- How the items of the rule are ranked, if they have a canonical order. -/
def Rule.ranked? : (r : Rule) → Option (Ranked r.Node)
  | .aspect => some (inferInstance : Ranked Aspect)
  | .classInterface => some (inferInstance : Ranked Class)
  | .constructor => some (inferInstance : Ranked Constructor)
  | .function => some (inferInstance : Ranked Function)
  | .functional => some (inferInstance : Ranked Functional)
  | .instanceInterface => some (inferInstance : Ranked Instance)
  | .method => some (inferInstance : Ranked Method)
  | .module => some (inferInstance : Ranked Module)
  | .specialization => some (inferInstance : Ranked Specialization)
  | _ => none

/-- The node with its siblings in canonical order. -/
def Rule.arranged : (r : Rule) → r.Node → r.Node
  | .aspect, a => Aspect.arranged a
  | .aspects, as => canonicalSort (List.map Aspect.arranged as)
  | .classInterface, c => Class.arranged c
  | .classes, cs => canonicalSort (List.map Class.arranged cs)
  | .constructors, cs => canonicalSort (α := Constructor) cs
  | .document, d | .source, d => Document.arranged d
  | .functionals, fs => canonicalSort (α := Functional) fs
  | .functions, fs => canonicalSort (α := Function) fs
  | .imports, ms | .modules, ms => canonicalSort (α := Module) ms
  | .instanceInterface, i => Instance.arranged i
  | .instances, is => canonicalSort (List.map Instance.arranged is)
  | .interfaces, i => Interfaces.arranged i
  | .methods, ms => canonicalSort (α := Method) ms
  | .specializations, ss => canonicalSort (α := Specialization) ss
  | .types, t => Types.arranged t
  | _, v => v

/-- Puts items of the rule in order, if they have one. -/
def Rule.sortItems (r : Rule) (items : List r.Node) : List r.Node :=
  match r.ranked? with
  | some ranked => @canonicalSort _ ranked items
  | none => items

namespace Production

/-- Puts items in order, if they are those of a rule and have one. -/
def sortItems : (p : Production) → List p.Value → List p.Value
  | rule r, items => r.sortItems items
  | _, items => items

/-- The tree with its siblings in canonical order. -/
def arranged : (p : Production) → p.Value → p.Value
  | terminal _, v => v
  | rule r, v => r.arranged v
  | optional p, v => Option.map p.arranged v
  | many p, vs => List.map p.arranged vs
  | some p, vs => p.sortItems (List.map p.arranged vs)
  | sequence p q, (v, u) => (p.arranged v, q.arranged u)
  | choice p _, .inl v => .inl (p.arranged v)
  | choice _ q, .inr v => .inr (q.arranged v)

end Production

/-- Items with a canonical order are sorted. -/
theorem Rule.sortItems_of_ranked {r : Rule} {ranked : Ranked r.Node}
    (h : r.ranked? = some ranked) (items : List r.Node) :
    r.sortItems items = canonicalSort items := by
  rw [sortItems, h]

/-- Other items stay as they stand. -/
theorem Rule.sortItems_of_not_ranked {r : Rule} (h : r.ranked? = none) (items : List r.Node) :
    r.sortItems items = items := by
  rw [sortItems, h]

/-- The order of what is inside of a node does not change its key. -/
theorem Rule.rankKey_arranged {r : Rule} {ranked : Ranked r.Node} (h : r.ranked? = some ranked)
    (a : r.Node) : rankKey (r.arranged a) = rankKey a := by
  cases r with
  | aspect | classInterface | constructor | function | functional | instanceInterface | method
  | module | specialization =>
    obtain rfl := Option.some.inj h
    rfl
  | _ => cases h

/-! ## Trees without order -/

/-- Whether the rule has siblings with a canonical order on its right-hand side, or below it. -/
def Rule.sorts : Rule → Bool
  | .aspect | .aspects | .classInterface | .classes | .constructors | .document | .functionals
  | .functions | .imports | .instanceInterface | .instances | .interfaces | .methods | .modules
  | .source | .specializations | .types => true
  | _ => false

/-- A node without siblings that have a canonical order stays as it is. -/
theorem Rule.arranged_of_not_sorts {r : Rule} (h : r.sorts = false) (v : r.Node) :
    r.arranged v = v := by
  cases r <;> first | rfl | cases h

namespace Production

/-- Whether there are siblings with a canonical order. -/
def sorts : Production → Bool
  | terminal _ => false
  | rule r => r.sorts
  | optional p | many p => p.sorts
  | some (rule r) => r.sorts || r.ranked?.isSome
  | some p => p.sorts
  | sequence p q | choice p q => p.sorts || q.sorts

/-- By induction on the production. -/
theorem arranged_of_not_sorts {p : Production} (h : p.sorts = false) (v : p.Value) :
    p.arranged v = v := by
  induction p with
  | terminal t => rfl
  | rule r => exact Rule.arranged_of_not_sorts h v
  | optional p ih =>
    cases v with
    | none => rfl
    | some v => exact congrArg Option.some (ih h v)
  | many p ih => exact map_of_forall_eq fun v _ => ih h v
  | some p ih =>
    obtain ⟨hp, hsort⟩ : p.sorts = false ∧ p.sortItems = id := by
      cases p with
      | rule r =>
        rw [sorts, Bool.or_eq_false_iff, Option.isSome_eq_false_iff, Option.isNone_iff_eq_none] at h
        exact ⟨h.1, funext (Rule.sortItems_of_not_ranked h.2)⟩
      | _ => exact ⟨h, rfl⟩
    rw [arranged, hsort]
    exact map_of_forall_eq fun v _ => ih hp v
  | sequence p q ihp ihq =>
    rw [sorts, Bool.or_eq_false_iff] at h
    exact Prod.ext (ihp h.1 v.1) (ihq h.2 v.2)
  | choice p q ihp ihq =>
    rw [sorts, Bool.or_eq_false_iff] at h
    cases v with
    | inl v => exact congrArg Sum.inl (ihp h.1 v)
    | inr v => exact congrArg Sum.inr (ihq h.2 v)

end Production

/-! ## Nodes in order -/

/-- An absent list is in order. -/
theorem getD_map_of_nil {α β : Type} {f : List α → List β} (hf : f [] = []) (o : Option (List α)) :
    (o.map f).getD [] = f (o.getD []) := by
  cases o with
  | none => exact hf.symm
  | some as => rfl

/-- There is nothing to sort. -/
theorem canonicalSort_nil {α : Type} [Ranked α] : canonicalSort ([] : List α) = [] :=
  canonicalSort_of_ordered .nil

/-- A section that is missing is sorted as one without items. -/
theorem getD_map_canonicalSort {α : Type} [Ranked α] (o : Option (List α)) :
    (o.map canonicalSort).getD [] = canonicalSort (o.getD []) :=
  getD_map_of_nil canonicalSort_nil o

/-- A node is put in order by putting its parts in order. -/
theorem Rule.arranged_build (r : Rule) (v : r.production.Value) :
    r.arranged (r.build v) = r.build (r.production.arranged v) := by
  cases r with
  | aspects | classes | instances | document | source => rfl
  | constructors | functionals | functions | methods | modules | specializations =>
    exact congrArg canonicalSort (List.map_id' _).symm
  | imports =>
    obtain ⟨⟨_, ms⟩, _⟩ := v
    exact (getD_map_canonicalSort ms).symm
  | types =>
    obtain ⟨⟨_, ss⟩, fs⟩ := v
    exact congrArg₂ Types.mk (getD_map_canonicalSort ss).symm (getD_map_canonicalSort fs).symm
  | aspect =>
    obtain ⟨⟨⟨⟨d, _⟩, _⟩, ms⟩, _⟩ := v
    exact congrArg (Aspect.mk d) (getD_map_canonicalSort ms).symm
  | classInterface =>
    obtain ⟨⟨⟨⟨d, _⟩, _⟩, ⟨⟨cs, ns⟩, fs⟩⟩, _⟩ := v
    have hcs := getD_map_of_nil (f := fun cs : List Constant => cs) rfl cs
    exact (congr (congr (congrArg (Class.mk d) hcs) (getD_map_canonicalSort ns))
      (getD_map_canonicalSort fs)).symm
  | instanceInterface =>
    obtain ⟨⟨⟨⟨d, _⟩, _⟩, ⟨⟨ts, as⟩, ms⟩⟩, _⟩ := v
    have hts := getD_map_of_nil (f := fun ts : List Attribute => ts) rfl ts
    have has := getD_map_of_nil (f := fun as : List Abstraction => as) rfl as
    exact (congr (congr (congrArg (Instance.mk d) hts) has) (getD_map_canonicalSort ms)).symm
  | interfaces =>
    obtain ⟨⟨⟨_, as⟩, cs⟩, is⟩ := v
    have has := getD_map_of_nil (f := fun as => canonicalSort (as.map Aspect.arranged))
      canonicalSort_nil as
    have hcs := getD_map_of_nil (f := fun cs => canonicalSort (cs.map Class.arranged))
      canonicalSort_nil cs
    have his := getD_map_of_nil (f := fun is => canonicalSort (is.map Instance.arranged))
      canonicalSort_nil is
    exact (congr (congrArg₂ Interfaces.mk has hcs) his).symm
  -- nothing is sorted in any of the others
  | _ =>
    rw [Production.arranged_of_not_sorts (by decide)]
    rfl

end PackageModel
