import PackageModel.Proofs.Validation.Rules

/-!
# PackageModel.Proofs.Validation.Permutation

The order of declarations does not matter to validation.  A table of items with distinct keys
depends on the items alone, and the walk sees nothing of a document but its tables.
-/

namespace PackageModel

/-! ## Tables -/

section

variable {α : Type} {key : α → String} {as bs : List α}

/-- Lists with the same items, all with distinct keys, have the same survivors. -/
theorem survivors_eq_of_perm (h : as.Perm bs) (hkeys : as.Pairwise fun a b => key a ≠ key b) :
    survivors key as = survivors key bs := by
  have hkeys' : bs.Pairwise fun a b => key a ≠ key b := (h.pairwise_iff Ne.symm).1 hkeys
  have hperm : (survivors key as).Perm (survivors key bs) :=
    calc (survivors key as).Perm (lastOfKeys key as) := survivors_perm as
      _ = as := lastOfKeys_eq_self hkeys
      List.Perm _ bs := h
      _ = lastOfKeys key bs := (lastOfKeys_eq_self hkeys').symm
      List.Perm _ (survivors key bs) := (survivors_perm bs).symm
  -- The keys of survivors increase, which leaves one order only.
  exact hperm.eq_of_pairwise (fun _ _ _ _ hab hba => absurd hba (String.lt_asymm hab))
    (survivors_pairwise as) (survivors_pairwise bs)

/-- A table does not depend on the order of items with different keys. -/
theorem Table.ofList_eq_of_perm (h : as.Perm bs)
    (hkeys : as.Pairwise fun a b => key a ≠ key b) : ofList key as = ofList key bs := by
  rw [ofList_eq, ofList_eq, survivors_eq_of_perm h hkeys]

end

/-! ## Documents -/

namespace Document

variable {d d' : Document}

/-- The documents have the same imports and declarations, perhaps in another order. -/
structure Permuted (d d' : Document) : Prop where
  modules : d.modules.Perm d'.modules
  specializations : d.specializations.Perm d'.specializations
  functionals : d.functionals.Perm d'.functionals
  aspects : d.aspects.Perm d'.aspects
  classes : d.classes.Perm d'.classes
  instances : d.instances.Perm d'.instances

/-- No entry of the catalog stands for two declarations, or for two imports. -/
structure EntriesDistinct (d : Document) : Prop extends d.KeysDistinct where
  modules : d.modules.Pairwise fun m n =>
    Unicode.lowercase m.identifier ≠ Unicode.lowercase n.identifier

/-- A catalog without replaced entries does not depend on the order of the declarations. -/
theorem catalog_eq_of_permuted (h : d.Permuted d') (hdistinct : d.EntriesDistinct) :
    Catalog.ofDocument d = Catalog.ofDocument d' := by
  simp only [Catalog.ofDocument, Table.ofList_eq_of_perm h.modules hdistinct.modules,
    Table.ofList_eq_of_perm h.specializations hdistinct.specializations,
    Table.ofList_eq_of_perm h.functionals hdistinct.functionals,
    Table.ofList_eq_of_perm h.aspects hdistinct.aspects,
    Table.ofList_eq_of_perm h.classes hdistinct.classes,
    Table.ofList_eq_of_perm h.instances hdistinct.instances]

/-- Documents that differ in the order of their declarations have the same result, with the same
first violation, and on both of them the walk sees the same names in the same order. -/
theorem validation_of_permuted (h : d.Permuted d') (hdistinct : d.EntriesDistinct) :
    d.validate = d'.validate ∧
      (Catalog.ofDocument d).validation.2 = (Catalog.ofDocument d').validation.2 := by
  have hcatalog : Catalog.ofDocument d = Catalog.ofDocument d' :=
    catalog_eq_of_permuted h hdistinct
  exact ⟨by rw [validate, validate, hcatalog], by rw [hcatalog]⟩

/-- Both types break a rule, and the one that comes first in the catalog is reported, although it
has been declared behind the other one. -/
theorem validation_of_permuted_types :
    let a : Specialization := ⟨⟨"", "A", []⟩, .mk none "C" [.mk (some (.aliased "abc")) "Z" []],
      none⟩
    let b : Specialization := ⟨⟨"", "B", []⟩, .mk (some (.aliased "xyz")) "Z" [], none⟩
    let f : Functional := ⟨⟨"", "F", []⟩, [⟨"a", .named "A"⟩], .abstraction (.named "B")⟩
    let g : Functional := ⟨⟨"", "G", []⟩, [], .abstraction (.named "F")⟩
    let d : Document := ⟨"", ⟨"", "p"⟩, some [⟨"foo", "\"x\""⟩, ⟨"bar", "\"y\""⟩],
      some ⟨[b, a], [g, f]⟩, none⟩
    let d' : Document := ⟨"", ⟨"", "p"⟩, some [⟨"bar", "\"y\""⟩, ⟨"foo", "\"x\""⟩],
      some ⟨[a, b], [f, g]⟩, none⟩
    d.Permuted d' ∧ d.EntriesDistinct ∧ d'.validate = d.validate ∧
      d.validate = .error (.unknownModule "abc") ∧
      (Catalog.ofDocument d').validation.2 = ["C"] := by
  intro a b f g d d'
  have hpermuted : d.Permuted d' :=
    ⟨.swap .., .swap .., .swap .., .refl _, .refl _, .refl _⟩
  have hdistinct : d.EntriesDistinct :=
    { classes := .nil, instances := .nil, aspects := .nil
      specializations := by decide +kernel
      functionals := by decide +kernel
      modules := by decide +kernel }
  obtain ⟨hvalidate, hnames⟩ := validation_of_permuted hpermuted hdistinct
  refine ⟨hpermuted, hdistinct, hvalidate.symm, by decide +kernel, ?_⟩
  rw [← hnames]
  decide +kernel

/-- With one key for two declarations their order matters: the last one replaces the other. -/
example : (ofSpecializations [⟨⟨"", "a", []⟩, .named "A", none⟩,
      ⟨⟨"", "A", []⟩, .named "a", none⟩]).validate = .error (.unused .specialization "A") ∧
    (ofSpecializations [⟨⟨"", "A", []⟩, .named "a", none⟩,
      ⟨⟨"", "a", []⟩, .named "A", none⟩]).validate = .error (.unused .specialization "a") := by
  decide +kernel

end Document

end PackageModel
