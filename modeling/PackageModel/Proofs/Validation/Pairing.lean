import PackageModel.Proofs.Validation.Rules

/-!
# PackageModel.Proofs.Validation.Pairing

Classes and their instances.  The keys in the tables of a valid document are the same for classes
and instances; whether they pair up one to one depends on what has been replaced in the tables as
well.
-/

namespace PackageModel

/-! ## Replaced items -/

section

variable {α β : Type} {key : α → String} {key' : β → String} {as : List α} {bs : List β}

/-- The items behind which there is one with the same key. -/
def replaced (key : α → String) : List α → List α
  | [] => []
  | a :: as => if ∃ b ∈ as, key b = key a then a :: replaced key as else replaced key as

/-- An item survives or is replaced. -/
theorem lastOfKeys_append_replaced_perm (key : α → String) (as : List α) :
    (lastOfKeys key as ++ replaced key as).Perm as := by
  induction as with
  | nil => exact .refl _
  | cons a as ih =>
    rw [lastOfKeys, replaced]
    split
    · exact List.perm_middle.trans (ih.cons a)
    · exact ih.cons a

/-- Nothing is replaced where all keys are different. -/
theorem replaced_eq_nil (h : as.Pairwise fun a b => key a ≠ key b) : replaced key as = [] := by
  have hlength := (lastOfKeys_append_replaced_perm key as).length_eq
  rw [lastOfKeys_eq_self h, List.length_append] at hlength
  exact List.eq_nil_of_length_eq_zero (by omega)

/-! ## Lists of keys -/

/-- The keys of the items in order, each as often as there are items with it. -/
def sortedKeys (key : α → String) (as : List α) : List String :=
  (as.map key).insertionSort (· ≤ ·)

/-- Keys agree in order if they agree as often. -/
theorem sortedKeys_eq_iff :
    sortedKeys key as = sortedKeys key' bs ↔ (as.map key).Perm (bs.map key') := by
  have hperm : (sortedKeys key as).Perm (as.map key) := List.perm_insertionSort _ _
  have hperm' : (sortedKeys key' bs).Perm (bs.map key') := List.perm_insertionSort _ _
  constructor
  · intro h
    exact hperm.symm.trans (h ▸ hperm')
  · intro h
    exact (hperm.trans (h.trans hperm'.symm)).eq_of_pairwise
      (fun _ _ _ _ => String.le_antisymm) (List.pairwise_insertionSort _ _)
      (List.pairwise_insertionSort _ _)

/-- If the survivors have the same keys, the lists have the same keys exactly where the items that
have been replaced have. -/
theorem sortedKeys_eq_iff_replaced
    (h : (survivors key as).map key = (survivors key' bs).map key') :
    sortedKeys key as = sortedKeys key' bs ↔
      sortedKeys key (replaced key as) = sortedKeys key' (replaced key' bs) := by
  have hlast : ((lastOfKeys key as).map key).Perm ((lastOfKeys key' bs).map key') :=
    calc ((lastOfKeys key as).map key).Perm ((survivors key as).map key) :=
        ((survivors_perm as).map key).symm
      _ = (survivors key' bs).map key' := h
      List.Perm _ ((lastOfKeys key' bs).map key') := (survivors_perm bs).map key'
  have has : ((lastOfKeys key as).map key ++ (replaced key as).map key).Perm (as.map key) := by
    simpa using (lastOfKeys_append_replaced_perm key as).map key
  have hbs : ((lastOfKeys key' bs).map key' ++ (replaced key' bs).map key').Perm
      (bs.map key') := by
    simpa using (lastOfKeys_append_replaced_perm key' bs).map key'
  rw [sortedKeys_eq_iff, sortedKeys_eq_iff]
  constructor
  · intro hkeys
    have hall := has.trans (hkeys.trans hbs.symm)
    exact (List.perm_append_left_iff _).1 (hall.trans (hlast.symm.append_right _))
  · intro hreplaced
    exact has.symm.trans ((hlast.append hreplaced).trans hbs)

/-- If the survivors have the same keys, the lists are of one length exactly where as many items
have been replaced. -/
theorem length_eq_iff_replaced (h : (survivors key as).map key = (survivors key' bs).map key') :
    as.length = bs.length ↔ (replaced key as).length = (replaced key' bs).length := by
  have hlast : (lastOfKeys key as).length = (lastOfKeys key' bs).length :=
    calc (lastOfKeys key as).length = ((survivors key as).map key).length := by
          rw [List.length_map, (survivors_perm as).length_eq]
      _ = ((survivors key' bs).map key').length := by rw [h]
      _ = (lastOfKeys key' bs).length := by rw [List.length_map, (survivors_perm bs).length_eq]
  have has := (lastOfKeys_append_replaced_perm key as).length_eq
  have hbs := (lastOfKeys_append_replaced_perm key' bs).length_eq
  rw [List.length_append] at has hbs
  omega

end

/-! ## Documents -/

namespace Document

variable {d : Document}

/-- The keys in the tables of a valid document are those of the classes and of the instances. -/
theorem map_survivors_of_validate (h : d.validate = .ok ()) :
    (survivors rankKey d.classes).map rankKey = (survivors rankKey d.instances).map rankKey := by
  rw [validate_eq_firstOf, firstOf_eq_ok_iff] at h
  exact map_survivors_eq_iff.2 (violations_eq_nil_iff.1 h).2.1

/-- Without regard to how often a key occurs, the classes and the instances of a valid document have
the same keys.  They pair up one to one exactly if those that have been replaced in the tables do,
and are equally many exactly if equally many have been replaced; so both hold where no two classes
and no two instances have the same key. -/
theorem pairs_of_validate (h : d.validate = .ok ()) :
    (survivors rankKey d.classes).map rankKey = (survivors rankKey d.instances).map rankKey ∧
      (sortedKeys rankKey d.classes = sortedKeys rankKey d.instances ↔
        sortedKeys rankKey (replaced rankKey d.classes) =
          sortedKeys rankKey (replaced rankKey d.instances)) ∧
      (d.classes.length = d.instances.length ↔
        (replaced rankKey d.classes).length = (replaced rankKey d.instances).length) ∧
      ((d.classes.Pairwise fun a b => rankKey a ≠ rankKey b) →
        (d.instances.Pairwise fun a b => rankKey a ≠ rankKey b) →
        sortedKeys rankKey d.classes = sortedKeys rankKey d.instances ∧
          d.classes.length = d.instances.length) := by
  have hkeys := map_survivors_of_validate h
  have hiff := sortedKeys_eq_iff_replaced hkeys
  have hlength := length_eq_iff_replaced hkeys
  refine ⟨hkeys, hiff, hlength, fun hclasses hinstances => ⟨?_, ?_⟩⟩
  · rw [hiff, replaced_eq_nil hclasses, replaced_eq_nil hinstances]
    rfl
  · rw [hlength, replaced_eq_nil hclasses, replaced_eq_nil hinstances]
    rfl

/-- Two classes and their instances, the keys of which are distinct. -/
theorem pairs_of_validate_two :
    let d : Document := ⟨"", ⟨"", "p"⟩, none, none,
      some ⟨[], [⟨⟨"", "BarClassLike", []⟩, [], [], []⟩, ⟨⟨"", "fooClassLike", []⟩, [], [], []⟩],
        [⟨⟨"", "FooLike", []⟩, [], [], []⟩, ⟨⟨"", "barLike", []⟩, [], [], []⟩]⟩⟩
    d.validate = .ok () ∧ sortedKeys rankKey d.classes = ["bar", "foo"] ∧
      sortedKeys rankKey d.instances = ["bar", "foo"] := by
  intro d
  have hvalid : d.validate = .ok () := by decide +kernel
  have hclasses : d.classes.Pairwise fun a b => rankKey a ≠ rankKey b := by decide +kernel
  have hinstances : d.instances.Pairwise fun a b => rankKey a ≠ rankKey b := by decide +kernel
  obtain ⟨hsame, -⟩ := (pairs_of_validate hvalid).2.2.2 hclasses hinstances
  have hsorted : sortedKeys rankKey d.classes = ["bar", "foo"] := by decide +kernel
  exact ⟨hvalid, hsorted, hsame ▸ hsorted⟩

/-- A second class with the same key is not seen: the names of these classes differ in case only,
and there are no two instances for them. -/
theorem exists_validate_not_pairs :
    ∃ d : Document, d.validate = .ok () ∧ sortedKeys rankKey d.classes = ["foo", "foo"] ∧
      sortedKeys rankKey d.instances = ["foo"] := by
  refine ⟨⟨"", ⟨"", "p"⟩, none, none,
    some ⟨[], [⟨⟨"", "FooClassLike", []⟩, [], [], []⟩, ⟨⟨"", "fooClassLike", []⟩, [], [], []⟩],
      [⟨⟨"", "FooLike", []⟩, [], [], []⟩]⟩⟩, ?_, ?_, ?_⟩ <;> decide +kernel

end Document

end PackageModel
