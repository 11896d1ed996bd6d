import Mathlib.Data.List.Sort
import PackageModel.Catalog

/-!
# PackageModel.Proofs.Validation.Survivors

What a table holds.  Of the items with one key the last one survives, and the survivors are in the
order of their keys.
-/

namespace PackageModel

section

variable {α : Type} (key : α → String)

/-- The items behind which there is none with the same key. -/
def lastOfKeys : List α → List α
  | [] => []
  | a :: as => if ∃ b ∈ as, key b = key a then lastOfKeys as else a :: lastOfKeys as

/-- The last item of each key, in the order of the keys. -/
def survivors (as : List α) : List α :=
  (lastOfKeys key as).insertionSort fun a b => key a ≤ key b

variable {key} {as : List α} {a b : α} {k : String}

example : survivors Unicode.lowercase ["b", "A", "c", "a"] = ["a", "b", "c"] := by decide +kernel

/-! ## The last item of each key -/

/-- The first item survives if its key does not come again. -/
theorem mem_lastOfKeys_cons :
    b ∈ lastOfKeys key (a :: as) ↔
      (b = a ∧ ∀ c ∈ as, key c ≠ key a) ∨ b ∈ lastOfKeys key as := by
  rw [lastOfKeys]
  split
  · next h =>
    obtain ⟨c, hc, hkey⟩ := h
    exact ⟨.inr, fun hb => hb.resolve_left fun hlast => hlast.2 c hc hkey⟩
  · next h =>
    have hlast : ∀ c ∈ as, key c ≠ key a := fun c hc hkey => h ⟨c, hc, hkey⟩
    rw [List.mem_cons]
    exact ⟨Or.imp_left fun hb => ⟨hb, hlast⟩, Or.imp_left And.left⟩

/-- An item survives if no item behind it has the same key. -/
theorem mem_lastOfKeys :
    b ∈ lastOfKeys key as ↔ ∃ pre post, as = pre ++ b :: post ∧ ∀ c ∈ post, key c ≠ key b := by
  induction as with
  | nil => simp [lastOfKeys]
  | cons a as ih =>
    rw [mem_lastOfKeys_cons, ih]
    constructor
    · rintro (⟨rfl, hlast⟩ | ⟨pre, post, rfl, hlast⟩)
      · exact ⟨[], as, rfl, hlast⟩
      · exact ⟨a :: pre, post, rfl, hlast⟩
    · rintro ⟨pre, post, has, hlast⟩
      cases pre with
      | nil =>
        obtain ⟨rfl, rfl⟩ := List.cons.inj has
        exact .inl ⟨rfl, hlast⟩
      | cons c pre => exact .inr ⟨pre, post, (List.cons.inj has).2, hlast⟩

/-- What survives is one of the items. -/
theorem mem_of_mem_lastOfKeys (h : b ∈ lastOfKeys key as) : b ∈ as := by
  obtain ⟨pre, post, rfl, -⟩ := mem_lastOfKeys.1 h
  exact List.mem_append_right pre List.mem_cons_self

/-- Each key has one item that survives. -/
theorem lastOfKeys_pairwise (as : List α) :
    (lastOfKeys key as).Pairwise fun a b => key a ≠ key b := by
  induction as with
  | nil => exact .nil
  | cons a as ih =>
    rw [lastOfKeys]
    split
    · exact ih
    · next h =>
      exact ih.cons fun b hb hkey => h ⟨b, mem_of_mem_lastOfKeys hb, hkey.symm⟩

/-- Items with different keys all survive. -/
theorem lastOfKeys_eq_self (h : as.Pairwise fun a b => key a ≠ key b) :
    lastOfKeys key as = as := by
  induction h with
  | nil => rfl
  | cons ha _ ih =>
    rw [lastOfKeys, if_neg, ih]
    rintro ⟨b, hb, hkey⟩
    exact ha b hb hkey.symm

/-- There is an item with a key if and only if one survives. -/
theorem exists_mem_lastOfKeys :
    (∃ b ∈ lastOfKeys key as, key b = k) ↔ ∃ b ∈ as, key b = k := by
  induction as with
  | nil => rfl
  | cons a as ih =>
    simp only [mem_lastOfKeys_cons, List.exists_mem_cons_iff, or_and_right, exists_or, ih,
      and_assoc, exists_eq_left]
    by_cases h : ∃ b ∈ as, key b = k
    · simp [h]
    · simp only [h, or_false, and_iff_right_iff_imp]
      rintro rfl c hc hkey
      exact h ⟨c, hc, hkey⟩

/-- If all items of some keys are left out, the last items of the other keys stay the same. -/
theorem lastOfKeys_filter {p : α → Bool} (hp : ∀ a b, key a = key b → p a = p b) (as : List α) :
    lastOfKeys key (as.filter p) = (lastOfKeys key as).filter p := by
  induction as with
  | nil => rfl
  | cons a as ih =>
    by_cases ha : p a = true
    · have hsame : (∃ b ∈ as.filter p, key b = key a) ↔ ∃ b ∈ as, key b = key a := by
        simp only [List.mem_filter]
        constructor
        · rintro ⟨b, ⟨hb, -⟩, hkey⟩
          exact ⟨b, hb, hkey⟩
        · rintro ⟨b, hb, hkey⟩
          exact ⟨b, ⟨hb, (hp b a hkey).trans ha⟩, hkey⟩
      rw [List.filter_cons_of_pos ha, lastOfKeys, lastOfKeys, ih]
      simp only [hsame]
      split <;> simp [ha]
    · rw [List.filter_cons_of_neg ha, ih, lastOfKeys]
      split <;> simp [ha]

/-! ## Survivors -/

/-- Sorting only moves what survives. -/
theorem survivors_perm (as : List α) : (survivors key as).Perm (lastOfKeys key as) :=
  List.perm_insertionSort _ _

@[simp] theorem mem_survivors : b ∈ survivors key as ↔ b ∈ lastOfKeys key as :=
  (survivors_perm as).mem_iff

/-- The keys of the survivors increase. -/
theorem survivors_pairwise (as : List α) :
    (survivors key as).Pairwise fun a b => key a < key b := by
  have : Std.Total fun a b => key a ≤ key b := ⟨fun a b => String.le_total (key a) (key b)⟩
  have : IsTrans α fun a b => key a ≤ key b := ⟨fun _ _ _ => String.le_trans⟩
  have hle : (survivors key as).Pairwise fun a b => key a ≤ key b :=
    List.pairwise_insertionSort _ _
  have hne : (survivors key as).Pairwise fun a b => key a ≠ key b :=
    (survivors_perm as).pairwise_iff Ne.symm |>.2 (lastOfKeys_pairwise as)
  exact (hle.and hne).imp fun h => Std.lt_of_le_of_ne h.1 h.2

/-- If all items of some keys are left out, the other survivors stay the same. -/
theorem survivors_filter {p : α → Bool} (hp : ∀ a b, key a = key b → p a = p b) (as : List α) :
    survivors key (as.filter p) = (survivors key as).filter p := by
  have hperm : (survivors key (as.filter p)).Perm ((survivors key as).filter p) :=
    calc (survivors key (as.filter p)).Perm (lastOfKeys key (as.filter p)) := survivors_perm _
      _ = (lastOfKeys key as).filter p := lastOfKeys_filter hp as
      List.Perm _ ((survivors key as).filter p) := ((survivors_perm as).filter p).symm
  exact hperm.eq_of_pairwise (fun _ _ _ _ hab hba => absurd hba (String.lt_asymm hab))
    (survivors_pairwise _) ((survivors_pairwise as).filter p)

/-- Lists have the same keys if and only if their survivors have. -/
theorem map_survivors_eq_iff {β : Type} {key' : β → String} {bs : List β} :
    (survivors key as).map key = (survivors key' bs).map key' ↔
      ∀ k, (∃ a ∈ as, key a = k) ↔ ∃ b ∈ bs, key' b = k := by
  have hmem (k : String) : (k ∈ (survivors key as).map key ↔ k ∈ (survivors key' bs).map key') ↔
      ((∃ a ∈ as, key a = k) ↔ ∃ b ∈ bs, key' b = k) := by
    simp only [List.mem_map, mem_survivors, exists_mem_lastOfKeys]
  constructor
  · intro h k
    rw [← hmem, h]
  · intro h
    exact List.Pairwise.eq_of_mem_iff (List.pairwise_map.2 (survivors_pairwise as))
      (List.pairwise_map.2 (survivors_pairwise bs)) fun k => (hmem k).2 (h k)

end

/-! ## Tables -/

namespace Table

variable {α : Type} {t : Table α} {a : α} {k : String} {x : String × α}

/-- The keys of the entries increase. -/
def Sorted (t : Table α) : Prop := t.Pairwise fun x y => x.1 < y.1

/-- An entry takes the place of one with the same key. -/
theorem mem_put (h : t.Sorted) : x ∈ t.put k a ↔ x = (k, a) ∨ (x ∈ t ∧ x.1 ≠ k) := by
  induction t with
  | nil => simp [put]
  | cons y t ih =>
    obtain ⟨k', b⟩ := y
    obtain ⟨hhead, htail⟩ := List.pairwise_cons.1 h
    rw [put]
    split
    · next hlt =>
      -- all keys from here on are larger, so none is replaced
      have hne : ∀ y ∈ (k', b) :: t, y.1 ≠ k := by
        refine List.forall_mem_cons.2 ⟨(String.ne_of_lt hlt).symm, fun y hy => ?_⟩
        exact (String.ne_of_lt (String.lt_trans hlt (hhead y hy))).symm
      rw [List.mem_cons]
      exact or_congr_right ⟨fun hx => ⟨hx, hne x hx⟩, And.left⟩
    split
    · next hle heq =>
      subst heq
      have hne : ∀ y ∈ t, y.1 ≠ k := fun y hy => (String.ne_of_lt (hhead y hy)).symm
      rw [List.mem_cons, List.mem_cons]
      refine or_congr_right ⟨fun hx => ⟨.inr hx, hne x hx⟩, ?_⟩
      rintro ⟨rfl | hx, hk⟩
      · exact absurd rfl hk
      · exact hx
    · next hle hne =>
      rw [List.mem_cons, List.mem_cons, ih htail]
      constructor
      · rintro (rfl | rfl | hx)
        · exact .inr ⟨.inl rfl, Ne.symm hne⟩
        · exact .inl rfl
        · exact .inr ⟨.inr hx.1, hx.2⟩
      · rintro (rfl | ⟨rfl | hx, hk⟩)
        · exact .inr (.inl rfl)
        · exact .inl rfl
        · exact .inr (.inr ⟨hx, hk⟩)

/-- Putting an entry into a sorted table keeps it sorted. -/
theorem sorted_put (h : t.Sorted) : (t.put k a).Sorted := by
  induction t with
  | nil => exact List.pairwise_singleton _ _
  | cons y t ih =>
    obtain ⟨k', b⟩ := y
    obtain ⟨hhead, htail⟩ := List.pairwise_cons.1 h
    rw [put]
    split
    · next hlt =>
      refine List.pairwise_cons.2 ⟨List.forall_mem_cons.2 ⟨hlt, fun y hy => ?_⟩, h⟩
      exact String.lt_trans hlt (hhead y hy)
    split
    · next heq =>
      subst heq
      exact List.pairwise_cons.2 ⟨hhead, htail⟩
    · next hle hne =>
      refine List.pairwise_cons.2 ⟨fun y hy => ?_, ih htail⟩
      rcases (mem_put htail).1 hy with rfl | ⟨hy, -⟩
      · exact Std.lt_of_le_of_ne (String.not_lt.1 hle) (Ne.symm hne)
      · exact hhead y hy

/-- Putting in items one after the other leaves the last one of each key. -/
theorem mem_foldl_put (key : α → String) (items : List α) (h : t.Sorted) :
    (items.foldl (fun t a => t.put (key a) a) t).Sorted ∧
      ∀ x, x ∈ items.foldl (fun t a => t.put (key a) a) t ↔
        (x.2 ∈ lastOfKeys key items ∧ key x.2 = x.1) ∨
          (x ∈ t ∧ ∀ a ∈ items, key a ≠ x.1) := by
  induction items generalizing t with
  | nil => exact ⟨h, fun x => by simp [lastOfKeys]⟩
  | cons a items ih =>
    obtain ⟨hsorted, hmem⟩ := ih (sorted_put (a := a) (k := key a) h)
    refine ⟨hsorted, fun x => ?_⟩
    rw [List.foldl_cons, hmem, mem_put h, mem_lastOfKeys_cons, List.forall_mem_cons]
    -- Either no item behind `a` has its key, and it stays in the table, or it is replaced.
    obtain ⟨k, b⟩ := x
    grind

/-- A table holds the survivors, under their keys. -/
theorem ofList_eq (key : α → String) (items : List α) :
    ofList key items = (survivors key items).map fun a => (key a, a) := by
  obtain ⟨hsorted, hmem⟩ := mem_foldl_put key items (.nil : Sorted [])
  have hpairwise : Sorted ((survivors key items).map fun a => (key a, a)) :=
    List.pairwise_map.2 (survivors_pairwise items)
  have : Std.Irrefl fun x y : String × α => x.1 < y.1 := ⟨fun x => String.lt_irrefl x.1⟩
  have : Std.Antisymm fun x y : String × α => x.1 < y.1 :=
    ⟨fun x y hxy hyx => absurd hyx (String.lt_asymm hxy)⟩
  refine List.Pairwise.eq_of_mem_iff hsorted hpairwise fun x => (hmem x).trans ?_
  obtain ⟨k, b⟩ := x
  simp [and_comm]

/-- A table holds the last item of each key, in the order of the keys. -/
theorem values_ofList (key : α → String) (items : List α) :
    (ofList key items).values = survivors key items := by
  rw [ofList_eq, values, List.map_map]
  exact List.map_id _

/-- The keys of a table are those of its items. -/
theorem keys_ofList (key : α → String) (items : List α) :
    (ofList key items).keys = (survivors key items).map key := by
  rw [ofList_eq, keys, List.map_map]
  rfl

end Table

end PackageModel
