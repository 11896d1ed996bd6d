import Mathlib.Logic.Function.Iterate
import PackageModel.Proofs.Validation.Rules

/-!
# PackageModel.Proofs.Validation.Removal

Removing what is not used.  A declaration that is not used can be taken out together with those
that it has replaced: no other rule is broken by that.  Other declarations may be left without a
use, but each removal leaves fewer of them, so that the document is valid in the end.
-/

namespace PackageModel

/-! ## Violations of the walk -/

/-- The shape of an attribute does not make it unused. -/
theorem Attribute.unused_not_mem_faults {a : Attribute} {kind : Unused} {name : String} :
    .unused kind name ∉ a.faults := by
  unfold faults
  split_ifs
  · simp
  · simp
  · simp
  · simp
  · split
    · simp [answerFaults]
    · simp
  · simp

namespace Document

variable {d : Document} {kind : Unused} {name : String}

/-- The walk does not ask whether names are used. -/
theorem unused_not_mem_walkViolations : .unused kind name ∉ d.walkViolations := by
  have hpart (p : Part) : .unused kind name ∉ p.violations d := by
    cases p <;> simp [Part.violations, Part.faults, Attribute.unused_not_mem_faults, unknown]
  have halias : .unused kind name ∉ d.aliasViolations := by
    simp only [aliasViolations, List.mem_flatMap, not_exists, not_and]
    intro m hm
    split <;> simp
  have hpairing : .unused kind name ∉ d.pairingViolations := by
    dsimp only [pairingViolations]
    split <;> simp
  simp [walkViolations, Entry.violations, halias, hpairing, hpart]

/-- What is reported as unused. -/
theorem mem_unusedViolations {v : Violation} :
    v ∈ d.unusedViolations ↔ ∃ e ∈ d.entries, ∃ kind, e.mustBeUsed = some kind ∧
      e.identifier ∉ d.uses ∧ v = .unused kind e.identifier := by
  simp only [unusedViolations, List.mem_flatMap, Entry.unused]
  refine exists_congr fun e => and_congr_right fun _ => ?_
  cases e.mustBeUsed <;> simp

/-- If the walk finds nothing wrong, the document is valid or a declaration is not used. -/
theorem validate_of_walkViolations_nil (h : d.walkViolations = []) :
    d.validate = .ok () ∨ ∃ kind name, d.validate = .error (.unused kind name) := by
  rw [validate_eq_firstOf, violations, h, List.nil_append]
  cases hunused : d.unusedViolations with
  | nil => exact .inl rfl
  | cons v vs =>
    obtain ⟨e, -, kind, -, -, rfl⟩ := mem_unusedViolations.1 (hunused ▸ List.mem_cons_self)
    exact .inr ⟨kind, e.identifier, rfl⟩

/-- A declaration is reported as not used only if the walk finds nothing wrong. -/
theorem of_validate_unused (h : d.validate = .error (.unused kind name)) :
    d.walkViolations = [] ∧ ∃ e ∈ d.entries, e.mustBeUsed = some kind ∧ e.identifier = name := by
  rw [validate_eq_firstOf, violations] at h
  cases hwalk : d.walkViolations with
  | cons v vs =>
    rw [hwalk] at h
    obtain rfl : v = .unused kind name := Except.error.inj h
    exact absurd (hwalk ▸ List.mem_cons_self) unused_not_mem_walkViolations
  | nil =>
    rw [hwalk, List.nil_append] at h
    cases hunused : d.unusedViolations with
    | nil =>
      rw [hunused] at h
      cases h
    | cons v vs =>
      rw [hunused] at h
      obtain rfl : v = .unused kind name := Except.error.inj h
      obtain ⟨e, he, kind', hkind, -, heq⟩ :=
        mem_unusedViolations.1 (hunused ▸ List.mem_cons_self)
      cases heq
      exact ⟨rfl, e, he, hkind, rfl⟩

end Document

/-! ## Removal -/

/-- The declaration has to be used and is of the kind, and has the name, whatever its case. -/
def Entry.Matches (kind : Unused) (name : String) (e : Entry) : Prop :=
  e.mustBeUsed = some kind ∧ Unicode.lowercase e.identifier = Unicode.lowercase name

/-- Whether a declaration is the one to be removed can be computed. -/
instance (kind : Unused) (name : String) (e : Entry) : Decidable (e.Matches kind name) :=
  inferInstanceAs (Decidable (_ ∧ _))

namespace Document

variable {d : Document} {kind : Unused} {name : String}

/-- The document without the declarations of a kind that have the name, whatever its case. -/
def without (d : Document) (kind : Unused) (name : String) : Document :=
  { d with
    types := d.types.map fun t =>
      { specializations := t.specializations.filter (¬ ·.entry.Matches kind name)
        functionals := t.functionals.filter (¬ ·.entry.Matches kind name) }
    interfaces := d.interfaces.map fun i =>
      { i with aspects := i.aspects.filter (¬ ·.entry.Matches kind name) } }

/-- Removes what validation reports as not used, if it reports that. -/
def removeUnused (d : Document) : Document :=
  match d.validate with
  | .error (.unused kind name) => d.without kind name
  | _ => d

/-- Specializations of the name are removed if that is the kind. -/
theorem without_specializations : (d.without kind name).specializations =
    d.specializations.filter (¬ ·.entry.Matches kind name) := by
  unfold without specializations
  cases d.types <;> rfl

/-- Functionals of the name are removed if that is the kind. -/
theorem without_functionals : (d.without kind name).functionals =
    d.functionals.filter (¬ ·.entry.Matches kind name) := by
  unfold without functionals
  cases d.types <;> rfl

/-- Aspects of the name are removed if that is the kind. -/
theorem without_aspects : (d.without kind name).aspects =
    d.aspects.filter (¬ ·.entry.Matches kind name) := by
  unfold without aspects
  cases d.interfaces <;> rfl

/-- Classes need not be used, so none is removed. -/
theorem without_classes : (d.without kind name).classes = d.classes := by
  unfold without classes
  cases d.interfaces <;> rfl

/-- Instances need not be used, so none is removed. -/
theorem without_instances : (d.without kind name).instances = d.instances := by
  unfold without instances
  cases d.interfaces <;> rfl

section

variable {α : Type} (entry : α → Entry)

/-- Declarations that share a key are removed together, so that none comes back in their place. -/
theorem map_survivors_filter [Ranked α] {kind' : Unused} (as : List α)
    (h : ∀ a, (entry a).mustBeUsed = some kind' ∧
      Unicode.lowercase (entry a).identifier = rankKey a) :
    (survivors rankKey (as.filter fun a => ¬ (entry a).Matches kind name)).map entry =
      ((survivors rankKey as).map entry).filter (¬ ·.Matches kind name) := by
  rw [survivors_filter, List.filter_map]
  · rfl
  · intro a b hkey
    simp [Entry.Matches, h a, h b, hkey]

/-- Entries that need not be used are not removed. -/
theorem filter_map_of_mustBeUsed_eq_none (as : List α) (h : ∀ a, (entry a).mustBeUsed = none) :
    (as.map entry).filter (¬ ·.Matches kind name) = as.map entry := by
  rw [List.filter_eq_self, List.forall_mem_map]
  intro a _
  simp [Entry.Matches, h a]

end

/-- The entries of the kind and the name are gone, and the others stay as they are. -/
theorem entries_without : (d.without kind name).entries =
    d.entries.filter (¬ ·.Matches kind name) := by
  simp only [entries, entriesOf, List.filter_append, without_classes, without_instances,
    without_aspects, without_specializations, without_functionals]
  rw [filter_map_of_mustBeUsed_eq_none Class.entry _ fun _ => rfl,
    filter_map_of_mustBeUsed_eq_none Instance.entry _ fun _ => rfl,
    map_survivors_filter Aspect.entry d.aspects fun _ => ⟨rfl, rfl⟩,
    map_survivors_filter Specialization.entry d.specializations fun _ => ⟨rfl, rfl⟩,
    map_survivors_filter Functional.entry d.functionals fun _ => ⟨rfl, rfl⟩]

/-- Removing declarations breaks no rule of the walk. -/
theorem walkViolations_without (h : d.walkViolations = []) :
    (d.without kind name).walkViolations = [] := by
  simp only [walkViolations, List.append_eq_nil_iff, List.flatMap_eq_nil_iff] at h ⊢
  obtain ⟨⟨halias, hpairing⟩, hentries⟩ := h
  refine ⟨⟨halias, ?_⟩, ?_⟩
  · rw [pairingViolations, without_classes, without_instances]
    exact hpairing
  · intro e he
    rw [entries_without] at he
    exact hentries e (List.mem_of_mem_filter he)

/-- A removal leaves fewer entries. -/
theorem length_entries_without {e : Entry} (he : e ∈ d.entries) (hkind : e.mustBeUsed = some kind) :
    (d.without kind e.identifier).entries.length < d.entries.length := by
  rw [entries_without]
  refine List.length_filter_lt_length_iff_exists.2 ⟨e, he, ?_⟩
  simp [Entry.Matches, hkind]

/-- Removing what is not used, over and over, leads to a valid document. -/
theorem exists_iterate_removeUnused (h : d.walkViolations = []) :
    ∃ n ≤ d.entries.length, (removeUnused^[n] d).validate = .ok () ∧
      ∀ i < n, ∃ kind name, (removeUnused^[i] d).validate = .error (.unused kind name) := by
  induction hlength : d.entries.length using Nat.strongRecOn generalizing d with
  | _ length ih =>
    rcases validate_of_walkViolations_nil h with hvalid | ⟨kind, name, hunused⟩
    · exact ⟨0, Nat.zero_le _, hvalid, nofun⟩
    · obtain ⟨-, e, he, hkind, rfl⟩ := of_validate_unused hunused
      have hstep : d.removeUnused = d.without kind e.identifier := by
        rw [removeUnused, hunused]
      have hless := length_entries_without he hkind
      have hwalk : (d.without kind e.identifier).walkViolations = [] := walkViolations_without h
      obtain ⟨n, hn, hvalid, hbefore⟩ := ih _ (hlength ▸ hless) hwalk rfl
      refine ⟨n + 1, by omega, ?_, ?_⟩
      · rw [Function.iterate_succ_apply, hstep]
        exact hvalid
      · intro i hi
        cases i with
        | zero => exact ⟨kind, e.identifier, hunused⟩
        | succ i =>
          rw [Function.iterate_succ_apply, hstep]
          exact hbefore i (by omega)

/-- If a declaration is reported as not used, the document without it is valid or has another
declaration that is not used; nothing else is wrong with it.  Removing over and over what is
reported leads to a valid document. -/
theorem removeUnused_reaches_valid (h : d.validate = .error (.unused kind name)) :
    ((d.without kind name).validate = .ok () ∨
      ∃ kind' name', (d.without kind name).validate = .error (.unused kind' name')) ∧
    ∃ n ≤ d.entries.length, (removeUnused^[n] d).validate = .ok () ∧
      ∀ i < n, ∃ kind' name', (removeUnused^[i] d).validate = .error (.unused kind' name') := by
  obtain ⟨hwalk, -⟩ := of_validate_unused h
  exact ⟨validate_of_walkViolations_nil (walkViolations_without hwalk),
    exists_iterate_removeUnused hwalk⟩

/-- The type `a`, which has replaced `A`, is not used; without both of them `B` is not used either.
The alias in `A` is looked at neither before nor after that. -/
theorem removeUnused_reaches_valid_chain :
    let d := ofSpecializations [⟨⟨"", "A", []⟩, .mk (some (.aliased "abc")) "Z" [], none⟩,
      ⟨⟨"", "a", []⟩, .named "B", none⟩, ⟨⟨"", "B", []⟩, .named "string", none⟩]
    d.validate = .error (.unused .specialization "a") ∧
      (d.without .specialization "a").validate = .error (.unused .specialization "B") ∧
      (removeUnused^[2] d).validate = .ok () := by
  intro d
  have hunused : d.validate = .error (.unused .specialization "a") := by decide +kernel
  have hnext : (d.without .specialization "a").validate =
      .error (.unused .specialization "B") := by decide +kernel
  have hlength : d.entries.length = 2 := by decide +kernel
  refine ⟨hunused, hnext, ?_⟩
  obtain ⟨-, n, hn, hvalid, -⟩ := removeUnused_reaches_valid hunused
  have hstep : d.removeUnused = d.without .specialization "a" := by
    rw [removeUnused, hunused]
  rw [hlength] at hn
  clear_value d
  obtain rfl | rfl | rfl : n = 0 ∨ n = 1 ∨ n = 2 := by omega
  · rw [Function.iterate_zero_apply, hunused] at hvalid
    cases hvalid
  · rw [Function.iterate_one, hstep, hnext] at hvalid
    cases hvalid
  · exact hvalid

end Document

end PackageModel
