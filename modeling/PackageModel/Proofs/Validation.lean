import PackageModel.Proofs.Validation.Walk

/-!
# PackageModel.Proofs.Validation

What validation means.  It reports the first of the violations of a document, and the names that it
has seen in use are those that the declarations use.
-/

namespace PackageModel

open Walk

variable {d : Document}

namespace Document

/-! ## All rules -/

/-- The alias of a module is checked without a look at the uses. -/
theorem checkModule_reports (m : Module) (used : List String) :
    (Catalog.checkModule m).Reports used
      (if m.identifier.length = 3 then [] else [.moduleAlias m.identifier]) := by
  rw [Catalog.checkModule, Catalog.aliasLength]
  split <;> rfl

/-- Classes and instances are compared by their keys. -/
theorem checkPairing_reports (used : List String) :
    (Catalog.ofDocument d).checkPairing.Reports used d.pairingViolations := by
  rw [Catalog.checkPairing, Catalog.ofDocument, Table.keys_ofList, Table.keys_ofList,
    pairingViolations]
  split <;> rfl

/-- A declaration that has to be used is looked for among the uses. -/
theorem checkUsed_reports (kind : Unused) (x : Declaration) (used : List String) :
    (Catalog.checkUsed kind x).Reports used
      (if x.identifier ∈ used then [] else [.unused kind x.identifier]) := by
  have hrun : (Catalog.checkUsed kind x).run.run used =
      (if x.identifier ∉ used then throw (.unused kind x.identifier) else pure () :
        Walk Unit).run.run used := rfl
  rw [Reports, hrun, ite_not]
  split <;> rfl

section

variable {α : Type} [Ranked α] {entry : α → Entry} {used : List String} (as : List α)

/-- Checking the declarations of one kind. -/
theorem examines_table {check : α → Walk Unit} (h : ∀ a, d.Examines (check a) (entry a)) :
    Finds ((Table.ofList rankKey as).values.forM check) used
      (((survivors rankKey as).map entry).flatMap (·.violations d))
      (((survivors rankKey as).map entry).flatMap Entry.uses) := by
  rw [Table.values_ofList, List.flatMap_map, List.flatMap_map]
  exact Finds.forM (fun a _ => h a) used

/-- Asking whether the declarations of one kind are used. -/
theorem used_table (entry : α → Entry) {kind : Unused} {declaration : α → Declaration}
    {names : List String}
    (h : ∀ a, ∃ parts, entry a = (declaration a).entry (some kind) parts)
    (hused : ∀ name, name ∈ used ↔ name ∈ names) :
    Reports ((Table.ofList rankKey as).values.forM fun a => Catalog.checkUsed kind (declaration a))
      used (((survivors rankKey as).map entry).flatMap (·.unused names)) := by
  rw [Table.values_ofList, List.flatMap_map]
  refine Reports.forM fun a _ => ?_
  obtain ⟨parts, hentry⟩ := h a
  have hreports := checkUsed_reports kind (declaration a) used
  simpa only [hentry, Entry.unused, Declaration.entry, hused] using hreports

end

end Document

namespace Catalog

/-- The part of the check that sees the uses of names. -/
def walk (c : Catalog) : Walk Unit := do
  c.modules.values.forM checkModule
  c.checkPairing
  c.classes.values.forM c.checkClass
  c.instances.values.forM c.checkInstance
  c.aspects.values.forM c.checkAspect
  c.specializations.values.forM c.checkSpecialization
  c.functionals.values.forM c.checkFunctional

/-- The part of the check that asks whether names are used. -/
def checkUsage (c : Catalog) : Walk Unit := do
  c.aspects.values.forM fun a => checkUsed .aspect a.declaration
  c.specializations.values.forM fun s => checkUsed .specialization s.declaration
  c.functionals.values.forM fun f => checkUsed .functional f.declaration

/-- A check walks through the document first and looks for unused declarations then. -/
theorem check_eq (c : Catalog) : c.check = c.walk >>= fun _ => c.checkUsage := by
  simp only [check, walk, checkUsage, bind_assoc]

end Catalog

namespace Document

/-- The walk finds the violations in order, and records the uses of the whole document if there are
none. -/
theorem walk_finds (d : Document) :
    (Catalog.ofDocument d).walk.Finds [] d.walkViolations d.uses := by
  have hmodules : Finds ((Catalog.ofDocument d).modules.values.forM Catalog.checkModule) []
      d.aliasViolations [] := by
    rw [Catalog.ofDocument, Table.values_ofList]
    exact (Reports.forM fun m _ => checkModule_reports m []).finds
  have hwalk := hmodules.bind fun _ => (checkPairing_reports (d := d) _).finds.bind fun _ =>
    (examines_table (d := d) d.classes checkClass_examines).bind fun _ =>
    (examines_table (d := d) d.instances checkInstance_examines).bind fun _ =>
    (examines_table (d := d) d.aspects checkAspect_examines).bind fun _ =>
    (examines_table (d := d) d.specializations checkSpecialization_examines).bind fun _ =>
    examines_table (d := d) d.functionals checkFunctional_examines
  simp only [walkViolations, uses, entries, entriesOf, List.flatMap_append, List.append_assoc,
    List.nil_append] at hwalk ⊢
  exact hwalk

/-- Which declarations are unused depends only on what is recorded, not on its order. -/
theorem checkUsage_reports {used : List String} (h : ∀ name, name ∈ used ↔ name ∈ d.uses) :
    (Catalog.ofDocument d).checkUsage.Reports used d.unusedViolations := by
  have haspects := used_table d.aspects Aspect.entry (fun a => ⟨_, rfl⟩) h
  have hspecializations :=
    used_table d.specializations Specialization.entry (fun s => ⟨_, rfl⟩) h
  have hfunctionals := used_table d.functionals Functional.entry (fun f => ⟨_, rfl⟩) h
  have hnone : (((survivors rankKey d.classes).map Class.entry ++
      (survivors rankKey d.instances).map Instance.entry).flatMap (·.unused d.uses)) = [] := by
    simp [Entry.unused, Class.entry, Instance.entry, Declaration.entry]
  have husage := haspects.bind (hspecializations.bind hfunctionals)
  rw [unusedViolations, entries, entriesOf, List.flatMap_append, List.flatMap_append,
    List.flatMap_append, hnone, List.nil_append, List.append_assoc]
  exact husage

/-- If the walk finds nothing wrong, what is left is the first name that is not used. -/
theorem validation_of_walkViolations (h : d.walkViolations = []) :
    (Catalog.ofDocument d).validation = (firstOf d.unusedViolations, d.uses.eraseDups) := by
  have hwalk := d.walk_finds
  rw [h] at hwalk
  have hrun : (Catalog.ofDocument d).walk.run.run [] = (.ok (), d.uses.foldl record []) := hwalk
  have husage : (Catalog.ofDocument d).checkUsage.Reports d.uses.eraseDups d.unusedViolations :=
    checkUsage_reports fun _ => List.mem_eraseDups
  unfold Reports at husage
  rw [Catalog.validation, Catalog.check_eq, run_bind, hrun, foldl_record]
  simpa using husage

/-- A violation that the walk finds is reported. -/
theorem validate_of_walkViolations {v : Violation} {vs : List Violation}
    (h : d.walkViolations = v :: vs) : d.validate = .error v := by
  have hwalk := d.walk_finds
  rw [h] at hwalk
  have hrun : ((Catalog.ofDocument d).walk.run.run []).1 = .error v := hwalk
  rw [validate, Catalog.validation, Catalog.check_eq, run_bind,
    ← Prod.mk.eta (p := (Catalog.ofDocument d).walk.run.run []), hrun]

/-- Validation stops at the first of all violations. -/
theorem validate_eq_firstOf (d : Document) : d.validate = firstOf d.violations := by
  cases h : d.walkViolations with
  | nil =>
    rw [violations, h, List.nil_append]
    exact congrArg Prod.fst (validation_of_walkViolations h)
  | cons v vs =>
    rw [violations, h]
    exact validate_of_walkViolations h

/-- Validation does what the lists say: it stops at the first of all violations, and if the walk has
found none, the names that it has seen in use are those that the declarations use, in the order of
their first uses. -/
theorem validation_spec (d : Document) :
    d.validate = firstOf d.violations ∧
      (d.walkViolations = [] → (Catalog.ofDocument d).validation.2 = d.uses.eraseDups) :=
  ⟨validate_eq_firstOf d, fun h => congrArg Prod.snd (validation_of_walkViolations h)⟩

/-- A document with these types only. -/
def ofSpecializations (specializations : List Specialization) : Document :=
  ⟨"", ⟨"", "p"⟩, none, some ⟨specializations, []⟩, none⟩

/-- A type that is used by itself only.  The first type is not looked at: the second one has the
same key. -/
theorem validation_spec_unused :
    let d := ofSpecializations [⟨⟨"", "A", []⟩, .mk (some (.aliased "abc")) "Z" [], none⟩,
      ⟨⟨"", "a", []⟩, .named "B", none⟩, ⟨⟨"", "B", []⟩, .named "a", none⟩,
      ⟨⟨"", "C", []⟩, .mk (some (.map "K")) "a" [.named "C"], none⟩]
    d.walkViolations = [] ∧ d.validate = .error (.unused .specialization "C") ∧
      (Catalog.ofDocument d).validation.2 = ["B", "a", "K"] := by
  intro d
  have hwalk : d.walkViolations = [] := by decide +kernel
  obtain ⟨hvalidate, huses⟩ := validation_spec d
  refine ⟨hwalk, ?_, ?_⟩
  · rw [hvalidate]
    decide +kernel
  · rw [huses hwalk]
    decide +kernel

end Document

end PackageModel
