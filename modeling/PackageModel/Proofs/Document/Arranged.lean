import Mathlib.Data.List.Forall2
import Mathlib.Data.List.Nodup
import PackageModel.Document.Order

/-!
# PackageModel.Proofs.Document.Arranged

The canonical order.  `canonicalSort` is a stable sort, and it leaves a list alone that is in order
already.  `Document.arranged` puts all the siblings of a document that have a canonical order into
it; a document is in order if and only if nothing has to be moved.
-/

namespace PackageModel

section

variable {α : Type} [Ranked α]

/-- The keys of the items do not decrease. -/
def Ordered (items : List α) : Prop := items.Pairwise fun a b => rankKey a ≤ rankKey b

/-- Whether items are in order can be computed. -/
instance (items : List α) : Decidable (Ordered items) :=
  inferInstanceAs (Decidable (items.Pairwise fun a b => rankKey a ≤ rankKey b))

/-- The second list has the items of the first one in order, and those with equal keys as they
were. -/
structure StableSort (items sorted : List α) : Prop where
  perm : sorted.Perm items
  ordered : Ordered sorted
  stable (k : String) : sorted.filter (rankKey · = k) = items.filter (rankKey · = k)

/-! ## Sorting -/

/-- Whether an item may stand in front of another one. -/
def rankLe (a b : α) : Bool := decide (rankKey a ≤ rankKey b)

/-- The order of the items is transitive. -/
theorem rankLe_trans (a b c : α) (hab : rankLe a b = true) (hbc : rankLe b c = true) :
    rankLe a c = true := by
  rw [rankLe, decide_eq_true_eq] at hab hbc ⊢
  exact String.le_trans hab hbc

/-- Any two items may stand in one order or the other. -/
theorem rankLe_total (a b : α) : (rankLe a b || rankLe b a) = true := by
  rw [Bool.or_eq_true, rankLe, rankLe, decide_eq_true_eq, decide_eq_true_eq]
  exact String.le_total _ _

/-- Each key is computed once, but the order is that of the items themselves. -/
theorem canonicalSort_eq_mergeSort (items : List α) :
    canonicalSort items = items.mergeSort rankLe := by
  have h : (items.mergeSort rankLe).map (fun a => (rankKey a, a)) =
      (items.map fun a => (rankKey a, a)).mergeSort fun a b => decide (a.1 ≤ b.1) :=
    List.map_mergeSort fun _ _ _ _ => rfl
  rw [canonicalSort, ← h, List.map_map]
  exact List.map_id _

/-- Sorting only moves items. -/
theorem canonicalSort_perm (items : List α) : (canonicalSort items).Perm items := by
  rw [canonicalSort_eq_mergeSort]
  exact List.mergeSort_perm _ _

/-- Sorting neither adds nor drops items. -/
@[simp] theorem mem_canonicalSort {items : List α} {a : α} :
    a ∈ canonicalSort items ↔ a ∈ items := (canonicalSort_perm items).mem_iff

/-- An item of a sorted list comes from one before the change. -/
theorem exists_of_mem_canonicalSort_map {β : Type} {f : β → α} {items : List β} {a : α}
    (h : a ∈ canonicalSort (items.map f)) : ∃ b ∈ items, a = f b := by
  obtain ⟨b, hb, rfl⟩ := List.mem_map.1 (mem_canonicalSort.1 h)
  exact ⟨b, hb, rfl⟩

/-- The result of sorting is in order. -/
theorem canonicalSort_ordered (items : List α) : Ordered (canonicalSort items) := by
  rw [canonicalSort_eq_mergeSort]
  exact (List.pairwise_mergeSort rankLe_trans rankLe_total items).imp of_decide_eq_true

/-- Items in order stay where they are. -/
theorem canonicalSort_of_ordered {items : List α} (h : Ordered items) :
    canonicalSort items = items := by
  rw [canonicalSort_eq_mergeSort]
  exact List.mergeSort_of_pairwise (h.imp decide_eq_true)

/-- The items with one key are in order, so sorting keeps them as they are. -/
theorem canonicalSort_filter (items : List α) (k : String) :
    (canonicalSort items).filter (rankKey · = k) = items.filter (rankKey · = k) := by
  have hsub : (items.filter (rankKey · = k)).Sublist (items.mergeSort rankLe) := by
    refine List.sublist_mergeSort rankLe_trans rankLe_total ?_ List.filter_sublist
    refine List.pairwise_iff_forall_sublist.2 fun {a b} hab => ?_
    have ha : rankKey a = k := of_decide_eq_true (List.mem_filter.1 (hab.subset (by simp))).2
    have hb : rankKey b = k := of_decide_eq_true (List.mem_filter.1 (hab.subset (by simp))).2
    rw [rankLe, ha, hb]
    exact decide_eq_true (String.le_refl k)
  have hfilter := hsub.filter (rankKey · = k)
  rw [List.filter_filter, ← canonicalSort_eq_mergeSort] at hfilter
  simp only [Bool.and_self] at hfilter
  exact (hfilter.eq_of_length ((canonicalSort_perm items).filter _).length_eq.symm).symm

/-- Items with different keys have only one order. -/
theorem canonicalSort_eq_of_perm {items items' : List α} (h : items'.Perm items)
    (hkeys : (items.map rankKey).Nodup) : canonicalSort items' = canonicalSort items := by
  have hperm : (canonicalSort items').Perm (canonicalSort items) :=
    (canonicalSort_perm items').trans (h.trans (canonicalSort_perm items).symm)
  refine hperm.eq_of_pairwise ?_ (canonicalSort_ordered _) (canonicalSort_ordered _)
  intro a b ha hb hab hba
  exact List.inj_on_of_nodup_map hkeys (h.mem_iff.1 (mem_canonicalSort.1 ha))
    (mem_canonicalSort.1 hb) (String.le_antisymm hab hba)

/-- `canonicalSort` is a stable sort. -/
theorem stableSort_canonicalSort (items : List α) : StableSort items (canonicalSort items) :=
  ⟨canonicalSort_perm items, canonicalSort_ordered items, canonicalSort_filter items⟩

end

/-! ## Documents in order -/

/-- The aspect with its methods in order. -/
def Aspect.arranged (a : Aspect) : Aspect := { a with methods := canonicalSort a.methods }

/-- The class with its constructors and functions in order.  Constants stay as they are. -/
def Class.arranged (c : Class) : Class :=
  { c with constructors := canonicalSort c.constructors, functions := canonicalSort c.functions }

/-- The instance with its methods in order.  Attributes and abstractions stay as they are. -/
def Instance.arranged (i : Instance) : Instance := { i with methods := canonicalSort i.methods }

/-- Both sections of the types in order. -/
def Types.arranged (t : Types) : Types :=
  { specializations := canonicalSort t.specializations,
    functionals := canonicalSort t.functionals }

/-- The members of each interface in order, and then the interfaces themselves. -/
def Interfaces.arranged (i : Interfaces) : Interfaces :=
  { aspects := canonicalSort (i.aspects.map Aspect.arranged),
    classes := canonicalSort (i.classes.map Class.arranged),
    instances := canonicalSort (i.instances.map Instance.arranged) }

/-- The document with its siblings in canonical order. -/
def Document.arranged (d : Document) : Document :=
  { d with
    imports := d.imports.map canonicalSort,
    types := d.types.map Types.arranged,
    interfaces := d.interfaces.map Interfaces.arranged }

/-- All siblings with a canonical order are in order. -/
structure Document.InOrder (d : Document) : Prop where
  modules : Ordered d.modules
  specializations : Ordered d.specializations
  functionals : Ordered d.functionals
  aspects : Ordered d.aspects
  classes : Ordered d.classes
  instances : Ordered d.instances
  aspectMethods : ∀ a ∈ d.aspects, Ordered a.methods
  constructors : ∀ c ∈ d.classes, Ordered c.constructors
  functions : ∀ c ∈ d.classes, Ordered c.functions
  instanceMethods : ∀ i ∈ d.instances, Ordered i.methods

/-- A document in order imports the same modules. -/
@[simp] theorem Document.mem_arranged_modules {d : Document} {m : Module} :
    m ∈ d.arranged.modules ↔ m ∈ d.modules := by
  obtain ⟨notice, header, imports, types, interfaces⟩ := d
  cases imports with
  | none => exact Iff.rfl
  | some ms => exact mem_canonicalSort

/-- A document in order has the same specializations. -/
@[simp] theorem Document.mem_arranged_specializations {d : Document} {s : Specialization} :
    s ∈ d.arranged.specializations ↔ s ∈ d.specializations := by
  obtain ⟨notice, header, imports, types, interfaces⟩ := d
  cases types with
  | none => exact Iff.rfl
  | some t => exact mem_canonicalSort

/-- A document in order has the same functionals. -/
@[simp] theorem Document.mem_arranged_functionals {d : Document} {f : Functional} :
    f ∈ d.arranged.functionals ↔ f ∈ d.functionals := by
  obtain ⟨notice, header, imports, types, interfaces⟩ := d
  cases types with
  | none => exact Iff.rfl
  | some t => exact mem_canonicalSort

/-- The aspects of a document in order are those of the document, each in order itself. -/
theorem Document.mem_arranged_aspects {d : Document} {a : Aspect} (h : a ∈ d.arranged.aspects) :
    ∃ b ∈ d.aspects, a = b.arranged := by
  obtain ⟨notice, header, imports, types, interfaces⟩ := d
  cases interfaces with
  | none => cases h
  | some i => exact exists_of_mem_canonicalSort_map h

/-- The classes of a document in order are those of the document, each in order itself. -/
theorem Document.mem_arranged_classes {d : Document} {c : Class} (h : c ∈ d.arranged.classes) :
    ∃ b ∈ d.classes, c = b.arranged := by
  obtain ⟨notice, header, imports, types, interfaces⟩ := d
  cases interfaces with
  | none => cases h
  | some i => exact exists_of_mem_canonicalSort_map h

/-- The instances of a document in order are those of the document, each in order itself. -/
theorem Document.mem_arranged_instances {d : Document} {i : Instance}
    (h : i ∈ d.arranged.instances) : ∃ b ∈ d.instances, i = b.arranged := by
  obtain ⟨notice, header, imports, types, interfaces⟩ := d
  cases interfaces with
  | none => cases h
  | some i => exact exists_of_mem_canonicalSort_map h

/-- A change that leaves every item alone leaves the list alone. -/
theorem map_of_forall_eq {α : Type} {f : α → α} {items : List α} (h : ∀ a ∈ items, f a = a) :
    items.map f = items := by
  rw [List.map_congr_left h, List.map_id']

/-- Methods in order stay where they are. -/
theorem Aspect.arranged_of_ordered {a : Aspect} (h : Ordered a.methods) : a.arranged = a := by
  rw [arranged, canonicalSort_of_ordered h]

/-- Constructors and functions in order stay where they are. -/
theorem Class.arranged_of_ordered {c : Class} (hc : Ordered c.constructors)
    (hf : Ordered c.functions) : c.arranged = c := by
  rw [arranged, canonicalSort_of_ordered hc, canonicalSort_of_ordered hf]

/-- Methods in order stay where they are. -/
theorem Instance.arranged_of_ordered {i : Instance} (h : Ordered i.methods) :
    i.arranged = i := by
  rw [arranged, canonicalSort_of_ordered h]

/-- Types in order stay where they are. -/
theorem Types.arranged_of_ordered {t : Types} (hs : Ordered t.specializations)
    (hf : Ordered t.functionals) : t.arranged = t := by
  rw [arranged, canonicalSort_of_ordered hs, canonicalSort_of_ordered hf]

/-- In a document in order nothing has to be moved. -/
theorem Document.arranged_of_inOrder {d : Document} (h : d.InOrder) : d.arranged = d := by
  obtain ⟨notice, header, imports, types, interfaces⟩ := d
  have himports : imports.map canonicalSort = imports := by
    cases imports with
    | none => rfl
    | some ms => exact congrArg some (canonicalSort_of_ordered h.modules)
  have htypes : types.map Types.arranged = types := by
    cases types with
    | none => rfl
    | some t => exact congrArg some (Types.arranged_of_ordered h.specializations h.functionals)
  have hinterfaces : interfaces.map Interfaces.arranged = interfaces := by
    cases interfaces with
    | none => rfl
    | some i =>
      have has : i.aspects.map Aspect.arranged = i.aspects :=
        map_of_forall_eq fun a ha => Aspect.arranged_of_ordered (h.aspectMethods a ha)
      have hcs : i.classes.map Class.arranged = i.classes := map_of_forall_eq fun c hc =>
        Class.arranged_of_ordered (h.constructors c hc) (h.functions c hc)
      have his : i.instances.map Instance.arranged = i.instances :=
        map_of_forall_eq fun i hi => Instance.arranged_of_ordered (h.instanceMethods i hi)
      have hoas : canonicalSort i.aspects = i.aspects := canonicalSort_of_ordered h.aspects
      have hocs : canonicalSort i.classes = i.classes := canonicalSort_of_ordered h.classes
      have hois : canonicalSort i.instances = i.instances := canonicalSort_of_ordered h.instances
      exact congrArg some (by rw [Interfaces.arranged, has, hcs, his, hoas, hocs, hois])
  simp only [arranged, himports, htypes, hinterfaces]

/-- Putting a document in order puts all its siblings in order. -/
theorem Document.arranged_inOrder (d : Document) : d.arranged.InOrder := by
  obtain ⟨notice, header, imports, types, interfaces⟩ := d
  have hnil {β : Type} [Ranked β] : Ordered ([] : List β) := List.Pairwise.nil
  refine ⟨?_, ?_, ?_, ?_, ?_, ?_, ?_, ?_, ?_, ?_⟩
  · cases imports with
    | none => exact hnil
    | some ms => exact canonicalSort_ordered ms
  · cases types with
    | none => exact hnil
    | some t => exact canonicalSort_ordered _
  · cases types with
    | none => exact hnil
    | some t => exact canonicalSort_ordered _
  · cases interfaces with
    | none => exact hnil
    | some i => exact canonicalSort_ordered _
  · cases interfaces with
    | none => exact hnil
    | some i => exact canonicalSort_ordered _
  · cases interfaces with
    | none => exact hnil
    | some i => exact canonicalSort_ordered _
  · intro a ha
    obtain ⟨b, -, rfl⟩ := mem_arranged_aspects ha
    exact canonicalSort_ordered _
  · intro c hc
    obtain ⟨b, -, rfl⟩ := mem_arranged_classes hc
    exact canonicalSort_ordered _
  · intro c hc
    obtain ⟨b, -, rfl⟩ := mem_arranged_classes hc
    exact canonicalSort_ordered _
  · intro i hi
    obtain ⟨b, -, rfl⟩ := mem_arranged_instances hi
    exact canonicalSort_ordered _

/-! ## Arrangement as a relation -/

/-- The methods of the second aspect are those of the first one in order. -/
structure Aspect.Arranged (a b : Aspect) : Prop where
  declaration : b.declaration = a.declaration
  methods : StableSort a.methods b.methods

/-- The constructors and the functions of the second class are those of the first one in order. -/
structure Class.Arranged (c e : Class) : Prop where
  declaration : e.declaration = c.declaration
  constants : e.constants = c.constants
  constructors : StableSort c.constructors e.constructors
  functions : StableSort c.functions e.functions

/-- The methods of the second instance are those of the first one in order. -/
structure Instance.Arranged (i j : Instance) : Prop where
  declaration : j.declaration = i.declaration
  attributes : j.attributes = i.attributes
  abstractions : j.abstractions = i.abstractions
  methods : StableSort i.methods j.methods

/-- The types of the second section are those of the first one in order. -/
structure Types.Arranged (t u : Types) : Prop where
  specializations : StableSort t.specializations u.specializations
  functionals : StableSort t.functionals u.functionals

/-- The interfaces of the second section are those of the first one, arranged one by one and then
put in order. -/
structure Interfaces.Arranged (i j : Interfaces) : Prop where
  aspects : ∃ as, List.Forall₂ Aspect.Arranged i.aspects as ∧ StableSort as j.aspects
  classes : ∃ cs, List.Forall₂ Class.Arranged i.classes cs ∧ StableSort cs j.classes
  instances : ∃ is, List.Forall₂ Instance.Arranged i.instances is ∧ StableSort is j.instances

/-- The second document is the first one with each group of siblings that has a canonical order
stably sorted, and all else as it is. -/
structure Document.Arranged (d e : Document) : Prop where
  notice : e.notice = d.notice
  header : e.header = d.header
  imports : Option.Rel StableSort d.imports e.imports
  types : Option.Rel Types.Arranged d.types e.types
  interfaces : Option.Rel Interfaces.Arranged d.interfaces e.interfaces

/-- `Interfaces.arranged` arranges the members and the interfaces. -/
theorem Interfaces.arranged_arranges (i : Interfaces) : i.Arranged i.arranged := by
  refine ⟨⟨_, ?_, stableSort_canonicalSort _⟩, ⟨_, ?_, stableSort_canonicalSort _⟩,
    ⟨_, ?_, stableSort_canonicalSort _⟩⟩
  · exact List.forall₂_map_right_iff.2
      (List.forall₂_same.2 fun a _ => ⟨rfl, stableSort_canonicalSort _⟩)
  · exact List.forall₂_map_right_iff.2 (List.forall₂_same.2 fun c _ =>
      ⟨rfl, rfl, stableSort_canonicalSort _, stableSort_canonicalSort _⟩)
  · exact List.forall₂_map_right_iff.2
      (List.forall₂_same.2 fun i _ => ⟨rfl, rfl, rfl, stableSort_canonicalSort _⟩)

/-- `Document.arranged` arranges a document. -/
theorem Document.arranged_arranges (d : Document) : d.Arranged d.arranged := by
  obtain ⟨notice, header, imports, types, interfaces⟩ := d
  refine ⟨rfl, rfl, ?_, ?_, ?_⟩
  · cases imports with
    | none => exact .none
    | some ms => exact .some (stableSort_canonicalSort ms)
  · cases types with
    | none => exact .none
    | some t => exact .some ⟨stableSort_canonicalSort _, stableSort_canonicalSort _⟩
  · cases interfaces with
    | none => exact .none
    | some i => exact .some i.arranged_arranges

end PackageModel
