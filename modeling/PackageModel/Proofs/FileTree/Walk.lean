import PackageModel.Proofs.Except
import PackageModel.Proofs.FileTree

/-!
# PackageModel.Proofs.FileTree.Walk

What a walk finds.  A walk that comes to its end has found the names of all files of the tree.  In a
tree in order it finds each of them once, in the order of the names that lead to it, compared from
the first one on.
-/

namespace PackageModel.FileTree

variable {t : FileTree} {path name : String} {names : List String} {found : List (List String)}
  {entries : List (String × FileTree)}

/-- What stands in a directory is smaller than it. -/
theorem sizeOf_lt_of_mem {e : String × FileTree} (h : e ∈ entries) :
    sizeOf e.2 < sizeOf (directory entries) := by
  have hlt := List.sizeOf_lt_of_mem h
  obtain ⟨n, u⟩ := e
  simp only [directory.sizeOf_spec, Prod.mk.sizeOf_spec] at hlt ⊢
  omega

/-- What holds of files, and of a directory if it holds of all its entries, holds of all trees. -/
@[elab_as_elim]
theorem entriesInduction {P : FileTree → Prop} (file : ∀ content, P (.file content))
    (directory : ∀ entries, (∀ e ∈ entries, P e.2) → P (.directory entries)) (t : FileTree) :
    P t :=
  match t with
  | .file content => file content
  | .directory entries =>
    directory entries fun e he =>
      have _ := sizeOf_lt_of_mem he
      entriesInduction file directory e.2
termination_by sizeOf t
decreasing_by assumption

mutual

/-- The names that lead to each file of the tree, depth first. -/
def walk : FileTree → List (List String)
  | file _ => [[]]
  | directory entries => walkOf entries

/-- The names that lead to each file of the entries. -/
def walkOf : List (String × FileTree) → List (List String)
  | [] => []
  | (name, t) :: entries => (walk t).map (name :: ·) ++ walkOf entries

end

/-- Walking a file finds the file itself. -/
theorem walk_file (content : ByteArray) : (file content).walk = [[]] := by rw [walk]

/-- Walking a directory walks what stands in it, in order. -/
theorem walk_directory (entries : List (String × FileTree)) :
    (directory entries).walk = entries.flatMap fun e => e.2.walk.map (e.1 :: ·) := by
  rw [walk]
  induction entries with
  | nil => rw [walkOf, List.flatMap_nil]
  | cons e entries ih => rw [walkOf, List.flatMap_cons, ih]

/-! ## Complete walks -/

/-- If the entries are walked as they stand, so is the directory. -/
theorem filesOf_eq_ok (hentries : ∀ e ∈ entries, ∀ path found, e.2.files path = .ok found →
    found = e.2.walk) (h : filesOf path entries = .ok found) :
    found = (directory entries).walk := by
  rw [walk_directory]
  induction entries generalizing found with
  | nil =>
    rw [filesOf] at h
    exact (Except.ok.inj h).symm
  | cons e entries ih =>
    obtain ⟨he, hentries⟩ := List.forall_mem_cons.1 hentries
    rw [filesOf] at h
    obtain ⟨below, hbelow, h⟩ := bind_eq_ok_iff.1 h
    obtain ⟨others, hothers, h⟩ := bind_eq_ok_iff.1 h
    rw [← Except.ok.inj h, List.flatMap_cons, ih hentries hothers, he _ _ hbelow]

/-- A walk that comes to its end has been everywhere. -/
theorem eq_walk_of_files (h : t.files path = .ok found) : found = t.walk := by
  induction t using entriesInduction generalizing path found with
  | file content =>
    rw [files] at h
    rw [walk_file, ← Except.ok.inj h]
  | directory entries ih =>
    rw [files] at h
    split at h
    · cases h
    · exact filesOf_eq_ok ih h

/-- The walk of a directory ends well if that of each entry does. -/
theorem exists_filesOf_iff :
    (∃ found, filesOf path entries = .ok found) ↔
      ∀ e ∈ entries, ∃ found, e.2.files (Path.join path e.1) = .ok found := by
  induction entries with
  | nil => simp [filesOf]
  | cons e entries ih =>
    rw [List.forall_mem_cons, ← ih, filesOf]
    simp only [bind_eq_ok_iff, pure_eq_ok, Except.ok.injEq]
    constructor
    · rintro ⟨_, below, hbelow, others, hothers, -⟩
      exact ⟨⟨below, hbelow⟩, others, hothers⟩
    · rintro ⟨⟨below, hbelow⟩, others, hothers⟩
      exact ⟨_, below, hbelow, others, hothers, rfl⟩

/-- A walk comes to its end if the path of no directory grows too long. -/
theorem exists_files_iff (hordered : t.Ordered) :
    (∃ found, t.files path = .ok found) ↔
      ∀ names entries, t.get? names = some (directory entries) →
        pathError? (names.foldl Path.join path) = none := by
  induction t using entriesInduction generalizing path with
  | file content =>
    refine iff_of_true ⟨[[]], by rw [files]⟩ fun names entries h => ?_
    cases names <;> cases h
  | directory entries ih =>
    -- the directory itself is listed first, then each entry is walked at a longer path
    have hiff : (∃ found, (directory entries).files path = .ok found) ↔
        pathError? path = none ∧ ∃ found, filesOf path entries = .ok found := by
      rw [files]
      cases pathError? path <;> simp
    rw [hiff, exists_filesOf_iff]
    constructor
    · rintro ⟨hpath, hentries⟩ names others h
      cases names with
      | nil => exact hpath
      | cons n ns =>
        obtain ⟨_, below, heq, hlookup, hbelow⟩ := exists_entry_of_get?_cons h
        obtain rfl := directory.inj heq
        have hmem := mem_of_lookup hlookup
        exact (ih _ hmem (hordered.of_mem hmem)).1 (hentries _ hmem) ns others hbelow
    · intro h
      refine ⟨h [] entries rfl, fun e he => (ih e he (hordered.of_mem he)).2 ?_⟩
      intro names others hget
      refine h (e.1 :: names) others ?_
      rw [hordered.get?_of_mem he]
      exact hget

/-! ## What is found -/

/-- Only a file is found at the start of a walk. -/
theorem nil_mem_walk_iff : [] ∈ t.walk ↔ ∃ content, t = file content := by
  cases t with
  | file content => simp [walk_file]
  | directory entries => simp [walk_directory]

/-- What is found below a directory is found below one of its entries. -/
theorem cons_mem_walk_iff :
    name :: names ∈ t.walk ↔
      ∃ entries u, t = directory entries ∧ (name, u) ∈ entries ∧ names ∈ u.walk := by
  cases t with
  | file content => simp [walk_file]
  | directory entries =>
    simp only [walk_directory, List.mem_flatMap, List.mem_map]
    constructor
    · rintro ⟨⟨n, u⟩, he, names, hnames, heq⟩
      obtain ⟨rfl, rfl⟩ := List.cons.inj heq
      exact ⟨entries, u, rfl, he, hnames⟩
    · rintro ⟨_, u, heq, he, hnames⟩
      obtain rfl := directory.inj heq
      exact ⟨(name, u), he, names, hnames, rfl⟩

/-- Every file is found. -/
theorem mem_walk_of_get? {content : ByteArray} (h : t.get? names = some (file content)) :
    names ∈ t.walk := by
  induction names generalizing t with
  | nil => exact nil_mem_walk_iff.2 ⟨content, Option.some.inj h⟩
  | cons n ns ih =>
    obtain ⟨entries, below, rfl, hlookup, hbelow⟩ := exists_entry_of_get?_cons h
    exact cons_mem_walk_iff.2 ⟨entries, below, rfl, mem_of_lookup hlookup, ih hbelow⟩

/-- In a tree in order nothing but files is found. -/
theorem mem_walk_iff (hordered : t.Ordered) :
    names ∈ t.walk ↔ ∃ content, t.get? names = some (file content) := by
  refine ⟨fun h => ?_, fun ⟨content, h⟩ => mem_walk_of_get? h⟩
  induction names generalizing t with
  | nil =>
    obtain ⟨content, rfl⟩ := nil_mem_walk_iff.1 h
    exact ⟨content, rfl⟩
  | cons n ns ih =>
    obtain ⟨entries, u, rfl, hmem, hu⟩ := cons_mem_walk_iff.1 h
    rw [hordered.get?_of_mem hmem]
    exact ih (hordered.of_mem hmem) hu

/-- Files are found in the order of their names. -/
theorem pairwise_walk (hordered : t.Ordered) : t.walk.Pairwise (· < ·) := by
  induction t using entriesInduction with
  | file content => simp [walk_file]
  | directory entries ih =>
    have hsorted := hordered [] entries rfl
    rw [walk_directory, List.pairwise_flatMap]
    constructor
    · intro e he
      rw [List.pairwise_map]
      refine (ih e he (hordered.of_mem he)).imp fun h => ?_
      exact List.cons_lt_cons_iff.2 (.inr ⟨rfl, h⟩)
    · refine hsorted.imp fun hlt names hnames others hothers => ?_
      obtain ⟨_, -, rfl⟩ := List.mem_map.1 hnames
      obtain ⟨_, -, rfl⟩ := List.mem_map.1 hothers
      exact List.cons_lt_cons_iff.2 (.inl hlt)

end PackageModel.FileTree
