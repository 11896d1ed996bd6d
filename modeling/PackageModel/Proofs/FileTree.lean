import PackageModel.FileTree.Basic

/-!
# PackageModel.Proofs.FileTree

Replacing the content of a file in a tree.  The same names lead to files and to directories before
and after it, walks find the same names, and all other files have the content that they had.
-/

namespace PackageModel.FileTree

variable {t t' u : FileTree} {name other path : String} {names others : List String}
  {entries : List (String × FileTree)} {old new : ByteArray}

/-! ## Entries of a directory -/

/-- The first entry with a name is the one that it means. -/
theorem lookup_cons : ((name, u) :: entries).lookup other =
    if other = name then some u else entries.lookup other := by
  rw [List.lookup_cons]
  by_cases h : other = name
  · simp [h]
  · simp [h, beq_eq_false_iff_ne.2 h]

/-- Only the entry that is set changes. -/
theorem lookup_setEntry :
    (setEntry name t entries).lookup other =
      if other = name then some t else entries.lookup other := by
  induction entries with
  | nil => rw [setEntry, lookup_cons]
  | cons e es ih =>
    obtain ⟨n, u⟩ := e
    rw [setEntry]
    split
    · rw [lookup_cons]
    split
    · next hle heq =>
      subst heq
      rw [lookup_cons, lookup_cons]
      split <;> rfl
    · next hle hne =>
      rw [lookup_cons, lookup_cons, ih]
      split
      · next h =>
        subst h
        rw [if_neg (Ne.symm hne)]
      · rfl

/-- What a name means is one of the entries. -/
theorem mem_of_lookup (h : entries.lookup name = some u) : (name, u) ∈ entries := by
  obtain ⟨before, after, rfl, -⟩ := List.lookup_eq_some_iff.1 h
  simp

/-- An entry in order is the one that its name means. -/
theorem lookup_of_mem (hsorted : entries.Pairwise fun e e' => e.1 < e'.1)
    (h : (name, u) ∈ entries) : entries.lookup name = some u := by
  induction entries with
  | nil => cases h
  | cons e entries ih =>
    obtain ⟨hhead, hsorted⟩ := List.pairwise_cons.1 hsorted
    rw [lookup_cons]
    rcases List.mem_cons.1 h with rfl | h
    · rw [if_pos rfl]
    · have hlt : e.1 < name := hhead (name, u) h
      have hne : name ≠ e.1 := by
        rintro rfl
        exact String.lt_irrefl _ hlt
      rw [if_neg hne, ih hsorted h]

/-! ## What is below names -/

@[simp] theorem get?_nil : t.get? [] = some t := rfl

@[simp] theorem get?_cons_file : get? (name :: names) (file old) = none := rfl

@[simp] theorem get?_cons_directory :
    get? (name :: names) (directory entries) = (entries.lookup name).bind (get? names) := rfl

/-- Names are followed one after the other. -/
theorem get?_append (t : FileTree) (names others : List String) :
    t.get? (names ++ others) = (t.get? names).bind (get? others) := by
  induction names generalizing t with
  | nil => rfl
  | cons n ns ih =>
    cases t with
    | file content => rfl
    | directory entries =>
      rw [List.cons_append, get?_cons_directory, get?_cons_directory, Option.bind_assoc]
      exact congrArg (Option.bind _) (funext ih)

/-- The last of some names is that of an entry of what the others lead to. -/
theorem get?_concat (t : FileTree) (names : List String) (name : String) :
    t.get? (names ++ [name]) = (t.get? names).bind fun u => u.entry? name := by
  rw [get?_append]
  refine congrArg (Option.bind _) (funext fun u => ?_)
  cases u with
  | file content => rfl
  | directory entries =>
    rw [get?_cons_directory, entry?]
    cases entries.lookup name <;> rfl

/-- The names start in a directory that has an entry for the first of them. -/
theorem exists_entry_of_get?_cons (h : t.get? (name :: names) = some u) :
    ∃ entries below, t = directory entries ∧ entries.lookup name = some below ∧
      below.get? names = some u := by
  cases t with
  | file content => simp at h
  | directory entries =>
    obtain ⟨below, hbelow, h⟩ := Option.bind_eq_some_iff.1 h
    exact ⟨entries, below, rfl, hbelow, h⟩

/-! ## Trees with the same paths -/

/-- The same names lead to files and to directories. -/
def SameKinds (t t' : FileTree) : Prop :=
  ∀ names, (t'.get? names).map kind = (t.get? names).map kind

/-! ## Trees with the same files but one -/

/-- The bytes of a file. -/
def content? : FileTree → Option ByteArray
  | file content => some content
  | directory _ => none

/-- Each name has one entry in a directory, and the entries are in the order of the names. -/
def Ordered (t : FileTree) : Prop :=
  ∀ names entries, t.get? names = some (directory entries) →
    entries.Pairwise fun e e' => e.1 < e'.1

/-- What is in a tree in order is in order. -/
theorem Ordered.of_get? (h : t.Ordered) (hget : t.get? names = some u) : u.Ordered := by
  intro others entries hothers
  refine h (names ++ others) entries ?_
  rw [get?_append, hget]
  exact hothers

/-- In a directory in order the name of an entry leads to it. -/
theorem Ordered.get?_of_mem {e : String × FileTree} (h : (directory entries).Ordered)
    (he : e ∈ entries) (names : List String) :
    (directory entries).get? (e.1 :: names) = e.2.get? names := by
  rw [get?_cons_directory, lookup_of_mem (h [] entries rfl) he, Option.bind_some]

/-- The entries of a directory in order are in order. -/
theorem Ordered.of_mem {e : String × FileTree} (h : (directory entries).Ordered)
    (he : e ∈ entries) : e.2.Ordered :=
  h.of_get? (h.get?_of_mem he [])

/-- The trees are the same but for the content of the file to which the names lead. -/
structure SameBut (names : List String) (t t' : FileTree) : Prop where
  /-- Other names lead to a directory, to a file with the same content or to nothing, as before. -/
  elsewhere : ∀ others, others ≠ names →
    (t'.get? others).map content? = (t.get? others).map content?
  kinds : SameKinds t t'
  /-- Walks find the same files. -/
  walks : t.Ordered → ∀ others path,
    (t'.get? others).map (files path) = (t.get? others).map (files path)

/-- Nothing has changed. -/
theorem SameBut.refl (names : List String) (t : FileTree) : SameBut names t t :=
  ⟨fun _ _ => rfl, fun _ => rfl, fun _ _ _ => rfl⟩

/-- Names lead to the same as before, unless they start with the name of the entry. -/
theorem get?_set_cons (hlookup : entries.lookup name = some u) :
    ((directory entries).set (name :: names) t).get? (other :: others) =
      if other = name then (u.set names t).get? others
      else (directory entries).get? (other :: others) := by
  rw [set, get?_cons_directory, lookup_setEntry, hlookup, Option.getD_some]
  split <;> rfl

/-- The names lead to the new file. -/
theorem get?_set_self (h : t.get? names = some (file old)) :
    (t.set names (file new)).get? names = some (file new) := by
  induction names generalizing t with
  | nil => rw [set, get?_nil]
  | cons n ns ih =>
    obtain ⟨entries, below, rfl, hlookup, hbelow⟩ := exists_entry_of_get?_cons h
    rw [get?_set_cons hlookup, if_pos rfl, ih hbelow]

/-- What other names lead to is changed only by a change below them: if replacing the file there
makes no difference to what is asked, neither does it in the whole tree. -/
theorem map_get?_set {β : Type} {f : FileTree → β} (h : t.get? names = some (file old))
    (hf : ∀ u rest, names = others ++ rest → t.get? others = some u →
      u.get? rest = some (file old) → f (u.set rest (file new)) = f u) :
    ((t.set names (file new)).get? others).map f = (t.get? others).map f := by
  induction others generalizing t names with
  | nil => rw [get?_nil, get?_nil, Option.map_some, Option.map_some, hf t names rfl rfl h]
  | cons m ms ih =>
    cases names with
    | nil =>
      obtain rfl : t = file old := Option.some.inj h
      rfl
    | cons n ns =>
      obtain ⟨entries, below, rfl, hlookup, hbelow⟩ := exists_entry_of_get?_cons h
      rw [get?_set_cons hlookup]
      split
      · next hm =>
        subst hm
        rw [get?_cons_directory, hlookup, Option.bind_some] at hf ⊢
        exact ih hbelow fun u rest hnames => hf u rest (by rw [hnames, List.cons_append])
      · rfl

/-- A change below it does not make a directory a file, or a file another one. -/
theorem content?_set_cons : (t.set (name :: names) u).content? = t.content? := by
  cases t <;> rfl

/-- A change of a file does not make it a directory. -/
theorem kind_set (h : t.get? names = some (file old)) : (t.set names (file new)).kind = t.kind := by
  cases names with
  | nil =>
    obtain rfl : t = file old := Option.some.inj h
    rfl
  | cons n ns => cases t <;> rfl

/-! ## Walks -/

/-- An entry that is replaced by one with the same files below it is found in the same place. -/
theorem filesOf_setEntry (hsorted : entries.Pairwise fun e e' => e.1 < e'.1)
    (hlookup : entries.lookup name = some u)
    (hfiles : files (Path.join path name) t = files (Path.join path name) u) :
    filesOf path (setEntry name t entries) = filesOf path entries := by
  induction entries with
  | nil => simp at hlookup
  | cons e es ih =>
    obtain ⟨n, v⟩ := e
    obtain ⟨hhead, htail⟩ := List.pairwise_cons.1 hsorted
    rw [lookup_cons] at hlookup
    by_cases hname : name = n
    · subst hname
      obtain rfl : v = u := by simpa using hlookup
      rw [setEntry, if_neg (String.lt_irrefl name), if_pos rfl, filesOf, filesOf, hfiles]
    · rw [if_neg hname] at hlookup
      have hlt : n < name := hhead (name, u) (mem_of_lookup hlookup)
      rw [setEntry, if_neg (String.lt_asymm hlt), if_neg hname, filesOf, filesOf, ih htail hlookup]

/-- In a tree in order an entry is replaced where it is, and walks find it there. -/
theorem files_set (hordered : t.Ordered) (h : t.get? names = some (file old)) (path : String) :
    (t.set names (file new)).files path = t.files path := by
  induction names generalizing t path with
  | nil =>
    obtain rfl : t = file old := Option.some.inj h
    rw [set, files, files]
  | cons n ns ih =>
    obtain ⟨entries, below, rfl, hlookup, hbelow⟩ := exists_entry_of_get?_cons h
    have hget : (directory entries).get? [n] = some below := by
      rw [get?_cons_directory, hlookup, Option.bind_some, get?_nil]
    rw [set, hlookup, Option.getD_some, files, files,
      filesOf_setEntry (hordered [] entries rfl) hlookup (ih (hordered.of_get? hget) hbelow _)]

/-- Replacing the content of a file changes nothing else. -/
theorem sameBut_set (h : t.get? names = some (file old)) :
    SameBut names t (t.set names (file new)) where
  elsewhere others hne := by
    refine map_get?_set h fun u rest hnames _ _ => ?_
    cases rest with
    | nil => exact absurd hnames (by simpa using Ne.symm hne)
    | cons n ns => exact content?_set_cons
  kinds others := map_get?_set h fun _ _ _ _ hrest => kind_set hrest
  walks hordered others path :=
    map_get?_set h fun _ _ _ hget hrest => files_set (hordered.of_get? hget) hrest path

end PackageModel.FileTree
