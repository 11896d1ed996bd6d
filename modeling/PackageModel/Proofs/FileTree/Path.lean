import PackageModel.Proofs.FileTree.System

/-!
# PackageModel.Proofs.FileTree.Path

Paths into a directory.  The path of a directory is made longer by the names that lead on from
there, and leads on to where they lead, as long as it does not grow too long.  Different names make
different paths.
-/

namespace PackageModel

/-! ## Paths as texts -/

namespace Path

/-- A name that an entry of a directory can have. -/
structure IsName (name : String) : Prop where
  ne_empty : name ≠ ""
  slash_not_mem : '/' ∉ name.toList
  nul_not_mem : '\x00' ∉ name.toList
  ne_here : name ≠ "."
  ne_above : name ≠ ".."
  size_le : name.utf8ByteSize ≤ maxNameBytes

/-- Whether a text is a name can be computed. -/
instance (name : String) : Decidable (IsName name) :=
  decidable_of_iff (name ≠ "" ∧ '/' ∉ name.toList ∧ '\x00' ∉ name.toList ∧ name ≠ "." ∧
    name ≠ ".." ∧ name.utf8ByteSize ≤ maxNameBytes)
    ⟨fun ⟨h₁, h₂, h₃, h₄, h₅, h₆⟩ => ⟨h₁, h₂, h₃, h₄, h₅, h₆⟩,
      fun ⟨h₁, h₂, h₃, h₄, h₅, h₆⟩ => ⟨h₁, h₂, h₃, h₄, h₅, h₆⟩⟩

variable {path name : String} {names others : List String}

/-- A name has characters. -/
theorem IsName.toList_ne_nil (h : IsName name) : name.toList ≠ [] := by
  simpa using h.ne_empty

/-- A name does not start with a slash. -/
theorem isAbsolute_of_isName (h : IsName name) : isAbsolute name = false := by
  rw [isAbsolute, decide_eq_false_iff_not]
  exact fun hhead => h.slash_not_mem (List.mem_of_head? hhead)

/-- A path that ends in a slash has something in front of it. -/
theorem exists_of_endsInSlash (h : endsInSlash path = true) : ∃ front, path = front ++ "/" := by
  obtain ⟨cs, hcs⟩ := List.getLast?_eq_some_iff.1 (of_decide_eq_true h)
  refine ⟨String.ofList cs, ?_⟩
  rw [← String.toList_inj]
  simp [hcs]

/-- There is one slash between the directory and the name. -/
theorem exists_join_eq (hpath : path ≠ "") (hname : IsName name) :
    ∃ front, join path name = front ++ "/" ++ name ∧
      (path = front ∧ endsInSlash path = false ∨
        path = front ++ "/" ∧ endsInSlash path = true) := by
  rw [join, isAbsolute_of_isName hname]
  cases hends : endsInSlash path with
  | false => exact ⟨path, by simp [hpath], .inl ⟨rfl, rfl⟩⟩
  | true =>
    obtain ⟨front, rfl⟩ := exists_of_endsInSlash hends
    exact ⟨front, by simp, .inr ⟨rfl, rfl⟩⟩

/-- A slash stands between the parts in front of it and those behind. -/
theorem parts_append_slash (path name : String) :
    parts (path ++ "/" ++ name) = parts path ++ parts name := by
  simp [parts, List.splitOn_append_cons_self]

/-- A name is a single part. -/
theorem parts_of_isName (h : IsName name) : parts name = [name] := by
  simp [parts, List.splitOn_eq_singleton h.slash_not_mem, h.toList_ne_nil]

/-- The name of an entry is one more part of the path, whether the path ends in a slash or not. -/
theorem parts_join (hpath : path ≠ "") (hname : IsName name) :
    parts (join path name) = parts path ++ [name] := by
  obtain ⟨front, hjoin, ⟨rfl, -⟩ | ⟨rfl, -⟩⟩ := exists_join_eq hpath hname
  · rw [hjoin, parts_append_slash, parts_of_isName hname]
  · have hfront : parts (front ++ "/") = parts front := by
      simpa [parts] using parts_append_slash front ""
    rw [hjoin, hfront, parts_append_slash, parts_of_isName hname]

/-- The path of an entry is not empty. -/
theorem join_ne_empty (hname : IsName name) : join path name ≠ "" := by
  rw [join]
  split
  · exact hname.ne_empty
  split <;> simp [hname.ne_empty]

/-- An entry stands below the directory, so the path starts where that of the directory does. -/
theorem isAbsolute_join (hpath : path ≠ "") (hname : IsName name) :
    isAbsolute (join path name) = isAbsolute path := by
  obtain ⟨front, hjoin, ⟨rfl, -⟩ | ⟨rfl, -⟩⟩ := exists_join_eq hpath hname
  · obtain ⟨c, cs, hcs⟩ := List.exists_cons_of_ne_nil (l := path.toList) (by simpa using hpath)
    simp [hjoin, isAbsolute, hcs]
  · simp [hjoin, isAbsolute]

/-- The path of an entry ends in its name. -/
theorem endsInSlash_join (hpath : path ≠ "") (hname : IsName name) :
    endsInSlash (join path name) = false := by
  obtain ⟨front, hjoin, -⟩ := exists_join_eq hpath hname
  rw [endsInSlash, decide_eq_false_iff_not, hjoin]
  have hne := hname.toList_ne_nil
  rw [String.toList_append, List.getLast?_append, List.getLast?_eq_some_getLast hne, Option.some_or,
    Option.some_inj]
  exact fun hlast => hname.slash_not_mem (hlast ▸ List.getLast_mem hne)

/-- Names that are joined one after the other are the last parts of the path. -/
theorem parts_foldl_join (hpath : path ≠ "") (hnames : ∀ name ∈ names, IsName name) :
    parts (names.foldl join path) = parts path ++ names := by
  induction names generalizing path with
  | nil => simp
  | cons name names ih =>
    obtain ⟨hname, hnames⟩ := List.forall_mem_cons.1 hnames
    rw [List.foldl_cons, ih (join_ne_empty hname) hnames, parts_join hpath hname,
      List.append_assoc, List.singleton_append]

/-- Different names make different paths. -/
theorem foldl_join_inj (hpath : path ≠ "") (hnames : ∀ name ∈ names, IsName name)
    (hothers : ∀ name ∈ others, IsName name)
    (h : names.foldl join path = others.foldl join path) : names = others := by
  have hparts := congrArg parts h
  rw [parts_foldl_join hpath hnames, parts_foldl_join hpath hothers] at hparts
  exact List.append_cancel_left hparts

/-! ### Extensions -/

/-- An extension has no dot in it. -/
theorem dot_not_mem_of_extension? {extension : String} (h : extension? name = some extension) :
    '.' ∉ extension.toList := by
  dsimp only [extension?] at h
  split at h
  · rw [← Option.some.inj h, String.toList_ofList, List.mem_reverse]
    intro hmem
    have hne := List.all_eq_true.1 List.all_takeWhile _ hmem
    simp at hne
  · cases h

/-- What follows a dot in a name is the extension of the name if there is no dot in it, and
something in front of that dot. -/
theorem extension?_append_iff {stem extension : String} (hstem : stem ≠ "") :
    extension? (stem ++ "." ++ extension) = some extension ↔ '.' ∉ extension.toList := by
  refine ⟨dot_not_mem_of_extension?, fun h => ?_⟩
  obtain ⟨c, cs, hcs⟩ :=
    List.exists_cons_of_ne_nil (l := stem.toList.reverse) (by simpa using hstem)
  have hreversed : (stem ++ "." ++ extension).toList.reverse =
      extension.toList.reverse ++ '.' :: c :: cs := by
    simp [hcs]
  have hnone : ∀ d ∈ extension.toList.reverse, decide (d ≠ '.') = true := by
    intro d hd
    rw [decide_eq_true_iff]
    rintro rfl
    exact h (List.mem_reverse.1 hd)
  simp only [extension?, hreversed]
  rw [List.dropWhile_append_of_pos hnone, List.takeWhile_append_of_pos hnone]
  simp

end Path

/-! ## Paths that can be looked up -/

namespace FileTree

open PackageModel.Path (IsName)

variable {t u : FileTree} {path name : String} {names : List String}
  {entries : List (String × FileTree)}

/-- The system takes paths without null characters that are neither empty nor too long. -/
theorem pathError?_eq_none_iff :
    pathError? path = none ↔
      '\x00' ∉ path.toList ∧ path ≠ "" ∧ path.utf8ByteSize ≤ Path.maxBytes := by
  rw [pathError?]
  by_cases hnul : '\x00' ∈ path.toList
  · simp [hnul]
  by_cases hempty : path = ""
  · simp [hempty]
  simp [hnul, hempty]

/-- If a path is not too long, neither is that of the directory that it starts with. -/
theorem pathError?_of_join (hpath : path ≠ "") (hname : IsName name)
    (h : pathError? (Path.join path name) = none) : pathError? path = none := by
  obtain ⟨hnul, -, hsize⟩ := pathError?_eq_none_iff.1 h
  obtain ⟨more, hjoin⟩ : ∃ more, Path.join path name = path ++ more := by
    obtain ⟨front, hjoin, ⟨rfl, -⟩ | ⟨rfl, -⟩⟩ := Path.exists_join_eq hpath hname
    · exact ⟨"/" ++ name, by rw [hjoin, String.append_assoc]⟩
    · exact ⟨name, hjoin⟩
  rw [hjoin, String.toList_append, List.mem_append, not_or] at hnul
  rw [hjoin, String.utf8ByteSize_append] at hsize
  exact pathError?_eq_none_iff.2 ⟨hnul.1, hpath, by omega⟩

/-- The same for the path of any directory above. -/
theorem pathError?_of_foldl_join (hpath : path ≠ "") (hnames : ∀ name ∈ names, IsName name)
    (h : pathError? (names.foldl Path.join path) = none) : pathError? path = none := by
  induction names generalizing path with
  | nil => exact h
  | cons name names ih =>
    obtain ⟨hname, hnames⟩ := List.forall_mem_cons.1 hnames
    exact pathError?_of_join hpath hname (ih (Path.join_ne_empty hname) hnames h)

/-! ## Trees as file systems hold them -/

/-- Each directory has its entries in the order of their names, and these are names that entries can
have. -/
structure WellFormed (t : FileTree) : Prop where
  ordered : t.Ordered
  isName : ∀ names u, t.get? names = some u → ∀ name ∈ names, IsName name

/-- What stands in a well-formed tree is well-formed. -/
theorem WellFormed.of_get? (h : t.WellFormed) (hget : t.get? names = some u) : u.WellFormed where
  ordered := h.ordered.of_get? hget
  isName others v hv name hname := by
    refine h.isName (names ++ others) v ?_ name (List.mem_append_right names hname)
    rw [get?_append, hget]
    exact hv

/-- A file has no entries to be out of order. -/
theorem wellFormed_file (content : ByteArray) : (file content).WellFormed where
  ordered names entries h := by cases names <;> cases h
  isName names u h := by
    cases names with
    | nil => exact nofun
    | cons n ns => cases h

/-- A directory is well-formed if its entries are, in the order of their names. -/
theorem wellFormed_directory (hsorted : entries.Pairwise fun e e' => e.1 < e'.1)
    (hentries : ∀ e ∈ entries, IsName e.1 ∧ e.2.WellFormed) : (directory entries).WellFormed where
  ordered names others h := by
    cases names with
    | nil =>
      obtain rfl := directory.inj (Option.some.inj h)
      exact hsorted
    | cons n ns =>
      obtain ⟨_, below, heq, hlookup, hbelow⟩ := exists_entry_of_get?_cons h
      obtain rfl := directory.inj heq
      exact (hentries _ (mem_of_lookup hlookup)).2.ordered ns others hbelow
  isName names u h := by
    cases names with
    | nil => exact nofun
    | cons n ns =>
      obtain ⟨_, below, heq, hlookup, hbelow⟩ := exists_entry_of_get?_cons h
      obtain rfl := directory.inj heq
      obtain ⟨hn, hu⟩ := hentries _ (mem_of_lookup hlookup)
      exact List.forall_mem_cons.2 ⟨hn, hu.isName ns u hbelow⟩

end FileTree

/-! ## Paths in a file system -/

namespace FileSystem

open FileTree (directory pathError?)
open PackageModel.Path (IsName)

variable {fs : FileSystem} {t u : FileTree} {path name : String} {here names : List String}
  {entries : List (String × FileTree)}

/-- A path is found if it can be looked up and leads somewhere. -/
theorem find?_eq_ok_iff :
    fs.find? path = .ok t ↔ ∃ here, fs.locate path = .ok here ∧ fs.root.get? here = some t := by
  rw [find?, bind_eq_ok_iff]
  refine exists_congr fun here => and_congr_right fun _ => ?_
  cases fs.root.get? here <;> simp

/-- A path that is found can be looked up; a slash at its end makes no difference then. -/
theorem locate_eq_ok (h : fs.locate path = .ok here) :
    pathError? path = none ∧
      fs.root.follow (if Path.isAbsolute path then [] else fs.workingDirectory)
        (Path.parts path) = .ok here := by
  rw [locate] at h
  cases herror : pathError? path with
  | some e =>
    rw [herror] at h
    cases h
  | none =>
    rw [herror] at h
    refine ⟨rfl, ?_⟩
    cases hends : Path.endsInSlash path with
    | false => simpa [hends] using h
    | true =>
      simp only [hends, if_true, FileTree.follow_append] at h
      obtain ⟨there, hthere, h⟩ := bind_eq_ok_iff.1 h
      rw [FileTree.follow] at h
      split at h
      · cases h
      · cases h
      · rw [hthere, ← h]
        rfl

/-- There is nothing at the empty path. -/
theorem ne_empty_of_find? (h : fs.find? path = .ok t) : path ≠ "" := by
  obtain ⟨here, hlocate, -⟩ := find?_eq_ok_iff.1 h
  exact (FileTree.pathError?_eq_none_iff.1 (locate_eq_ok hlocate).1).2.1

/-- An entry of a directory is found at the path of both. -/
theorem find?_join (h : fs.find? path = .ok (directory entries))
    (hentry : entries.lookup name = some u) (hname : IsName name)
    (hfits : pathError? (Path.join path name) = none) :
    fs.find? (Path.join path name) = .ok u := by
  obtain ⟨here, hlocate, hget⟩ := find?_eq_ok_iff.1 h
  have hfollow := (locate_eq_ok hlocate).2
  have hpath := ne_empty_of_find? h
  have hstep : fs.root.follow here [name] = .ok (here ++ [name]) := by
    have hsize : ¬ Path.maxNameBytes < name.utf8ByteSize := Nat.not_lt.2 hname.size_le
    simp [FileTree.follow, hget, FileTree.kind, hname.ne_here, hname.ne_above, hsize]
  refine find?_eq_ok_iff.2 ⟨here ++ [name], ?_, ?_⟩
  · rw [locate, hfits]
    simp only [Path.isAbsolute_join hpath hname, Path.endsInSlash_join hpath hname,
      Path.parts_join hpath hname, Bool.false_eq_true, if_false, List.append_nil,
      FileTree.follow_append, hfollow, ok_bind, hstep]
  · rw [FileTree.get?_concat, hget]
    exact hentry

/-- What is below a directory is found at the path that the names make of the directory's. -/
theorem find?_foldl_join (h : fs.find? path = .ok t) (hget : t.get? names = some u)
    (hnames : ∀ name ∈ names, IsName name)
    (hfits : pathError? (names.foldl Path.join path) = none) :
    fs.find? (names.foldl Path.join path) = .ok u := by
  induction names generalizing path t with
  | nil =>
    obtain rfl : t = u := Option.some.inj hget
    exact h
  | cons name names ih =>
    obtain ⟨hname, hnames⟩ := List.forall_mem_cons.1 hnames
    obtain ⟨entries, below, rfl, hentry, hbelow⟩ := FileTree.exists_entry_of_get?_cons hget
    have hnext : pathError? (Path.join path name) = none :=
      FileTree.pathError?_of_foldl_join (Path.join_ne_empty hname) hnames hfits
    exact ih (find?_join h hentry hname hnext) hbelow hnames hfits

/-- A file below a directory is read under its path. -/
theorem read_foldl_join {content : ByteArray} (h : fs.find? path = .ok t)
    (hget : t.get? names = some (.file content)) (hnames : ∀ name ∈ names, IsName name)
    (hfits : pathError? (names.foldl Path.join path) = none) :
    fs.read (names.foldl Path.join path) = .ok content := by
  rw [read, find?_foldl_join h hget hnames hfits]
  rfl

/-- What a path leads to in a well-formed tree is a well-formed tree. -/
theorem wellFormed_of_find? (h : fs.root.WellFormed) (hfind : fs.find? path = .ok t) :
    t.WellFormed := by
  obtain ⟨here, -, hget⟩ := find?_eq_ok_iff.1 hfind
  exact h.of_get? hget

end FileSystem

end PackageModel
