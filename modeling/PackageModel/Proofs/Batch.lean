import Mathlib.Data.List.Forall2
import PackageModel.Proofs.FileTree.Path
import PackageModel.Proofs.FileTree.Walk
import PackageModel.Proofs.ReadOnly

/-!
# PackageModel.Proofs.Batch

What a batch collects and what it reports.  The files of each path are collected in turn: a named
file as it is named, and from a directory those with the extension.  There is an entry for each of
them, the one that the file gets alone, or there is no report.

Settings may hold an extension that no file has, because it has a dot in it.
-/

namespace PackageModel

/-- Each item has a partner if they can all be given one. -/
theorem exists_forall₂_iff {α β : Type} {R : α → β → Prop} {as : List α} :
    (∃ bs, List.Forall₂ R as bs) ↔ ∀ a ∈ as, ∃ b, R a b := by
  induction as with
  | nil => simp
  | cons a as ih =>
    simp only [List.forall_mem_cons, ← ih, List.forall₂_cons_left_iff]
    constructor
    · rintro ⟨_, b, bs, h, hs, rfl⟩
      exact ⟨⟨b, h⟩, bs, hs⟩
    · rintro ⟨⟨b, h⟩, bs, hs⟩
      exact ⟨b :: bs, b, bs, h, hs, rfl⟩

/-- An extension that settings may have. -/
theorem Settings.bare_of_ofToml {toml : String} {settings : Settings}
    (h : ofToml toml = .ok settings) :
    settings.extension ≠ "" ∧ settings.extension.toList.head? ≠ some '.' := by
  rw [ofToml] at h
  cases hread : (Toml.parse? toml).bind ofEntries? with
  | none => simp [hread] at h
  | some s =>
    simp only [hread, validated] at h
    split_ifs at h with hcapacity hbare
    rw [← Except.ok.inj h]
    exact not_or.1 hbare

namespace FileReport

/-- An entry is named after its file. -/
theorem file_ofCheck (file source : String) (result : Except Problem Document) :
    (ofCheck file source result).file = file := by
  cases result <;> rfl

/-- A file passes if it holds a document. -/
theorem passed_ofCheck_iff {file source : String} {result : Except Problem Document} :
    (ofCheck file source result).passed = true ↔ ∃ d, result = .ok d := by
  cases result <;> simp [ofCheck]

end FileReport

namespace Batch

open FileTree (directory)

variable {settings : Settings} {extension path file : String} {paths files : List String}
  {fs : FileSystem} {t : FileTree} {report : Report} {entry : FileReport}

/-! ## Collecting -/

/-- The path of no directory at the path or below it is too long to be looked up. -/
def Fits (fs : FileSystem) (path : String) : Prop :=
  ∀ t names entries, fs.find? path = .ok t → t.get? names = some (directory entries) →
    FileTree.pathError? (names.foldl Path.join path) = none

/-- Then the walk comes to its end. -/
theorem exists_files_iff_fits (hfs : fs.root.WellFormed) (h : fs.find? path = .ok t) :
    (∃ found, t.files path = .ok found) ↔ Fits fs path := by
  rw [FileTree.exists_files_iff (FileSystem.wellFormed_of_find? hfs h).ordered]
  constructor
  · intro hfits u names entries hu
    obtain rfl : t = u := Except.ok.inj (h.symm.trans hu)
    exact hfits names entries
  · exact fun hfits names entries => hfits t names entries h

/-- The files that are checked for a path. -/
def filesAt (extension : String) (fs : FileSystem) (path : String) : List String :=
  match fs.find? path with
  | .error _ => []
  | .ok (.file _) => [path]
  | .ok t => (t.walk.filter (hasExtension extension)).map (·.foldl Path.join path)

/-- What walking a path gives, in terms of the tree that it leads to. -/
theorem fst_run_filesBelow (path : String) (fs : FileSystem) :
    ((FileAccess.filesBelow path : StateM FileSystem _).run fs).1 =
      match fs.find? path with
      | .ok t => t.files path
      | .error reason => .error ⟨path, reason⟩ := by
  simp only [FileAccess.filesBelow, StateT.run_bind, StateT.run_get, pure_bind]
  cases fs.find? path <;> rfl

/-- At a file this file is collected, and in a directory those that the walk finds. -/
theorem fst_run_sourcesAt (extension path : String) (fs : FileSystem) :
    ((sourcesAt extension path : StateM FileSystem _).run fs).1 =
      match fs.find? path with
      | .error _ => .error (.missingPath path)
      | .ok (.file _) => .ok [path]
      | .ok t => (t.files path).mapError (.unlisted path) |>.map fun found =>
          (found.filter (hasExtension extension)).map (·.foldl Path.join path) := by
  have hkind : ((FileAccess.kind? path : StateM FileSystem _).run fs).1 =
      ((fs.find? path).toOption).map FileTree.kind := rfl
  rw [sourcesAt, (LawfulFileAccess.kind? path).run_bind, hkind]
  cases hfind : fs.find? path with
  | error e => rfl
  | ok t =>
    cases t with
    | file content => rfl
    | directory entries =>
      dsimp only [Except.toOption, Option.map_some, FileTree.kind]
      rw [(LawfulFileAccess.filesBelow path).run_bind, fst_run_filesBelow, hfind]
      dsimp only
      cases (directory entries).files path <;> rfl

/-- The sources of a path are found if it leads somewhere and everything below it can be looked
up. -/
theorem sourcesAt_eq_ok_iff (hfs : fs.root.WellFormed) :
    ((sourcesAt extension path : StateM FileSystem _).run fs).1 = .ok files ↔
      ((∃ t, fs.find? path = .ok t) ∧ Fits fs path) ∧ filesAt extension fs path = files := by
  rw [fst_run_sourcesAt, filesAt]
  cases hfind : fs.find? path with
  | error e => simp
  | ok t =>
    rw [← exists_files_iff_fits hfs hfind]
    cases t with
    | file content => simp [FileTree.files]
    | directory entries =>
      dsimp only
      cases hfiles : (directory entries).files path with
      | error w => simp [Except.mapError, Except.map]
      | ok found => simp [FileTree.eq_walk_of_files hfiles, Except.mapError, Except.map]

/-- Paths are taken one after the other, and the first failure ends it. -/
theorem fst_run_sources_cons (extension path : String) (paths : List String) (fs : FileSystem) :
    ((sources extension (path :: paths) : StateM FileSystem _).run fs).1 =
      ((sourcesAt extension path : StateM FileSystem _).run fs).1 >>= fun here =>
        ((sources extension paths : StateM FileSystem _).run fs).1 >>= fun files =>
          .ok (here ++ files) := by
  rw [sources, (ReadOnly.sourcesAt extension path).run_bind]
  cases ((sourcesAt extension path : StateM FileSystem _).run fs).1 with
  | error e => rfl
  | ok here =>
    dsimp only
    rw [(ReadOnly.sources extension paths).run_bind]
    cases ((sources extension paths : StateM FileSystem _).run fs).1 <;> rfl

/-- A single path gives its own sources. -/
theorem fst_run_sources_singleton (extension path : String) (fs : FileSystem) :
    ((sources extension [path] : StateM FileSystem _).run fs).1 =
      ((sourcesAt extension path : StateM FileSystem _).run fs).1 := by
  have hnil : ((sources extension [] : StateM FileSystem _).run fs).1 = .ok [] := rfl
  rw [fst_run_sources_cons, hnil]
  cases ((sourcesAt extension path : StateM FileSystem _).run fs).1 <;> simp

/-- The sources of paths are found if those of each one are; then they stand behind each other. -/
theorem sources_eq_ok_iff (hfs : fs.root.WellFormed) :
    ((sources extension paths : StateM FileSystem _).run fs).1 = .ok files ↔
      (∀ path ∈ paths, (∃ t, fs.find? path = .ok t) ∧ Fits fs path) ∧
        paths.flatMap (filesAt extension fs) = files := by
  induction paths generalizing files with
  | nil =>
    have hnil : ((sources extension [] : StateM FileSystem _).run fs).1 = .ok [] := rfl
    simp [hnil]
  | cons path paths ih =>
    simp only [fst_run_sources_cons, bind_eq_ok_iff, sourcesAt_eq_ok_iff hfs, ih,
      List.forall_mem_cons, List.flatMap_cons, Except.ok.injEq]
    constructor
    · rintro ⟨_, ⟨hpath, rfl⟩, _, ⟨hpaths, rfl⟩, hfiles⟩
      exact ⟨⟨hpath, hpaths⟩, hfiles⟩
    · rintro ⟨⟨hpath, hpaths⟩, hfiles⟩
      exact ⟨_, ⟨hpath, rfl⟩, _, ⟨hpaths, rfl⟩, hfiles⟩

/-! ## Checking -/

/-- What checking one file of the tree gives. -/
def checked (settings : Settings) (fs : FileSystem) (file : String) :
    Except BatchError FileReport :=
  ((checkFile settings file : StateM FileSystem _).run fs).1.1

/-- What a batch of files of the tree gives. -/
def outcome (settings : Settings) (fs : FileSystem) (paths : List String) :
    Except BatchError Report :=
  ((check settings paths : StateM FileSystem _).run fs).1.1

/-- A file gets an entry if it can be read and is a text. -/
theorem checked_eq_ok_iff :
    checked settings fs file = .ok entry ↔
      ∃ source, fs.read file = .ok source.toUTF8 ∧
        entry = .ofCheck file source (Document.check source) := by
  simp only [← FileSystem.readText_eq_ok_iff]
  rw [checked, checkFile, (ReadOnly.readText file).run_bind]
  cases ((FileAccess.readText file : StateM FileSystem _).run fs).1 with
  | error reason => simp
  | ok source =>
    change Except.ok (FileReport.ofCheck file source (Document.checkLogged settings source).1) =
      .ok entry ↔ _
    simp [eq_comm]

/-- Files are checked one after the other, and the first that cannot be read ends it. -/
theorem fst_run_checkFiles_cons (settings : Settings) (file : String) (files : List String)
    (fs : FileSystem) :
    ((checkFiles settings (file :: files) : StateM FileSystem _).run fs).1.1 =
      checked settings fs file >>= fun entry =>
        ((checkFiles settings files : StateM FileSystem _).run fs).1.1 >>= fun report =>
          .ok (entry :: report) := by
  rw [checkFiles, (ReadOnly.checkFile settings file).run_bind, checked]
  match ((checkFile settings file : StateM FileSystem _).run fs).1 with
  | (.error e, events) => rfl
  | (.ok entry, events) =>
    dsimp only
    rw [(ReadOnly.checkFiles settings files).run_bind]
    match ((checkFiles settings files : StateM FileSystem _).run fs).1 with
    | (.error e, events) => rfl
    | (.ok report, events) => rfl

/-- There is a report if every file can be read, and it has one entry for each. -/
theorem checkFiles_eq_ok_iff :
    ((checkFiles settings files : StateM FileSystem _).run fs).1.1 = .ok report ↔
      List.Forall₂ (fun file entry => checked settings fs file = .ok entry) files report := by
  induction files generalizing report with
  | nil =>
    have hnil : ((checkFiles settings [] : StateM FileSystem _).run fs).1.1 = .ok [] := rfl
    simp [hnil, eq_comm]
  | cons file files ih =>
    simp only [fst_run_checkFiles_cons, bind_eq_ok_iff, ih, List.forall₂_cons_left_iff,
      Except.ok.injEq]
    constructor
    · rintro ⟨entry, hentry, report, hreport, rfl⟩
      exact ⟨entry, report, hentry, hreport, rfl⟩
    · rintro ⟨entry, report, hentry, hreport, rfl⟩
      exact ⟨entry, hentry, report, hreport, rfl⟩

/-- A check finds the sources and reads them, both in the file system as it is. -/
theorem outcome_eq (settings : Settings) (fs : FileSystem) (paths : List String) :
    outcome settings fs paths =
      ((sources settings.extension paths : StateM FileSystem _).run fs).1 >>= fun files =>
        ((checkFiles settings files : StateM FileSystem _).run fs).1.1 := by
  rw [outcome, check, (ReadOnly.sources settings.extension paths).run_bind]
  cases ((sources settings.extension paths : StateM FileSystem _).run fs).1 with
  | error e => rfl
  | ok files =>
    dsimp only
    rw [(ReadOnly.checkFiles settings files).run_bind, ok_bind]
    match ((checkFiles settings files : StateM FileSystem _).run fs).1 with
    | (.error e, events) => rfl
    | (.ok report, events) => rfl

/-- A batch gives a report if all the files can be collected and get an entry. -/
theorem outcome_eq_ok_iff (hfs : fs.root.WellFormed) :
    outcome settings fs paths = .ok report ↔
      (∀ path ∈ paths, (∃ t, fs.find? path = .ok t) ∧ Fits fs path) ∧
        List.Forall₂ (fun file entry => checked settings fs file = .ok entry)
          (paths.flatMap (filesAt settings.extension fs)) report := by
  simp only [outcome_eq, bind_eq_ok_iff, sources_eq_ok_iff hfs, checkFiles_eq_ok_iff]
  constructor
  · rintro ⟨_, ⟨hpaths, rfl⟩, hreport⟩
    exact ⟨hpaths, hreport⟩
  · rintro ⟨hpaths, hreport⟩
    exact ⟨_, ⟨hpaths, rfl⟩, hreport⟩

/-! ## Batches of a tree -/

/-- What is to be checked for a path: the file at the path, or all files below the directory there
that have the extension, each of them once, in the order of the names that lead to them. -/
inductive Collects (extension : String) (fs : FileSystem) (path : String) : List String → Prop
  | file {content : ByteArray} (h : fs.read path = .ok content) :
      Collects extension fs path [path]
  | directory {t : FileTree} {found : List (List String)} (h : fs.find? path = .ok t)
      (hkind : t.kind = .directory)
      (mem : ∀ names, names ∈ found ↔
        hasExtension extension names = true ∧ ∃ content, t.get? names = some (.file content))
      (sorted : found.Pairwise (· < ·))
      (nodup : (found.map (·.foldl Path.join path)).Nodup)
      (read : ∀ names content, t.get? names = some (.file content) →
        FileTree.pathError? (names.foldl Path.join path) = none →
        fs.read (names.foldl Path.join path) = .ok content) :
      Collects extension fs path (found.map (·.foldl Path.join path))

/-- What a check takes from a path is what the rules on extensions ask for. -/
theorem filesAt_collects (hfs : fs.root.WellFormed) (h : fs.find? path = .ok t) :
    Collects extension fs path (filesAt extension fs path) := by
  have ht := FileSystem.wellFormed_of_find? hfs h
  cases t with
  | file content =>
    have hread : fs.read path = .ok content := by
      rw [FileSystem.read, h]
      rfl
    rw [filesAt, h]
    exact .file hread
  | directory entries =>
    rw [filesAt, h]
    have hsorted := (FileTree.pairwise_walk ht.ordered).filter (hasExtension extension)
    refine .directory h rfl (fun names => ?_) hsorted ?_ fun names content hget hfits => ?_
    · rw [List.mem_filter, FileTree.mem_walk_iff ht.ordered, and_comm]
    · -- the paths are different because the names that they are made of are
      refine List.pairwise_map.2 (hsorted.imp_of_mem fun hnames hothers hlt heq => ?_)
      obtain ⟨_, hget⟩ := (FileTree.mem_walk_iff ht.ordered).1 (List.mem_of_mem_filter hnames)
      obtain ⟨_, hget'⟩ := (FileTree.mem_walk_iff ht.ordered).1 (List.mem_of_mem_filter hothers)
      rw [Path.foldl_join_inj (FileSystem.ne_empty_of_find? h) (ht.isName _ _ hget)
        (ht.isName _ _ hget') heq] at hlt
      exact List.lt_irrefl _ hlt
    · exact FileSystem.read_foldl_join h hget (ht.isName names _ hget) hfits

/-- A batch gives a report exactly if there is something at each path, no path of a directory grows
too long on the walks, and each file that is collected is a text.  The report then has the entries
that the files get alone, in the order in which they are collected, and the reports of two batches
together make that of the paths of both. -/
theorem outcome_of_paths (settings : Settings) (hfs : fs.root.WellFormed) (paths : List String) :
    let found := ∀ path ∈ paths, (∃ t, fs.find? path = .ok t) ∧ Fits fs path
    let collected := paths.flatMap (filesAt settings.extension fs)
    (∀ files, ((sources settings.extension paths : StateM FileSystem _).run fs).1 = .ok files ↔
      found ∧ collected = files) ∧
    (∀ path t, fs.find? path = .ok t →
      Collects settings.extension fs path (filesAt settings.extension fs path)) ∧
    ((∃ report, outcome settings fs paths = .ok report) ↔
      found ∧ ∀ file ∈ collected, ∃ source : String, fs.read file = .ok source.toUTF8) ∧
    (∀ report, outcome settings fs paths = .ok report →
      List.Forall₂ (fun file entry => checked settings fs file = .ok entry ∧
        entry.file = file ∧ ∃ source : String, fs.read file = .ok source.toUTF8 ∧
          (entry.passed = true ↔ ∃ d, Document.check source = .ok d)) collected report) ∧
    ∀ before after report report', paths = before ++ after →
      outcome settings fs before = .ok report → outcome settings fs after = .ok report' →
      outcome settings fs paths = .ok (report ++ report') := by
  intro found collected
  refine ⟨fun files => sources_eq_ok_iff hfs, fun path t => filesAt_collects hfs, ?_,
    fun report h => ?_, ?_⟩
  · simp only [outcome_eq_ok_iff hfs, exists_and_left, exists_forall₂_iff, checked_eq_ok_iff]
    refine and_congr_right fun _ => forall₂_congr fun file _ => ?_
    exact ⟨fun ⟨_, source, hread, _⟩ => ⟨source, hread⟩,
      fun ⟨source, hread⟩ => ⟨_, source, hread, rfl⟩⟩
  · refine ((outcome_eq_ok_iff hfs).1 h).2.imp fun file entry hentry => ?_
    obtain ⟨source, hread, rfl⟩ := checked_eq_ok_iff.1 hentry
    exact ⟨hentry, FileReport.file_ofCheck _ _ _, source, hread, FileReport.passed_ofCheck_iff⟩
  · rintro before after report report' rfl hbefore hafter
    rw [outcome_eq_ok_iff hfs] at hbefore hafter ⊢
    rw [List.flatMap_append]
    exact ⟨List.forall_mem_append.2 ⟨hbefore.1, hafter.1⟩, List.rel_append hbefore.2 hafter.2⟩

/-- A named file, a directory with a file that is wrong, one that is right in a directory of its
own, and one that is no text and without the extension, and the directory in it once more.  One of
the paths starts in the working directory, one above it and one at the top. -/
theorem outcome_of_paths_two :
    let right := "/*\n\n*/\n/*\n\n*/\npackage p\n"
    let d : FileTree := .directory [("b", .file ⟨#[255]⟩), ("c.model", .file "?".toUTF8),
      ("n", .directory [("x.model", .file right.toUTF8)])]
    let fs : FileSystem :=
      ⟨.directory [("p", .directory [("a", .file right.toUTF8), ("d", d)])], ["p"]⟩
    ∃ report, outcome {} fs ["a", "../p/d", "/p/d/n"] = .ok report ∧
      report.map (fun entry => (entry.file, entry.passed)) =
        [("a", true), ("../p/d/c.model", false), ("../p/d/n/x.model", true),
          ("/p/d/n/x.model", true)] := by
  intro right d fs
  have hn : (directory [("x.model", .file right.toUTF8)]).WellFormed :=
    FileTree.wellFormed_directory (by decide) <| List.forall_mem_singleton.2
      ⟨by decide, FileTree.wellFormed_file _⟩
  have hd : d.WellFormed := by
    refine FileTree.wellFormed_directory (by decide) ?_
    simp only [List.forall_mem_cons, List.not_mem_nil, false_implies, implies_true, and_true]
    exact ⟨⟨by decide, FileTree.wellFormed_file _⟩, ⟨by decide, FileTree.wellFormed_file _⟩,
      by decide, hn⟩
  have hp : (directory [("a", .file right.toUTF8), ("d", d)]).WellFormed := by
    refine FileTree.wellFormed_directory (by decide) ?_
    simp only [List.forall_mem_cons, List.not_mem_nil, false_implies, implies_true, and_true]
    exact ⟨⟨by decide, FileTree.wellFormed_file _⟩, by decide, hd⟩
  have hfs : fs.root.WellFormed :=
    FileTree.wellFormed_directory (by decide) <| List.forall_mem_singleton.2 ⟨by decide, hp⟩
  have ha : fs.find? "a" = .ok (.file right.toUTF8) := by rfl
  have habove : fs.find? "../p/d" = .ok d := by rfl
  have htop : fs.find? "/p/d/n" = .ok (.directory [("x.model", .file right.toUTF8)]) := by rfl
  have hfits : Fits fs "a" ∧ Fits fs "../p/d" ∧ Fits fs "/p/d/n" :=
    ⟨(exists_files_iff_fits hfs ha).1 ⟨_, by rfl⟩,
      (exists_files_iff_fits hfs habove).1 ⟨_, by rfl⟩,
      (exists_files_iff_fits hfs htop).1 ⟨_, by rfl⟩⟩
  obtain ⟨-, -, hsuccess, hentries, -⟩ := outcome_of_paths {} hfs ["a", "../p/d", "/p/d/n"]
  have hcollected : ["a", "../p/d", "/p/d/n"].flatMap (filesAt "model" fs) =
      ["a", "../p/d/c.model", "../p/d/n/x.model", "/p/d/n/x.model"] := by rfl
  rw [hcollected] at hsuccess
  obtain ⟨report, hreport⟩ := hsuccess.2 <| by
    simp only [List.forall_mem_cons, List.not_mem_nil, false_implies, implies_true, and_true]
    exact ⟨⟨⟨⟨_, ha⟩, hfits.1⟩, ⟨⟨_, habove⟩, hfits.2.1⟩, ⟨_, htop⟩, hfits.2.2⟩,
      ⟨right, by rfl⟩, ⟨"?", by rfl⟩, ⟨right, by rfl⟩, right, by rfl⟩
  refine ⟨report, hreport, ?_⟩
  have h := hentries report hreport
  rw [hcollected] at h
  have hright (file : String) (hread : fs.read file = .ok right.toUTF8) :
      checked {} fs file = .ok (.ofCheck file right (Document.check right)) :=
    checked_eq_ok_iff.2 ⟨right, hread, rfl⟩
  have hwrong : checked {} fs "../p/d/c.model" =
      .ok (.ofCheck "../p/d/c.model" "?" (Document.check "?")) :=
    checked_eq_ok_iff.2 ⟨"?", by rfl, rfl⟩
  simp only [List.forall₂_cons_left_iff, List.forall₂_nil_left_iff, hright "a" (by rfl), hwrong,
    hright "../p/d/n/x.model" (by rfl), hright "/p/d/n/x.model" (by rfl), Except.ok.injEq] at h
  obtain ⟨_, _, ⟨rfl, -⟩, ⟨_, _, ⟨rfl, -⟩, ⟨_, _, ⟨rfl, -⟩, ⟨_, _, ⟨rfl, -⟩, rfl, rfl⟩, rfl⟩,
    rfl⟩, rfl⟩ := h
  decide +kernel

/-! ## The extension of the settings -/

/-- Only the last name of a path decides on its extension. -/
theorem hasExtension_concat {names : List String} {name : String} :
    hasExtension extension (names ++ [name]) = true ↔ Path.extension? name = some extension := by
  simp [hasExtension]

/-- What stands behind the last dot has no dot in it. -/
theorem dot_not_mem_of_hasExtension {names : List String}
    (h : hasExtension extension names = true) : '.' ∉ extension.toList := by
  obtain ⟨name, -, hname⟩ := Option.bind_eq_some_iff.1 (of_decide_eq_true h)
  exact Path.dot_not_mem_of_extension? hname

/-- Settings that are read have an extension that is not empty and has no dot in front, but it may
have one further on.  The files of a directory that end in a dot and the extension are all collected
exactly if it has none; otherwise no file is. -/
theorem collects_extension_iff {toml : String} {entries : List (String × FileTree)}
    (hsettings : Settings.ofToml toml = .ok settings)
    (hfind : fs.find? path = .ok (directory entries)) :
    (settings.extension ≠ "" ∧ settings.extension.toList.head? ≠ some '.') ∧
    match ((sources settings.extension [path] : StateM FileSystem _).run fs).1 with
    | .error e => ∃ w, e = .unlisted path w ∧ (directory entries).files path = .error w
    | .ok files =>
      ('.' ∈ settings.extension.toList → files = []) ∧
      ∀ names stem content, stem ≠ "" →
        let file := names ++ [stem ++ "." ++ settings.extension]
        (directory entries).get? file = some (.file content) →
          (file.foldl Path.join path ∈ files ↔ '.' ∉ settings.extension.toList) := by
  refine ⟨Settings.bare_of_ofToml hsettings, ?_⟩
  rw [fst_run_sources_singleton, fst_run_sourcesAt, hfind]
  simp only [Except.mapError, Except.map]
  cases hfiles : (directory entries).files path with
  | error w => exact ⟨w, rfl, rfl⟩
  | ok found =>
    have hnone : '.' ∈ settings.extension.toList →
        found.filter (hasExtension settings.extension) = [] := by
      intro hdot
      rw [List.filter_eq_nil_iff]
      exact fun names _ h => dot_not_mem_of_hasExtension h hdot
    refine ⟨fun hdot => by rw [hnone hdot, List.map_nil], fun names stem content hstem hget => ?_⟩
    by_cases hdot : '.' ∈ settings.extension.toList
    · simp [hnone hdot, hdot]
    · refine iff_of_true (List.mem_map_of_mem (List.mem_filter.2 ⟨?_, ?_⟩)) hdot
      · rw [FileTree.eq_walk_of_files hfiles]
        exact FileTree.mem_walk_of_get? hget
      · exact hasExtension_concat.2 ((Path.extension?_append_iff hstem).2 hdot)

/-- With the settings that stand where none are given. -/
theorem collects_extension_iff_model :
    let fs : FileSystem := ⟨.directory [("d", .directory [("x.model", .file ⟨#[]⟩)])], []⟩
    Settings.ofToml "" = .ok {} ∧ fs.read "d/x.model" = .ok ⟨#[]⟩ ∧
      ∃ files, ((sources "model" ["d"] : StateM FileSystem _).run fs).1 = .ok files ∧
        "d/x.model" ∈ files := by
  intro fs
  have hsettings : Settings.ofToml "" = .ok {} := by rfl
  have hfind : fs.find? "d" = .ok (directory [("x.model", .file ⟨#[]⟩)]) := by rfl
  have h := collects_extension_iff hsettings hfind
  refine ⟨hsettings, by rfl, ["d/x.model"], by rfl, ?_⟩
  exact (h.2.2 [] "x" _ (by decide) (by rfl)).2 (by decide)

/-- No file has this extension, so the file that is wrong is passed over. -/
theorem exists_extension_skipped :
    let settings : Settings := { extension := "tar.gz" }
    let fs : FileSystem := ⟨.directory [("d", .directory [("x.tar.gz", .file ⟨#[]⟩)])], []⟩
    Settings.ofToml "[check]\nextension = \"tar.gz\"\n" = .ok settings ∧
      (∃ entry, checked settings fs "d/x.tar.gz" = .ok entry ∧ entry.passed = false) ∧
      ((sources settings.extension ["d"] : StateM FileSystem _).run fs).1 = .ok [] ∧
      outcome settings fs ["d"] = .ok [] := by
  refine ⟨by rfl, ⟨_, checked_eq_ok_iff.2 ⟨"", by rfl, rfl⟩, by rfl⟩, by rfl, by rfl⟩

end Batch
end PackageModel
