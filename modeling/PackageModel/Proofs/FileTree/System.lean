import PackageModel.FileTree.Access
import PackageModel.Proofs.Except
import PackageModel.Proofs.FileTree

/-!
# PackageModel.Proofs.FileTree.System

Reading and writing the files of a machine.  A file that has been written can be read, every path
leads where it led before, and all other files have the content that they had.
-/

namespace PackageModel

/-- A file holds a text if its bytes are those of the text. -/
theorem decodeText_eq_ok_iff {content : ByteArray} {text : String} :
    decodeText content = .ok text ↔ content = text.toUTF8 := by
  rw [decodeText, String.fromUTF8?, String.toUTF8_eq_toByteArray]
  constructor
  · intro h
    by_cases hvalid : content.IsValidUTF8
    · rw [dif_pos hvalid] at h
      obtain rfl := Except.ok.inj h
      rfl
    · rw [dif_neg hvalid] at h
      cases h
  · rintro rfl
    rw [dif_pos text.isValidUTF8]
    rfl

namespace FileTree

variable {t t' : FileTree}

/-! ## Following paths -/

/-- A path that is followed further is followed from where its front leads. -/
theorem follow_append (root : FileTree) (here parts more : List String) :
    root.follow here (parts ++ more) = root.follow here parts >>= (root.follow · more) := by
  induction parts generalizing here with
  | nil => rfl
  | cons part parts ih =>
    rw [List.cons_append, follow, follow, ih, ih, ih]
    repeat' split
    all_goals rfl

/-- What a path leads to depends on nothing but what is a directory and what is a file. -/
theorem SameKinds.follow_eq (h : SameKinds t t') (here parts : List String) :
    t'.follow here parts = t.follow here parts := by
  induction parts generalizing here with
  | nil => rfl
  | cons part parts ih => rw [follow, follow, h here, ih, ih, ih]

end FileTree

namespace FileSystem

open FileTree (file content?)

variable {fs fs' : FileSystem} {path : String} {names : List String} {old : ByteArray}

/-- The files are the same but for the content of the one to which the names lead, and relative
paths start in the same directory. -/
structure SameBut (names : List String) (fs fs' : FileSystem) : Prop where
  tree : fs.root.SameBut names fs'.root
  workingDirectory : fs'.workingDirectory = fs.workingDirectory

/-- A file system is the same as itself. -/
theorem SameBut.refl (names : List String) (fs : FileSystem) : SameBut names fs fs :=
  ⟨.refl names fs.root, rfl⟩

/-- A path leads to the same place. -/
theorem SameBut.locate_eq (h : SameBut names fs fs') (path : String) :
    fs'.locate path = fs.locate path := by
  rw [locate, locate, h.workingDirectory]
  cases FileTree.pathError? path with
  | none => exact h.tree.kinds.follow_eq _ _
  | some e => rfl

/-! ## Reading and writing -/

/-- What reading depends on: where the path leads, and the bytes of the file there. -/
theorem read_eq (fs : FileSystem) (path : String) :
    fs.read path = fs.locate path >>= fun names =>
      match (fs.root.get? names).map content? with
      | some (some content) => .ok content
      | some none => .error .isDirectory
      | none => .error .missing := by
  rw [read, find?]
  cases fs.locate path with
  | error e => rfl
  | ok names =>
    cases hget : fs.root.get? names with
    | none => simp [hget]
    | some t => cases t <;> simp [hget, content?]

/-- A path is read as a file if it leads to one. -/
theorem read_eq_ok_iff :
    fs.read path = .ok old ↔
      ∃ names, fs.locate path = .ok names ∧ fs.root.get? names = some (file old) := by
  rw [read, find?]
  cases fs.locate path with
  | error e => simp
  | ok names =>
    cases hget : fs.root.get? names with
    | none => simp [hget]
    | some t => cases t <;> simp [hget]

/-- A program reads a text where the bytes of the text are. -/
theorem readText_eq_ok_iff {text : String} :
    ((FileAccess.readText path : StateM FileSystem _).run fs).1 = .ok text ↔
      fs.read path = .ok text.toUTF8 := by
  change (fs.read path >>= decodeText) = .ok text ↔ _
  simp only [bind_eq_ok_iff, decodeText_eq_ok_iff, exists_eq_right]

/-- A path that leads elsewhere is read as before. -/
theorem SameBut.read_eq (h : SameBut names fs fs') (hplace : fs.locate path ≠ .ok names) :
    fs'.read path = fs.read path := by
  rw [FileSystem.read_eq, FileSystem.read_eq, h.locate_eq]
  cases hlocate : fs.locate path with
  | error e => rfl
  | ok others =>
    have hne : others ≠ names := fun heq => hplace (hlocate.trans (by rw [heq]))
    rw [ok_bind, ok_bind, h.tree.elsewhere others hne]

/-- A file that can be read can be written, and only its content changes. -/
theorem exists_write_of_read (h : fs.read path = .ok old) (text : String) :
    ∃ names fs', fs.locate path = .ok names ∧ fs.write path text = .ok fs' ∧
      fs.SameBut names fs' ∧ fs'.read path = .ok text.toUTF8 := by
  obtain ⟨names, hlocate, hget⟩ := read_eq_ok_iff.1 h
  let fs' : FileSystem := { fs with root := fs.root.set names (file text.toUTF8) }
  have hbut : fs.SameBut names fs' := ⟨FileTree.sameBut_set hget, rfl⟩
  refine ⟨names, fs', hlocate, ?_, hbut, ?_⟩
  · simp [write, hlocate, hget, fs']
  · exact read_eq_ok_iff.2
      ⟨names, (hbut.locate_eq path).trans hlocate, FileTree.get?_set_self hget⟩

end FileSystem

end PackageModel
