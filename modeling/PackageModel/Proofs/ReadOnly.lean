import PackageModel.Batch
import PackageModel.Settings.Lookup

/-!
# PackageModel.Proofs.ReadOnly

Programs that look at files and change none.  The settings are found and batches are checked by such
programs, whatever the files are kept in.
-/

namespace PackageModel

section

variable {σ α β : Type} {p : StateM σ α} {f : α → StateM σ β}

/-- The program leaves the state as it is. -/
def ReadOnly (p : StateM σ α) : Prop := ∀ s, (p.run s).2 = s

namespace ReadOnly

/-- A constant touches no file. -/
protected theorem pure (a : α) : ReadOnly (pure a : StateM σ α) := fun _ => rfl

/-- What follows starts in the same state. -/
theorem run_bind (h : ReadOnly p) (f : α → StateM σ β) (s : σ) :
    (p >>= f).run s = (f (p.run s).1).run s := by
  have hrun : p.run s = ((p.run s).1, s) := Prod.ext rfl (h s)
  rw [StateT.run_bind, hrun]
  rfl

/-- Programs that only read may stand one after the other. -/
protected theorem bind (h : ReadOnly p) (hf : ∀ a, ReadOnly (f a)) : ReadOnly (p >>= f) := by
  intro s
  rw [h.run_bind]
  exact hf _ s

end ReadOnly

end

/-- Access to files in a state, where nothing but writing changes the state. -/
class LawfulFileAccess (σ : Type) [FileAccess (StateM σ)] : Prop where
  kind? (path : String) : ReadOnly (FileAccess.kind? path : StateM σ _)
  filesBelow (path : String) : ReadOnly (FileAccess.filesBelow path : StateM σ _)
  read (path : String) : ReadOnly (FileAccess.read path : StateM σ _)

/-- Reading and listing leave a file system as it is, and so does the question what a path leads
to. -/
instance : LawfulFileAccess FileSystem where
  kind? _ _ := rfl
  filesBelow path := by
    have hget : ReadOnly (get : StateM FileSystem FileSystem) := fun _ => rfl
    refine hget.bind fun fs => ?_
    cases fs.find? path <;> exact .pure _
  read _ _ := rfl

namespace ReadOnly

variable {σ : Type} [FileAccess (StateM σ)] [LawfulFileAccess σ]

/-- Reading a text is reading a file and decoding it. -/
protected theorem readText (path : String) :
    ReadOnly (FileAccess.readText path : StateM σ _) :=
  (LawfulFileAccess.read path).bind fun _ => .pure _

/-- Whether there is a file is asked without a change. -/
protected theorem isFile (path : String) : ReadOnly (FileAccess.isFile path : StateM σ _) :=
  (LawfulFileAccess.kind? path).bind fun _ => .pure _

/-! ## Settings -/

/-- Settings are read from their file. -/
theorem ofFile (path : String) : ReadOnly (Settings.ofFile path : StateM σ _) := by
  refine (ReadOnly.readText path).bind fun text => ?_
  cases text <;> exact .pure _

/-- Finding the settings changes no file. -/
theorem load (env : Settings.Environment) (named : Option String) :
    ReadOnly (Settings.load env named : StateM σ _) := by
  cases named with
  | some path => exact .ofFile path
  | none =>
    refine (ReadOnly.isFile _).bind fun project => ?_
    cases project with
    | true => exact .ofFile _
    | false =>
      cases Settings.userFile? env with
      | none => exact .pure _
      | some path =>
        refine (ReadOnly.isFile path).bind fun user => ?_
        cases user
        · exact .pure _
        · exact .ofFile path

/-! ## Batches -/

/-- The sources of a path are found by reading. -/
theorem sourcesAt (extension path : String) :
    ReadOnly (Batch.sourcesAt extension path : StateM σ _) := by
  refine (LawfulFileAccess.kind? path).bind fun kind => ?_
  match kind with
  | none => exact .pure _
  | some .file => exact .pure _
  | some .directory =>
    refine (LawfulFileAccess.filesBelow path).bind fun files => ?_
    cases files <;> exact .pure _

/-- So are those of several paths. -/
theorem sources (extension : String) (paths : List String) :
    ReadOnly (Batch.sources extension paths : StateM σ _) := by
  induction paths with
  | nil => exact .pure _
  | cons path paths ih =>
    refine (ReadOnly.sourcesAt extension path).bind fun files => ?_
    cases files with
    | error e => exact .pure _
    | ok files => exact ih.bind fun _ => .pure _

/-- A file is checked by reading it. -/
theorem checkFile (settings : Settings) (file : String) :
    ReadOnly (Batch.checkFile settings file : StateM σ _) := by
  refine (ReadOnly.readText file).bind fun source => ?_
  cases source <;> exact .pure _

/-- So are several files. -/
theorem checkFiles (settings : Settings) (files : List String) :
    ReadOnly (Batch.checkFiles settings files : StateM σ _) := by
  induction files with
  | nil => exact .pure _
  | cons file files ih =>
    refine (ReadOnly.checkFile settings file).bind fun result => ?_
    match result with
    | (.error e, events) => exact .pure _
    | (.ok report, events) => exact ih.bind fun _ => .pure _

/-- Checking a batch changes no file. -/
theorem check (settings : Settings) (paths : List String) :
    ReadOnly (Batch.check settings paths : StateM σ _) := by
  refine (ReadOnly.sources settings.extension paths).bind fun files => ?_
  cases files with
  | error e => exact .pure _
  | ok files =>
    refine (ReadOnly.checkFiles settings files).bind fun result => ?_
    match result with
    | (.error e, events) => exact .pure _
    | (.ok report, events) => exact .pure _

end ReadOnly

end PackageModel
