import PackageModel.CommandLine.Run
import PackageModel.Proofs.FileTree.System
import PackageModel.Proofs.ReadOnly
import PackageModel.Proofs.RoundTrip

/-!
# PackageModel.Proofs.CommandLine

What a run of the command line does to files.  All commands only look at them, but for `format` with
`--write`; that one writes a single file once, with the canonical text of what it holds, and only if
everything that comes before has gone well.
-/

namespace PackageModel.CommandLine

variable {arguments : List String} {i : Invocation} {file : String}

/-! ## Arguments -/

/-- A command rewrites a file if it is `format`, with the file, `--write` and no `--compare`. -/
theorem Options.command_eq_ok_write_iff {o : Options} {name : CommandName} :
    o.command name = .ok (.format file .write) ↔
      name = .format ∧ o.operands = [file] ∧ .write ∈ o.flags ∧ .compare ∉ o.flags := by
  obtain ⟨flags, settingsFile, operands⟩ := o
  cases name with
  | format =>
    match operands with
    | [operand] => by_cases .compare ∈ flags <;> by_cases .write ∈ flags <;> simp [command, *]
    | [] | _ :: _ :: _ => simp [command]
  | check | dump | version | help =>
    match operands with
    | [] | [_] | _ :: _ :: _ => simp [command]

/-- The command comes from the options and operands behind its name. -/
theorem exists_scan_of_ofArguments (h : Invocation.ofArguments arguments = .ok i) :
    ∃ before name rest behind more, scan none arguments {} = .ok (before, some (name, rest)) ∧
      scan (some name) rest {} = .ok (behind, more) ∧ behind.command name = .ok i.command := by
  rw [Invocation.ofArguments] at h
  obtain ⟨⟨before, command?⟩, hbefore, h⟩ := bind_eq_ok_iff.1 h
  match command?, h with
  | none, h => cases h
  | some (.help, topics), h =>
    dsimp only at h
    split at h <;> cases h
  | some (.check, rest), h | some (.format, rest), h | some (.dump, rest), h
  | some (.version, rest), h =>
    obtain ⟨⟨behind, more⟩, hbehind, h⟩ := bind_eq_ok_iff.1 h
    obtain ⟨command, hcommand, h⟩ := bind_eq_ok_iff.1 h
    obtain rfl := Except.ok.inj h
    exact ⟨before, _, rest, behind, more, hbefore, hbehind, hcommand⟩

/-- Writing is asked for by `format` with `--write` and without `--check`. -/
theorem scan_of_write (h : Invocation.ofArguments arguments = .ok i)
    (hcommand : i.command = .format file .write) :
    ∃ before rest behind more, scan none arguments {} = .ok (before, some (.format, rest)) ∧
      scan (some .format) rest {} = .ok (behind, more) ∧ behind.operands = [file] ∧
      .write ∈ behind.flags ∧ .compare ∉ behind.flags := by
  obtain ⟨before, name, rest, behind, more, hbefore, hbehind, hname⟩ :=
    exists_scan_of_ofArguments h
  rw [hcommand, Options.command_eq_ok_write_iff] at hname
  obtain ⟨rfl, hoperands, hwrite, hcompare⟩ := hname
  exact ⟨before, rest, behind, more, hbefore, hbehind, hoperands, hwrite, hcompare⟩

/-! ## Commands -/

section

variable {σ : Type} [FileAccess (StateM σ)] [LawfulFileAccess σ] {s : σ} {settings : Settings}
  {source : String} {d : Document} {go : String → Document → List Event → StateM σ Outcome}

/-- A result beside its log is the result. -/
theorem parseLogged_eq (settings : Settings) (source : String) :
    Document.parseLogged settings source =
      (Document.parse source, (Document.parseLogged settings source).2) :=
  Prod.ext (Document.fst_parseLogged settings source) rfl

/-- A file that can be read and parsed is handed on. -/
theorem run_withDocument (hread : ((FileAccess.readText file : StateM σ _).run s).1 = .ok source)
    (hparse : Document.parse source = .ok d) :
    (withDocument settings file go).run s =
      (go source d (Document.parseLogged settings source).2).run s := by
  rw [withDocument, (ReadOnly.readText file).run_bind, hread]
  dsimp only
  rw [parseLogged_eq, hparse]

/-- A file that cannot be read or does not parse is left alone. -/
theorem snd_run_withDocument
    (h : ¬ ∃ source d, ((FileAccess.readText file : StateM σ _).run s).1 = .ok source ∧
      Document.parse source = .ok d) :
    ((withDocument settings file go).run s).2 = s := by
  rw [withDocument, (ReadOnly.readText file).run_bind]
  cases hread : ((FileAccess.readText file : StateM σ _).run s).1 with
  | error reason => rfl
  | ok source =>
    dsimp only
    rw [parseLogged_eq]
    cases hparse : Document.parse source with
    | error e => rfl
    | ok d => exact absurd ⟨source, d, hread, hparse⟩ h

/-- Reading a document first only reads. -/
theorem readOnly_withDocument (hgo : ∀ source d events, ReadOnly (go source d events)) :
    ReadOnly (withDocument settings file go) := by
  intro s
  by_cases h : ∃ source d, ((FileAccess.readText file : StateM σ _).run s).1 = .ok source ∧
      Document.parse source = .ok d
  · obtain ⟨source, d, hread, hparse⟩ := h
    rw [run_withDocument hread hparse]
    exact hgo _ _ _ s
  · exact snd_run_withDocument h

/-- All commands but one change no file. -/
theorem readOnly_runCommand {command : Command} (h : ∀ file, command ≠ .format file .write) :
    ReadOnly (runCommand settings command : StateM σ _) := by
  match command, h with
  | .check paths json, _ =>
    refine (ReadOnly.check settings paths).bind fun result => ?_
    match result with
    | (.error e, events) => exact .pure _
    | (.ok report, events) => exact .pure _
  | .format file .print, _ => exact readOnly_withDocument fun source d events => .pure _
  | .format file .compare, _ => exact readOnly_withDocument fun source d events => .pure _
  | .format file .write, h => exact absurd rfl (h file)
  | .dump file, _ => exact readOnly_withDocument fun source d events => .pure _
  | .version, _ => exact .pure _

/-! ## Runs -/

variable {env : Settings.Environment}

/-- What it takes for a run to replace a file: the arguments ask for it, the settings can be loaded,
and the file holds a text that parses. -/
structure Rewrites (env : Settings.Environment) (arguments : List String) (s : σ)
    (file source : String) (d : Document) : Prop where
  asked : ∃ i, Invocation.ofArguments arguments = .ok i ∧ i.command = .format file .write ∧
    ∃ settings, ((Settings.load env i.settingsFile : StateM σ _).run s).1 = .ok settings
  readable : ((FileAccess.readText file : StateM σ _).run s).1 = .ok source
  parsed : Document.parse source = .ok d

/-- Such a run writes the canonical text once, unless the file holds it already. -/
theorem snd_run_of_rewrites (h : Rewrites env arguments s file source d) :
    ((run env arguments : StateM σ Outcome).run s).2 =
      if d.canonicalText = source then s
      else ((FileAccess.write file d.canonicalText : StateM σ _).run s).2 := by
  obtain ⟨i, hi, hcommand, settings, hsettings⟩ := h.asked
  rw [run, hi]
  dsimp only
  rw [(ReadOnly.load env i.settingsFile).run_bind, hsettings]
  dsimp only
  rw [hcommand, runCommand, runFormat, run_withDocument h.readable h.parsed]
  dsimp only
  split
  · rfl
  · rw [StateT.run_bind]
    obtain ⟨result, s'⟩ := (FileAccess.write file d.canonicalText : StateM σ _).run s
    cases result <;> rfl

/-- Any other run changes nothing. -/
theorem snd_run_of_not_rewrites (h : ¬ ∃ file source d, Rewrites env arguments s file source d) :
    ((run env arguments : StateM σ Outcome).run s).2 = s := by
  rw [run]
  cases hi : Invocation.ofArguments arguments with
  | error stop => cases stop <;> rfl
  | ok i =>
    dsimp only
    rw [(ReadOnly.load env i.settingsFile).run_bind]
    cases hsettings : ((Settings.load env i.settingsFile : StateM σ _).run s).1 with
    | error e => rfl
    | ok settings =>
      dsimp only
      by_cases hcommand : ∃ file, i.command = .format file .write
      · obtain ⟨file, hcommand⟩ := hcommand
        rw [hcommand, runCommand, runFormat]
        refine snd_run_withDocument fun ⟨source, d, hread, hparse⟩ => h ⟨file, source, d, ?_⟩
        exact ⟨⟨i, hi, hcommand, settings, hsettings⟩, hread, hparse⟩
      · exact readOnly_runCommand (not_exists.1 hcommand) s

end

/-! ## Runs on file systems -/

variable {env : Settings.Environment} {fs fs' : FileSystem} {source : String} {d : Document}

/-- A file that is rewritten held its source before. -/
theorem Rewrites.read_eq (h : Rewrites env arguments fs file source d) :
    fs.read file = .ok source.toUTF8 := FileSystem.readText_eq_ok_iff.1 h.readable

/-- A write that succeeds leaves the changed file system. -/
theorem snd_run_write {text : String} (h : fs.write file text = .ok fs') :
    ((FileAccess.write file text : StateM FileSystem _).run fs).2 = fs' := by
  simp only [FileAccess.write, StateT.run_bind, StateT.run_get, pure_bind, h]
  rfl

/-- On a file system such a run gives the file its canonical text and keeps everything else. -/
theorem Rewrites.sameBut (h : Rewrites env arguments fs file source d) :
    ∃ names fs', ((run env arguments : StateM FileSystem Outcome).run fs).2 = fs' ∧
      fs.locate file = .ok names ∧ fs.SameBut names fs' ∧
      fs'.read file = .ok d.canonicalText.toUTF8 := by
  rw [snd_run_of_rewrites h]
  by_cases hsame : d.canonicalText = source
  · obtain ⟨names, hlocate, -⟩ := FileSystem.read_eq_ok_iff.1 h.read_eq
    rw [if_pos hsame, hsame]
    exact ⟨names, fs, rfl, hlocate, .refl names fs, h.read_eq⟩
  · obtain ⟨names, fs', hlocate, hwrite, hbut, hread⟩ :=
      FileSystem.exists_write_of_read h.read_eq d.canonicalText
    rw [if_neg hsame, snd_run_write hwrite]
    exact ⟨names, fs', rfl, hlocate, hbut, hread⟩

/-- A run of the command line changes one file at most.  It is the file of `format`, with `--write`
and without `--check`, if the settings can be loaded and the file holds a text that parses; the
file then holds the canonical text of what it held, and nothing changes if that is the same.  In
all other cases nothing changes at all.  Wherever the files are kept, all that is done to them is to
write this text once; in a file system the file is the one to which its path leads, and all others
have the content that they had. -/
theorem run_frame (env : Settings.Environment) (arguments : List String) :
    (∀ {σ : Type} [FileAccess (StateM σ)] [LawfulFileAccess σ] (s : σ),
      let s' := ((run env arguments : StateM σ Outcome).run s).2
      (∀ file source d, Rewrites env arguments s file source d →
        s' = if d.canonicalText = source then s
          else ((FileAccess.write file d.canonicalText : StateM σ _).run s).2) ∧
      ((¬ ∃ file source d, Rewrites env arguments s file source d) → s' = s)) ∧
    (∀ fs : FileSystem,
      let fs' := ((run env arguments : StateM FileSystem Outcome).run fs).2
      (∀ file source d, Rewrites env arguments fs file source d →
        fs.read file = .ok source.toUTF8 ∧ fs'.read file = .ok d.canonicalText.toUTF8 ∧
        (∃ names, fs.locate file = .ok names ∧ fs.SameBut names fs') ∧
        (d.canonicalText = source → fs' = fs)) ∧
      ((¬ ∃ file source d, Rewrites env arguments fs file source d) → fs' = fs)) ∧
    (∀ i file, Invocation.ofArguments arguments = .ok i → i.command = .format file .write →
      ∃ before rest behind more, scan none arguments {} = .ok (before, some (.format, rest)) ∧
        scan (some .format) rest {} = .ok (behind, more) ∧ behind.operands = [file] ∧
        .write ∈ behind.flags ∧ .compare ∉ behind.flags) := by
  refine ⟨fun s => ⟨fun file source d => snd_run_of_rewrites, snd_run_of_not_rewrites⟩,
    fun fs => ⟨fun file source d h => ?_, snd_run_of_not_rewrites⟩, fun i file => scan_of_write⟩
  obtain ⟨names, fs', hrun, hlocate, hbut, hread⟩ := h.sameBut
  refine ⟨h.read_eq, by rw [hrun]; exact hread, ⟨names, hlocate, by rw [hrun]; exact hbut⟩, ?_⟩
  intro hsame
  rw [snd_run_of_rewrites h, if_pos hsame]

/-- The methods in the file change places; the file beside it, which is no text, stays the same.
With `--check` nothing changes.  The settings are named from the top directory, the file from the
one above the working directory. -/
theorem run_frame_foo_bar :
    let source := "/*\n\n*/\n/*\n\n*/\npackage p\n// INTERFACES\n// Aspects\n/*\n\n*/\n" ++
      "type A interface \x7b\n// Methods\nfoo()\nbar()\n\x7d\n"
    let d := Document.ofMethods [⟨"bar", [], none⟩, ⟨"foo", [], none⟩]
    let fs : FileSystem := ⟨.directory [("c.toml", .file "[diagnostics]\ncolors = false\n".toUTF8),
      ("p", .directory [("a", .file source.toUTF8), ("b", .file ⟨#[255]⟩)])], ["p"]⟩
    let after (option : String) : FileSystem :=
      ((run (fun _ => none) ["--config", "/c.toml", "format", option, "../p/a"] :
        StateM FileSystem Outcome).run fs).2
    d.canonicalText ≠ source ∧ (after "--write").read "/p/a" = .ok d.canonicalText.toUTF8 ∧
      (after "--write").read "b" = .ok ⟨#[255]⟩ ∧ after "--check" = fs := by
  intro source d fs after
  have hread : fs.read "../p/a" = .ok source.toUTF8 :=
    FileSystem.read_eq_ok_iff.2 ⟨["p", "a"], by rfl, by rfl⟩
  have hrewrites : Rewrites (fun _ => none) ["--config", "/c.toml", "format", "--write", "../p/a"]
      fs "../p/a" source d :=
    { asked := ⟨⟨.format "../p/a" .write, false, some "/c.toml"⟩, by rfl, rfl,
        { colors := false }, by rfl⟩
      readable := FileSystem.readText_eq_ok_iff.2 hread
      parsed := Document.parse_foo_bar }
  have hne : d.canonicalText ≠ source := by decide +kernel
  have hkeeps : ¬ ∃ file source d,
      Rewrites (fun _ => none) ["--config", "/c.toml", "format", "--check", "../p/a"] fs
        file source d := by
    rintro ⟨file, source, d, h⟩
    obtain ⟨i, hi, hcommand, -⟩ := h.asked
    obtain rfl : i = ⟨.format "../p/a" .compare, false, some "/c.toml"⟩ :=
      Except.ok.inj (hi.symm.trans (by rfl))
    cases hcommand
  obtain ⟨-, hwrite, -⟩ :=
    run_frame (fun _ => none) ["--config", "/c.toml", "format", "--write", "../p/a"]
  obtain ⟨-, hcheck, -⟩ :=
    run_frame (fun _ => none) ["--config", "/c.toml", "format", "--check", "../p/a"]
  obtain ⟨-, hafter, ⟨names, hlocate, hbut⟩, -⟩ := (hwrite fs).1 "../p/a" source d hrewrites
  have hfile : fs.locate "../p/a" = .ok ["p", "a"] := by rfl
  have htop : fs.locate "/p/a" = .ok ["p", "a"] := by rfl
  have hbeside : fs.locate "b" = .ok ["p", "b"] := by rfl
  refine ⟨hne, ?_, ?_, (hcheck fs).2 hkeeps⟩
  · rw [FileSystem.read_eq, hbut.locate_eq, htop, ← hfile, ← hbut.locate_eq, ← FileSystem.read_eq]
    exact hafter
  · rw [hbut.read_eq]
    · exact FileSystem.read_eq_ok_iff.2 ⟨["p", "b"], hbeside, by rfl⟩
    · rw [hbeside, ← hlocate, hfile]
      simp

end PackageModel.CommandLine
