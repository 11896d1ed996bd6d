import PackageModel.Proofs.Complete.Interfaces
import PackageModel.Reading.Document

/-!
# PackageModel.Proofs.Complete.Document

What is derivable is read: documents.  A source is read if and only if its document is legible.
-/

namespace PackageModel

open Reading Stretch
open Production hiding some optional rule comment many identifier mark bracketed titled called
  interface commaList

variable {n : Nat} {w rest : List Lexeme}

/-! ## Headers and imports -/

/-- A header is read from its tokens. -/
theorem Header.read_eval {h : Header} (hh : Plain .header w rest h) :
    Header.read.eval w = some (some h, rest) := by
  obtain rfl := Production.derives_header.1 hh
  simp [Header.read]

/-- A module is read from its tokens. -/
theorem Module.read_eval {m : Module} (h : Plain .module w rest m) :
    Module.read.eval w = some (some m, rest) := by
  obtain rfl := Production.derives_module.1 h
  have htext : (Reading.text .text [.module]).eval (⟨.text, m.text⟩ :: rest) =
      some (m.text, rest) :=
    text_taken (by simp [Terminal.accepts, Terminal.text]) _
  simp [Module.read, htext]

/-- The imports are read, and they are in canonical order then. -/
theorem Module.readImports_eval {ms : List Module} (h : Plain .imports w rest ms)
    (hn : w.length < n) :
    (readImports n).eval w = some (some (canonicalSort ms), rest) := by
  obtain ⟨w₁, rfl, hms⟩ := Production.derives_imports.1 h
  simp only [List.length_cons] at hn
  have hend : Module.read.eval (.mark ")" :: rest) = some (none, .mark ")" :: rest) := by
    have hname : Refuses .identifier (.mark ")" :: rest) := by simp
    simp [Module.read, identifier?_left hname]
  have hmodules : (orEmpty (oneOrMore Module.read n)).eval w₁ = some (ms, .mark ")" :: rest) := by
    cases hms with
    | absent => simp [orEmpty, oneOrMore, hend]
    | present hms =>
      cases Production.derives_modules.1 hms with
      | @mk _ w₂ _ m ms hm hothers =>
        have hlt := hm.length_lt
        have hmany : (many Module.read n).eval w₂ = some (ms, .mark ")" :: rest) :=
          many_eval Module.read_eval Production.Derives.length_lt hend hothers (by omega)
        simp [orEmpty, oneOrMore, read_eval hm, hmany]
  simp [readImports, hmodules]

/-! ## Documents -/

/-- At the end of the file nothing else comes next. -/
theorem refuses_eof {v : String} {t : Terminal} (ht : t.kind ≠ .eof) :
    Refuses t (⟨.eof, v⟩ :: rest) := by
  rw [refuses_cons, ← Bool.not_eq_true, Terminal.accepts_iff]
  exact fun h => ht h.1.symm

/-- A heading is no other token. -/
theorem refuses_note {v : String} {t : Terminal} (ht : t.excludes (.note v) = true) :
    Refuses t (⟨.note, v⟩ :: rest) :=
  Terminal.not_accepts_of_excludes ht (by simp)

/-- The end of a source ends all sections. -/
theorem ends_eof (notes : List String) (v : String) : Ends notes (⟨.eof, v⟩ :: rest) := by
  constructor
  · constructor
    · constructor <;> exact refuses_eof nofun
    · exact refuses_eof nofun
    · exact refuses_eof nofun
  · exact fun _ _ => refuses_eof nofun

/-- A heading ends the sections that do not start with it. -/
theorem ends_note {notes : List String} {v : String} (h : ∀ n ∈ notes, n ≠ v) :
    Ends notes (⟨.note, v⟩ :: rest) := by
  constructor
  · constructor
    · constructor <;> exact refuses_note rfl
    · exact refuses_note rfl
    · exact refuses_note rfl
  · intro n hn
    exact refuses_note (by simpa [Terminal.excludes, Terminal.note] using h n hn)

/-- A document is read up to the end of the file if it is legible, and it is in canonical order
then. -/
theorem Document.read_gives {d : Document} {v : String}
    (h : Plain .document w (⟨.eof, v⟩ :: rest) d) (hn : w.length < n) :
    (Document.read n).Gives w d.Legible (some d.arranged) (⟨.eof, v⟩ :: rest) := by
  obtain ⟨notice, header, imports, types, interfaces⟩ := d
  obtain ⟨w₁, w₂, w₃, w₄, rfl, hh, hms, hts, his⟩ := Production.derives_document.1 h
  simp only at hh hms hts his
  have hlt := hh.length_lt
  have hle₁ := Production.length_le_of_maybe hms
  have hle₂ := Production.length_le_of_maybe hts
  rw [List.length_cons] at hn
  -- what stands behind the types does not continue them: the next heading, or the end of the file
  have hends : Ends ["// TYPES", "// Specializations", "// Functionals"] w₄ := by
    cases his with
    | absent => exact ends_eof _ v
    | present hi =>
      obtain ⟨u, _, _, rfl, -⟩ := Production.derives_interfaces.1 hi
      exact ends_note (by simp)
  -- nor is the word `import` there if the imports are missing
  have hname : Refuses .identifier w₃ := by
    cases hts with
    | absent => exact hends.identifier
    | present ht =>
      obtain ⟨u, _, rfl, -⟩ := Production.derives_types.1 ht
      exact refuses_note rfl
  have himports : (Module.readImports n).eval w₂ = some (imports.map canonicalSort, w₃) := by
    cases hms with
    | absent => simp [Module.readImports, keyword?_left (hname.keyword _)]
    | present hms => exact Module.readImports_eval hms (by omega)
  have htypes : (Types.read n).Gives w₃
      (∀ s ∈ (types.map (·.specializations)).getD [], s.Legible) (types.map Types.arranged) w₄ := by
    cases hts with
    | absent =>
      have hnote := hends.note "// TYPES" (by simp)
      have hread : (Types.read n).eval w₃ = some (none, w₃) := by
        simp [Types.read, note?_left hnote]
      exact (Gives.of_eval hread).congr (by simp)
    | present ht => exact Types.read_gives ht (hends.mono (by simp)) (by omega)
  have hinterfaces : (Interfaces.read n).Gives w₄
      ((∀ a ∈ (interfaces.map (·.aspects)).getD [], a.Legible) ∧
        ∀ i ∈ (interfaces.map (·.instances)).getD [], i.Legible)
      (interfaces.map Interfaces.arranged) (⟨.eof, v⟩ :: rest) := by
    cases his with
    | absent =>
      have hnote : Refuses (.note "// INTERFACES") (⟨.eof, v⟩ :: rest) := refuses_eof nofun
      have hread : (Interfaces.read n).eval (⟨.eof, v⟩ :: rest) =
          some (none, ⟨.eof, v⟩ :: rest) := by
        simp [Interfaces.read, note?_left hnote]
      exact (Gives.of_eval hread).congr (by simp)
    | present hi => exact Interfaces.read_gives hi (ends_eof _ v) (by omega)
  have hheader : (required Header.read "header"
      [.document, .notice, .header, .imports, .types, .interfaces]).eval w₁ =
      some (header, w₂) := by
    simp [required, Header.read_eval hh]
  have hlegible : ((∀ s ∈ (types.map (·.specializations)).getD [], s.Legible) ∧
      (∀ a ∈ (interfaces.map (·.aspects)).getD [], a.Legible) ∧
      ∀ i ∈ (interfaces.map (·.instances)).getD [], i.Legible) ↔
      Legible ⟨notice, header, imports, types, interfaces⟩ :=
    ⟨fun h => ⟨h.1, h.2.1, h.2.2⟩, fun h => ⟨h.1, h.2, h.3⟩⟩
  refine Gives.congr ?_ hlegible
  exact Gives.bind_of_eval comment?_taken (Gives.bind_of_eval hheader
    (Gives.bind_of_eval himports (htypes.bind (hinterfaces.bind_done rfl))))

/-- A source is read if and only if its document is legible. -/
theorem Document.readSource_gives {d : Document} (h : Plain .source w rest d)
    (hn : w.length < n) : (readSource n).Gives w d.Legible d.arranged rest := by
  obtain ⟨v, hd⟩ := Production.derives_source.1 h
  have heof : ((Reading.text .eof [.source, .document]).bind fun _ => done d.arranged).eval
      (⟨.eof, v⟩ :: rest) = some (d.arranged, rest) := by
    have htext : (Reading.text .eof [.source, .document]).eval (⟨.eof, v⟩ :: rest) =
        some (v, rest) :=
      text_taken (by simp [Terminal.accepts, Terminal.eof]) _
    simp [htext]
  refine Gives.congr ?_ (and_iff_left trivial)
  exact (required_gives (read_gives hd hn) "document" [.source, .document]).bind (.of_eval heof)

end PackageModel
