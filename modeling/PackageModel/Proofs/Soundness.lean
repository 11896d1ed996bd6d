import Mathlib
import PackageModel.Proofs.Reading.Sound
import PackageModel.Proofs.Token.Tokenize

/-!
# PackageModel.Proofs.Soundness

Parsing is sound for the grammar: the tokens of a text that parses are derivable from the source
rule, all of them, and the document is the tree of a derivation with its siblings in canonical
order.
-/

namespace PackageModel.Document

open Production

/-- Nothing is left behind the end-of-file token, as it is the last one. -/
theorem eq_nil_of_source {source : String} {rest : List Lexeme} {d : Document}
    (h : Plain .source ((tokenize source).map (·.toLexeme)) rest d) : rest = [] := by
  obtain ⟨v, hd⟩ := derives_source.1 h
  obtain ⟨ts, e, htokens, he, hts⟩ := exists_tokenize_eq source
  have hsuffix := hd.suffix
  rw [htokens, List.map_append, List.map_singleton] at hsuffix
  obtain ⟨u, hu⟩ := hsuffix
  rcases List.eq_nil_or_concat rest with rfl | ⟨rest', l, rfl⟩
  · rfl
  · have hmem : (⟨.eof, v⟩ : Lexeme) ∈ ts.map (·.toLexeme) := by
      rw [List.concat_eq_append, ← List.cons_append, ← List.append_assoc] at hu
      rw [← (List.append_inj' hu rfl).1]
      simp
    obtain ⟨t, ht, hkind⟩ := List.mem_map.1 hmem
    have hkind' : t.kind = .eof := congrArg Lexeme.kind hkind
    rcases hts t ht with herror | hwhole
    · rw [hkind'] at herror
      cases herror
    · exact absurd hkind' hwhole.kind_ne_eof

/-- A text that parses has a plain derivation. -/
theorem plain_of_parse {source : String} {d : Document} (h : parse source = .ok d) :
    ∃ d₀, Plain .source ((tokenize source).map (·.toLexeme)) [] d₀ ∧ d = d₀.arranged := by
  have hrun : ofStream (.ofList (tokenize source)) =
      (.ok d, (ofStream (.ofList (tokenize source))).2) := Prod.ext h rfl
  obtain ⟨d₀, hd, hplain⟩ := readSource_reads _ (Reading.eval_of_run hrun)
  rw [eq_nil_of_source hplain] at hplain
  exact ⟨d₀, hplain, hd⟩

/-- The tokens of a text that parses are derivable from the source rule of the grammar table, and
the document is the tree of a derivation with its siblings in canonical order. -/
theorem exists_derives_of_parse {source : String} {d : Document} (h : parse source = .ok d) :
    ∃ d₀, Derives .any (.rule .source) ((tokenize source).map (·.toLexeme)) [] d₀ ∧
      d₀.Arranged d := by
  obtain ⟨d₀, hplain, rfl⟩ := plain_of_parse h
  exact ⟨d₀, hplain.mono fun _ _ _ => trivial, d₀.arranged_arranges⟩

/-- Two imports that are not in order are both found, and put in order. -/
theorem exists_derives_of_parse_imports :
    let d : Document := ⟨"/*\n\n*/\n", ⟨"/*\n\n*/\n", "a"⟩,
      some [⟨"c", "\"x\""⟩, ⟨"b", "\"y\""⟩], none, none⟩
    let source := "/*\n\n*/\n/*\n\n*/\npackage a\nimport (\n\tb \"y\"\n\tc \"x\"\n)\n"
    parse source = .ok d ∧
      ∃ d₀, Derives .any (.rule .source) ((tokenize source).map (·.toLexeme)) [] d₀ ∧
        d₀.Arranged d := by
  intro d source
  have h : parse source = .ok d := by cbv
  exact ⟨h, exists_derives_of_parse h⟩

end PackageModel.Document
