import PackageModel.Proofs.Completeness
import PackageModel.Proofs.Viable.Document

/-!
# PackageModel.Proofs.Viable

Errors are never reported too late.  The tokens in front of an unexpected one are the beginning of
a source that is parsed, so no token is taken that cannot be part of one.
-/

namespace PackageModel.Document

open Production

/-- The tokens of a document word, with an end-of-file token behind them, are parsed. -/
theorem exists_ofTokens_of_mem {tokens : List Token} {e : Token}
    (h : tokens.map (·.toLexeme) ∈ Rule.document.words) (he : e.kind = .eof) :
    ∃ d, ofTokens (tokens ++ [e]) = .ok d := by
  obtain ⟨d, hd, hlegible⟩ := h
  have hplain : Plain .source ((tokens ++ [e]).map (·.toLexeme)) [] d := by
    refine derives_source.2 ⟨e.value, ?_⟩
    rw [List.map_append, List.map_singleton, ← he]
    exact hd _
  exact ⟨_, (ofTokens_of_plain hplain).2 hlegible⟩

/-- Where a token is unexpected, the tokens in front of it can be completed, without an end-of-file
token, to tokens that are parsed once an end-of-file token stands behind them. -/
theorem exists_completion {tokens : List Token} {t : Token} {expected : String}
    {rules : List Rule} {s : TokenStream}
    (h : ofStream (.ofList tokens) = (.error (.unexpected t expected rules), s)) :
    ∃ before after w : List Token, tokens = before ++ t :: after ∧ s.ahead = t :: after ∧
      (∀ u ∈ before ++ w, u.kind ≠ .eof) ∧
      ∀ e : Token, e.kind = .eof → ∃ d, ofTokens (before ++ w ++ [e]) = .ok d := by
  cases Reading.stops_of_run (TokenStream.clean_ofList tokens) h with
  | @unexpected _ _ after _ _ hahead hsuffix _ hstuck =>
    obtain ⟨u, v, huv, hw⟩ := readSource_stuck (Nat.succ_pos _) hstuck
    obtain ⟨before, hbefore⟩ := hsuffix
    have hu : u = before.map (·.toLexeme) := by
      refine List.append_cancel_right (hw.symm.trans ?_)
      rw [TokenStream.lexemes, ← hbefore, List.map_append]
      rfl
    obtain ⟨w, rfl⟩ : ∃ w : List Token, v = w.map (·.toLexeme) :=
      ⟨v.map fun l => ⟨l, .start⟩, by rw [List.map_map]; exact (List.map_id v).symm⟩
    rw [hu, ← List.map_append] at huv
    refine ⟨before, after, w, ?_, hahead, fun x hx => ?_, fun e => exists_ofTokens_of_mem huv⟩
    · rw [← hahead]
      exact hbefore.symm
    · exact Rule.kind_ne_eof_of_mem (r := .document) (by decide) huv x.toLexeme
        (List.mem_map_of_mem hx)

/-- An opening bracket behind the name of a declaration is followed by no closing one, but it can be
followed by generic parameters. -/
theorem exists_completion_bracket :
    let tokens : List Token :=
      (specializationWords [.mark "[", .mark "]", .name "B"]).map fun l => ⟨l, .start⟩
    let t : Token := ⟨.mark "]", .start⟩
    ∃ s, ofStream (.ofList tokens) =
        (.error (.unexpected t "parameters" Declaration.rules), s) ∧
      ∃ before after w : List Token, tokens = before ++ t :: after ∧ s.ahead = t :: after ∧
        (∀ u ∈ before ++ w, u.kind ≠ .eof) ∧
        ∀ e : Token, e.kind = .eof → ∃ d, ofTokens (before ++ w ++ [e]) = .ok d := by
  intro tokens t
  have h : (ofStream (.ofList tokens)).1 =
      .error (.unexpected t "parameters" Declaration.rules) := by cbv
  obtain ⟨s, hs⟩ : ∃ s, (ofStream (.ofList tokens)).2 = s := ⟨_, rfl⟩
  have hrun : ofStream (.ofList tokens) =
      (.error (.unexpected t "parameters" Declaration.rules), s) := Prod.ext h hs
  exact ⟨s, hrun, exists_completion hrun⟩

end PackageModel.Document
