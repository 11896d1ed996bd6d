import PackageModel.Proofs.Soundness
import PackageModel.Proofs.Viable.Document

/-!
# PackageModel.Proofs.Outcome

What each outcome of parsing says about the tokens of the source text.  A parse that succeeds has
used up all of them; one that fails names one of them, and tells whether it is an error token.  It
never runs out of tokens, as nothing but the end-of-file token is read behind a document.
-/

namespace PackageModel

/-- A text has no two error tokens. -/
theorem filter_error_tokenize {source : String} {t : Token} (ht : t ∈ tokenize source)
    (herror : t.kind = .error) : (tokenize source).filter (·.kind = .error) = [t] := by
  obtain ⟨us, o, e, htokens, he, hus, ho⟩ := exists_tokenize_eq_whole source
  have hwhole : us.filter (·.kind = .error) = [] :=
    List.filter_eq_nil_iff.2 fun u hu => by simpa using (hus u hu).kind_ne_error
  have heof : e.kind = .eof := congrArg Lexeme.kind he
  have hfilter : (tokenize source).filter (·.kind = .error) = o.toList := by
    rw [htokens, List.filter_append, List.filter_append, hwhole]
    cases o with
    | none => simp [heof]
    | some t => simp [heof, ho t rfl]
  have hmem : t ∈ o.toList := hfilter ▸ List.mem_filter.2 ⟨ht, by simpa using herror⟩
  rw [hfilter, Option.mem_toList.1 hmem]
  rfl

/-! ## The outcomes -/

namespace Document

/-- Parsing a text does not run out of tokens: they are not the beginning of a document, as the
end-of-file token is among them. -/
theorem not_closed {source : String} {s : TokenStream} :
    ofStream (.ofList (tokenize source)) ≠ (.error .closed, s) := by
  intro h
  cases Reading.stops_of_run (TokenStream.clean_ofList _) h with
  | closed hstuck =>
    obtain ⟨u, v, huv, hw⟩ := readSource_stuck (Nat.succ_pos _) hstuck
    obtain ⟨ts, e, htokens, he, -⟩ := exists_tokenize_eq source
    have hmem : e.toLexeme ∈ u := by
      rw [List.append_nil] at hw
      rw [← hw, TokenStream.lexemes, TokenStream.ofList, htokens]
      simp
    have heof : e.kind = .eof := congrArg Lexeme.kind he
    exact Rule.kind_ne_eof_of_mem (r := .document) (by decide) huv _
      (List.mem_append_left v hmem) heof

/-- The outcome of parsing tells about the tokens of the text and about those that have not been
read.  Success: there is no error token, and all of them have been read.  Failure at an error
token: it is the only one of the text, and nothing behind it has been read.  Any other failure
names one of the tokens, which is no error token; the tokens never come to an end. -/
theorem parse_outcome (source : String) :
    let tokens := tokenize source
    let left := (ofStream (.ofList tokens)).2.ahead
    match parse source with
    | .ok _ => (∀ t ∈ tokens, t.kind ≠ .error) ∧ left = []
    | .error (.lexical t) => tokens.filter (·.kind = .error) = [t] ∧ t :: left <:+ tokens
    | .error (.unexpected t _ _) => t ∈ tokens ∧ t.kind ≠ .error ∧ left.head? = some t
    | .error .closed => False := by
  intro tokens left
  obtain ⟨s, hs⟩ : ∃ s, (ofStream (.ofList tokens)).2 = s := ⟨_, rfl⟩
  have hleft : left = s.ahead := congrArg TokenStream.ahead hs
  rw [hleft]
  cases hparse : parse source with
  | ok d =>
    obtain ⟨d₀, hplain, -⟩ := plain_of_parse hparse
    have hrun : ofStream (.ofList tokens) = (.ok d, s) := Prod.ext hparse hs
    obtain ⟨d₁, -, hrest⟩ := readSource_reads _ (Reading.eval_of_run hrun)
    refine ⟨fun t ht => hplain.kind_ne_error _ (List.mem_map_of_mem ht), ?_⟩
    exact List.map_eq_nil_iff.1 (eq_nil_of_source hrest)
  | error e =>
    have hrun : ofStream (.ofList tokens) = (.error e, s) := Prod.ext hparse hs
    cases Reading.stops_of_run (TokenStream.clean_ofList _) hrun with
    | lexical hk hsuffix =>
      exact ⟨filter_error_tokenize (hsuffix.subset List.mem_cons_self) hk, hsuffix⟩
    | unexpected hahead hsuffix hk _ =>
      refine ⟨hsuffix.subset (hahead ▸ List.mem_cons_self), hk, ?_⟩
      rw [hahead]
      rfl
    | closed _ => exact not_closed hrun

end Document

end PackageModel
