import PackageModel.Proofs.Token.Step

/-!
# PackageModel.Proofs.Token.Tokenize

The tokens of a text.  Every scan ends with the one end-of-file token, and each token before it is
a whole piece, or an error.  `Scans` says which tokens a text without errors has; the scanner finds
just these.
-/

namespace PackageModel

/-- The text of the token is one piece of its kind. -/
def Lexeme.Whole (l : Lexeme) : Prop :=
  ∃ shape, Shape.kind? shape = some l.kind ∧ shape.Whole l.value

/-- Whether a lexeme is whole can be computed. -/
instance (l : Lexeme) : Decidable l.Whole :=
  decidable_of_iff (∃ shape ∈ Shape.all, Shape.kind? shape = some l.kind ∧
      matchAt l.value.toList = some (shape, l.value.toList, []))
    ⟨fun ⟨shape, _, h⟩ => ⟨shape, h⟩, fun ⟨shape, h⟩ => ⟨shape, Shape.mem_all shape, h⟩⟩

/-- A whole lexeme does not mark the end of the file. -/
theorem Lexeme.Whole.kind_ne_eof {l : Lexeme} (h : l.Whole) : l.kind ≠ .eof := by
  obtain ⟨shape, hkind, -⟩ := h
  rintro heof
  rw [heof] at hkind
  cases shape <;> cases hkind

/-- A whole lexeme is no error. -/
theorem Lexeme.Whole.kind_ne_error {l : Lexeme} (h : l.Whole) : l.kind ≠ .error := by
  obtain ⟨shape, hkind, -⟩ := h
  rintro herror
  rw [herror] at hkind
  cases shape <;> cases hkind

/-- The token that marks the end of a text. -/
def Lexeme.eof : Lexeme := ⟨.eof, ""⟩

namespace Scanner

/-- The number of steps that a scan may still take. -/
def steps (s : Scanner) : Nat := if s.failed then 1 else s.rest.length + 2

/-- A call gives out the end-of-file token, or another token that is whole or an error; then fewer
calls are left. -/
theorem Step.cases {s s' : Scanner} {o : Option Token} (h : Step s o s')
    (hs : s.finished = false) :
    (∃ e, o = some e ∧ e.toLexeme = .eof ∧ s'.finished = true) ∨
      ∃ t, o = some t ∧ s'.finished = false ∧ s'.steps < s.steps ∧
        (t.kind = .error ∧ s'.failed = true ∨ t.toLexeme.Whole) := by
  cases h with
  | finished => cases hs
  | stopped => exact .inl ⟨_, rfl, rfl, rfl⟩
  | eof _ => exact .inl ⟨_, rfl, rfl, rfl⟩
  | @token gap piece rest p kind _ hat =>
    obtain ⟨shape, hkind, hsplit⟩ := tokenAt_eq_some_iff.1 hat
    have hpiece : 0 < piece.length := List.length_pos_iff.2 (Shape.cuts_split hsplit).2
    refine .inr ⟨_, rfl, rfl, ?_, .inr ⟨shape, hkind, Shape.whole_of_split hsplit⟩⟩
    simp [steps]
    omega
  | error _ _ _ => exact .inr ⟨_, rfl, rfl, by simp [steps], .inl ⟨rfl, rfl⟩⟩

/-- A call that gives out a token, and the calls behind it. -/
theorem tokens_succ {s : Scanner} {n : Nat} {t : Token} (h : s.next?.1 = some t) :
    s.tokens (n + 1) = t :: s.next?.2.tokens n := by
  have hnext : s.next? = (some t, s.next?.2) := Prod.ext h rfl
  rw [tokens, hnext]

/-- Nothing comes after the end-of-file token. -/
theorem tokens_of_finished {s : Scanner} {n : Nat} (h : s.finished = true) : s.tokens n = [] := by
  cases n with
  | zero => rfl
  | succ n => simp [tokens, next?, h]

/-- A scan that has met an error gives out the end-of-file token and nothing else. -/
theorem exists_tokens_of_failed {n : Nat} {s : Scanner} (hs : s.finished = false)
    (hfailed : s.failed = true) (hn : 0 < n) : ∃ e, s.tokens n = [e] ∧ e.toLexeme = .eof := by
  obtain ⟨cs, p, failed, finished⟩ := s
  obtain rfl : finished = false := hs
  obtain rfl : failed = true := hfailed
  cases n with
  | zero => omega
  | succ n =>
    refine ⟨⟨.eof, p⟩, ?_, rfl⟩
    rw [tokens_succ rfl, tokens_of_finished rfl]
    rfl

/-- A scan gives out whole tokens, perhaps an error, and the end-of-file token. -/
theorem exists_tokens_eq {n : Nat} {s : Scanner} (hs : s.finished = false) (hn : s.steps ≤ n) :
    ∃ us o e, s.tokens n = us ++ Option.toList o ++ [e] ∧ e.toLexeme = .eof ∧
      (∀ u ∈ us, u.toLexeme.Whole) ∧ ∀ t ∈ o, t.kind = .error := by
  induction n generalizing s with
  | zero =>
    unfold steps at hn
    split at hn <;> omega
  | succ n ih =>
    rcases (step_next? s).cases hs with ⟨e, hnext, he, hfin⟩ | ⟨t, hnext, hs', hsteps, ht⟩
    · refine ⟨[], none, e, ?_, he, nofun, nofun⟩
      rw [tokens_succ hnext, tokens_of_finished hfin]
      rfl
    rcases ht with ⟨herror, hfailed⟩ | hwhole
    · have hone : s.next?.2.steps = 1 := by rw [steps, if_pos hfailed]
      obtain ⟨e, htokens, he⟩ := exists_tokens_of_failed (n := n) hs' hfailed (by omega)
      refine ⟨[], some t, e, ?_, he, nofun, ?_⟩
      · rw [tokens_succ hnext, htokens]
        rfl
      · rintro _ ⟨⟩
        exact herror
    · obtain ⟨us, o, e, htokens, he, hus, ho⟩ := ih hs' (by omega)
      refine ⟨t :: us, o, e, ?_, he, List.forall_mem_cons.2 ⟨hwhole, hus⟩, ho⟩
      rw [tokens_succ hnext, htokens]
      rfl

end Scanner

/-- A text has whole tokens, perhaps one error behind them, and the end-of-file token. -/
theorem exists_tokenize_eq_whole (source : String) :
    ∃ us o e, tokenize source = us ++ Option.toList o ++ [e] ∧ e.toLexeme = .eof ∧
      (∀ u ∈ us, u.toLexeme.Whole) ∧ ∀ t ∈ o, t.kind = .error := by
  refine Scanner.exists_tokens_eq rfl ?_
  simp [Scanner.steps, Scanner.ofString, Scanner.ofList, String.length_toList]

/-- A text has one end-of-file token, its last one; the others are whole or errors. -/
theorem exists_tokenize_eq (source : String) :
    ∃ ts e, tokenize source = ts ++ [e] ∧ e.toLexeme = .eof ∧
      ∀ t ∈ ts, t.kind = .error ∨ t.toLexeme.Whole := by
  obtain ⟨us, o, e, htokens, he, hus, ho⟩ := exists_tokenize_eq_whole source
  refine ⟨us ++ o.toList, e, htokens, he, fun t ht => ?_⟩
  rcases List.mem_append.1 ht with ht | ht
  · exact .inr (hus t ht)
  · exact .inl (ho t (Option.mem_toList.1 ht))

/-! ## Texts without errors -/

/-- The tokens of a text that has no errors. -/
inductive Scans : List Char → List Lexeme → Prop where
  | nil : Scans [] []
  | blank {c : Char} {cs : List Char} {ls : List Lexeme} (hc : Shape.isBlank c = true)
      (h : Scans cs ls) : Scans (c :: cs) ls
  | token {cs piece rest : List Char} {kind : Kind} {ls : List Lexeme}
      (hcs : tokenAt cs = some (kind, piece, rest)) (h : Scans rest ls) :
      Scans cs (⟨kind, String.ofList piece⟩ :: ls)

/-- Blank space starts no token. -/
theorem isBlank_of_tokenAt {c : Char} {cs piece rest : List Char} {kind : Kind}
    (h : tokenAt (c :: cs) = some (kind, piece, rest)) : Shape.isBlank c = false := by
  rw [← Bool.not_eq_true]
  intro hc
  obtain ⟨shape, hkind, hsplit⟩ := tokenAt_eq_some_iff.1 h
  have hblank : Shape.blank.split (c :: cs) =
      some (c :: cs.takeWhile Shape.isBlank, cs.dropWhile Shape.isBlank) := by
    rw [Shape.split, if_pos hc]
  obtain rfl := Shape.split_unique hsplit hblank
  cases hkind

/-- Blank space at the front does not matter. -/
theorem Scans.of_blank_append {gap cs : List Char} {ls : List Lexeme} (hgap : Blank gap)
    (h : Scans (gap ++ cs) ls) : Scans cs ls := by
  induction gap with
  | nil => exact h
  | cons c gap ih =>
    obtain ⟨hc, hgap⟩ := List.forall_mem_cons.1 hgap
    rw [List.cons_append] at h
    cases h with
    | blank _ h => exact ih hgap h
    | token hat _ => simp [isBlank_of_tokenAt hat] at hc

/-- A text that starts with a token scans to it and to the tokens behind it. -/
theorem Scans.of_tokenAt {cs piece rest : List Char} {kind : Kind} {ls : List Lexeme}
    (hat : tokenAt cs = some (kind, piece, rest)) (h : Scans cs ls) :
    ∃ ls', ls = ⟨kind, String.ofList piece⟩ :: ls' ∧ Scans rest ls' := by
  cases h with
  | nil => cases hat
  | blank hc _ => simp [isBlank_of_tokenAt hat] at hc
  | token hat' h =>
    rw [hat] at hat'
    cases hat'
    exact ⟨_, rfl, h⟩

/-- The scanner finds the tokens. -/
theorem Scanner.tokens_of_scans {n : Nat} {s : Scanner} {ls : List Lexeme}
    (hfin : s.finished = false) (hfailed : s.failed = false) (hn : s.steps ≤ n)
    (h : Scans s.rest ls) : (s.tokens n).map (·.toLexeme) = ls ++ [.eof] := by
  induction n generalizing s ls with
  | zero =>
    unfold steps at hn
    split at hn <;> omega
  | succ n ih =>
    have hstep := step_next? s
    have hcases := hstep.cases hfin
    generalize ho : s.next?.1 = o at hstep hcases
    generalize hs' : s.next?.2 = s' at hstep hcases
    cases hstep with
    | finished => cases hfin
    | stopped => cases hfailed
    | @eof gap p hgap =>
      rw [← List.append_nil gap] at h
      cases h.of_blank_append hgap with
      | nil =>
        rw [tokens_succ ho, hs', tokens_of_finished rfl]
        rfl
      | token hat _ => cases hat
    | token hgap hat =>
      obtain ⟨ls', rfl, hls⟩ := (h.of_blank_append hgap).of_tokenAt hat
      obtain ⟨_, -, hend⟩ | ⟨_, -, -, hsteps, -⟩ := hcases
      · cases hend.2
      · rw [tokens_succ ho, hs', List.map_cons, ih rfl rfl (by omega) hls, List.cons_append]
    | error hgap hc hat =>
      cases h.of_blank_append hgap with
      | blank hc' _ => simp [hc] at hc'
      | token hat' _ =>
        rw [hat] at hat'
        cases hat'

/-- A text that is scanned into these lexemes has these tokens. -/
theorem tokenize_of_scans {source : String} {ls : List Lexeme} (h : Scans source.toList ls) :
    (tokenize source).map (·.toLexeme) = ls ++ [.eof] :=
  Scanner.tokens_of_scans rfl rfl
    (by simp [Scanner.steps, Scanner.ofString, Scanner.ofList, String.length_toList]) h

end PackageModel
