import PackageModel.Proofs.Reading.Eval
import PackageModel.Reading.Calls
import PackageModel.Reading.Document

/-!
# PackageModel.Proofs.Reading.Places

The places of tokens do not matter.  Tokens carry their places through every call and into the
errors, but no program looks at them: on two streams with the same lexemes it comes to the same
result, or to errors that differ in the place of the token at most.
-/

namespace PackageModel

/-- The errors differ in the place of the token at most. -/
inductive ParseError.Alike : ParseError → ParseError → Prop
  | lexical {t u : Token} (h : t.toLexeme = u.toLexeme) : Alike (.lexical t) (.lexical u)
  | unexpected {t u : Token} {expected : String} {rules : List Rule}
      (h : t.toLexeme = u.toLexeme) :
      Alike (.unexpected t expected rules) (.unexpected u expected rules)
  | closed : Alike .closed .closed

/-- The results are the same, or errors that differ in the place of the token at most. -/
inductive ResultsAlike {α : Type} : Except ParseError α → Except ParseError α → Prop
  | ok {a : α} : ResultsAlike (.ok a) (.ok a)
  | error {e f : ParseError} (h : e.Alike f) : ResultsAlike (.error e) (.error f)

/-- What is like the failure at a token is the failure at one that differs in its place at most. -/
theorem ResultsAlike.of_unexpected {α : Type} {t : Token} {expected : String} {rules : List Rule}
    {r : Except ParseError α} (h : ResultsAlike (.error (.unexpected t expected rules)) r) :
    ∃ u, r = .error (.unexpected u expected rules) ∧ t.toLexeme = u.toLexeme := by
  cases h with
  | error he =>
    cases he with
    | unexpected htu => exact ⟨_, rfl, htu⟩

/-- The streams differ in the places of their tokens at most. -/
structure TokenStream.Alike (s s' : TokenStream) : Prop where
  lexemes : s.lexemes = s'.lexemes
  returned : s.returned = s'.returned

/-- Whether there is a token, and which one, does not depend on places. -/
theorem TokenStream.Alike.next {s s' : TokenStream} (h : s.Alike s') :
    ((∃ t u, s.next.1 = .ok t ∧ s'.next.1 = .ok u ∧ t.toLexeme = u.toLexeme) ∨
        ∃ e f, s.next.1 = .error e ∧ s'.next.1 = .error f ∧ e.Alike f) ∧
      s.next.2.Alike s'.next.2 := by
  obtain ⟨ahead, n, hn⟩ := s
  obtain ⟨ahead', n', hn'⟩ := s'
  obtain ⟨hlexemes, hreturned⟩ := h
  obtain rfl : n = n' := hreturned
  cases ahead with
  | nil =>
    obtain rfl : ahead' = [] := List.map_eq_nil_iff.1 hlexemes.symm
    exact ⟨.inr ⟨.closed, .closed, rfl, rfl, .closed⟩, rfl, rfl⟩
  | cons t ts =>
    obtain ⟨u, us, rfl, hu, hus⟩ := List.map_eq_cons_iff.1 hlexemes.symm
    have hkind : u.kind = t.kind := congrArg Lexeme.kind hu
    refine ⟨?_, hus.symm, rfl⟩
    by_cases he : n = 0 ∧ t.kind = .error
    · refine .inr ⟨.lexical t, .lexical u, ?_, ?_, .lexical hu.symm⟩
      · simp only [TokenStream.next, if_pos he]
      · simp only [TokenStream.next, hkind, if_pos he]
    · refine .inl ⟨t, u, ?_, ?_, hu.symm⟩
      · simp only [TokenStream.next, if_neg he]
      · simp only [TokenStream.next, hkind, if_neg he]

/-! ## Programs -/

namespace Calls

variable {α : Type}

/-- The calls that follow on a token are alike for all places that it may have. -/
inductive Alike : Calls α → Calls α → Prop
  | done {r r' : Except ParseError α} (h : ResultsAlike r r') : Alike (.done r) (.done r')
  | next {go go' : Token → Calls α}
      (h : ∀ t u : Token, t.toLexeme = u.toLexeme → Alike (go t) (go' u)) :
      Alike (.next go) (.next go')
  | unread {t u : Token} {rest rest' : Calls α} (h : t.toLexeme = u.toLexeme)
      (hrest : Alike rest rest') : Alike (.unread t rest) (.unread u rest')

/-- An optional token is found in both runs or in neither. -/
theorem Alike.take {wanted : Terminal} {hit hit' : Token → Calls α} {miss miss' : Calls α}
    (hhit : ∀ t u : Token, t.toLexeme = u.toLexeme → Alike (hit t) (hit' u))
    (hmiss : Alike miss miss') : Alike (take wanted hit miss) (take wanted hit' miss') := by
  refine .next fun t u h => ?_
  rw [← h]
  split
  · exact hhit t u h
  · exact .unread h hmiss

/-- Calls that are alike have results that are alike, and leave streams that are. -/
theorem Alike.run {c c' : Calls α} (h : Alike c c') {s s' : TokenStream} (hs : s.Alike s') :
    ResultsAlike (c.run s).1 (c'.run s').1 ∧ (c.run s).2.Alike (c'.run s').2 := by
  induction h generalizing s s' with
  | done h => exact ⟨h, hs⟩
  | @next go go' h ih =>
    -- on both streams comes a token with the same lexeme, or the same failure
    rw [Calls.run, Calls.run]
    rcases hnext : s.next with ⟨r, s₁⟩
    rcases hnext' : s'.next with ⟨r', s₁'⟩
    have hcases := hs.next
    rw [hnext, hnext'] at hcases
    obtain ⟨⟨t, u, rfl, rfl, htu⟩ | ⟨e, f, rfl, rfl, hef⟩, hs₁⟩ := hcases
    · exact ih t u htu hs₁
    · exact ⟨.error hef, hs₁⟩
  | unread h hrest ih =>
    have hlexemes := hs.lexemes
    refine ih ⟨?_, congrArg Nat.succ hs.returned⟩
    simp only [TokenStream.lexemes, TokenStream.unread, List.map_cons] at hlexemes ⊢
    rw [h, hlexemes]

end Calls

/-- The calls of a program are alike for all places. -/
theorem Reading.calls_alike {α : Type} (r : Reading α) : r.calls.Alike r.calls := by
  induction r with
  | done a => exact .done .ok
  | fail expected rules => exact .next fun t u h => .unread h (.done (.error (.unexpected h)))
  | take wanted behind next ih =>
    have hvalue {t u : Token} (h : t.toLexeme = u.toLexeme) :
        (next (some t.value)).calls.Alike (next (some u.value)).calls := by
      rw [show u.value = t.value from congrArg Lexeme.value h.symm]
      exact ih _
    cases behind with
    | anything => exact .take (fun t u h => hvalue h) (ih none)
    | taken v =>
      exact .take (fun t u h => .take (fun _ _ _ => hvalue h) (.unread h (ih none))) (ih none)
    | not v =>
      refine .take (fun t u h => .take (fun t' u' h' => ?_) (hvalue h)) (ih none)
      exact .unread h' (.unread h (ih none))

/-! ## Parsing -/

namespace Document

/-- Sources with the same tokens, wherever they stand, have the same document, or they fail at the
same token for the same reason. -/
theorem parse_of_lexemes {x y : String}
    (h : (tokenize x).map (·.toLexeme) = (tokenize y).map (·.toLexeme)) :
    (∃ d, parse x = .ok d ∧ parse y = .ok d) ∨
      ∃ e f, parse x = .error e ∧ parse y = .error f ∧ e.Alike f := by
  have hlength : (tokenize x).length = (tokenize y).length := by
    simpa using congrArg List.length h
  have halike : ResultsAlike (parse x) (parse y) := by
    have hstreams : (TokenStream.ofList (tokenize x)).Alike (.ofList (tokenize y)) := ⟨h, rfl⟩
    have hrun := ((Reading.calls_alike (readSource ((tokenize x).length + 1))).run hstreams).1
    rw [Reading.run_calls, Reading.run_calls] at hrun
    have hbound : (TokenStream.ofList (tokenize y)).ahead.length = (tokenize x).length :=
      hlength.symm
    rw [parse, parse, ofTokens, ofTokens, ofStream, ofStream, hbound]
    exact hrun
  revert halike
  generalize parse x = r, parse y = r'
  rintro (_ | he)
  · exact .inl ⟨_, rfl, rfl⟩
  · exact .inr ⟨_, _, rfl, rfl, he⟩

/-- Two names are no document, on one line or on two. -/
theorem parse_of_lexemes_twoNames :
    (tokenize "a b").map (·.toLexeme) = (tokenize "\n\ta\n b").map (·.toLexeme) ∧
      ∃ e f, parse "a b" = .error e ∧ parse "\n\ta\n b" = .error f ∧ e.Alike f := by
  have h : (tokenize "a b").map (·.toLexeme) = (tokenize "\n\ta\n b").map (·.toLexeme) := by decide
  have hfail : (parse "a b").isOk = false := by rfl
  refine ⟨h, (parse_of_lexemes h).resolve_left ?_⟩
  rintro ⟨d, hd, -⟩
  rw [hd] at hfail
  cases hfail

end Document

end PackageModel
