import PackageModel.Reading.Calls

/-!
# PackageModel.Proofs.Reading.Holds

Programs hand back what they hold, the last token first.  `Calls.Holds` says that calls do so, and
that they never hold more than two tokens.  On any stream they then come to a `Calls.Outcome`: what
is left is the end of what was ahead, and an error names the next token or the first error token.
-/

namespace PackageModel

/-! ## Streams -/

namespace TokenStream

variable {s s' s₀ : TokenStream} {t : Token} {hand : List Token}

/-- What asking for the next token comes to: one that was handed back, or a fresh one; a fresh error
token, or none at all. -/
inductive Next (s : TokenStream) : Except ParseError Token → TokenStream → Prop
  | again {t : Token} {s' : TokenStream} (hahead : s.ahead = t :: s'.ahead)
      (hreturned : s.returned = s'.returned + 1) (hfresh : s.fresh = s'.fresh) : Next s (.ok t) s'
  | fresh {t : Token} {s' : TokenStream} (hahead : s.ahead = t :: s'.ahead)
      (hreturned : s.returned = 0) (hreturned' : s'.returned = 0)
      (hfresh : s.fresh = t :: s'.fresh) (ht : t.kind ≠ .error) : Next s (.ok t) s'
  | lexical {t : Token} {s' : TokenStream} (hfresh : s.fresh = t :: s'.ahead)
      (hreturned' : s'.returned = 0) (ht : t.kind = .error) : Next s (.error (.lexical t)) s'
  | closed (hahead : s.ahead = []) : Next s (.error .closed) s

/-- The four ways to read on, by what the stream holds. -/
theorem next_cases (s : TokenStream) : Next s s.next.1 s.next.2 := by
  obtain ⟨_ | ⟨t, ts⟩, n, hn⟩ := s
  · exact .closed rfl
  cases n with
  | succ n => exact .again rfl rfl rfl
  | zero =>
    by_cases ht : t.kind = .error
    · simp only [next, ht, and_self, if_true]
      exact .lexical rfl rfl ht
    · simp only [next, ht, and_false, if_false]
      exact .fresh rfl rfl rfl rfl ht

/-- The same for a result that is known. -/
theorem of_next {r : Except ParseError Token} (h : s.next = (r, s')) : Next s r s' := by
  have hnext := s.next_cases
  rwa [h] at hnext

/-- Handing a token back makes none fresh. -/
@[simp] theorem fresh_unread : (s.unread t).fresh = s.fresh := rfl

/-- The fresh tokens stand at the end of those ahead. -/
theorem fresh_suffix_ahead (s : TokenStream) : s.fresh <:+ s.ahead := List.drop_suffix ..

namespace Next

variable {r : Except ParseError Token}

/-- The token that was read is the first of those ahead. -/
theorem ahead_eq (h : Next s (.ok t) s') : s.ahead = t :: s'.ahead := by
  cases h <;> assumption

/-- What is ahead afterwards was ahead before. -/
theorem ahead_suffix (h : Next s r s') : s'.ahead <:+ s.ahead := by
  cases h with
  | again hahead | fresh hahead => exact hahead ▸ List.suffix_cons ..
  | lexical hfresh => exact (hfresh ▸ List.suffix_cons ..).trans s.fresh_suffix_ahead
  | closed => exact List.suffix_rfl

/-- What is fresh afterwards was fresh before. -/
theorem fresh_suffix (h : Next s r s') : s'.fresh <:+ s.fresh := by
  cases h with
  | again _ _ hfresh => exact hfresh ▸ List.suffix_rfl
  | fresh _ _ _ hfresh => exact hfresh ▸ List.suffix_cons ..
  | lexical hfresh => exact s'.fresh_suffix_ahead.trans (hfresh ▸ List.suffix_cons ..)
  | closed => exact List.suffix_rfl

/-- A fresh token is read only when none is left that was handed back. -/
theorem returned_le (h : Next s r s') : s'.returned ≤ s.returned - 1 := by
  cases h with
  | again _ hreturned => omega
  | fresh _ _ hreturned' => omega
  | lexical _ hreturned' => omega
  | closed hahead =>
    have hle := s.returned_le
    simp only [hahead, List.length_nil] at hle
    omega

end Next

end TokenStream

/-! ## Calls -/

namespace Calls

variable {α : Type} {c : Calls α} {hand : List Token} {s s' : TokenStream}

/-- The calls hand back what they hold.  They start with these tokens in the hand, the last one
first.  A token can be handed back if it is the first one of the hand, or the whole hand is kept.
They never hold more than two tokens, and none in the end; they fail at a token that they hand
back. -/
inductive Holds : List Token → Calls α → Prop
  | done (a : α) : Holds [] (.done (.ok a))
  | fail (t : Token) (expected : String) (rules : List Rule) :
      Holds [t] (.unread t (.done (.error (.unexpected t expected rules))))
  | next {hand : List Token} {go : Token → Calls α} (hhand : hand.length < 2)
      (hgo : ∀ t, Holds (t :: hand) (go t)) : Holds hand (.next go)
  | unread {t : Token} {hand : List Token} {rest : Calls α} (hrest : Holds hand rest) :
      Holds (t :: hand) (.unread t rest)
  | keep {hand : List Token} {c : Calls α} (hc : Holds [] c) : Holds hand c

/-- An optional token: at most one more is in the hand while it is looked at. -/
theorem Holds.take {wanted : Terminal} {hit : Token → Calls α} {miss : Calls α}
    (hhand : hand.length < 2) (hhit : ∀ t, Holds (t :: hand) (hit t)) (hmiss : Holds hand miss) :
    Holds hand (take wanted hit miss) := by
  refine .next hhand fun t => ?_
  split
  · exact hhit t
  · exact .unread hmiss

/-- What a run comes to.  The tokens that are left are the last ones of those that were there,
`before`; the token at fault is the next one of them, or the first error token of the fresh ones. -/
inductive Outcome (before fresh : List Token) : Except ParseError α → TokenStream → Prop
  | ok {a : α} {s : TokenStream} (hs : s.ahead <:+ before) : Outcome before fresh (.ok a) s
  | unexpected {t : Token} {ts : List Token} {expected : String} {rules : List Rule}
      {s : TokenStream} (hs : s.ahead <:+ before) (ht : s.ahead = t :: ts) :
      Outcome before fresh (.error (.unexpected t expected rules)) s
  | lexical {t : Token} {read : List Token} {s : TokenStream} (hs : fresh = read ++ t :: s.ahead)
      (hread : ∀ u ∈ read, u.kind ≠ .error) (ht : t.kind = .error) :
      Outcome before fresh (.error (.lexical t)) s
  | closed {s : TokenStream} (hs : s.ahead = []) : Outcome before fresh (.error .closed) s

namespace Outcome

variable {before before' fresh : List Token} {r : Except ParseError α}

/-- A larger list of tokens to begin with allows more. -/
theorem mono (h : Outcome before fresh r s) (hbefore : before <:+ before') :
    Outcome before' fresh r s := by
  cases h with
  | ok hs => exact .ok (hs.trans hbefore)
  | unexpected hs ht => exact .unexpected (hs.trans hbefore) ht
  | lexical hs hread ht => exact .lexical hs hread ht
  | closed hs => exact .closed hs

/-- A fresh token that is no error token comes in front of the first error token. -/
theorem cons (h : Outcome before fresh r s) {t : Token} (ht : t.kind ≠ .error) :
    Outcome before (t :: fresh) r s := by
  cases h with
  | ok hs => exact .ok hs
  | unexpected hs ht => exact .unexpected hs ht
  | lexical hs hread ht' =>
    exact .lexical (congrArg (t :: ·) hs) (List.forall_mem_cons.2 ⟨ht, hread⟩) ht'
  | closed hs => exact .closed hs

/-- The failure to read a token. -/
theorem of_next_error {e : ParseError} (h : s.next = (.error e, s')) :
    Outcome (α := α) before s.fresh (.error e) s' := by
  cases TokenStream.of_next h with
  | @lexical t _ hfresh _ ht =>
    have hsplit : s.fresh = [] ++ t :: s'.ahead := hfresh
    exact .lexical hsplit nofun ht
  | closed hahead => exact .closed hahead

/-- A token that has been read is in the hand, so nothing is lost. -/
theorem of_next {t : Token} (hnext : s.next = (.ok t, s'))
    (h : Outcome ((t :: hand).reverse ++ s'.ahead) s'.fresh r s₁) :
    Outcome (hand.reverse ++ s.ahead) s.fresh r s₁ := by
  rw [List.reverse_cons, List.append_assoc, List.singleton_append] at h
  cases TokenStream.of_next hnext with
  | again hahead _ hfresh => rwa [hahead, hfresh]
  | fresh hahead _ _ hfresh ht =>
    rw [hahead, hfresh]
    exact h.cons ht

end Outcome

/-- What a run of calls comes to that start with these tokens in the hand. -/
theorem Holds.outcome (h : Holds hand c) (s : TokenStream) :
    Outcome (hand.reverse ++ s.ahead) s.fresh (c.run s).1 (c.run s).2 := by
  induction h generalizing s with
  | done a => exact .ok List.suffix_rfl
  | fail t expected rules => exact .unexpected List.suffix_rfl rfl
  | @next hand go _ _ ih =>
    rw [run]
    rcases hnext : s.next with ⟨e | t, s'⟩
    · exact .of_next_error hnext
    · exact .of_next hnext (ih t s')
  | @unread t hand rest _ ih =>
    rw [List.reverse_cons, List.append_assoc]
    exact ih (s.unread t)
  | keep _ ih => exact (ih s).mono (List.suffix_append _ _)

end Calls

/-- The calls of a program hand back what they hold. -/
theorem Reading.calls_holds {α : Type} (r : Reading α) : r.calls.Holds [] := by
  induction r with
  | done a => exact .done a
  | fail expected rules => exact .next (by simp) fun t => .fail t expected rules
  | take wanted behind next ih =>
    cases behind with
    | anything => exact .take (by simp) (fun t => .keep (ih _)) (ih none)
    | taken u =>
      refine .take (by simp) (fun t => ?_) (ih none)
      exact .take (by simp) (fun _ => .keep (ih _)) (.unread (ih none))
    | not u =>
      refine .take (by simp) (fun t => ?_) (ih none)
      exact .take (by simp) (fun _ => .unread (.unread (ih none))) (.keep (ih _))

/-- What a run of a program comes to. -/
theorem Reading.outcome {α : Type} (r : Reading α) (s : TokenStream) :
    Calls.Outcome s.ahead s.fresh (r.run s).1 (r.run s).2 := by
  rw [← r.run_calls]
  exact r.calls_holds.outcome s

end PackageModel
