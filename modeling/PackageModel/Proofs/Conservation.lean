import PackageModel.Proofs.Reading.Holds
import PackageModel.Proofs.Reading.Rules

/-!
# PackageModel.Proofs.Conservation

What the rules of the grammar leave of a stream.  No rule drops a token without reading it, reads
one twice or changes their order: what is left is the end of what was ahead.  A rule without a
result leaves all of it, a rule with a result takes at least one token.
-/

namespace PackageModel

open Reading Stretch

namespace Rule

/-- Reads the rule from a stream.  No rule nests deeper, and no list is longer, than there are
tokens ahead. -/
def run (r : Rule) (s : TokenStream) : Except ParseError (Option r.Node) × TokenStream :=
  (r.reading (s.ahead.length + 1)).run s

variable {r : Rule} {s s' : TokenStream}

/-- Any bound larger than the number of tokens ahead gives the same run. -/
theorem run_reading {n : Nat} (h : s.ahead.length < n) : (r.reading n).run s = r.run s :=
  r.sameBelow_reading h (Nat.lt_succ_self _) (Nat.lt_succ_self _)

/-- A rule without a result takes no token. -/
theorem ahead_of_run_none (h : r.run s = (.ok none, s')) : s'.ahead = s.ahead := by
  have hlexemes : s.lexemes = s'.lexemes := (r.reading_reads _ (eval_of_run h)).eq_of_none
  refine (ahead_suffix_of_run h).eq_of_length ?_
  simpa [TokenStream.lexemes] using (congrArg List.length hlexemes).symm

/-- A rule with a result takes a token. -/
theorem length_ahead_of_run_some {a : r.Node} (h : r.run s = (.ok (some a), s')) :
    s'.ahead.length < s.ahead.length := by
  obtain ⟨b, -, hb⟩ := (r.reading_reads _ (eval_of_run h)).of_some
  simpa [TokenStream.lexemes] using hb.length_lt

/-- Whatever a rule finds ahead, handed back or fresh, what it leaves is the end of it: all of it
without a result, and less with one.  A rule that fails at an unexpected token leaves it as the next
one.  An error token at which it fails is the first one of the fresh tokens, and the rule leaves
what is behind it.  It fails for no other reason than that there are no tokens left. -/
theorem run_conserves (r : Rule) (s : TokenStream) :
    (∀ n, s.ahead.length < n → (r.reading n).run s = r.run s) ∧
    match r.run s with
    | (.ok none, s') => s'.ahead = s.ahead
    | (.ok (some _), s') => s'.ahead <:+ s.ahead ∧ s'.ahead.length < s.ahead.length
    | (.error (.unexpected t _ _), s') => s'.ahead <:+ s.ahead ∧ s'.ahead.head? = some t
    | (.error (.lexical t), s') =>
      t.kind = .error ∧ ∃ read, s.fresh = read ++ t :: s'.ahead ∧ ∀ u ∈ read, u.kind ≠ .error
    | (.error .closed, s') => s'.ahead = [] := by
  refine ⟨fun n => run_reading, ?_⟩
  have houtcome := (r.reading (s.ahead.length + 1)).outcome s
  rcases hrun : r.run s with ⟨result, s'⟩
  rw [← run, hrun] at houtcome
  cases houtcome with
  | @ok o _ hs =>
    cases o with
    | none => exact ahead_of_run_none hrun
    | some a => exact ⟨hs, length_ahead_of_run_some hrun⟩
  | unexpected hs ht => exact ⟨hs, congrArg List.head? ht⟩
  | lexical hs hread ht => exact ⟨ht, _, hs, hread⟩
  | closed hs => exact hs

end Rule

end PackageModel
