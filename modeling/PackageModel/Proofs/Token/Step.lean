import PackageModel.Proofs.Token.Split
import PackageModel.Token.Scan

/-!
# PackageModel.Proofs.Token.Step

What one call of the scanner can do.  `Step` lists all the cases once; what holds of whole scans
follows from it by induction on the number of calls.
-/

namespace PackageModel

/-- All characters are blank. -/
def Blank (cs : List Char) : Prop := ∀ c ∈ cs, Shape.isBlank c = true

namespace Scanner

/-- What a call of `next?` gives, and the scan that it leaves.  The blank space in front of a token
is passed over in the same call. -/
inductive Step : Scanner → Option Token → Scanner → Prop
  /-- The end-of-file token has been given out. -/
  | finished {cs p failed} : Step ⟨cs, p, failed, true⟩ none ⟨cs, p, failed, true⟩
  /-- The last token was an error. -/
  | stopped {cs p} : Step ⟨cs, p, true, false⟩ (some ⟨⟨.eof, ""⟩, p⟩) ⟨cs, p, true, true⟩
  | eof {gap p} (hgap : Blank gap) :
      Step ⟨gap, p, false, false⟩ (some ⟨⟨.eof, ""⟩, p.advance gap⟩)
        ⟨[], p.advance gap, false, true⟩
  | token {gap piece rest p kind} (hgap : Blank gap)
      (h : tokenAt (piece ++ rest) = some (kind, piece, rest)) :
      Step ⟨gap ++ (piece ++ rest), p, false, false⟩
        (some ⟨⟨kind, String.ofList piece⟩, p.advance gap⟩)
        ⟨rest, (p.advance gap).advance piece, false, false⟩
  | error {gap c cs p} (hgap : Blank gap) (hc : Shape.isBlank c = false)
      (h : tokenAt (c :: cs) = none) :
      Step ⟨gap ++ c :: cs, p, false, false⟩
        (some ⟨⟨.error, String.singleton c⟩, p.advance gap⟩)
        ⟨cs, (p.advance gap).next c, true, false⟩

/-- All the blank space at the front is skipped. -/
theorem exists_skipBlank (s : Scanner) :
    ∃ gap rest, Blank gap ∧ (∀ c, rest.head? = some c → Shape.isBlank c = false) ∧
      s.rest = gap ++ rest ∧ s.skipBlank = s.skip gap rest := by
  obtain ⟨rest, position, failed, finished⟩ := s
  cases rest with
  | nil => exact ⟨[], [], nofun, nofun, rfl, rfl⟩
  | cons c cs =>
    by_cases hc : Shape.isBlank c = true
    · refine ⟨c :: cs.takeWhile Shape.isBlank, cs.dropWhile Shape.isBlank, ?_, ?_, ?_, ?_⟩
      · exact List.forall_mem_cons.2 ⟨hc, List.all_eq_true.1 List.all_takeWhile⟩
      · intro d hd
        have hnot := List.head?_dropWhile_not Shape.isBlank cs
        rw [hd] at hnot
        simpa using hnot
      · rw [List.cons_append, List.takeWhile_append_dropWhile]
      · simp [skipBlank, Shape.split, hc]
    · rw [Bool.not_eq_true] at hc
      refine ⟨[], c :: cs, nofun, ?_, rfl, by simp [skipBlank, Shape.split, hc, skip]⟩
      rintro d ⟨⟩
      exact hc

/-- Whatever a call does is one of these steps. -/
theorem step_next? (s : Scanner) : Step s s.next?.1 s.next?.2 := by
  obtain ⟨cs, p, failed, finished⟩ := s
  cases finished with
  | true => exact .finished
  | false =>
    cases failed with
    | true => exact .stopped
    | false =>
      obtain ⟨gap, rest, hgap, hrest, rfl, hskip⟩ := exists_skipBlank ⟨cs, p, false, false⟩
      have hnext : (⟨gap ++ rest, p, false, false⟩ : Scanner).next? =
          (some (token ⟨rest, p.advance gap, false, false⟩).1,
            (token ⟨rest, p.advance gap, false, false⟩).2) := by
        simp only [next?, hskip]
        rfl
      rw [hnext]
      cases rest with
      | nil =>
        rw [List.append_nil]
        exact .eof hgap
      | cons c cs =>
        cases hat : tokenAt (c :: cs) with
        | none =>
          simp only [token, hat]
          exact .error hgap (hrest c rfl) hat
        | some parts =>
          obtain ⟨kind, piece, rest⟩ := parts
          obtain ⟨shape, -, hsplit⟩ := tokenAt_eq_some_iff.1 hat
          simp only [token, hat]
          rw [← (Shape.cuts_split hsplit).1.append] at hat ⊢
          exact .token hgap hat

end Scanner

end PackageModel
