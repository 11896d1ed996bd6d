import PackageModel.Proofs.Token.Tokenize

/-!
# PackageModel.Proofs.Token.Lossless

Nothing is lost in scanning.  However often the scanner has been called, it stands behind a part of
the source, and this part is made of the tokens given out so far and of blank space between them.
The calls give out one end-of-file token, at most one error just before it, and nothing after it.
-/

namespace PackageModel

/-- The characters, the first of which stands at `p`, are those of the tokens, one behind the other,
with blank space around them.  Each token has a character and the place at which it stands. -/
inductive Covers : Position → List Char → List Token → Prop
  | nil {p gap} (hgap : Blank gap) : Covers p gap []
  | cons {p gap piece cs kind ts} (hgap : Blank gap) (hne : piece ≠ [])
      (h : Covers ((p.advance gap).advance piece) cs ts) :
      Covers p (gap ++ piece ++ cs) (⟨⟨kind, String.ofList piece⟩, p.advance gap⟩ :: ts)

namespace Covers

variable {p : Position} {cs cs' : List Char} {ts ts' : List Token}

/-- Blank space in front of covered text belongs to the first gap. -/
theorem blank_append {gap : List Char} (hgap : Blank gap) (h : Covers (p.advance gap) cs ts) :
    Covers p (gap ++ cs) ts := by
  cases h with
  | nil hcs => exact .nil (List.forall_mem_append.2 ⟨hgap, hcs⟩)
  | @cons _ gap' piece cs kind ts hgap' hne h =>
    rw [← Position.advance_append p gap gap'] at h ⊢
    rw [← List.append_assoc, ← List.append_assoc]
    exact .cons (List.forall_mem_append.2 ⟨hgap, hgap'⟩) hne h

/-- The blank space at the end of the first part and that at the start of the second one are one
gap. -/
theorem append (h : Covers p cs ts) (h' : Covers (p.advance cs) cs' ts') :
    Covers p (cs ++ cs') (ts ++ ts') := by
  induction h with
  | nil hgap => exact blank_append hgap h'
  | @cons p gap piece cs kind ts hgap hne _ ih =>
    rw [Position.advance_append, Position.advance_append] at h'
    rw [List.append_assoc, List.cons_append]
    exact .cons hgap hne (ih h')

/-- Each token is a part of the characters, at its place. -/
theorem slices (h : Covers p cs ts) :
    ∀ t ∈ ts, t.value ≠ "" ∧ ∃ a b, cs = a ++ t.value.toList ++ b ∧ t.position = p.advance a := by
  induction h with
  | nil _ => exact nofun
  | @cons p gap piece cs kind ts _ hne _ ih =>
    refine List.forall_mem_cons.2 ⟨⟨?_, gap, cs, ?_, rfl⟩, fun t ht => ?_⟩
    · simpa using hne
    · rw [String.toList_ofList]
    · obtain ⟨hvalue, a, b, rfl, hposition⟩ := ih t ht
      refine ⟨hvalue, gap ++ piece ++ a, b, ?_, ?_⟩
      · simp only [List.append_assoc]
      · rw [hposition, Position.advance_append, Position.advance_append]

/-- Each token ends in front of the next ones. -/
theorem ordered (h : Covers p cs ts) :
    ts.Pairwise fun t u => t.position.offset + t.value.utf8ByteSize ≤ u.position.offset := by
  induction h with
  | nil _ => exact .nil
  | @cons p gap piece cs kind ts _ _ h ih =>
    refine .cons (fun u hu => ?_) ih
    obtain ⟨-, a, -, -, hposition⟩ := h.slices u hu
    rw [hposition, Position.offset_advance _ a, Position.offset_advance _ piece]
    exact Nat.le_add_right _ _

end Covers

/-- What the patterns find is no mark of the end or of an error. -/
theorem kind_of_tokenAt {cs piece rest : List Char} {kind : Kind}
    (h : tokenAt cs = some (kind, piece, rest)) : kind ≠ .eof ∧ kind ≠ .error := by
  obtain ⟨shape, hkind, -⟩ := tokenAt_eq_some_iff.1 h
  cases shape <;> cases hkind <;> exact ⟨nofun, nofun⟩

namespace Scanner

/-! ## One call -/

section

variable {s s' : Scanner} {o : Option Token}

/-- A token that is not the end-of-file token. -/
def visible (o : Option Token) : List Token := o.toList.filter (·.kind ≠ .eof)

/-- A call covers the characters that it takes with the token that it gives out, if it gives one
out. -/
theorem Step.covers (h : Step s o s') : ∃ cs, s.rest = cs ++ s'.rest ∧
    s'.position = s.position.advance cs ∧ Covers s.position cs (visible o) := by
  cases h with
  | finished | stopped => exact ⟨[], rfl, rfl, .nil nofun⟩
  | @eof gap p hgap => exact ⟨gap, (List.append_nil gap).symm, rfl, .nil hgap⟩
  | @token gap piece rest p kind hgap hat =>
    obtain ⟨shape, -, hsplit⟩ := tokenAt_eq_some_iff.1 hat
    have hcovers : Covers p (gap ++ piece ++ []) [⟨⟨kind, .ofList piece⟩, p.advance gap⟩] :=
      .cons hgap (Shape.cuts_split hsplit).2 (.nil nofun)
    refine ⟨gap ++ piece, (List.append_assoc gap piece rest).symm,
      (Position.advance_append p gap piece).symm, ?_⟩
    simpa [visible, (kind_of_tokenAt hat).1] using hcovers
  | @error gap c cs p hgap _ _ =>
    have hcovers : Covers p (gap ++ [c] ++ []) [⟨⟨.error, .ofList [c]⟩, p.advance gap⟩] :=
      .cons hgap (List.cons_ne_nil c []) (.nil nofun)
    refine ⟨gap ++ [c], List.append_cons gap c cs, (Position.advance_append p gap [c]).symm, ?_⟩
    simpa [visible] using hcovers

/-- A scanner has failed once it has given out an error. -/
theorem Step.failed_iff (h : Step s o s') :
    s'.failed = true ↔ s.failed = true ∨ ∃ t, o = some t ∧ t.kind = .error := by
  cases h with
  | finished | stopped | eof _ | error _ _ _ => simp
  | token _ hat => simp [(kind_of_tokenAt hat).2]

/-- An error holds one character, and the next call gives out the end-of-file token. -/
theorem Step.of_error {t : Token} (h : Step s (some t) s') (ht : t.kind = .error) :
    t.value.length = 1 ∧ s'.next?.1 = some ⟨.eof, s'.position⟩ := by
  cases h with
  | stopped | eof _ => cases ht
  | token _ hat => exact absurd ht (kind_of_tokenAt hat).2
  | error _ _ _ => exact ⟨String.length_singleton, rfl⟩

/-- The end of the file is the end of the text, unless there was an error. -/
theorem Step.rest_of_eof {t : Token} (h : Step s (some t) s') (ht : t.kind = .eof)
    (hs : s.failed = false) : s'.rest = [] := by
  cases h with
  | stopped => cases hs
  | eof _ => rfl
  | token _ hat => exact absurd ht (kind_of_tokenAt hat).1
  | error _ _ _ => cases ht

end

/-! ## Many calls -/

/-- The scan after `n` calls. -/
def after (s : Scanner) : Nat → Scanner
  | 0 => s
  | n + 1 => (s.after n).next?.2

/-- What the call gives that comes after `n` others. -/
def answer (s : Scanner) (n : Nat) : Option Token := (s.after n).next?.1

/-- The tokens that the first `n` calls give, without the end-of-file token. -/
def found (s : Scanner) (n : Nat) : List Token :=
  (List.range n).flatMap fun i => visible (s.answer i)

variable {s : Scanner}

/-- Each call is a step. -/
theorem step_after (s : Scanner) (n : Nat) : Step (s.after n) (s.answer n) (s.after (n + 1)) :=
  step_next? _

/-- Calls may be counted from the other end. -/
theorem after_succ' (s : Scanner) (n : Nat) : s.after (n + 1) = s.next?.2.after n := by
  induction n with
  | zero => rfl
  | succ n ih => rw [after, ih, after]

/-- The later answers are those of the scanner behind the first call. -/
theorem answer_succ' (s : Scanner) (n : Nat) : s.answer (n + 1) = s.next?.2.answer n := by
  rw [answer, after_succ', answer]

/-- One more call may find one more token. -/
theorem found_succ (s : Scanner) (n : Nat) :
    s.found (n + 1) = s.found n ++ visible (s.answer n) := by
  simp [found, List.range_succ]

/-- The scan stands behind the tokens that it has found. -/
theorem covers_found (s : Scanner) (n : Nat) : ∃ cs, s.rest = cs ++ (s.after n).rest ∧
    (s.after n).position = s.position.advance cs ∧ Covers s.position cs (s.found n) := by
  induction n with
  | zero => exact ⟨[], rfl, rfl, .nil nofun⟩
  | succ n ih =>
    obtain ⟨cs, hrest, hposition, hcovers⟩ := ih
    obtain ⟨cs', hrest', hposition', hcovers'⟩ := (s.step_after n).covers
    rw [hposition] at hposition' hcovers'
    refine ⟨cs ++ cs', ?_, ?_, ?_⟩
    · rw [hrest, hrest', List.append_assoc]
    · rw [hposition', Position.advance_append]
    · rw [found_succ]
      exact hcovers.append hcovers'

/-- By induction on the number of calls, from `Step.failed_iff`. -/
theorem failed_after_iff (s : Scanner) (n : Nat) : (s.after n).failed = true ↔
    s.failed = true ∨ ∃ i < n, ∃ t, s.answer i = some t ∧ t.kind = .error := by
  induction n with
  | zero => simp [after]
  | succ n ih =>
    rw [(s.step_after n).failed_iff, ih, or_assoc]
    refine or_congr_right ⟨?_, ?_⟩
    · rintro (⟨i, hi, h⟩ | h)
      · exact ⟨i, Nat.lt_succ_of_lt hi, h⟩
      · exact ⟨n, Nat.lt_succ_self n, h⟩
    · rintro ⟨i, hi, h⟩
      rcases Nat.lt_succ_iff_lt_or_eq.1 hi with hi | rfl
      · exact .inl ⟨i, hi, h⟩
      · exact .inr h

/-- Nothing is given out any more. -/
theorem answer_of_finished (h : s.finished = true) (n : Nat) : s.answer n = none := by
  have hafter : s.after n = s := by
    induction n with
    | zero => rfl
    | succ n ih =>
      rw [after, ih, next?, if_pos h]
  rw [answer, hafter, next?, if_pos h]

/-- Call number `k` gives out the end-of-file token, and no call after it gives anything. -/
structure EndsAt (s : Scanner) (k : Nat) : Prop where
  before : ∀ i < k, ∃ t, s.answer i = some t ∧ t.kind ≠ .eof
  eof : ∃ t, s.answer k = some t ∧ t.toLexeme = .eof
  after : ∀ i, k < i → s.answer i = none

/-- Every scan ends, as each call leaves fewer of them. -/
theorem exists_endsAt (hs : s.finished = false) : ∃ k, s.EndsAt k := by
  induction hn : s.steps using Nat.strongRecOn generalizing s with
  | _ n ih =>
    obtain ⟨e, he, heof, hfin⟩ | ⟨t, ht, hs', hsteps, hkind⟩ := (step_next? s).cases hs
    · refine ⟨0, nofun, ⟨e, he, heof⟩, fun i hi => ?_⟩
      obtain ⟨i, rfl⟩ := Nat.exists_eq_add_of_lt hi
      rw [Nat.zero_add, answer_succ', answer_of_finished hfin]
    · -- the first call gives out a token, and all that the others do comes one call later
      obtain ⟨k, hbefore, heof, hafter⟩ := ih _ (hn ▸ hsteps) hs' rfl
      have hne : t.kind ≠ .eof := by
        rcases hkind with ⟨herror, -⟩ | hwhole
        · rw [herror]
          exact nofun
        · exact hwhole.kind_ne_eof
      refine ⟨k + 1, fun i hi => ?_, ?_, fun i hi => ?_⟩
      · cases i with
        | zero => exact ⟨t, ht, hne⟩
        | succ i =>
          rw [answer_succ']
          exact hbefore i (Nat.lt_of_succ_lt_succ hi)
      · rw [answer_succ']
        exact heof
      · cases i with
        | zero => cases hi
        | succ i =>
          rw [answer_succ']
          exact hafter i (Nat.lt_of_succ_lt_succ hi)

/-- Only one call gives out the end-of-file token. -/
theorem EndsAt.eq_of_eof {i k : Nat} {t : Token} (h : s.EndsAt k) (hi : s.answer i = some t)
    (ht : t.kind = .eof) : i = k := by
  rcases Nat.lt_trichotomy i k with hlt | rfl | hlt
  · obtain ⟨u, hu, hne⟩ := h.before i hlt
    rw [hi] at hu
    cases hu
    exact absurd ht hne
  · rfl
  · rw [h.after i hlt] at hi
    cases hi

/-- An error is the last token but one. -/
theorem EndsAt.of_error {i k : Nat} {t : Token} (h : s.EndsAt k) (hi : s.answer i = some t)
    (ht : t.kind = .error) : i + 1 = k ∧ t.value.length = 1 := by
  have hstep := s.step_after i
  rw [hi] at hstep
  obtain ⟨hlength, hnext⟩ := hstep.of_error ht
  exact ⟨h.eq_of_eof hnext rfl, hlength⟩

/-- A text without an error is covered by its tokens. -/
theorem EndsAt.covers {k : Nat} (h : s.EndsAt k) (hs : s.failed = false)
    (herror : ∀ i t, s.answer i = some t → t.kind ≠ .error) :
    Covers s.position s.rest (s.found k) := by
  obtain ⟨e, he, heof⟩ := h.eof
  have hkind : e.kind = .eof := congrArg Lexeme.kind heof
  have hfailed : (s.after k).failed = false := by
    rw [← Bool.not_eq_true, failed_after_iff, hs]
    rintro (hfalse | ⟨i, -, t, hi, ht⟩)
    · cases hfalse
    · exact herror i t hi ht
  have hstep := s.step_after k
  rw [he] at hstep
  obtain ⟨cs, hrest, -, hcovers⟩ := s.covers_found (k + 1)
  rw [hstep.rest_of_eof hkind hfailed, List.append_nil] at hrest
  rw [found_succ, he] at hcovers
  rw [hrest]
  simpa [visible, hkind] using hcovers

end Scanner

/-! ## The scan of a source text -/

/-- The scan stands behind a part of the source text, which is made of the tokens that have been
found and of blank space. -/
structure Scanner.Lossless (source : List Char) (s : Scanner) (found : List Token) : Prop where
  scanned : ∃ cs, source = cs ++ s.rest ∧ s.position = .advance .start cs ∧
    s.position.offset = (String.ofList cs).utf8ByteSize ∧ Covers .start cs found
  slices : ∀ t ∈ found, t.value ≠ "" ∧ ∃ a b, source = a ++ t.value.toList ++ b ∧
    t.position = .advance .start a ∧ t.position.offset = (String.ofList a).utf8ByteSize
  ordered : found.Pairwise fun t u =>
    t.position.offset + t.value.utf8ByteSize ≤ u.position.offset

/-- The offset behind a text is its length in bytes. -/
theorem offset_advance_start (cs : List Char) :
    (Position.advance .start cs).offset = (String.ofList cs).utf8ByteSize := by
  rw [Position.offset_advance]
  exact Nat.zero_add _

/-- What holds after each number of calls. -/
theorem Scanner.lossless_after (source : List Char) (n : Nat) :
    Lossless source ((ofList source).after n) ((ofList source).found n) := by
  obtain ⟨cs, hrest, hposition, hcovers⟩ := (ofList source).covers_found n
  refine ⟨⟨cs, hrest, hposition, ?_, hcovers⟩, fun t ht => ?_, hcovers.ordered⟩
  · rw [hposition]
    exact offset_advance_start cs
  · obtain ⟨hvalue, a, b, rfl, ha⟩ := hcovers.slices t ht
    refine ⟨hvalue, a, b ++ ((ofList source).after n).rest, ?_, ha, ?_⟩
    · rw [← List.append_assoc]
      exact hrest
    · rw [ha]
      exact offset_advance_start a

/-- Scanning a source text loses nothing, whatever the number of calls; there is one end-of-file
token, and at most one error, which holds one character and is followed by the end-of-file token.
Without an error the tokens and the blank space between them are the whole source. -/
theorem scan_lossless (source : String) :
    (∀ n, Scanner.Lossless source.toList ((Scanner.ofString source).after n)
      ((Scanner.ofString source).found n)) ∧
    ∃ k, (Scanner.ofString source).EndsAt k ∧
      (∀ i t, (Scanner.ofString source).answer i = some t → t.kind = .error →
        i + 1 = k ∧ t.value.length = 1) ∧
      (∀ n, ((Scanner.ofString source).after n).failed = true ↔
        ∃ i < n, ∃ t, (Scanner.ofString source).answer i = some t ∧ t.kind = .error) ∧
      ((∀ i t, (Scanner.ofString source).answer i = some t → t.kind ≠ .error) →
        Covers .start source.toList ((Scanner.ofString source).found k)) := by
  obtain ⟨k, hk⟩ := Scanner.exists_endsAt (s := .ofString source) rfl
  refine ⟨Scanner.lossless_after source.toList, k, hk, fun i t => hk.of_error, fun n => ?_,
    hk.covers rfl⟩
  rw [Scanner.failed_after_iff]
  exact or_iff_right nofun

end PackageModel
