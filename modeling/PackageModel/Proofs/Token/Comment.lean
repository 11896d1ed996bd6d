import PackageModel.Proofs.Position
import PackageModel.Proofs.Token.Tokenize

/-!
# PackageModel.Proofs.Token.Comment

The lines of a comment.  A comment is closed by the first closing line that it can be closed by.
The line end that opens it does not count as the one in front of a closing line, so the line behind
the opening one never closes the comment; all closing lines further down do.
-/

namespace PackageModel

open Excerpt (lines)

/-! ## Lines -/

/-- A line end leaves an empty first line. -/
theorem lines_newline (cs : List Char) : lines ('\n' :: cs) = [] :: lines cs :=
  lines_line List.not_mem_nil cs

/-- Any other character stands at the front of the first line. -/
theorem lines_cons {c : Char} {cs line : List Char} {rest : List (List Char)} (hc : c ≠ '\n')
    (h : lines cs = line :: rest) : lines (c :: cs) = (c :: line) :: rest := by
  rw [lines_cons_eq_if, if_neg hc, h, List.modifyHead_cons]

/-- Line ends by themselves make empty lines. -/
theorem lines_replicate (n : Nat) : lines (List.replicate n '\n') = List.replicate (n + 1) [] := by
  induction n with
  | zero => rfl
  | succ n ih => rw [List.replicate_succ, lines_newline, ih, ← List.replicate_succ]

/-- A text with more than one line starts with its first one and a line end. -/
theorem prefix_of_lines {cs line next : List Char} {rest : List (List Char)}
    (h : lines cs = line :: next :: rest) : line ++ ['\n'] <+: cs := by
  induction cs generalizing line with
  | nil => cases h
  | cons c cs ih =>
    by_cases hc : c = '\n'
    · rw [hc, lines_newline] at h
      rw [hc, ← (List.cons.inj h).1]
      exact List.prefix_append ['\n'] cs
    · obtain ⟨line', rest', hcs⟩ := List.exists_cons_of_ne_nil (List.splitOn_ne_nil '\n' cs)
      rw [lines_cons hc hcs] at h
      obtain ⟨rfl, rfl⟩ := List.cons.inj h
      exact (List.cons_prefix_cons).2 ⟨rfl, ih hcs⟩

/-! ## Closing lines -/

/-- The line that closes a comment. -/
def closingLine : List Char := ['*', '/']

/-- Behind the first line the first closing line ends the piece; empty lines may follow it. -/
theorem lines_splitClosing {cs piece rest : List Char}
    (h : Shape.splitClosing cs = some (piece, rest)) :
    ∃ first body n, closingLine ∉ body ∧
      lines piece = first :: body ++ closingLine :: List.replicate (n + 1) [] := by
  induction cs generalizing piece with
  | nil => cases h
  | cons c cs ih =>
    rw [Shape.splitClosing] at h
    split at h
    · -- the piece starts with the closing line
      cases h
      generalize htail : ((c :: cs).drop Shape.closing.length).takeWhile (· == '\n') = tail
      obtain ⟨n, rfl⟩ : ∃ n, tail = List.replicate n '\n' := by
        refine ⟨tail.length, List.eq_replicate_of_mem fun d hd => ?_⟩
        rw [← htail] at hd
        exact eq_of_beq (List.all_eq_true.1 List.all_takeWhile d hd)
      refine ⟨[], [], n, List.not_mem_nil, ?_⟩
      rw [← lines_replicate]
      rfl
    · next hc =>
      obtain ⟨⟨piece', rest'⟩, h', he⟩ := Option.map_eq_some_iff.1 h
      cases he
      obtain ⟨first, body, n, hbody, hlines⟩ := ih h'
      by_cases hnewline : c = '\n'
      · refine ⟨[], first :: body, n, ?_, by rw [hnewline, lines_newline, hlines]; rfl⟩
        -- otherwise the piece would start with a closing line
        rw [List.mem_cons, not_or]
        refine ⟨?_, hbody⟩
        rintro rfl
        have hprefix : closingLine ++ ['\n'] <+: piece' := by
          cases body <;> exact prefix_of_lines hlines
        have hpiece : piece' <+: cs := ⟨_, (Shape.cuts_closing h').1.append⟩
        refine hc (List.isPrefixOf_iff_prefix.2 ?_)
        exact List.cons_prefix_cons.2 ⟨hnewline.symm, hprefix.trans hpiece⟩
      · exact ⟨c :: first, body, n, hbody, lines_cons hnewline hlines⟩

/-- The lines of a piece that is a comment. -/
theorem lines_commentPiece {cs piece rest : List Char}
    (h : Shape.comment.split cs = some (piece, rest)) :
    ∃ first body n, closingLine ∉ body ∧
      lines piece =
        ['/', '*'] :: first :: body ++ closingLine :: List.replicate (n + 1) [] := by
  rw [Shape.split, Option.ite_none_right_eq_some] at h
  obtain ⟨⟨piece', rest'⟩, h', he⟩ := Option.map_eq_some_iff.1 h.2
  cases he
  obtain ⟨first, body, n, hbody, hlines⟩ := lines_splitClosing h'
  refine ⟨first, body, n, hbody, ?_⟩
  have hopening : lines (Shape.opening ++ piece') = ['/', '*'] :: lines piece' := rfl
  rw [hopening, hlines]
  rfl

/-- The closing line at the end is the only one if the first line is none. -/
theorem count_closingLine {first : List Char} {body : List (List Char)} (n : Nat)
    (hbody : closingLine ∉ body) :
    (['/', '*'] :: first :: body ++ closingLine :: List.replicate (n + 1) []).count closingLine
      = 1 ↔ first ≠ closingLine := by
  have hopening : ['/', '*'] ≠ closingLine := by decide
  have hempty : (List.replicate (n + 1) []).count closingLine = 0 := by
    rw [List.count_eq_zero, List.mem_replicate]
    exact fun h => absurd h.2 (List.cons_ne_nil _ _)
  rw [List.cons_append, List.cons_append, List.count_cons_of_ne hopening, List.count_cons,
    List.count_append, List.count_eq_zero.2 hbody, List.count_cons_self, hempty]
  by_cases hfirst : first = closingLine <;> simp [hfirst]

/-! ## Comments of a source text -/

/-- A kind of token has one shape. -/
theorem Shape.eq_of_kind? {shape shape' : Shape} {k : Kind} (h : shape.kind? = some k)
    (h' : shape'.kind? = some k) : shape = shape' := by
  cases shape <;> cases h <;> cases shape' <;> cases h' <;> rfl

/-- The text of a token is one piece of the shape that its kind has. -/
theorem whole_of_mem_tokenize {source : String} {t : Token} {shape : Shape}
    (ht : t ∈ tokenize source) (hkind : shape.kind? = some t.kind) : shape.Whole t.value := by
  obtain ⟨ts, e, htokens, he, hts⟩ := exists_tokenize_eq source
  rw [htokens, List.mem_append, List.mem_singleton] at ht
  rcases ht with ht | rfl
  · rcases hts t ht with herror | ⟨shape', hkind', hwhole⟩
    · rw [herror] at hkind
      cases shape <;> cases hkind
    · obtain rfl : shape = shape' := Shape.eq_of_kind? hkind hkind'
      exact hwhole
  · rw [he] at hkind
    cases shape <;> cases hkind

/-- A comment opens with one line and is closed by another, behind which there are only empty lines.
In between no line is a closing line, except perhaps the first one; the comment has just one closing
line if that is none. -/
theorem lines_comment {source : String} {t : Token} (ht : t ∈ tokenize source)
    (hkind : t.kind = .comment) :
    ∃ first body n,
      lines t.value.toList =
        ['/', '*'] :: first :: body ++ closingLine :: List.replicate (n + 1) [] ∧
      closingLine ∉ body ∧
      ((lines t.value.toList).count closingLine = 1 ↔ first ≠ closingLine) := by
  have hwhole : Shape.comment.Whole t.value :=
    whole_of_mem_tokenize ht (congrArg some hkind.symm)
  obtain ⟨first, body, n, hbody, hlines⟩ := lines_commentPiece (matchAt_eq_some_iff.1 hwhole)
  refine ⟨first, body, n, hlines, hbody, ?_⟩
  rw [hlines]
  exact count_closingLine n hbody

/-- A comment whose first line is empty has one closing line, though another mark stands in it. -/
theorem lines_comment_marked :
    let t : Token := ⟨⟨.comment, "/*\n\n a */\n*/\n\n"⟩, .start⟩
    t ∈ tokenize "/*\n\n a */\n*/\n\nb" ∧ t.kind = .comment ∧
      (lines t.value.toList).count closingLine = 1 := by
  intro t
  have ht : t ∈ tokenize "/*\n\n a */\n*/\n\nb" := by decide
  obtain ⟨first, body, n, hlines, -, hone⟩ := lines_comment ht rfl
  refine ⟨ht, rfl, hone.2 ?_⟩
  have hvalue : lines t.value.toList =
      ['/', '*'] :: [] :: [[' ', 'a', ' ', '*', '/']] ++ closingLine :: [[], []] := by decide
  rw [hvalue] at hlines
  rw [← (List.cons.inj (List.cons.inj hlines).2).1]
  exact (List.cons_ne_nil _ _).symm

/-- A comment whose first line is a closing line runs on to the next one, over a declaration. -/
theorem exists_comment_past_closingLine :
    ∃ t ∈ tokenize "/*\n*/\ntype A B\n/*\nC\n*/\n", t.kind = .comment ∧
      t.value = "/*\n*/\ntype A B\n/*\nC\n*/\n" ∧
      (lines t.value.toList).count closingLine = 2 := by
  decide

end PackageModel
