import PackageModel.Proofs.Position
import PackageModel.Proofs.Token.Lossless

/-!
# PackageModel.Proofs.Excerpt

Where the caret stands.  An excerpt quotes the line of a place below its number and puts the caret
into the row below it.  Both rows are as wide in front of the place if the number has four digits;
the caret row does not grow with longer numbers.  The line that is quoted is always there: places
are counted in the lines into which the text is cut.
-/

namespace PackageModel

/-! ## Places of tokens -/

namespace Scanner

variable {s s' : Scanner} {t : Token}

/-- A token stands in the text behind the blank space that is passed over. -/
theorem Step.exists_cut (h : Step s (some t) s') :
    ∃ pre post, s.rest = pre ++ post ∧ t.value.toList <+: post ∧
      t.position = s.position.advance pre := by
  cases h with
  | @stopped cs p => exact ⟨[], cs, rfl, List.nil_prefix, rfl⟩
  | @eof gap p _ => exact ⟨gap, [], (List.append_nil gap).symm, List.nil_prefix, rfl⟩
  | @token gap piece rest p kind _ _ => exact ⟨gap, piece ++ rest, rfl, by simp, rfl⟩
  | @error gap c cs p _ _ _ => exact ⟨gap, c :: cs, rfl, by simp, rfl⟩

/-- By induction on the scanner's calls: each token starts what is left of the text behind the one
in front of it. -/
theorem exists_cut_of_mem_tokens {n : Nat} (h : t ∈ s.tokens n) :
    ∃ pre post, s.rest = pre ++ post ∧ t.value.toList <+: post ∧
      t.position = s.position.advance pre := by
  induction n generalizing s with
  | zero => simp [tokens] at h
  | succ n ih =>
    have hstep := step_next? s
    cases hnext : s.next?.1 with
    | none =>
      have hpair : s.next? = (none, s.next?.2) := Prod.ext hnext rfl
      rw [tokens, hpair] at h
      simp at h
    | some u =>
      rw [hnext] at hstep
      rw [tokens_succ hnext, List.mem_cons] at h
      rcases h with rfl | h
      · exact hstep.exists_cut
      · -- a later token: its place is counted from behind the text of this call
        obtain ⟨cs, hrest, hposition, -⟩ := hstep.covers
        obtain ⟨pre, post, hcut, hvalue, ht⟩ := ih h
        rw [hcut, ← List.append_assoc] at hrest
        rw [hposition, ← Position.advance_append] at ht
        exact ⟨cs ++ pre, post, hrest, hvalue, ht⟩

end Scanner

/-- A token's place divides the source into what is in front of it and what begins with it. -/
theorem exists_cut_of_mem_tokenize {source : String} {t : Token} (h : t ∈ tokenize source) :
    ∃ pre post, source.toList = pre ++ post ∧ t.value.toList <+: post ∧
      t.position = .advance .start pre :=
  Scanner.exists_cut_of_mem_tokens h

namespace Excerpt

/-! ## Rows -/

/-- A line behind its number. -/
def row (number : Nat) (line : List Char) : List Char :=
  padded 4 number ++ [':', ' '] ++ expandTabs line

/-- The row with the caret behind `width` columns of the line above it. -/
def caretBehind (width : Nat) : List Char :=
  [' ', '>', '>', '>', '─'] ++ List.replicate (width + 1) '─' ++ ['⌃']

/-- Each character is expanded by itself. -/
@[simp] theorem expandTabs_append (cs ds : List Char) :
    expandTabs (cs ++ ds) = expandTabs cs ++ expandTabs ds := by
  simp [expandTabs]

/-- Only the start of a row has the number. -/
theorem row_append (number : Nat) (cs ds : List Char) :
    row number (cs ++ ds) = row number cs ++ expandTabs ds := by
  simp [row]

/-- A numbered line is a row and a line end. -/
theorem numbered_append (number : Nat) (line rest : List Char) :
    numbered number line ++ rest = row number line ++ '\n' :: rest := by
  simp [numbered, row]

/-- The caret's row is as long as what stands in front of the token, with its tabs expanded. -/
theorem caretRow_append (line rest : List Char) (column : Nat) :
    caretRow line column ++ rest =
      caretBehind (expandTabs (line.take (column - 1))).length ++ '\n' :: rest := by
  simp [caretRow, caretBehind]

/-- Expanding tabs adds no line ends. -/
theorem not_mem_expandTabs {cs : List Char} (h : '\n' ∉ cs) : '\n' ∉ expandTabs cs := by
  rw [expandTabs, List.mem_flatMap]
  rintro ⟨c, hc, hmem⟩
  split at hmem
  · simp at hmem
  · rw [List.mem_singleton] at hmem
    exact h (hmem ▸ hc)

/-- Digits and blanks are no line ends. -/
theorem not_mem_padded (width n : Nat) : '\n' ∉ padded width n := by
  have hdigits : '\n' ∉ Nat.toDigits 10 n := by
    intro h
    have hdigit := Nat.isDigit_of_mem_toDigits (by decide) (by decide) h
    simp [Char.isDigit] at hdigit
  simp [padded, hdigits]

/-- A row is one line. -/
theorem not_mem_row {number : Nat} {line : List Char} (h : '\n' ∉ line) :
    '\n' ∉ row number line := by
  simp [row, not_mem_padded, not_mem_expandTabs h]

/-- The caret's row is one line. -/
theorem not_mem_caretBehind (width : Nat) : '\n' ∉ caretBehind width := by
  simp [caretBehind]

section

variable {source current : List Char} {n : Nat}

/-- An excerpt of a line that exists. -/
theorem excerpt_eq (column : Nat) (h : (lines source)[n]? = some current) :
    excerpt source (n + 1) column =
      (if n = 0 then [] else numbered n ((lines source)[n - 1]?.getD [])) ++
        numbered (n + 1) current ++ caretRow current column ++
        ((lines source)[n + 1]?.map (numbered (n + 2))).getD [] ++ ['\n'] := by
  simp only [excerpt, h]
  cases (lines source)[n + 1]? <;> rfl

/-- A line holds no line end. -/
theorem not_mem_of_getElem?_lines {i : Nat} {line : List Char}
    (h : (lines source)[i]? = some line) : '\n' ∉ line :=
  not_mem_of_mem_lines (List.mem_of_getElem? h)

/-- The rows of an excerpt: the line above, the line itself, the caret and the line below. -/
theorem lines_excerpt (column : Nat) (h : (lines source)[n]? = some current) :
    lines (excerpt source (n + 1) column) =
      (if n = 0 then [] else [row n ((lines source)[n - 1]?.getD [])]) ++
        row (n + 1) current ::
          caretBehind (expandTabs (current.take (column - 1))).length ::
            (((lines source)[n + 1]?.map (row (n + 2))).toList ++ [[], []]) := by
  have hcurrent : '\n' ∉ row (n + 1) current := not_mem_row (not_mem_of_getElem?_lines h)
  have habove : '\n' ∉ row n ((lines source)[n - 1]?.getD []) := by
    apply not_mem_row
    cases hi : (lines source)[n - 1]? with
    | none => exact List.not_mem_nil
    | some line => exact not_mem_of_getElem?_lines hi
  -- the last line may be missing; the line end behind the excerpt leaves two empty lines
  have hbelow : lines (((lines source)[n + 1]?.map (numbered (n + 2))).getD [] ++ ['\n']) =
      ((lines source)[n + 1]?.map (row (n + 2))).toList ++ [[], []] := by
    cases hi : (lines source)[n + 1]? with
    | none => rfl
    | some line =>
      have hline : '\n' ∉ row (n + 2) line := not_mem_row (not_mem_of_getElem?_lines hi)
      rw [Option.map_some, Option.getD_some, numbered_append, lines_line hline]
      rfl
  rw [excerpt_eq column h]
  simp only [List.append_assoc]
  split
  · rw [List.nil_append, numbered_append, lines_line hcurrent, caretRow_append,
      lines_line (not_mem_caretBehind _), hbelow, List.nil_append]
  · rw [numbered_append, lines_line habove, numbered_append, lines_line hcurrent, caretRow_append,
      lines_line (not_mem_caretBehind _), hbelow, List.singleton_append]

end

/-! ## Columns -/

/-- Padding never makes a number shorter than its digits. -/
theorem length_padded (width n : Nat) :
    (padded width n).length = max width (Nat.toDigits 10 n).length := by
  simp only [padded, List.length_append, List.length_replicate]
  omega

/-- The caret stands six columns behind the dashes of the width. -/
theorem idxOf_caretBehind (width : Nat) : (caretBehind width).idxOf '⌃' = 6 + width := by
  have hmem : '⌃' ∉ [' ', '>', '>', '>', '─'] ++ List.replicate (width + 1) '─' := by
    simp
  rw [caretBehind, List.idxOf_append_of_notMem hmem]
  simp
  omega

/-- The caret row is made for numbers with four digits. -/
theorem idxOf_caretBehind_iff (number : Nat) (line : List Char) :
    (caretBehind (expandTabs line).length).idxOf '⌃' = (row number line).length ↔
      number < 10000 := by
  have hdigits : (Nat.toDigits 10 number).length ≤ 4 ↔ number < 10 ^ 4 :=
    Nat.length_toDigits_le_iff (by decide) (by decide)
  rw [idxOf_caretBehind, row, List.length_append, List.length_append, length_padded]
  simp only [List.length_cons, List.length_nil]
  omega

/-! ## Tokens -/

/-- The excerpt around a token quotes the line that the token begins in, and its caret row comes
next.  The caret stands in the column in which the token begins, or behind the line if nothing is
left of it, if and only if the number of the line has at most four digits. -/
theorem caret_below_token_iff {source : String} {t : Token} (ht : t ∈ tokenize source) :
    excerpt source.toList t.position.line t.position.column ≠ [] ∧
    ∃ pre post above below,
      source.toList = pre ++ post ∧ t.position.offset = (String.ofList pre).utf8ByteSize ∧
      t.value.toList <+: post ∧
      lines (excerpt source.toList t.position.line t.position.column) =
        above ++ (row t.position.line (lineBefore pre) ++ expandTabs (lineBehind post)) ::
          caretBehind (expandTabs (lineBefore pre)).length :: below ∧
      above.length = min 1 (t.position.line - 1) ∧
      ((caretBehind (expandTabs (lineBefore pre)).length).idxOf '⌃' =
          (row t.position.line (lineBefore pre)).length ↔
        t.position.line < 10000) := by
  obtain ⟨pre, post, hsource, hvalue, ht⟩ := exists_cut_of_mem_tokenize ht
  have hline : t.position.line = pre.count '\n' + 1 := by
    rw [ht, Position.line_advance_start]
  -- the column counts the characters in front of the token in its line
  have hbefore : (lineBefore pre ++ lineBehind post).take (t.position.column - 1) =
      lineBefore pre := by
    rw [ht, Position.column_advance_start, Nat.add_sub_cancel, List.take_left]
  have hrows := lines_excerpt t.position.column (getElem?_lines pre post)
  rw [hbefore, ← hsource, ← hline, row_append] at hrows
  constructor
  · intro hempty
    have hlength := congrArg List.length hrows
    rw [hempty] at hlength
    simp [lines] at hlength
    omega
  · refine ⟨pre, post, _, _, hsource, ?_, hvalue, hrows, ?_, idxOf_caretBehind_iff _ _⟩
    · rw [ht, offset_advance_start]
    · rw [hline, Nat.add_sub_cancel]
      split
      · next hfirst =>
        rw [hfirst]
        rfl
      · next hfirst =>
        rw [List.length_singleton]
        omega

/-- A name behind a tab, below a comment with several lines. -/
theorem caret_below_token_iff_tab :
    let source := "/*\n\té\n*/\n\tb.c"
    let t : Token := ⟨⟨.identifier, "b"⟩, ⟨4, 2, 11⟩⟩
    t ∈ tokenize source ∧ t.position.line < 10000 ∧
      String.ofList (excerpt source.toList 4 2) = "0003: */\n0004:     b.c\n >>>──────⌃\n\n" ∧
      ∃ pre post, source.toList = pre ++ post ∧ (String.ofList pre).utf8ByteSize = 11 ∧
        (caretBehind (expandTabs (lineBefore pre)).length).idxOf '⌃' =
          (row 4 (lineBefore pre)).length := by
  intro source t
  have ht : t ∈ tokenize source := by decide
  have hline : t.position.line < 10000 := by decide
  obtain ⟨-, pre, post, above, below, hsource, hoffset, -, -, -, hiff⟩ := caret_below_token_iff ht
  exact ⟨ht, hline, by decide, pre, post, hsource, hoffset.symm, hiff.2 hline⟩

/-! ### Long line numbers -/

/-- A source whose only token is an error, below `n` empty lines. -/
def errorBelow (n : Nat) : List Char := List.replicate n '\n' ++ ['?']

/-- Line ends lead to the start of a line. -/
theorem advance_replicate (n : Nat) :
    Position.advance .start (List.replicate n '\n') = ⟨n + 1, 1, n⟩ := by
  induction n with
  | zero => rfl
  | succ n ih =>
    rw [List.replicate_succ', Position.advance_append, ih]
    rfl

/-- Blank lines are skipped in front of a token. -/
theorem skipBlank_errorBelow (n : Nat) :
    (Scanner.ofList (errorBelow n)).skipBlank =
      (Scanner.ofList (errorBelow n)).skip (List.replicate n '\n') ['?'] := by
  have hblank : Shape.isBlank '\n' = true := rfl
  have hmark : Shape.isBlank '?' = false := rfl
  cases n with
  | zero => rfl
  | succ n =>
    simp [Scanner.skipBlank, Scanner.ofList, errorBelow, List.replicate_succ, Shape.split, hblank,
      hmark]

/-- The error token of the question mark stands behind the blank lines. -/
theorem mem_tokenize_errorBelow (n : Nat) :
    ⟨⟨.error, "?"⟩, ⟨n + 1, 1, n⟩⟩ ∈ tokenize (String.ofList (errorBelow n)) := by
  have hnext : (Scanner.ofList (errorBelow n)).next?.1 =
      some ⟨⟨.error, "?"⟩, ⟨n + 1, 1, n⟩⟩ := by
    have hscan : (Scanner.ofList (errorBelow n)).next?.1 =
        some (Scanner.ofList (errorBelow n)).skipBlank.token.1 := rfl
    rw [hscan, skipBlank_errorBelow, Scanner.skip, Scanner.ofList, advance_replicate]
    rfl
  rw [tokenize, Scanner.ofString, String.toList_ofList, Scanner.tokens_succ hnext]
  exact List.mem_cons_self

/-- The excerpt shows the question mark and the caret row below it. -/
theorem exists_lines_errorBelow (n : Nat) :
    ∃ above below, lines (excerpt (errorBelow n) (n + 1) 1) =
      above ++ row (n + 1) ['?'] :: caretBehind 0 :: below := by
  have hline := getElem?_lines (List.replicate n '\n') ['?']
  have hbefore : lineBefore (List.replicate n '\n') = [] := by
    have hcolumn := Position.column_advance_start (List.replicate n '\n')
    rw [advance_replicate] at hcolumn
    simpa using hcolumn.symm
  rw [List.count_replicate_self, hbefore] at hline
  exact ⟨_, _, lines_excerpt 1 hline⟩

/-- On line 10000 the caret is one column to the left of the token. -/
theorem exists_caret_beside_token :
    let source := String.ofList (errorBelow 9999)
    ∃ t ∈ tokenize source, t.kind = .error ∧ t.position = ⟨10000, 1, 9999⟩ ∧ ∃ above below,
      lines (excerpt source.toList t.position.line t.position.column) =
        above ++ "10000: ?".toList :: " >>>──⌃".toList :: below ∧
      "10000: ?".toList.idxOf '?' = 7 ∧ " >>>──⌃".toList.idxOf '⌃' = 6 := by
  obtain ⟨above, below, hrows⟩ := exists_lines_errorBelow 9999
  have hrow : row 10000 ['?'] = "10000: ?".toList := by decide
  have hcaret : caretBehind 0 = " >>>──⌃".toList := by decide
  rw [hrow, hcaret] at hrows
  refine ⟨_, mem_tokenize_errorBelow 9999, rfl, rfl, above, below, ?_, by decide, by decide⟩
  rw [String.toList_ofList]
  exact hrows

/-! ## Lines of places -/

/-- A place finds its line in the text, and the excerpt around it quotes this line. -/
theorem exists_excerpt_of_cut (pre post : List Char) :
    let p := Position.advance .start pre
    1 ≤ p.line ∧ p.line ≤ (lines (pre ++ post)).length ∧
    ∃ line, (lines (pre ++ post))[p.line - 1]? = some line ∧
      p.column - 1 ≤ line.length ∧ line.drop (p.column - 1) = post.takeWhile (· ≠ '\n') ∧
      ∃ above below, excerpt (pre ++ post) p.line p.column =
        above ++ numbered p.line line ++ caretRow line p.column ++ below := by
  intro p
  have hline : p.line = pre.count '\n' + 1 := Position.line_advance_start pre
  have hcolumn : p.column - 1 = (lineBefore pre).length := by
    rw [Position.column_advance_start, Nat.add_sub_cancel]
  have hcurrent := getElem?_lines pre post
  have hrows := excerpt_eq p.column hcurrent
  rw [List.append_assoc _ _ ['\n']] at hrows
  rw [hline, hcolumn, Nat.add_sub_cancel, length_lines, List.count_append]
  refine ⟨by omega, by omega, _, hcurrent, by simp, ?_, _, _, hrows⟩
  rw [List.drop_left, lineBehind]

/-- Places and lines agree.  Moving over two texts one by one is the same as moving over both
at once: lines and bytes add up, and the column counts on from the last line end, if there is one.
A place in a text lies in one of its lines; its column divides the line into what is in front of
the place and the part behind it.  So an excerpt around a token never looks for a line that is
not there. -/
theorem advance_agrees_with_lines (p : Position) (pre post : List Char) :
    let source := pre ++ post
    let q := Position.advance .start pre
    (p.advance pre).advance post = p.advance source ∧
    p.advance pre =
      { line := p.line + pre.count '\n'
        column := if '\n' ∈ pre then (lineBefore pre).length + 1 else p.column + pre.length
        offset := p.offset + (String.ofList pre).utf8ByteSize } ∧
    (1 ≤ q.line ∧ q.line ≤ (lines source).length ∧
      ∃ line, (lines source)[q.line - 1]? = some line ∧
        q.column - 1 ≤ line.length ∧ line.drop (q.column - 1) = post.takeWhile (· ≠ '\n') ∧
        ∃ above below, excerpt source q.line q.column =
          above ++ numbered q.line line ++ caretRow line q.column ++ below) ∧
    ∀ t ∈ tokenize (String.ofList source),
      1 ≤ t.position.line ∧ t.position.line ≤ (lines source).length := by
  refine ⟨(Position.advance_append p pre post).symm, ?_, exists_excerpt_of_cut pre post, ?_⟩
  · rw [← Position.line_advance, ← Position.column_advance, ← Position.offset_advance]
  · intro t ht
    obtain ⟨before, behind, hsource, -, hposition⟩ := exists_cut_of_mem_tokenize ht
    obtain ⟨hpos, hle, -⟩ := exists_excerpt_of_cut before behind
    rw [String.toList_ofList] at hsource
    rw [hsource, hposition]
    exact ⟨hpos, hle⟩

/-- The place behind `é` in the second line, and the names of both lines. -/
theorem advance_agrees_with_lines_two :
    let pre := "a\n\té".toList
    let post := "b\nc".toList
    let q := Position.advance .start pre
    q = ⟨2, 3, 5⟩ ∧ (lines (pre ++ post))[1]? = some "\téb".toList ∧
      "\téb".toList.drop (q.column - 1) = ['b'] ∧
      ⟨⟨.identifier, "éb"⟩, ⟨2, 2, 3⟩⟩ ∈ tokenize (String.ofList (pre ++ post)) ∧
      2 ≤ (lines (pre ++ post)).length := by
  intro pre post q
  have ht : ⟨⟨.identifier, "éb"⟩, ⟨2, 2, 3⟩⟩ ∈ tokenize (String.ofList (pre ++ post)) := by decide
  obtain ⟨-, hq, ⟨-, -, line, hline, -, hdrop, -⟩, htokens⟩ :=
    advance_agrees_with_lines .start pre post
  have hposition : q = ⟨2, 3, 5⟩ := hq.trans (by decide)
  have hcurrent : (lines (pre ++ post))[1]? = some "\téb".toList := by decide
  obtain rfl : "\téb".toList = line := Option.some.inj (hcurrent.symm.trans hline)
  exact ⟨hposition, hcurrent, hdrop, ht, (htokens _ ht).2⟩

end Excerpt

end PackageModel
