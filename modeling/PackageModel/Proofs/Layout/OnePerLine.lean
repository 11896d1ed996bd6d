import PackageModel.Proofs.Layout.Renders

/-!
# PackageModel.Proofs.Layout.OnePerLine

Tokens below one another.  A line end behind a token ends it, whatever comes next, and a comment
brings its own.  So the tokens of a text can be written down one by one, without any other blank
space, and are the same tokens again.
-/

namespace PackageModel

/-- The token on a line of its own.  A comment ends in a line end already. -/
def Lexeme.line (l : Lexeme) : String := if l.kind = .comment then l.value else l.value ++ "\n"

/-- The tokens one below the other; the end of the file is not written. -/
def onePerLine (tokens : List Token) : String :=
  String.join ((tokens.filter (·.kind ≠ .eof)).map (·.toLexeme.line))

namespace Layout

/-- The layout of a token on a line of its own. -/
def ownLine (l : Lexeme) : Layout := if l.kind = .comment then [.token l] else [.token l, .line 0]

/-- The text of a lexeme on its own line. -/
theorem render_ownLine (l : Lexeme) : (ownLine l).render = l.line := by
  rw [ownLine, Lexeme.line]
  split
  · exact render_singleton
  · rw [render_cons, render_singleton]
    rfl

/-- A line holds the one lexeme. -/
theorem lexemes_ownLine (l : Lexeme) : (ownLine l).lexemes = [l] := by
  rw [ownLine]
  split <;> rfl

/-- The text of lexemes on lines of their own. -/
theorem render_lines (ls : List Lexeme) :
    render (ls.flatMap ownLine) = String.join (ls.map Lexeme.line) := by
  induction ls with
  | nil => rfl
  | cons l ls ih =>
    rw [List.flatMap_cons, render_append, render_ownLine, ih, List.map_cons, String.join_cons]

/-- Lexemes on lines of their own are these lexemes. -/
theorem lexemes_lines (ls : List Lexeme) : lexemes (ls.flatMap ownLine) = ls := by
  simp only [lexemes_flatMap, lexemes_ownLine, List.flatMap_singleton']

/-- A comment ends in front of every token, as no token starts with a line end. -/
theorem before_lines (ls : List Lexeme) : Kind.comment.Before (ls.flatMap ownLine) := by
  cases ls with
  | nil => exact Kind.before_nil
  | cons l ls =>
    have hhead : (List.flatMap ownLine (l :: ls)).head? = some (.token l) := by
      rw [List.flatMap_cons, ownLine]
      split <;> rfl
    intro p hp
    rw [hhead] at hp
    cases hp
    exact ⟨nofun, nofun⟩

/-- Tokens below one another do not run on into the next ones. -/
theorem tidy_lines {ls : List Lexeme} (h : ∀ l ∈ ls, l.Whole) : Tidy (ls.flatMap ownLine) := by
  induction ls with
  | nil => exact .nil
  | cons l ls ih =>
    obtain ⟨hl, hls⟩ := List.forall_mem_cons.1 h
    have htidy : Tidy (ls.flatMap ownLine) := ih hls
    rw [List.flatMap_cons, ownLine]
    split
    · next hcomment => exact .token hl (hcomment ▸ before_lines ls) htidy
    · next hcomment => exact .token hl (Kind.before_line.2 hcomment) (.line htidy)

end Layout

/-- A text without errors has the same tokens if they are written one below the other. -/
theorem tokenize_onePerLine {source : String} (h : ∀ t ∈ tokenize source, t.kind ≠ .error) :
    (tokenize (onePerLine (tokenize source))).map (·.toLexeme) =
      (tokenize source).map (·.toLexeme) := by
  obtain ⟨us, o, e, htokens, he, hus, ho⟩ := exists_tokenize_eq_whole source
  obtain rfl : o = none := by
    cases o with
    | none => rfl
    | some t => exact absurd (ho t rfl) (h t (by simp [htokens]))
  rw [Option.toList_none, List.append_nil] at htokens
  have hkind : ∀ u ∈ us, u.kind ≠ .eof := fun u hu => (hus u hu).kind_ne_eof
  have hvisible : (tokenize source).filter (·.kind ≠ .eof) = us := by
    have heof : e.kind = .eof := congrArg Lexeme.kind he
    rw [htokens, List.filter_append]
    simpa [heof] using hkind
  have hwhole : ∀ l ∈ us.map (·.toLexeme), l.Whole := List.forall_mem_map.2 hus
  have hrender : onePerLine (tokenize source) =
      Layout.render ((us.map (·.toLexeme)).flatMap Layout.ownLine) := by
    rw [onePerLine, hvisible, Layout.render_lines, List.map_map]
    rfl
  rw [hrender, Layout.tokenize_render (Layout.tidy_lines hwhole), Layout.lexemes_lines, htokens,
    List.map_append, List.map_singleton, he]

/-- A note behind a comment and a name behind a text, with and without blank space between them. -/
theorem tokenize_onePerLine_dense :
    let source := "/*\nN\n*/\n\n// Ö\n[]a.b\"x\"c \t=\"\n\"/*\n\n*/\n"
    (∀ t ∈ tokenize source, t.kind ≠ .error) ∧
      onePerLine (tokenize source) =
        "/*\nN\n*/\n\n// Ö\n[\n]\na\n.\nb\n\"x\"\nc\n=\n\"\n\"\n/*\n\n*/\n" ∧
      (tokenize (onePerLine (tokenize source))).map (·.toLexeme) =
        (tokenize source).map (·.toLexeme) := by
  intro source
  have h : ∀ t ∈ tokenize source, t.kind ≠ .error := by decide
  exact ⟨h, by decide, tokenize_onePerLine h⟩

end PackageModel
