import PackageModel.Proofs.Layout.Fits
import PackageModel.Proofs.Layout.Shows

/-!
# PackageModel.Proofs.Layout.Renders

Texts that are laid out in more than one way.  Where the text of several tokens is put in the place
of a name, the layout is no longer tidy; but its text is also that of a tidy layout, and this one
has the tokens into which the text is scanned.
-/

namespace PackageModel

/-- The tokens of a text, without the end-of-file token behind them. -/
def tokensOf (text : String) : List Lexeme := ((tokenize text).map (·.toLexeme)).dropLast

/-- Items with a comma between them, and one behind the last if they do not stand on one line. -/
def commaed {α : Type} (comma : α) (items : List (List α)) : List α :=
  [comma].intercalate items ++ if Layout.inlineLimit < items.length then [comma] else []

namespace Layout

section

variable {l m : Layout} {p : Piece}

/-- The texts of two layouts stand behind each other. -/
theorem render_append : (l ++ m).render = l.render ++ m.render := by
  rw [render, List.map_append, String.join_append]
  rfl

/-- The text of a layout starts with that of its first piece. -/
theorem render_cons : render (p :: l) = p.render ++ l.render := render_append (l := [p])

/-- The text of a single piece. -/
theorem render_singleton : render [p] = p.render := by
  rw [render_cons]
  exact String.append_empty

/-- The text of a list with separators depends on the texts of its items only. -/
theorem render_intercalate_congr {separator : Layout} {items items' : List Layout}
    (h : items.map render = items'.map render) :
    render (separator.intercalate items) = render (separator.intercalate items') := by
  induction items generalizing items' with
  | nil =>
    obtain rfl := List.map_eq_nil_iff.1 h.symm
    rfl
  | cons l items ih =>
    obtain ⟨l', items', rfl, hl, hitems⟩ := List.map_eq_cons_iff.1 h.symm
    cases items with
    | nil =>
      obtain rfl := List.map_eq_nil_iff.1 hitems
      rw [List.intercalate_singleton, List.intercalate_singleton, hl]
    | cons m items =>
      obtain ⟨m', items', rfl, -, -⟩ := List.map_eq_cons_iff.1 hitems
      rw [List.intercalate_cons_cons, List.intercalate_cons_cons, render_append, render_append,
        render_append, render_append, ih hitems.symm, hl]

/-- A sequence breaks its lines by the number of its items, and otherwise shows their texts. -/
theorem render_sequence_congr {depth : Nat} {items items' : List Layout}
    (h : items.map render = items'.map render) :
    (sequence depth items).render = (sequence depth items').render := by
  have hlength : items.length = items'.length := by simpa using congrArg List.length h
  unfold sequence
  rw [hlength]
  split
  · simp only [render_append, render_cons, render_intercalate_congr h]
  · exact render_intercalate_congr h

/-- Brackets stand around at least one item. -/
theorem bracketed_cons {depth : Nat} {items : List Layout} :
    bracketed depth (l :: items) = .mark "[" :: sequence depth (l :: items) ++ [.mark "]"] := rfl

/-- Whether the lines are broken or not, the tokens are the items with commas. -/
theorem lexemes_sequence (depth : Nat) (items : List Layout) :
    (sequence depth items).lexemes = commaed (.mark ",") (items.map lexemes) := by
  have hintercalate {p : Piece} (hp : lexemes [p] = []) :
      lexemes ([.mark ",", p].intercalate items) =
        [Lexeme.mark ","].intercalate (items.map lexemes) := by
    cases items with
    | nil => rfl
    | cons l items =>
      rw [lexemes_intercalate, lexemes_mark, hp, List.map_cons, intercalate_cons,
        List.flatMap_map]
  unfold sequence commaed
  rw [List.length_map]
  split
  · simp [hintercalate (p := .line (depth + 1)) rfl]
  · simp [hintercalate (p := .space) rfl]

end

/-! ## Renderings -/

/-- The text of the layout is also that of one that fits, with these tokens. -/
def Renders (l : Layout) (ls : List Lexeme) : Prop :=
  ∃ l' : Layout, l'.render = l.render ∧ l'.Fits ∧ l'.lexemes = ls

/-- A layout that fits stands for itself. -/
theorem Fits.renders {l : Layout} (h : l.Fits) : l.Renders l.lexemes := ⟨l, rfl, h, rfl⟩

section

variable {l : Layout} {ls : List Lexeme} {α : Type} {as : List α} {f : α → Layout}
  {k : α → List Lexeme}

/-- Scanning the text gives the tokens. -/
theorem Renders.tokensOf (h : l.Renders ls) : tokensOf l.render = ls := by
  obtain ⟨l', hrender, hfits, rfl⟩ := h
  have htidy : Tidy l' := by simpa using hfits [] (by simp) .nil
  rw [PackageModel.tokensOf, ← hrender, tokenize_render htidy, List.dropLast_concat]

/-- What a layout renders depends on its text only. -/
theorem Renders.of_eq {m : Layout} (h : l.Renders ls) (hm : m.render = l.render) :
    m.Renders ls :=
  h.imp fun _ ⟨hrender, hl⟩ => ⟨hrender.trans hm.symm, hl⟩

/-- A delimiter may follow everything. -/
theorem Renders.append_mark {m : String} (h : l.Renders ls) (hm : m ∈ marks) :
    Renders (l ++ [.mark m]) (ls ++ [.mark m]) := by
  obtain ⟨l', hrender, hfits, rfl⟩ := h
  refine ⟨l' ++ [.mark m], by rw [render_append, render_append, hrender], ?_, lexemes_append⟩
  intro rest _ hrest
  simpa using hfits (.mark m :: rest) (by simp) (by simp [hm, hrest])

/-- A space keeps two renderings apart. -/
theorem Renders.append_space {m : Layout} {ms : List Lexeme} (h : l.Renders ls)
    (hm : m.Renders ms) : Renders (l ++ .space :: m) (ls ++ ms) := by
  obtain ⟨l', hrender, hfits, rfl⟩ := h
  obtain ⟨m', hrender', hfits', rfl⟩ := hm
  refine ⟨l' ++ .space :: m', ?_, fun rest hb hrest => ?_, by simp⟩
  · rw [render_append, render_append, render_cons, render_cons, hrender, hrender']
  · simpa using hfits (.space :: (m' ++ rest)) (by simp) (by simp [hfits' rest hb hrest])

/-- The text of the layout is also that of one that is tidy in front of everything tidy. -/
def Opens (p : Layout) (ls : List Lexeme) : Prop :=
  ∃ p' : Layout, p'.render = p.render ∧ (∀ rest, Tidy rest → Tidy (p' ++ rest)) ∧ p'.lexemes = ls

/-- A layout that is tidy in front of everything tidy stands for itself. -/
theorem opens_of_tidy {p : Layout} (h : ∀ rest, Tidy rest → Tidy (p ++ rest)) :
    p.Opens p.lexemes := ⟨p, rfl, h, rfl⟩

/-- Such a layout may open another one. -/
theorem Opens.append {p : Layout} {ms : List Lexeme} (h : p.Opens ms) (hl : l.Renders ls) :
    (p ++ l).Renders (ms ++ ls) := by
  obtain ⟨p', hrender, htidy, rfl⟩ := h
  obtain ⟨l', hrender', hfits, rfl⟩ := hl
  refine ⟨p' ++ l', by rw [render_append, render_append, hrender, hrender'],
    fun rest hb hrest => ?_, lexemes_append⟩
  rw [List.append_assoc]
  exact htidy _ (hfits rest hb hrest)

/-- A list with commas, of items that render. -/
theorem sequence_renders (depth : Nat) (h : ∀ a ∈ as, (f a).Renders (k a)) :
    (sequence depth (as.map f)).Renders (commaed (.mark ",") (as.map k)) := by
  have hitems : ∃ items : List Layout, items.map render = (as.map f).map render ∧
      (∀ l ∈ items, l.Fits) ∧ items.map lexemes = as.map k := by
    induction as with
    | nil => exact ⟨[], rfl, nofun, rfl⟩
    | cons a as ih =>
      obtain ⟨⟨l, hrender, hfits, hl⟩, has⟩ := List.forall_mem_cons.1 h
      obtain ⟨items, hrenders, hfit, hitems⟩ := ih has
      exact ⟨l :: items, by rw [List.map_cons, List.map_cons, List.map_cons, hrender, hrenders],
        List.forall_mem_cons.2 ⟨hfits, hfit⟩, by rw [List.map_cons, List.map_cons, hl, hitems]⟩
  obtain ⟨items, hrender, hfits, hlexemes⟩ := hitems
  refine ⟨sequence depth items, render_sequence_congr hrender, sequence_fits depth hfits, ?_⟩
  rw [lexemes_sequence, hlexemes]

end

end Layout

end PackageModel
