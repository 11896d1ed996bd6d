import PackageModel.Layout.Basic
import PackageModel.Proofs.Grammar.Stretch
import PackageModel.Proofs.Token.Tokenize

/-!
# PackageModel.Proofs.Layout.Tidy

Layouts that are scanned into their tokens again.  A token must not run on into what stands behind
it: a name into another name, a comment into a line end, a note into anything but a line end.
-/

namespace PackageModel

/-- A token of the kind does not run on into the layout. -/
def Kind.Before (k : Kind) (rest : Layout) : Prop :=
  ∀ p, rest.head? = some p → match p with
    | .space => k ≠ .note
    | .line _ => k ≠ .comment
    | .token l => k ≠ .note ∧ (k = .identifier → l.kind ≠ .identifier)

namespace Kind

variable {k : Kind} {rest : Layout} {s : String}

@[simp] theorem before_nil : k.Before [] := nofun

/-- Only a note needs a line end behind it. -/
@[simp] theorem before_space : k.Before (.space :: rest) ↔ k ≠ .note := by
  simp [Before]

/-- Only a comment takes a line end in. -/
@[simp] theorem before_line {depth : Nat} : k.Before (.line depth :: rest) ↔ k ≠ .comment := by
  simp [Before]

/-- A name runs on into another name. -/
@[simp] theorem before_name :
    k.Before (.name s :: rest) ↔ k ≠ .note ∧ k ≠ .identifier := by
  simp [Before, Piece.name]

/-- A keyword is scanned as a name is. -/
@[simp] theorem before_keyword :
    k.Before (.keyword s :: rest) ↔ k ≠ .note ∧ k ≠ .identifier := by
  simp [Before, Piece.keyword]

@[simp] theorem before_mark : k.Before (.mark s :: rest) ↔ k ≠ .note := by
  simp [Before, Piece.mark]

@[simp] theorem before_comment : k.Before (.comment s :: rest) ↔ k ≠ .note := by
  simp [Before, Piece.comment]

/-- Tokens of the other kinds end by themselves. -/
theorem before_of_ends (hc : k ≠ .comment) (hi : k ≠ .identifier) (hn : k ≠ .note) :
    k.Before rest := by
  intro p _
  cases p with
  | token l => exact ⟨hn, fun h => absurd h hi⟩
  | space => exact hn
  | line depth => exact hc

end Kind

/-- The first character of a piece. -/
theorem Shape.front_of_split {shape : Shape} {c : Char} {cs : List Char}
    {parts : List Char × List Char} (h : shape.split (c :: cs) = some parts) :
    isDelimiter c = true ∨ startsName c = true ∨ isBlank c = true ∨ c = '/' ∨ c = '"' := by
  have hfront := ofFront_of_split h
  by_cases hc : c = '/'
  · exact .inr (.inr (.inr (.inl hc)))
  · rw [ofFront_cons hc] at hfront
    split at hfront
    · next hd => exact .inl hd
    split at hfront
    · next hn => exact .inr (.inl hn)
    split at hfront
    · next hb => exact .inr (.inr (.inl hb))
    split at hfront
    · next hq => exact .inr (.inr (.inr (.inr hq)))
    · cases hfront

/-- No piece starts with a digit. -/
theorem Shape.not_isDecimalDigit_of_split {shape : Shape} {c : Char} {cs : List Char}
    {parts : List Char × List Char} (h : shape.split (c :: cs) = some parts)
    (hc : startsName c = false) : Unicode.isDecimalDigit c = false := by
  rcases front_of_split h with hd | hn | hb | rfl | rfl
  · simp only [isDelimiter, List.contains_iff_mem, List.mem_cons, List.not_mem_nil,
      or_false] at hd
    rcases hd with rfl | rfl | rfl | rfl | rfl | rfl | rfl | rfl | rfl <;> decide
  · rw [hc] at hn
    cases hn
  · have hb' : c = ' ' ∨ c = '\t' ∨ c = '\n' := by simpa [isBlank, or_assoc] using hb
    rcases hb' with rfl | rfl | rfl <;> decide
  · decide
  · decide

/-- A token does not run on into another one, unless it is a note or both are names. -/
theorem Lexeme.Whole.stops {l : Lexeme} {shape : Shape} {k : Kind} {cs : List Char}
    (h : l.Whole) (hk : shape.kind? = some k) (hnote : k ≠ .note)
    (hname : k = .identifier → l.kind ≠ .identifier) : shape.Stops (l.value.toList ++ cs) := by
  obtain ⟨shape', hkind, hwhole⟩ := h
  have hsplit := matchAt_eq_some_iff.1 hwhole
  have hne := (Shape.cuts_split hsplit).2
  cases hvalue : l.value.toList with
  | nil => exact absurd hvalue hne
  | cons c cs' =>
    rw [hvalue] at hsplit
    refine Shape.stops_cons.2 ?_
    cases shape with
    | delimiter | text => rfl
    | blank => cases hk
    | note =>
      cases hk
      exact absurd rfl hnote
    | comment =>
      have hblank := isBlank_of_tokenAt (tokenAt_eq_some_iff.2 ⟨shape', hkind, hsplit⟩)
      simp only [Shape.isBlank, Bool.or_eq_false_iff] at hblank
      exact hblank.2
    | identifier =>
      cases hk
      -- a piece that started like a name would be one, and so would `l`
      have hstart : Shape.startsName c = false := by
        rw [← Bool.not_eq_true]
        intro hc
        have hid : Shape.identifier.split (c :: cs') =
            some (c :: cs'.takeWhile Shape.continuesName,
              cs'.dropWhile Shape.continuesName) := by
          rw [Shape.split, if_pos hc]
        obtain rfl := Shape.split_unique hsplit hid
        exact hname rfl (Option.some.inj hkind).symm
      have hdigit := Shape.not_isDecimalDigit_of_split hsplit hstart
      rw [Shape.continues, Shape.continuesName, hstart, hdigit]
      rfl

namespace Layout

/-- All tokens are whole and none runs on into what stands behind it. -/
inductive Tidy : Layout → Prop
  | nil : Tidy []
  | space {rest} (h : Tidy rest) : Tidy (.space :: rest)
  | line {depth rest} (h : Tidy rest) : Tidy (.line depth :: rest)
  | token {l rest} (hl : l.Whole) (hrest : l.kind.Before rest) (h : Tidy rest) :
      Tidy (.token l :: rest)

/-! ## Scanning -/

@[simp] theorem toList_render_cons (p : Piece) (l : Layout) :
    (render (p :: l)).toList = p.render.toList ++ l.render.toList := by
  simp [render, String.toList_join]

/-- The text of a layout begins with the first character of its first piece. -/
theorem stops_render {shape : Shape} {k : Kind} {rest : Layout} (hk : shape.kind? = some k)
    (hb : k.Before rest) (h : Tidy rest) : shape.Stops rest.render.toList := by
  cases h with
  | nil => exact Shape.stops_nil shape
  | space _ =>
    rw [toList_render_cons]
    refine Shape.stops_cons.2 ?_
    cases shape with
    | note =>
      cases hk
      exact absurd rfl (Kind.before_space.1 hb)
    | blank => cases hk
    | comment | delimiter | identifier | text => decide
  | @line depth _ _ =>
    rw [toList_render_cons, Piece.render, String.toList_ofList]
    refine Shape.stops_cons.2 ?_
    cases shape with
    | comment =>
      cases hk
      exact absurd rfl (Kind.before_line.1 hb)
    | blank => cases hk
    | note | delimiter | identifier | text => decide
  | @token l rest hl _ _ =>
    rw [toList_render_cons]
    obtain ⟨hnote, hname⟩ := hb _ rfl
    exact hl.stops hk hnote hname

/-- Laid-out text has the tokens that were laid out. -/
theorem Tidy.scans {l : Layout} (h : Tidy l) : Scans l.render.toList l.lexemes := by
  induction h with
  | nil => exact .nil
  | @space rest _ ih =>
    rw [toList_render_cons]
    exact .blank (by decide) ih
  | @line depth rest _ ih =>
    have htabs (n : Nat) : Scans (List.replicate n '\t' ++ rest.render.toList) rest.lexemes := by
      induction n with
      | zero => exact ih
      | succ n ihn => exact .blank (by decide) ihn
    rw [toList_render_cons, Piece.render, String.toList_ofList]
    exact .blank (by decide) (htabs depth)
  | @token l rest hl hrest h ih =>
    obtain ⟨shape, hkind, hwhole⟩ := hl
    have hsplit := hwhole.split_append (stops_render hkind hrest h)
    have hscans := Scans.token (tokenAt_eq_some_iff.2 ⟨shape, hkind, hsplit⟩) ih
    rw [String.ofList_toList] at hscans
    rw [toList_render_cons]
    exact hscans

/-- A tidy layout is scanned into its tokens. -/
theorem tokenize_render {l : Layout} (h : Tidy l) :
    (tokenize l.render).map (·.toLexeme) = l.lexemes ++ [.eof] :=
  tokenize_of_scans h.scans

/-! ## Pieces of a layout -/

/-- The marks that occur in layouts. -/
abbrev marks : List String := ["[", "]", "(", ")", "\x7b", "\x7d", ".", ",", "="]

/-- The notes that stand above parts of a document. -/
abbrev notes : List String :=
  ["// TYPES", "// Specializations", "// Functionals", "// INTERFACES", "// Aspects",
    "// Classes", "// Instances", "// Methods", "// Constants", "// Constructors",
    "// Functions", "// Attributes", "// Abstractions"]

/-- Fixed texts are whole if the scanner says so. -/
theorem whole_of_mem {k : Kind} (shape : Shape) {texts : List String} {s : String}
    (hk : shape.kind? = some k) (hs : s ∈ texts)
    (h : (texts.all fun s => matchAt s.toList == some (shape, s.toList, [])) = true) :
    (⟨k, s⟩ : Lexeme).Whole :=
  ⟨shape, hk, eq_of_beq (List.all_eq_true.1 h s hs)⟩

section

variable {rest : Layout} {s : String}

/-- A token in front of a tidy layout. -/
theorem tidy_token {l : Lexeme} :
    Tidy (.token l :: rest) ↔ l.Whole ∧ l.kind.Before rest ∧ Tidy rest := by
  constructor
  · intro h
    cases h with
    | token hl hrest h => exact ⟨hl, hrest, h⟩
  · rintro ⟨hl, hrest, h⟩
    exact .token hl hrest h

/-- A space belongs to no token. -/
@[simp] theorem tidy_space : Tidy (.space :: rest) ↔ Tidy rest := by
  constructor
  · intro h
    cases h with
    | space h => exact h
  · exact .space

/-- A line end belongs to no token. -/
@[simp] theorem tidy_line {depth : Nat} : Tidy (.line depth :: rest) ↔ Tidy rest := by
  constructor
  · intro h
    cases h with
    | line h => exact h
  · exact .line

/-- A name needs something else than a name behind it. -/
@[simp] theorem tidy_name :
    Tidy (.name s :: rest) ↔
      (Lexeme.name s).Whole ∧ Kind.identifier.Before rest ∧ Tidy rest := tidy_token

/-- A comment must not stand at the end of a line. -/
@[simp] theorem tidy_comment :
    Tidy (.comment s :: rest) ↔
      (⟨.comment, s⟩ : Lexeme).Whole ∧ Kind.comment.Before rest ∧ Tidy rest := tidy_token

/-- A quoted text ends by itself. -/
@[simp] theorem tidy_text :
    Tidy (.text s :: rest) ↔ (⟨.text, s⟩ : Lexeme).Whole ∧ Tidy rest :=
  tidy_token.trans (and_congr_right fun _ => and_iff_right (Kind.before_of_ends nofun nofun nofun))

/-- A keyword is one of the names. -/
@[simp] theorem tidy_keyword (hs : s ∈ keywords) :
    Tidy (.keyword s :: rest) ↔ Kind.identifier.Before rest ∧ Tidy rest :=
  tidy_token.trans (and_iff_right (whole_of_mem .identifier rfl hs (by decide)))

/-- A delimiter ends by itself. -/
@[simp] theorem tidy_mark (hs : s ∈ marks) :
    Tidy (.mark s :: rest) ↔ Tidy rest :=
  (tidy_token.trans (and_iff_right (whole_of_mem .delimiter rfl hs (by decide)))).trans
    (and_iff_right (Kind.before_of_ends nofun nofun nofun))

/-- A heading fills its line. -/
@[simp] theorem tidy_note (hs : s ∈ notes) :
    Tidy (.note s :: rest) ↔ Kind.note.Before rest ∧ Tidy rest :=
  tidy_token.trans (and_iff_right (whole_of_mem .note rfl hs (by decide)))

end

/-! ## Parts of a layout -/

/-- A part of a layout is tidy in front of everything tidy that does not start with a name. -/
def Fits (l : Layout) : Prop :=
  ∀ rest, Kind.identifier.Before rest → Tidy rest → Tidy (l ++ rest)

section

variable {items : List Layout} {rest : Layout} (depth : Nat)

/-- A separator keeps what it separates apart. -/
structure Separates (separator : Layout) : Prop where
  before (rest : Layout) : Kind.identifier.Before (separator ++ rest)
  tidy (rest : Layout) (h : Tidy rest) : Tidy (separator ++ rest)

/-- A comma and a piece that belongs to no token. -/
theorem separates_comma {p : Piece} (hp : ∀ rest, Tidy rest → Tidy (p :: rest)) :
    Separates [.mark ",", p] where
  before rest := by simp
  tidy rest h := by simp [hp rest h]

/-- A line end by itself. -/
theorem separates_line : Separates [.line depth] where
  before rest := by simp
  tidy rest h := by simp [h]

/-- Items that fit still do with separators between them. -/
theorem intercalate_fits {separator : Layout} (hs : Separates separator)
    (h : ∀ l ∈ items, l.Fits) : Fits (separator.intercalate items) := by
  induction items with
  | nil => exact fun rest _ hr => hr
  | cons l items ih =>
    cases items with
    | nil =>
      rw [List.intercalate_singleton]
      exact h l (List.mem_singleton.2 rfl)
    | cons l' items =>
      intro rest hb hr
      have hrest := ih (fun m hm => h m (List.mem_cons_of_mem _ hm)) rest hb hr
      rw [List.intercalate_cons_cons, List.append_assoc, List.append_assoc]
      exact h l List.mem_cons_self _ (hs.before _) (hs.tidy _ hrest)

/-- A list with commas fits, on one line and on several. -/
theorem sequence_fits (h : ∀ l ∈ items, l.Fits) : (sequence depth items).Fits := by
  intro rest hb hr
  unfold sequence
  split
  · have hline : Separates [.mark ",", .line (depth + 1)] := separates_comma fun rest => .line
    have hfits := intercalate_fits hline h
      (.mark "," :: .line depth :: rest) (by simp) (by simp [hr])
    simpa using hfits
  · exact intercalate_fits (separates_comma fun rest => Tidy.space) h rest hb hr

/-- Brackets keep their items apart from what is around them. -/
theorem bracketed_fits (h : ∀ l ∈ items, l.Fits) : (bracketed depth items).Fits := by
  intro rest hb hr
  unfold bracketed
  split
  · exact hr
  · have hfits := sequence_fits depth h (.mark "]" :: rest) (by simp) (by simp [hr])
    simpa using hfits

/-- A list in brackets is empty or starts with a delimiter. -/
theorem before_bracketed {k : Kind} (hk : k ≠ .note) (hb : k.Before rest) :
    k.Before (bracketed depth items ++ rest) := by
  unfold bracketed
  split
  · exact hb
  · simp [hk]

/-- Items on lines of their own. -/
theorem lines_fit (h : ∀ l ∈ items, l.Fits) :
    Fits (items.flatMap (.line depth :: ·)) := by
  induction items with
  | nil => exact fun rest _ hr => hr
  | cons l items ih =>
    intro rest hb hr
    have hrest := ih (fun m hm => h m (List.mem_cons_of_mem _ hm)) rest hb hr
    have hbefore : Kind.identifier.Before (items.flatMap (.line depth :: ·) ++ rest) := by
      cases items with
      | nil => exact hb
      | cons l' items => simp
    have hl := h l List.mem_cons_self _ hbefore hrest
    simpa using hl

/-- The items below a note; there is at least one. -/
theorem titled_fits {note : String} (hnote : note ∈ notes) (hne : items ≠ [])
    (h : ∀ l ∈ items, l.Fits) : (titled depth note items).Fits := by
  intro rest hb hr
  have hlines := lines_fit depth h rest hb hr
  cases items with
  | nil => exact absurd rfl hne
  | cons l items => simpa [titled, hnote] using hlines

/-- Items on lines of their own. -/
theorem separated_fits (h : ∀ l ∈ items, l.Fits) : (separated items).Fits :=
  intercalate_fits (separates_line 0) fun l hl => h l (List.mem_filter.1 hl).1

end

end Layout

end PackageModel
