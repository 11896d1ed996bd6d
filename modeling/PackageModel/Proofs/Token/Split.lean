import PackageModel.Token.Shape

/-!
# PackageModel.Proofs.Token.Split

Cutting a text into pieces.  A piece that has been cut off is a piece again by itself, and it is
cut off again in front of every text that does not continue it.  No text starts with pieces of two
shapes.
-/

namespace PackageModel

namespace Shape

/-- The characters that make a piece longer if they come behind it. -/
def continues : Shape → Char → Bool
  | comment, c => c == '\n'
  | identifier, c => continuesName c
  | note, c => !isControl c
  | blank, c => isBlank c
  | delimiter, _ | text, _ => false

/-- A piece of the shape ends in front of the text. -/
def Stops (shape : Shape) (cs : List Char) : Prop :=
  ∀ c, cs.head? = some c → shape.continues c = false

@[simp] theorem stops_nil (shape : Shape) : shape.Stops [] := nofun

@[simp] theorem stops_cons {shape : Shape} {c : Char} {cs : List Char} :
    shape.Stops (c :: cs) ↔ shape.continues c = false := by
  simp [Stops]

/-! ## Pieces by themselves -/

/-- The piece is a part of the text, and it is cut off in front of other texts as well. -/
structure Cuts (split : List Char → Option (List Char × List Char)) (shape : Shape)
    (cs piece rest : List Char) : Prop where
  append : piece ++ rest = cs
  again (cs' : List Char) (h : shape.Stops cs') : split (piece ++ cs') = some (piece, cs')

/-- A run of characters ends where they do. -/
theorem takeWhile_append_of_stops {p : Char → Bool} (cs : List Char) {cs' : List Char}
    (h : ∀ c, cs'.head? = some c → p c = false) :
    (cs.takeWhile p ++ cs').takeWhile p = cs.takeWhile p ∧
      (cs.takeWhile p ++ cs').dropWhile p = cs' := by
  have hp : ∀ c ∈ cs.takeWhile p, p c = true := List.all_eq_true.1 List.all_takeWhile
  rw [List.takeWhile_append_of_pos hp, List.dropWhile_append_of_pos hp]
  cases cs' with
  | nil => simp
  | cons c cs' => simp [h c rfl]

/-- A quoted text is cut off up to the first quote, whatever stands behind. -/
theorem cuts_quote {cs piece rest : List Char} (h : splitQuote cs = some (piece, rest)) :
    Cuts splitQuote text cs piece rest := by
  induction cs generalizing piece with
  | nil => cases h
  | cons c cs ih =>
    rw [splitQuote] at h
    split at h
    · next hc =>
      cases h
      exact ⟨rfl, fun cs' _ => by simp [splitQuote, hc]⟩
    · next hc =>
      obtain ⟨⟨piece', rest'⟩, h', he⟩ := Option.map_eq_some_iff.1 h
      cases he
      obtain ⟨happend, hagain⟩ := ih h'
      exact ⟨by rw [List.cons_append, happend], fun cs' hcs' => by
        simp [splitQuote, hc, hagain cs' hcs']⟩

/-- The first closing line is inside the piece, so what comes behind the piece cannot show an
earlier one. -/
theorem cuts_closing {cs piece rest : List Char} (h : splitClosing cs = some (piece, rest)) :
    Cuts splitClosing comment cs piece rest ∧ closing.length ≤ piece.length := by
  induction cs generalizing piece with
  | nil => cases h
  | cons c cs ih =>
    rw [splitClosing] at h
    split at h
    · next hc =>
      cases h
      obtain ⟨body, hbody⟩ := List.isPrefixOf_iff_prefix.1 hc
      have hdrop : (c :: cs).drop closing.length = body := by simp [← hbody]
      rw [hdrop]
      refine ⟨⟨?_, fun cs' hcs' => ?_⟩, by simp⟩
      · rw [List.append_assoc, List.takeWhile_append_dropWhile, hbody]
      · have hrun : ∀ d, cs'.head? = some d → (d == '\n') = false := fun d hd => hcs' d hd
        obtain ⟨htake, hdropW⟩ := takeWhile_append_of_stops body hrun
        have hnext : splitClosing (closing ++ (body.takeWhile (· == '\n') ++ cs')) =
            some (closing ++ (body.takeWhile (· == '\n') ++ cs').takeWhile (· == '\n'),
              (body.takeWhile (· == '\n') ++ cs').dropWhile (· == '\n')) := by
          simp [closing, splitClosing]
        rw [List.append_assoc, hnext, htake, hdropW]
    · next hc =>
      obtain ⟨⟨piece', rest'⟩, h', he⟩ := Option.map_eq_some_iff.1 h
      cases he
      obtain ⟨⟨happend, hagain⟩, hlength⟩ := ih h'
      refine ⟨⟨by rw [List.cons_append, happend], fun cs' hcs' => ?_⟩, by simp; omega⟩
      have hnot : ¬ closing.isPrefixOf (c :: (piece' ++ cs')) = true := by
        rw [List.isPrefixOf_iff_prefix] at hc ⊢
        intro hpre
        have hshort : closing <+: c :: piece' :=
          List.prefix_of_prefix_length_le hpre (List.prefix_append _ _) (by simp; omega)
        exact hc (hshort.trans ⟨rest, by rw [List.cons_append, happend]⟩)
      rw [List.cons_append, splitClosing, if_neg hnot, hagain cs' hcs']
      rfl

/-- What holds of the cutting of the shapes: a piece is not empty, it can be followed by any text at
which it stops, and it is cut off the same way again. -/
theorem cuts_split {shape : Shape} {cs piece rest : List Char}
    (h : shape.split cs = some (piece, rest)) :
    Cuts shape.split shape cs piece rest ∧ piece ≠ [] := by
  cases shape with
  | comment =>
    rw [split] at h
    split at h
    · next hc =>
      obtain ⟨body, rfl⟩ := List.isPrefixOf_iff_prefix.1 hc
      rw [List.drop_left] at h
      obtain ⟨⟨piece', rest'⟩, h', he⟩ := Option.map_eq_some_iff.1 h
      cases he
      obtain ⟨⟨happend, hagain⟩, -⟩ := cuts_closing h'
      refine ⟨⟨by rw [List.append_assoc, happend], fun cs' hcs' => ?_⟩, by simp [opening]⟩
      have hpre : opening.isPrefixOf (opening ++ (piece' ++ cs')) = true :=
        List.isPrefixOf_iff_prefix.2 (List.prefix_append _ _)
      rw [List.append_assoc, split, if_pos hpre, List.drop_left, hagain cs' hcs']
      rfl
    · cases h
  | note =>
    rw [split] at h
    split at h
    · next hc =>
      obtain ⟨body, rfl⟩ := List.isPrefixOf_iff_prefix.1 hc
      rw [List.drop_left] at h
      cases h
      refine ⟨⟨?_, fun cs' hcs' => ?_⟩, by simp [noteMarker]⟩
      · rw [List.append_assoc, List.takeWhile_append_dropWhile]
      · have hpre : noteMarker.isPrefixOf
            (noteMarker ++ (body.takeWhile (!isControl ·) ++ cs')) = true :=
          List.isPrefixOf_iff_prefix.2 (List.prefix_append _ _)
        obtain ⟨htake, hdrop⟩ := takeWhile_append_of_stops (p := (!isControl ·)) body hcs'
        rw [List.append_assoc, split, if_pos hpre, List.drop_left]
        dsimp only
        rw [htake, hdrop]
    · cases h
  | delimiter =>
    cases cs with
    | nil => cases h
    | cons c cs =>
      rw [split] at h
      split at h
      · next hc =>
        cases h
        exact ⟨⟨rfl, fun cs' _ => by simp [split, hc]⟩, nofun⟩
      · cases h
  | identifier =>
    cases cs with
    | nil => cases h
    | cons c cs =>
      rw [split] at h
      split at h
      · next hc =>
        cases h
        refine ⟨⟨by rw [List.cons_append, List.takeWhile_append_dropWhile], ?_⟩, nofun⟩
        intro cs' hcs'
        obtain ⟨htake, hdrop⟩ := takeWhile_append_of_stops (p := continuesName) cs hcs'
        rw [List.cons_append, split, if_pos hc, htake, hdrop]
      · cases h
  | blank =>
    cases cs with
    | nil => cases h
    | cons c cs =>
      rw [split] at h
      split at h
      · next hc =>
        cases h
        refine ⟨⟨by rw [List.cons_append, List.takeWhile_append_dropWhile], ?_⟩, nofun⟩
        intro cs' hcs'
        obtain ⟨htake, hdrop⟩ := takeWhile_append_of_stops (p := isBlank) cs hcs'
        rw [List.cons_append, split, if_pos hc, htake, hdrop]
      · cases h
  | text =>
    cases cs with
    | nil => cases h
    | cons c cs =>
      rw [split] at h
      split at h
      · next hc =>
        obtain ⟨⟨piece', rest'⟩, h', he⟩ := Option.map_eq_some_iff.1 h
        cases he
        obtain ⟨happend, hagain⟩ := cuts_quote h'
        refine ⟨⟨by rw [List.cons_append, happend], fun cs' hcs' => ?_⟩, nofun⟩
        rw [List.cons_append, split, if_pos hc, hagain cs' hcs']
        rfl
      · cases h

/-! ## The shape at the front of a text -/

/-- The first characters of a text tell which shape a piece at its front has. -/
def ofFront : List Char → Option Shape
  | '/' :: '*' :: _ => some comment
  | '/' :: '/' :: _ => some note
  | c :: _ =>
    if isDelimiter c then some delimiter
    else if startsName c then some identifier
    else if isBlank c then some blank
    else if c = '"' then some text
    else none
  | [] => none

/-- The first character decides on the shape, if it is no slash. -/
theorem ofFront_cons {c : Char} (hc : c ≠ '/') (cs : List Char) :
    ofFront (c :: cs) =
      if isDelimiter c then some delimiter
      else if startsName c then some identifier
      else if isBlank c then some blank
      else if c = '"' then some text
      else none := by
  unfold ofFront
  split
  · next h => exact absurd (List.cons.inj h).1 hc
  · next h => exact absurd (List.cons.inj h).1 hc
  · next h => rw [(List.cons.inj h).1]
  · next h => cases h

/-- Delimiters, blank characters and quotation marks do not start names. -/
theorem isDelimiter_of_startsName {c : Char} (h : startsName c = true) :
    c ≠ '/' ∧ isDelimiter c = false := by
  constructor
  · rintro rfl
    revert h
    decide
  · rw [← Bool.not_eq_true]
    intro hc
    simp only [isDelimiter, List.contains_iff_mem, List.mem_cons, List.not_mem_nil,
      or_false] at hc
    rcases hc with rfl | rfl | rfl | rfl | rfl | rfl | rfl | rfl | rfl <;> revert h <;> decide

/-- No two shapes start in the same way. -/
theorem ofFront_of_split {shape : Shape} {cs : List Char} {parts : List Char × List Char}
    (h : shape.split cs = some parts) : ofFront cs = some shape := by
  cases shape with
  | comment =>
    rw [split] at h
    split at h
    · next hc =>
      obtain ⟨body, rfl⟩ := List.isPrefixOf_iff_prefix.1 hc
      rfl
    · cases h
  | note =>
    rw [split] at h
    split at h
    · next hc =>
      obtain ⟨body, rfl⟩ := List.isPrefixOf_iff_prefix.1 hc
      rfl
    · cases h
  | delimiter =>
    cases cs with
    | nil => cases h
    | cons c cs =>
      rw [split, Option.ite_none_right_eq_some] at h
      have hc : c ≠ '/' := by
        rintro rfl
        exact absurd h.1 (by decide)
      rw [ofFront_cons hc, if_pos h.1]
  | identifier =>
    cases cs with
    | nil => cases h
    | cons c cs =>
      rw [split, Option.ite_none_right_eq_some] at h
      obtain ⟨hc, hd⟩ := isDelimiter_of_startsName h.1
      rw [ofFront_cons hc, hd, if_pos h.1]
      rfl
  | blank =>
    cases cs with
    | nil => cases h
    | cons c cs =>
      rw [split, Option.ite_none_right_eq_some] at h
      -- the blank characters one by one: none is a delimiter or starts a name
      have hc : c = ' ' ∨ c = '\t' ∨ c = '\n' := by simpa [isBlank, or_assoc] using h.1
      rcases hc with rfl | rfl | rfl <;> rw [ofFront_cons (by decide)] <;> decide
  | text =>
    cases cs with
    | nil => cases h
    | cons c cs =>
      rw [split, Option.ite_none_right_eq_some] at h
      obtain rfl := h.1
      rw [ofFront_cons (by decide)]
      decide

/-- A text has a piece of at most one shape at its front. -/
theorem split_unique {shape shape' : Shape} {cs : List Char}
    {parts parts' : List Char × List Char} (h : shape.split cs = some parts)
    (h' : shape'.split cs = some parts') : shape = shape' :=
  Option.some.inj ((ofFront_of_split h).symm.trans (ofFront_of_split h'))

/-- The list holds every shape. -/
theorem mem_all (shape : Shape) : shape ∈ all := by cases shape <;> decide

end Shape

/-- The shape, the piece and the rest of the text, if the shapes are tried in the given order. -/
def matchIn (order : List Shape) (cs : List Char) : Option (Shape × List Char × List Char) :=
  order.findSome? fun shape => (shape.split cs).map fun parts => (shape, parts)

section

variable {order : List Shape} {cs piece rest : List Char} {shape : Shape}

/-- The order of the shapes does not matter. -/
theorem matchIn_eq_some_iff (horder : ∀ shape, shape ∈ order) :
    matchIn order cs = some (shape, piece, rest) ↔ shape.split cs = some (piece, rest) := by
  constructor
  · intro h
    obtain ⟨shape', -, h'⟩ := List.exists_of_findSome?_eq_some h
    obtain ⟨parts, hsplit, he⟩ := Option.map_eq_some_iff.1 h'
    cases he
    exact hsplit
  · intro h
    cases hm : matchIn order cs with
    | none =>
      have hnone := List.findSome?_eq_none_iff.1 hm shape (horder shape)
      simp [h] at hnone
    | some m =>
      obtain ⟨shape', -, h'⟩ := List.exists_of_findSome?_eq_some hm
      obtain ⟨parts, hsplit, rfl⟩ := Option.map_eq_some_iff.1 h'
      obtain rfl := Shape.split_unique h hsplit
      rw [h] at hsplit
      cases hsplit
      rfl

/-- The shapes are tried in turn, but at most one of them is found. -/
theorem matchAt_eq_some_iff :
    matchAt cs = some (shape, piece, rest) ↔ shape.split cs = some (piece, rest) :=
  matchIn_eq_some_iff Shape.mem_all

/-- The order in which the shapes are tried makes no difference. -/
theorem matchIn_perm (h : order.Perm Shape.all) (cs : List Char) :
    matchIn order cs = matchAt cs := by
  refine Option.ext fun (shape, piece, rest) => ?_
  rw [matchIn_eq_some_iff fun shape => h.mem_iff.2 shape.mem_all, matchAt_eq_some_iff]

end

/-- A token is a piece of a shape that has a kind. -/
theorem tokenAt_eq_some_iff {cs piece rest : List Char} {kind : Kind} :
    tokenAt cs = some (kind, piece, rest) ↔
      ∃ shape, Shape.kind? shape = some kind ∧ shape.split cs = some (piece, rest) := by
  constructor
  · intro h
    obtain ⟨shape, -, h'⟩ := List.exists_of_findSome?_eq_some h
    obtain ⟨kind', hkind, h'⟩ := Option.bind_eq_some_iff.1 h'
    obtain ⟨parts, hsplit, he⟩ := Option.map_eq_some_iff.1 h'
    cases he
    exact ⟨shape, hkind, hsplit⟩
  · rintro ⟨shape, hkind, h⟩
    cases hm : tokenAt cs with
    | none =>
      have hnone := List.findSome?_eq_none_iff.1 hm shape shape.mem_all
      simp [hkind, h] at hnone
    | some m =>
      obtain ⟨shape', -, h'⟩ := List.exists_of_findSome?_eq_some hm
      obtain ⟨kind', hkind', h'⟩ := Option.bind_eq_some_iff.1 h'
      obtain ⟨parts, hsplit, rfl⟩ := Option.map_eq_some_iff.1 h'
      obtain rfl := Shape.split_unique h hsplit
      rw [h] at hsplit
      rw [hkind] at hkind'
      cases hsplit
      cases hkind'
      rfl

/-! ## Whole pieces -/

/-- The string is one piece of the shape, from its first character to its last. -/
def Shape.Whole (shape : Shape) (s : String) : Prop :=
  matchAt s.toList = some (shape, s.toList, [])

/-- What is cut off a text is a whole piece. -/
theorem Shape.whole_of_split {shape : Shape} {cs piece rest : List Char}
    (h : shape.split cs = some (piece, rest)) : shape.Whole (String.ofList piece) := by
  have hagain := (cuts_split h).1.again [] (stops_nil shape)
  rw [List.append_nil] at hagain
  rw [Whole, String.toList_ofList, matchAt_eq_some_iff]
  exact hagain

/-- A whole piece is cut off every text that does not continue it. -/
theorem Shape.Whole.split_append {shape : Shape} {s : String} {cs : List Char}
    (h : shape.Whole s) (hcs : shape.Stops cs) :
    shape.split (s.toList ++ cs) = some (s.toList, cs) :=
  (cuts_split (matchAt_eq_some_iff.1 h)).1.again cs hcs

end PackageModel
