import PackageModel.Proofs.Token.Split

/-!
# PackageModel.Proofs.Token.Pattern

The shapes as patterns.  A pattern can fit a text in several ways, and the first one in its order of
preference counts: a greedy run tries its longest pieces first, a lazy one its shortest.  Cutting a
piece of a shape off a text is to match the shape's pattern in this sense.  No text starts with
pieces of two shapes, and a piece is matched without a look at what follows it; so neither the order
of the shapes nor the rest of the text plays a part.
-/

namespace PackageModel

/-! ## Patterns -/

/-- What the front of a text can look like. -/
inductive Pattern where
  /-- These very characters. -/
  | literal (cs : List Char)
  /-- One character of a class. -/
  | char (p : Char → Bool)
  /-- A run of characters of a class, rather a long than a short one. -/
  | greedy (p : Char → Bool)
  /-- A run of characters of a class, rather a short than a long one. -/
  | lazy (p : Char → Bool)
  /-- One pattern and another one behind it. -/
  | seq (first second : Pattern)

namespace Pattern

/-- At least one character of a class, rather more than fewer. -/
def repeated (p : Char → Bool) : Pattern := (char p).seq (greedy p)

/-- Any text, rather a short than a long one. -/
def shortest : Pattern := lazy fun _ => true

/-- The ways to cut a run of characters of a class off a text, from short to long. -/
def runs (p : Char → Bool) : List Char → List (List Char × List Char)
  | [] => [([], [])]
  | c :: cs =>
    ([], c :: cs) :: if p c then (runs p cs).map fun (piece, rest) => (c :: piece, rest) else []

/-- The ways in which the pattern fits the front of a text, in the order in which they are tried. -/
def ways : Pattern → List Char → List (List Char × List Char)
  | literal l, cs => if l.isPrefixOf cs then [(l, cs.drop l.length)] else []
  | char _, [] => []
  | char p, c :: cs => if p c then [([c], cs)] else []
  | greedy p, cs => (runs p cs).reverse
  | lazy p, cs => runs p cs
  | seq first second, cs =>
    (first.ways cs).flatMap fun (piece, rest) =>
      (second.ways rest).map fun (more, rest') => (piece ++ more, rest')

/-- The piece that the pattern matches, and the rest of the text: the first way counts. -/
def cut? (pattern : Pattern) (cs : List Char) : Option (List Char × List Char) :=
  (pattern.ways cs).head?

/-- The longest run is tried first. -/
theorem getLast?_runs (p : Char → Bool) (cs : List Char) :
    (runs p cs).getLast? = some (cs.takeWhile p, cs.dropWhile p) := by
  induction cs with
  | nil => rfl
  | cons c cs ih =>
    rw [runs, List.getLast?_cons]
    by_cases hc : p c <;> simp [hc, ih]

/-- A fixed text is cut off where it stands. -/
theorem cut?_literal (l cs : List Char) :
    (literal l).cut? cs = if l.isPrefixOf cs then some (l, cs.drop l.length) else none := by
  rw [cut?, ways]
  split <;> rfl

/-- A single character is cut off if it is as wanted. -/
theorem cut?_char (p : Char → Bool) (c : Char) (cs : List Char) :
    (char p).cut? (c :: cs) = if p c then some ([c], cs) else none := by
  rw [cut?, ways]
  split <;> rfl

/-- A greedy run goes as far as it can. -/
theorem cut?_greedy (p : Char → Bool) (cs : List Char) :
    (greedy p).cut? cs = some (cs.takeWhile p, cs.dropWhile p) := by
  rw [cut?, ways, List.head?_reverse, getLast?_runs]

/-- The first way of the first pattern that lets the second one go on. -/
theorem cut?_seq (first second : Pattern) (cs : List Char) :
    (first.seq second).cut? cs = (first.ways cs).findSome? fun (piece, rest) =>
      (second.cut? rest).map fun (more, rest') => (piece ++ more, rest') := by
  rw [cut?, ways, List.head?_flatMap]
  simp [cut?, List.head?_map]

/-- Behind a literal only one way is left. -/
theorem cut?_literal_seq (l : List Char) (second : Pattern) (cs : List Char) :
    ((literal l).seq second).cut? cs =
      if l.isPrefixOf cs then
        (second.cut? (cs.drop l.length)).map fun (more, rest) => (l ++ more, rest)
      else none := by
  rw [cut?_seq, ways]
  split <;> simp

/-- A single character, and then the second pattern. -/
theorem cut?_char_seq (p : Char → Bool) (second : Pattern) (c : Char) (cs : List Char) :
    ((char p).seq second).cut? (c :: cs) =
      if p c then (second.cut? cs).map fun (more, rest) => (c :: more, rest) else none := by
  rw [cut?_seq, ways]
  split <;> simp

/-- As many characters as there are, and at least one. -/
theorem cut?_repeated (p : Char → Bool) (c : Char) (cs : List Char) :
    (repeated p).cut? (c :: cs) =
      if p c then some (c :: cs.takeWhile p, cs.dropWhile p) else none := by
  rw [repeated, cut?_char_seq, cut?_greedy]
  rfl

/-- A lazy run takes a character only if what follows it does not fit without it. -/
theorem cut?_shortest_seq_cons (second : Pattern) (c : Char) (cs : List Char) :
    (shortest.seq second).cut? (c :: cs) =
      (second.cut? (c :: cs)).or
        (((shortest.seq second).cut? cs).map fun (piece, rest) => (c :: piece, rest)) := by
  rw [cut?_seq, cut?_seq, shortest, ways, ways, runs, if_pos rfl, List.findSome?_cons,
    List.findSome?_map, List.map_findSome?]
  cases h : second.cut? (c :: cs) with
  | none => simp [h, Function.comp_def]
  | some parts => simp [h]

/-- The line that closes a comment, between line ends; all line ends behind it belong to it. -/
def closing : Pattern := (literal ['\n', '*', '/']).seq (repeated (· == '\n'))

/-- The end of a comment takes in the line ends behind it. -/
theorem cut?_closing (cs : List Char) :
    closing.cut? cs =
      if Shape.closing.isPrefixOf cs then
        some (Shape.closing ++ (cs.drop 4).takeWhile (· == '\n'), (cs.drop 4).dropWhile (· == '\n'))
      else none := by
  rw [closing, cut?_literal_seq]
  match cs with
  | [] | [_] | [_, _] => simp [Shape.closing]
  | [a, b, c] => simp [Shape.closing, cut?, repeated, ways]
  | a :: b :: c :: d :: cs =>
    by_cases hd : d = '\n'
    · simp [Shape.closing, cut?_repeated, hd]
    · simp [Shape.closing, cut?_repeated, hd, Ne.symm hd]

/-- A comment ends at the first place where it can. -/
theorem cut?_shortest_closing (cs : List Char) :
    (shortest.seq closing).cut? cs = Shape.splitClosing cs := by
  induction cs with
  | nil => rfl
  | cons c cs ih =>
    rw [cut?_shortest_seq_cons, cut?_closing, ih, Shape.splitClosing]
    split <;> simp [Shape.closing]

/-- A quoted text ends at the first quote. -/
theorem cut?_shortest_quote (cs : List Char) :
    (shortest.seq (literal ['"'])).cut? cs = Shape.splitQuote cs := by
  induction cs with
  | nil => rfl
  | cons c cs ih =>
    rw [cut?_shortest_seq_cons, cut?_literal, ih, Shape.splitQuote]
    by_cases hc : c = '"'
    · simp [hc]
    · simp [hc, Ne.symm hc]

end Pattern

namespace Shape

/-- The pattern of the shape. -/
def pattern : Shape → Pattern
  | comment => (Pattern.literal opening).seq (Pattern.shortest.seq .closing)
  | delimiter => .char isDelimiter
  | identifier => (Pattern.char startsName).seq (.greedy continuesName)
  | note => (Pattern.literal noteMarker).seq (.greedy (!isControl ·))
  | blank => .repeated isBlank
  | text => (Pattern.literal ['"']).seq (Pattern.shortest.seq (.literal ['"']))

/-- Cutting off a piece is matching the pattern of its shape. -/
theorem split_eq_cut? (shape : Shape) (cs : List Char) :
    shape.split cs = shape.pattern.cut? cs := by
  cases shape with
  | comment =>
    rw [pattern, Pattern.cut?_literal_seq, Pattern.cut?_shortest_closing, split]
  | note => rw [pattern, Pattern.cut?_literal_seq, Pattern.cut?_greedy, split, Option.map_some]
  | text =>
    rw [pattern, Pattern.cut?_literal_seq, Pattern.cut?_shortest_quote]
    cases cs with
    | nil => rfl
    | cons c cs =>
      rw [split]
      by_cases hc : c = '"'
      · simp [hc]
      · simp [hc, Ne.symm hc]
  | delimiter =>
    cases cs with
    | nil => rfl
    | cons c cs => rw [pattern, Pattern.cut?_char, split]
  | identifier =>
    cases cs with
    | nil => rfl
    | cons c cs =>
      rw [pattern, Pattern.cut?_char_seq, Pattern.cut?_greedy, split, Option.map_some]
  | blank =>
    cases cs with
    | nil => rfl
    | cons c cs => rw [pattern, Pattern.cut?_repeated, split]

end Shape

/-! ## Matching -/

/-- The kind of the piece at the front of a text, and how many bytes it has. -/
def matchLength? (s : String) : Option (Option Kind × Nat) :=
  (matchAt s.toList).map fun (shape, piece, _) => (shape.kind?, (String.ofList piece).utf8ByteSize)

/-- The pattern that is found, with the bytes of what it cuts off. -/
theorem matchLength?_eq_some_iff {s : String} {kind : Option Kind} {n : Nat} :
    matchLength? s = some (kind, n) ↔
      ∃ (shape : Shape) (piece rest : List Char), shape.split s.toList = some (piece, rest) ∧
        shape.kind? = kind ∧ (String.ofList piece).utf8ByteSize = n := by
  simp [matchLength?, matchAt_eq_some_iff]

/-- The shapes are the patterns, and at most one of them fits the front of a text with a piece that
is not empty, so the order in which they are tried does not matter.  The piece has at least one
byte and ends between two characters, and it is matched in the same way if nothing follows it. -/
theorem matchAt_of_patterns (s : String) :
    (∀ shape : Shape, shape.split s.toList = shape.pattern.cut? s.toList) ∧
    (∀ (shape shape' : Shape) parts parts', shape.pattern.cut? s.toList = some parts →
      shape'.pattern.cut? s.toList = some parts' → parts.1 ≠ [] → parts'.1 ≠ [] →
      shape = shape') ∧
    (∀ order : List Shape, order.Perm Shape.all → matchIn order s.toList = matchAt s.toList) ∧
    ∀ kind n, matchLength? s = some (kind, n) →
      1 ≤ n ∧ (⟨n⟩ : String.Pos.Raw).IsValid s ∧
      ∃ front : String, front.toUTF8 = s.toUTF8.extract 0 n ∧ matchLength? front = some (kind, n) := by
  refine ⟨fun shape => shape.split_eq_cut? _, ?_, fun order h => matchIn_perm h _, ?_⟩
  · intro shape shape' parts parts' h h' _ _
    rw [← Shape.split_eq_cut?] at h h'
    exact Shape.split_unique h h'
  · intro kind n h
    obtain ⟨shape, piece, rest, hsplit, hkind, rfl⟩ := matchLength?_eq_some_iff.1 h
    obtain ⟨hcuts, hne⟩ := Shape.cuts_split hsplit
    have hs : s = String.ofList piece ++ String.ofList rest := by
      rw [← String.ofList_append, hcuts.append, String.ofList_toList]
    -- cut off by itself, the piece is of the same shape and nothing is left
    have hwhole : shape.Whole (String.ofList piece) := Shape.whole_of_split hsplit
    refine ⟨?_, ?_, String.ofList piece, ?_, ?_⟩
    · rw [Nat.one_le_iff_ne_zero, Ne, String.utf8ByteSize_eq_zero_iff]
      simpa using hne
    · exact String.Pos.Raw.isValid_iff_exists_append.2 ⟨_, _, hs, rfl⟩
    · have hsize := (String.ofList piece).size_toByteArray
      rw [hs, String.toUTF8_eq_toByteArray, String.toUTF8_eq_toByteArray,
        String.toByteArray_append, ByteArray.extract_append_eq_left hsize.symm]
    · refine matchLength?_eq_some_iff.2 ⟨shape, piece, [], ?_, hkind, rfl⟩
      rw [Shape.Whole, matchAt_eq_some_iff] at hwhole
      simpa using hwhole

/-- Behind a line end that a note does not take; no comment stands there, in whatever order the
shapes are tried. -/
theorem matchAt_of_patterns_note :
    let s := "// é\nb"
    let order : List Shape := [.text, .blank, .note, .identifier, .delimiter, .comment]
    let piece := "// é".toList
    Shape.note.pattern.cut? s.toList = some (piece, "\nb".toList) ∧ piece ≠ [] ∧
    (∀ (shape : Shape) parts, shape.pattern.cut? s.toList = some parts → parts.1 ≠ [] →
      shape = .note) ∧
    order.Perm Shape.all ∧ matchIn order s.toList = matchAt s.toList ∧
    matchLength? s = some (some .note, 5) ∧ (⟨5⟩ : String.Pos.Raw).IsValid s ∧
    ∃ front : String, front.toUTF8 = s.toUTF8.extract 0 5 ∧
      matchLength? front = some (some .note, 5) := by
  intro s order piece
  have hcut : Shape.note.pattern.cut? s.toList = some (piece, "\nb".toList) := by decide
  have horder : order.Perm Shape.all := by decide
  have hlength : matchLength? s = some (some .note, 5) := by decide
  obtain ⟨-, hunique, hany, hself⟩ := matchAt_of_patterns s
  obtain ⟨-, hvalid, hfront⟩ := hself _ _ hlength
  exact ⟨hcut, by decide, fun shape parts h hne => hunique _ _ _ _ h hcut hne (by decide),
    horder, hany order horder, hlength, hvalid, hfront⟩

end PackageModel
