import PackageModel.Proofs.Grammar.First

/-!
# PackageModel.Proofs.Grammar.Stretch

The grammar in terms of tokens.  A `Stretch` relates the tokens ahead, those that are left behind,
and what stands between them; the combinations of the grammar table are combinations of
stretches, and each rule has one equation, `derives_…`, that says what its nodes look like in the
tokens.

The equations are those of *plain* derivations, in which `map` and `chan` always start a prefix.
Without this condition the tokens `map [ a ] b` have two trees.
-/

namespace PackageModel

/-- The names with a meaning of their own. -/
abbrev keywords : List String :=
  ["type", "interface", "func", "const", "iota", "package", "import", "chan", "map"]

/-- The keywords that start a prefix. -/
def Prefix.words : List String := ["map", "chan"]

/-- A keyword that starts a prefix names neither a module nor, without a prefix in front of it, a
type. -/
def Condition.plain : Condition
  | .abstraction, ((q, i), _) => q = none → i ∉ Prefix.words
  | .qualifier, .inr (.inr (.inr (i, _))) => i ∉ Prefix.words
  | _, _ => True

namespace Lexeme

/-- A name, which may be a keyword. -/
def name (identifier : String) : Lexeme := ⟨.identifier, identifier⟩

/-- A delimiter. -/
def mark (delimiter : String) : Lexeme := ⟨.delimiter, delimiter⟩

end Lexeme

/-- A relation between the tokens ahead, the tokens left behind, and what stands between them. -/
abbrev Stretch (α : Type) := (w rest : List Lexeme) → α → Prop

namespace Stretch

variable {α : Type}

/-- Something or nothing. -/
inductive Maybe (R : Stretch α) : Stretch (Option α)
  | absent {w} : Maybe R w w none
  | present {w w' a} (h : R w w' a) : Maybe R w w' (some a)

/-- A list that is left out if it is empty. -/
inductive OrEmpty (R : Stretch (List α)) : Stretch (List α)
  | absent {w} : OrEmpty R w w []
  | present {w w' as} (h : R w w' as) : OrEmpty R w w' as

/-- Items one behind the other. -/
inductive Items (R : Stretch α) : Stretch (List α)
  | nil {w} : Items R w w []
  | cons {w w₁ w' a as} (h : R w w₁ a) (hs : Items R w₁ w' as) : Items R w w' (a :: as)

/-- At least one item. -/
inductive OneOrMore (R : Stretch α) : Stretch (List α)
  | mk {w w₁ w' a as} (h : R w w₁ a) (hs : Items R w₁ w' as) : OneOrMore R w w' (a :: as)

/-- Items with a comma in front of each, and perhaps one behind the last. -/
inductive CommaItems (R : Stretch α) : Stretch (List α)
  | nil {w} : CommaItems R w w []
  | trailing {w} : CommaItems R (.mark "," :: w) w []
  | cons {w w₁ w' a as} (h : R w w₁ a) (hs : CommaItems R w₁ w' as) :
      CommaItems R (.mark "," :: w) w' (a :: as)

/-- Items with commas between them and perhaps one behind the last. -/
inductive CommaList (R : Stretch α) : Stretch (List α)
  | mk {w w₁ w' a as} (h : R w w₁ a) (hs : CommaItems R w₁ w' as) : CommaList R w w' (a :: as)

/-- A list in square brackets, or nothing for an empty list. -/
inductive Bracketed (R : Stretch (List α)) : Stretch (List α)
  | absent {w} : Bracketed R w w []
  | present {w w' as} (h : R w (.mark "]" :: w') as) : Bracketed R (.mark "[" :: w) w' as

/-- A note and at least one item. -/
inductive Titled (note : String) (R : Stretch α) : Stretch (List α)
  | mk {w w' as} (h : OneOrMore R w w' as) : Titled note R (⟨.note, note⟩ :: w) w' as

/-- A name, and something between parentheses. -/
inductive Called (R : Stretch α) (i : String) : Stretch α
  | mk {w w' a} (h : R w (.mark ")" :: w') a) : Called R i (.name i :: .mark "(" :: w) w' a

/-- Something that a function makes of what is there. -/
def Via {β : Type} (f : α → β) (R : Stretch α) : Stretch β := fun w w' b => ∃ a, b = f a ∧ R w w' a

/-- Where nothing is, no lexeme is taken. -/
theorem Maybe.eq_of_none {R : Stretch α} {w w' : List Lexeme} (h : Maybe R w w' none) : w = w' := by
  cases h
  rfl

/-- Something that is there stands in the lexemes. -/
theorem Maybe.of_some {R : Stretch α} {w w' : List Lexeme} {a : α} (h : Maybe R w w' (some a)) :
    R w w' a := by
  cases h
  assumption

/-- Nothing stands for the empty list. -/
theorem OrEmpty.iff_maybe {R : Stretch (List α)} {w w' : List Lexeme} {as : List α} :
    OrEmpty R w w' as ↔ ∃ o, as = o.getD [] ∧ Maybe R w w' o := by
  constructor
  · intro h
    cases h with
    | absent => exact ⟨none, rfl, .absent⟩
    | present h => exact ⟨some as, rfl, .present h⟩
  · rintro ⟨o, rfl, h⟩
    cases h with
    | absent => exact .absent
    | present h => exact .present h

/-- A parameter list that is empty is one that is missing. -/
theorem Called.iff_maybe {R : Stretch (List α)} {i : String} {w w' : List Lexeme} {as : List α} :
    Called (OrEmpty R) i w w' as ↔ ∃ o, as = o.getD [] ∧ Called (Maybe R) i w w' o := by
  constructor
  · intro h
    cases h with
    | mk h =>
      obtain ⟨o, rfl, ho⟩ := OrEmpty.iff_maybe.1 h
      exact ⟨o, rfl, .mk ho⟩
  · rintro ⟨o, rfl, h⟩
    cases h with
    | mk h => exact .mk (OrEmpty.iff_maybe.2 ⟨o, rfl, h⟩)

section Via

variable {β : Type} {f : α → β} {R : Stretch α} {w w' : List Lexeme}

/-- What is made of an optional thing is made of it if it is there. -/
theorem Maybe.of_via {o : Option β} (h : Maybe (Via f R) w w' o) :
    ∃ o', o = o'.map f ∧ Maybe R w w' o' := by
  cases h with
  | absent => exact ⟨none, rfl, .absent⟩
  | present h =>
    obtain ⟨a, rfl, ha⟩ := h
    exact ⟨some a, rfl, .present ha⟩

/-- A list of things that are made of others is made of a list of these. -/
theorem Items.of_via {bs : List β} (h : Items (Via f R) w w' bs) :
    Via (List.map f) (Items R) w w' bs := by
  induction h with
  | nil => exact ⟨[], rfl, .nil⟩
  | cons h _ ih =>
    obtain ⟨a, rfl, ha⟩ := h
    obtain ⟨as, rfl, has⟩ := ih
    exact ⟨a :: as, rfl, .cons ha has⟩

/-- The same holds behind a note. -/
theorem Titled.of_via {note : String} {bs : List β} (h : Titled note (Via f R) w w' bs) :
    Via (List.map f) (Titled note R) w w' bs := by
  obtain ⟨⟨h, hs⟩⟩ := h
  obtain ⟨a, rfl, ha⟩ := h
  obtain ⟨as, rfl, has⟩ := hs.of_via
  exact ⟨a :: as, rfl, .mk (.mk ha has)⟩

/-- The same holds for a list that can be missing. -/
theorem OrEmpty.of_via {g : List α → List β} {R : Stretch (List α)} {bs : List β}
    (hg : g [] = []) (h : OrEmpty (Via g R) w w' bs) : Via g (OrEmpty R) w w' bs := by
  cases h with
  | absent => exact ⟨[], hg.symm, .absent⟩
  | present h =>
    obtain ⟨as, rfl, has⟩ := h
    exact ⟨as, rfl, .present has⟩

end Via

/-- Something that stands between some tokens. -/
def Stands {α : Type} (R : Stretch α) (a : α) : Prop := ∃ w w', R w w' a

section Stands

variable {R : Stretch α} {w w' : List Lexeme}

/-- What is there stands somewhere. -/
theorem Maybe.stands {o : Option α} (h : Maybe R w w' o) : ∀ a ∈ o, Stands R a := by
  cases h with
  | absent => exact nofun
  | present h =>
    rintro a ⟨⟩
    exact ⟨_, _, h⟩

/-- What holds of the members of a list that is there holds of those of one that may be missing. -/
theorem OrEmpty.stands {R : Stretch (List α)} {as : List α} {P : α → Prop}
    (hR : ∀ {w w' as}, R w w' as → ∀ a ∈ as, P a) (h : OrEmpty R w w' as) : ∀ a ∈ as, P a := by
  cases h with
  | absent => exact nofun
  | present h => exact hR h

/-- The same holds for brackets, which can be missing. -/
theorem Bracketed.stands {R : Stretch (List α)} {as : List α} {P : α → Prop}
    (hR : ∀ {w w' as}, R w w' as → ∀ a ∈ as, P a) (h : Bracketed R w w' as) :
    ∀ a ∈ as, P a := by
  cases h with
  | absent => exact nofun
  | present h => exact hR h

/-- Each item of a list stands somewhere. -/
theorem Items.stands {as : List α} (h : Items R w w' as) : ∀ a ∈ as, Stands R a := by
  induction h with
  | nil => exact nofun
  | cons h _ ih => exact List.forall_mem_cons.2 ⟨⟨_, _, h⟩, ih⟩

/-- Each item behind a note stands somewhere. -/
theorem Titled.stands {note : String} {as : List α} (h : Titled note R w w' as) :
    ∀ a ∈ as, Stands R a := by
  cases h with
  | mk h =>
    cases h with
    | mk h hs => exact List.forall_mem_cons.2 ⟨⟨_, _, h⟩, hs.stands⟩

/-- Each item of a list with commas stands somewhere. -/
theorem CommaItems.stands {as : List α} (h : CommaItems R w w' as) : ∀ a ∈ as, Stands R a := by
  induction h with
  | nil | trailing => exact nofun
  | cons h _ ih => exact List.forall_mem_cons.2 ⟨⟨_, _, h⟩, ih⟩

/-- A list with commas has an item at least, and each stands somewhere. -/
theorem CommaList.stands {as : List α} (h : CommaList R w w' as) :
    as ≠ [] ∧ ∀ a ∈ as, Stands R a := by
  cases h with
  | mk h hs => exact ⟨nofun, List.forall_mem_cons.2 ⟨⟨_, _, h⟩, hs.stands⟩⟩

end Stands

end Stretch

namespace Production

/-- The tokens up to `rest` are derivable from the rule in a plain derivation. -/
abbrev Plain (r : Rule) : Stretch r.Node := Derives .plain (.rule r)

section

variable {C : Condition} {p : Production} {w w' : List Lexeme}

/-- A mark derives itself. -/
theorem derives_mark {m v : String} :
    Derives C (mark m) w w' v ↔ w = .mark m :: w' ∧ v = m := derives_fixed

/-- A word derives itself, as a name. -/
theorem derives_word {m v : String} :
    Derives C (word m) w w' v ↔ w = .name m :: w' ∧ v = m := derives_fixed

/-- An identifier derives any name. -/
theorem derives_identifier {v : String} :
    Derives C identifier w w' v ↔ w = .name v :: w' := derives_kind

/-- A mark is derived from its symbol. -/
theorem Derives.mark {m : String} : Derives C (.mark m) (.mark m :: w) w m :=
  derives_mark.2 ⟨rfl, rfl⟩

/-- A word is derived from its symbol. -/
theorem Derives.word {m : String} : Derives C (.word m) (.name m :: w) w m :=
  derives_word.2 ⟨rfl, rfl⟩

/-- A name is derived as an identifier. -/
theorem Derives.name {i : String} : Derives C .identifier (.name i :: w) w i :=
  derives_identifier.2 rfl

/-- An optional production derives what it derives, or nothing. -/
theorem derives_optional {o : Option p.Value} :
    Derives C (.optional p) w w' o ↔ Stretch.Maybe (Derives C p) w w' o := by
  constructor
  · intro h
    cases h with
    | absent => exact .absent
    | present h => exact .present h
  · intro h
    cases h with
    | absent => exact .absent
    | present h => exact .present h

/-- A repeated production derives items one behind the other. -/
theorem derives_many {vs : List p.Value} :
    Derives C (.many p) w w' vs ↔ Stretch.Items (Derives C p) w w' vs := by
  constructor
  · intro h
    induction vs generalizing w with
    | nil => cases h; exact .nil
    | cons v vs ih =>
      cases h with
      | cons h hs => exact .cons h (ih hs)
  · intro h
    induction h with
    | nil => exact .nil
    | cons h _ ih => exact .cons h ih

/-- With one item at least it derives no empty list. -/
theorem derives_some {vs : List p.Value} :
    Derives C (.some p) w w' vs ↔ Stretch.OneOrMore (Derives C p) w w' vs := by
  constructor
  · intro h
    cases h with
    | some h hs => exact .mk h (derives_many.1 hs)
  · intro h
    cases h with
    | mk h hs => exact .some h (derives_many.2 hs)

/-- The table puts the commas in front of the items and an optional one behind them. -/
theorem derives_commaItems {r : Rule} {as : List r.Node} :
    (∃ w₁ vs o, as = vs.map (·.2) ∧ Derives C (.many (mark "," ++ rule r)) w w₁ vs ∧
        Derives C (.optional (mark ",")) w₁ w' o) ↔
      Stretch.CommaItems (Derives C (.rule r)) w w' as := by
  constructor
  · rintro ⟨w₁, vs, o, rfl, hs, ho⟩
    induction derives_many.1 hs with
    | nil =>
      cases derives_optional.1 ho with
      | absent => exact .nil
      | present hm =>
        obtain ⟨rfl, -⟩ := derives_mark.1 hm
        exact .trailing
    | cons h hs' ih =>
      obtain ⟨_, _, _, rfl, hm, ha⟩ := h.of_sequence
      obtain ⟨rfl, -⟩ := derives_mark.1 hm
      exact .cons ha (ih (derives_many.2 hs') ho)
  · intro h
    induction h with
    | nil => exact ⟨_, [], none, rfl, .nil, .absent⟩
    | trailing => exact ⟨_, [], _, rfl, .nil, .present .mark⟩
    | @cons _ _ _ a _ ha _ ih =>
      obtain ⟨w₁, vs, o, rfl, hs, ho⟩ := ih
      exact ⟨w₁, (",", a) :: vs, o, rfl,
        .cons (.sequence .mark ha) hs, ho⟩

/-- The commas of a list are no part of its value. -/
theorem derives_commaList {r : Rule} {as : List r.Node} :
    (∃ v, as = commaValues v ∧ Derives C (commaList r) w w' v) ↔
      Stretch.CommaList (Derives C (.rule r)) w w' as := by
  constructor
  · rintro ⟨_, rfl, h⟩
    obtain ⟨_, _, o, rfl, h, ho⟩ := h.of_sequence
    obtain ⟨_, a, vs, rfl, ha, hs⟩ := h.of_sequence
    exact .mk ha (derives_commaItems.1 ⟨_, vs, o, rfl, hs, ho⟩)
  · intro h
    cases h with
    | @mk _ _ _ a _ ha hs =>
      obtain ⟨_, vs, o, rfl, hvs, ho⟩ := derives_commaItems.2 hs
      exact ⟨((a, vs), o), rfl, .sequence (.sequence ha hvs) ho⟩

/-- The brackets around a list are no part of its value. -/
theorem derives_bracketed {r : Rule} {α : Type} {items : r.Node → List α} {R : Stretch (List α)}
    {as : List α} (hR : ∀ w w' as, R w w' as ↔ ∃ a, as = items a ∧ Derives C (.rule r) w w' a) :
    (∃ v, as = bracketValues items v ∧ Derives C (bracketed r) w w' v) ↔
      Stretch.Bracketed R w w' as := by
  constructor
  · rintro ⟨v, rfl, h⟩
    cases derives_optional.1 h with
    | absent => exact .absent
    | present hv =>
      obtain ⟨_, _, _, rfl, hla, hr⟩ := hv.of_sequence
      obtain ⟨_, _, a, rfl, hl, ha⟩ := hla.of_sequence
      obtain ⟨rfl, -⟩ := derives_mark.1 hl
      obtain ⟨rfl, -⟩ := derives_mark.1 hr
      exact .present ((hR _ _ _).2 ⟨a, rfl, ha⟩)
  · intro h
    cases h with
    | absent => exact ⟨none, rfl, .absent⟩
    | present h =>
      obtain ⟨a, rfl, ha⟩ := (hR _ _ _).1 h
      exact ⟨_, rfl, .present (.sequence (.sequence .mark ha) .mark)⟩

/-- A called name is the name, its mark and what stands between the parentheses. -/
theorem derives_called {r : Rule} {v : (called r).Value} :
    Derives C (called r) w w' v ↔ ∃ i o, v = (((i, "("), o), ")") ∧
      Stretch.Called (Stretch.Maybe (Derives C (.rule r))) i w w' o := by
  constructor
  · intro h
    obtain ⟨_, _, _, rfl, h₃, h₄⟩ := h.of_sequence
    obtain ⟨_, _, o, rfl, h₂, ho⟩ := h₃.of_sequence
    obtain ⟨_, i, _, rfl, hi, hl⟩ := h₂.of_sequence
    obtain rfl := derives_identifier.1 hi
    obtain ⟨rfl, rfl⟩ := derives_mark.1 hl
    obtain ⟨rfl, rfl⟩ := derives_mark.1 h₄
    exact ⟨i, o, rfl, .mk (derives_optional.1 ho)⟩
  · rintro ⟨i, o, rfl, h⟩
    cases h with
    | mk h => exact .sequence (.sequence (.sequence .name .mark) (derives_optional.2 h)) .mark

/-- An interface is its declaration and what stands between the braces. -/
theorem derives_interface {body : Production} {v : (interface body).Value} :
    Derives C (interface body) w w' v ↔ ∃ d b w₁,
      v = ((((d, "interface"), "\x7b"), b), "\x7d") ∧
      Derives C (.rule .declaration) w (.name "interface" :: .mark "\x7b" :: w₁) d ∧
      Derives C body w₁ (.mark "\x7d" :: w') b := by
  constructor
  · intro h
    obtain ⟨_, _, _, rfl, h₄, h₅⟩ := h.of_sequence
    obtain ⟨w₁, _, b, rfl, h₃, hb⟩ := h₄.of_sequence
    obtain ⟨_, _, _, rfl, h₂, hm⟩ := h₃.of_sequence
    obtain ⟨_, d, _, rfl, hd, hw⟩ := h₂.of_sequence
    obtain ⟨rfl, rfl⟩ := derives_word.1 hw
    obtain ⟨rfl, rfl⟩ := derives_mark.1 hm
    obtain ⟨rfl, rfl⟩ := derives_mark.1 h₅
    exact ⟨d, b, w₁, rfl, hd, hb⟩
  · rintro ⟨d, b, w₁, rfl, hd, hb⟩
    exact .sequence (.sequence (.sequence (.sequence hd .word) .mark) hb) .mark

/-- The note of a section is no part of its value. -/
theorem derives_titled {note : String} {r : Rule} {as : List r.Node} :
    (∃ v, as = v.2 ∧ Derives C (titled note r) w w' v) ↔
      Stretch.Titled note (Derives C (.rule r)) w w' as := by
  constructor
  · rintro ⟨_, rfl, h⟩
    obtain ⟨_, _, as, rfl, hn, hs⟩ := h.of_sequence
    obtain ⟨rfl, -⟩ := derives_fixed.1 hn
    exact .mk (derives_some.1 hs)
  · intro h
    cases h with
    | mk h => exact ⟨(note, as), rfl, .sequence (derives_fixed.2 ⟨rfl, rfl⟩) (derives_some.2 h)⟩

end

/-! ## Lengths -/

section

variable {C : Condition} {r : Rule} {w w' : List Lexeme}

/-- What may be missing leaves no more lexemes than there were. -/
theorem length_le_of_maybe {o : Option r.Node} (h : Stretch.Maybe (Derives C (.rule r)) w w' o) :
    w'.length ≤ w.length := by
  cases h with
  | absent => exact Nat.le_refl _
  | present h => exact Nat.le_of_lt h.length_lt

/-- The same holds for a list that can be missing. -/
theorem length_le_of_orEmpty {α : Type} {R : Stretch (List α)} {as : List α}
    (hR : ∀ {w w' as}, R w w' as → w'.length ≤ w.length) (h : Stretch.OrEmpty R w w' as) :
    w'.length ≤ w.length := by
  cases h with
  | absent => exact Nat.le_refl _
  | present h => exact hR h

end

end Production

end PackageModel
