import Mathlib.Data.List.Chain
import Mathlib.Tactic.Tauto
import PackageModel.Proofs.Grammar.Stretch
import PackageModel.Proofs.Reading.Eval

/-!
# PackageModel.Proofs.Reading.Gives

What a program makes of tokens that are known.  `Reading.Gives` says that a program gives back a
certain result if a condition holds, and fails if it does not; so a rule's tokens, the condition
under which they can be read, and the result stand in one statement.
-/

namespace PackageModel

/-! ## What a terminal accepts -/

namespace Terminal

/-- Every name is an identifier. -/
@[simp] theorem accepts_identifier_name (i : String) : identifier.accepts (.name i) = true := by
  simp [accepts, identifier, Lexeme.name]

@[simp] theorem accepts_identifier_mark (m : String) :
    identifier.accepts (.mark m) = false := by
  simp [accepts, identifier, Lexeme.mark]

/-- A keyword is one name. -/
@[simp] theorem accepts_keyword_name (k i : String) :
    (keyword k).accepts (.name i) = decide (i = k) := by
  rw [Bool.eq_iff_iff, accepts_iff, decide_eq_true_iff]
  simp [keyword, Lexeme.name]

@[simp] theorem accepts_keyword_mark (k m : String) : (keyword k).accepts (.mark m) = false := by
  simp [accepts, keyword, Lexeme.mark]

@[simp] theorem accepts_delimiter_name (m i : String) :
    (delimiter m).accepts (.name i) = false := by
  simp [accepts, delimiter, Lexeme.name]

@[simp] theorem accepts_delimiter_mark (m n : String) :
    (delimiter m).accepts (.mark n) = decide (n = m) := by
  rw [Bool.eq_iff_iff, accepts_iff, decide_eq_true_iff]
  simp [delimiter, Lexeme.mark]

@[simp] theorem accepts_comment_name (i : String) : comment.accepts (.name i) = false := by
  simp [accepts, comment, Lexeme.name]

@[simp] theorem accepts_comment_mark (m : String) : comment.accepts (.mark m) = false := by
  simp [accepts, comment, Lexeme.mark]

@[simp] theorem accepts_note (n v : String) : (note n).accepts ⟨.note, v⟩ = decide (v = n) := by
  rw [Bool.eq_iff_iff, accepts_iff, decide_eq_true_iff]
  simp [note]

@[simp] theorem accepts_note_mark (n m : String) : (note n).accepts (.mark m) = false := by
  simp [accepts, note, Lexeme.mark]

end Terminal

@[simp] theorem Lexeme.value_name (i : String) : (Lexeme.name i).value = i := rfl

@[simp] theorem Lexeme.value_mark (m : String) : (Lexeme.mark m).value = m := rfl

/-- Where there is no identifier, there is no keyword. -/
theorem Refuses.keyword {w : List Lexeme} (h : Refuses .identifier w) (k : String) :
    Refuses (.keyword k) w := by
  cases w with
  | nil => exact h
  | cons l w =>
    rw [refuses_cons, ← Bool.not_eq_true] at h ⊢
    intro hl
    rw [Terminal.accepts_iff] at h hl
    exact h ⟨hl.1, nofun⟩

namespace Reading

variable {α β : Type}

/-! ## Single tokens -/

variable {w : List Lexeme} {l : Lexeme} {t : Terminal}

/-- A text that is there is read. -/
theorem text?_taken (h : t.accepts l = true) :
    (text? t).eval (l :: w) = some (some l.value, w) := by
  simp only [text?, eval, takeLexeme, if_pos h]

/-- Where no such text is, nothing is read. -/
theorem text?_left (h : Refuses t w) : (text? t).eval w = some (none, w) := by
  cases w with
  | nil => exact h.elim
  | cons l w =>
    rw [refuses_cons] at h
    simp [text?, eval, takeLexeme, h]

/-- A required text that is there is read. -/
theorem text_taken (h : t.accepts l = true) (rules : List Rule) :
    (text t rules).eval (l :: w) = some (l.value, w) := by
  simp only [text, eval, takeLexeme, if_pos h]

/-- Where a required text is missing, reading fails. -/
theorem text_failed (h : Refuses t w) (rules : List Rule) : (text t rules).eval w = none := by
  cases w with
  | nil => exact h.elim
  | cons l w =>
    rw [refuses_cons] at h
    simp [text, eval, takeLexeme, h]

/-- A comment that comes next is taken. -/
@[simp] theorem comment?_taken {c : String} :
    (text? .comment).eval (⟨.comment, c⟩ :: w) = some (some c, w) :=
  text?_taken (by simp [Terminal.accepts, Terminal.comment])

/-- A name that comes next is taken. -/
@[simp] theorem identifier?_taken {i : String} :
    identifier?.eval (.name i :: w) = some (some i, w) :=
  text?_taken (Terminal.accepts_identifier_name i)

/-- Where no name is, none is read. -/
theorem identifier?_left (h : Refuses .identifier w) : identifier?.eval w = some (none, w) :=
  text?_left h

/-- A required name that comes next is taken. -/
@[simp] theorem identifier_taken {i : String} {rules : List Rule} :
    (identifier rules).eval (.name i :: w) = some (i, w) :=
  text_taken (Terminal.accepts_identifier_name i) rules

/-- Where a required name is missing, reading fails. -/
theorem identifier_failed (h : Refuses .identifier w) (rules : List Rule) :
    (identifier rules).eval w = none := text_failed h rules

/-- A keyword that comes next is taken. -/
@[simp] theorem keyword?_taken {k : String} :
    (keyword? k).eval (.name k :: w) = some (true, w) := by
  simp [keyword?, text?_taken]

/-- Where the keyword is not, it is not found. -/
theorem keyword?_left {k : String} (h : Refuses (.keyword k) w) :
    (keyword? k).eval w = some (false, w) := by
  simp [keyword?, text?_left h]

/-- A required keyword that comes next is taken. -/
@[simp] theorem keyword_taken {k : String} {rules : List Rule} :
    (keyword k rules).eval (.name k :: w) = some ((), w) := by
  simp [keyword, text_taken]

/-- A delimiter that comes next is taken. -/
@[simp] theorem mark?_taken {m : String} : (mark? m).eval (.mark m :: w) = some (true, w) := by
  simp [mark?, text?_taken]

/-- Where the mark is not, it is not found. -/
theorem mark?_left {m : String} (h : Refuses (.delimiter m) w) :
    (mark? m).eval w = some (false, w) := by
  simp [mark?, text?_left h]

/-- A required delimiter that comes next is taken. -/
@[simp] theorem mark_taken {m : String} {rules : List Rule} :
    (mark m rules).eval (.mark m :: w) = some ((), w) := by
  simp [mark, text_taken]

/-- Where a required mark is missing, reading fails. -/
theorem mark_failed {m : String} (h : Refuses (.delimiter m) w) (rules : List Rule) :
    (mark m rules).eval w = none := by
  simp [mark, text_failed h]

/-- A heading that comes next is taken. -/
@[simp] theorem note?_taken {n : String} : (note? n).eval (⟨.note, n⟩ :: w) = some (true, w) := by
  simp [note?, text?_taken]

/-- Where the note is not, it is not found. -/
theorem note?_left {n : String} (h : Refuses (.note n) w) : (note? n).eval w = some (false, w) := by
  simp [note?, text?_left h]

/-- Two tokens that belong together are taken together. -/
theorem taken_taken {u : Terminal} {m : Lexeme} (ht : t.accepts l = true)
    (hu : u.accepts m = true) :
    (take t (.taken u) done).eval (l :: m :: w) = some (some l.value, w) := by
  simp [eval, takeLexeme, ht, hu]

/-- Two tokens are left together if the first one is not as wanted. -/
theorem taken_left {u : Terminal} (h : Refuses t w) :
    (take t (.taken u) done).eval w = some (none, w) := by
  cases w with
  | nil => exact h.elim
  | cons l w =>
    rw [refuses_cons] at h
    simp [eval, takeLexeme, h]

/-- Two tokens are left together if the second one is not as wanted. -/
theorem taken_left_second {u : Terminal} (h : Refuses u w) :
    (take t (.taken u) done).eval (l :: w) = some (none, l :: w) := by
  cases w with
  | nil => exact h.elim
  | cons m w =>
    rw [refuses_cons] at h
    by_cases hl : t.accepts l = true <;> simp [eval, takeLexeme, hl, h]

/-- A token is taken if what follows it is not the one that would make it something else. -/
theorem not_taken {u : Terminal} (ht : t.accepts l = true) (hu : Refuses u w) :
    (take t (.not u) done).eval (l :: w) = some (some l.value, w) := by
  cases w with
  | nil => exact hu.elim
  | cons m w =>
    rw [refuses_cons] at hu
    simp [eval, takeLexeme, ht, hu]

/-- A token is left in front of an excluded one. -/
theorem not_left_second {u : Terminal} {m : Lexeme} (hu : u.accepts m = true) :
    (take t (.not u) done).eval (l :: m :: w) = some (none, l :: m :: w) := by
  by_cases hl : t.accepts l = true <;> simp [eval, takeLexeme, hl, hu]

/-- Where the token is not, what follows it does not matter. -/
theorem not_left {u : Terminal} (h : Refuses t w) :
    (take t (.not u) done).eval w = some (none, w) := by
  cases w with
  | nil => exact h.elim
  | cons l w =>
    rw [refuses_cons] at h
    simp [eval, takeLexeme, h]

/-! ## Results under a condition -/

/-- The program gives back the result if the condition holds, and fails if it does not. -/
structure Gives (r : Reading α) (w : List Lexeme) (G : Prop) (a : α) (rest : List Lexeme) :
    Prop where
  ok (h : G) : r.eval w = some (a, rest)
  failed (h : ¬ G) : r.eval w = none

namespace Gives

variable {r : Reading α} {f : α → Reading β} {G H : Prop} {a : α} {b : β}
  {w₁ rest : List Lexeme}

/-- A program that gives a result gives it under no condition. -/
theorem of_eval (h : r.eval w = some (a, rest)) : r.Gives w True a rest :=
  ⟨fun _ => h, fun hn => absurd trivial hn⟩

/-- Conditions can be said differently. -/
theorem congr (h : r.Gives w G a rest) (hGH : G ↔ H) : r.Gives w H a rest :=
  ⟨fun hH => h.ok (hGH.2 hH), fun hH => h.failed fun hG => hH (hGH.1 hG)⟩

/-- Two programs behind each other give back the second one's result if both conditions hold. -/
theorem bind (hr : r.Gives w G a w₁) (hf : (f a).Gives w₁ H b rest) :
    (r.bind f).Gives w (G ∧ H) b rest := by
  constructor
  · rintro ⟨hG, hH⟩
    rw [eval_bind, hr.ok hG]
    exact hf.ok hH
  · intro hn
    rw [eval_bind]
    by_cases hG : G
    · rw [hr.ok hG]
      exact hf.failed fun hH => hn ⟨hG, hH⟩
    · rw [hr.failed hG]
      rfl

/-- A program behind one that gives back its result in any case. -/
theorem bind_of_eval (hr : r.eval w = some (a, w₁)) (hf : (f a).Gives w₁ H b rest) :
    (r.bind f).Gives w H b rest :=
  ((of_eval hr).bind hf).congr (by rw [true_and])

/-- What is made of a result is given under the same condition. -/
theorem bind_done (hr : r.Gives w G a rest) (hf : f a = done b) :
    (r.bind f).Gives w G b rest := by
  have hdone : (f a).eval rest = some (b, rest) := by rw [hf, eval_done]
  exact (hr.bind (of_eval hdone)).congr (by rw [and_true])

end Gives

/-! ## Combinations -/

section

variable {G : Prop} {rest : List Lexeme}

/-- A required item is given under the same condition as an optional one that is there. -/
theorem required_gives {rule : Reading (Option α)} {a : α} (h : rule.Gives w G (some a) rest)
    (expected : String) (rules : List Rule) :
    (required rule expected rules).Gives w G a rest :=
  h.bind_done rfl

/-- A list that can be missing is given under the same condition if it is there. -/
theorem orEmpty_gives {list : Reading (Option (List α))} {as : List α}
    (h : list.Gives w G (some as) rest) : (orEmpty list).Gives w G as rest :=
  h.bind_done rfl

/-- A list that is missing is empty. -/
theorem orEmpty_absent {list : Reading (Option (List α))} (h : list.eval w = some (none, w)) :
    (orEmpty list).eval w = some ([], w) := by
  simp [orEmpty, h]

end

/-- Items that are read wherever they stand are read up to the first place without one. -/
theorem many_eval {item : Reading (Option α)} {R : Stretch α} {rest : List Lexeme} {as : List α}
    {n : Nat} (hitem : ∀ {w rest a}, R w rest a → item.eval w = some (some a, rest))
    (hshrinks : ∀ {w w₁ a}, R w w₁ a → w₁.length < w.length)
    (hrest : item.eval rest = some (none, rest)) (h : Stretch.Items R w rest as)
    (hn : w.length < n) : (many item n).eval w = some (as, rest) := by
  induction as generalizing w n with
  | nil =>
    cases h
    cases n with
    | zero => omega
    | succ n => simp [many, hrest]
  | cons a as ih =>
    cases h with
    | cons ha has =>
      have hlt := hshrinks ha
      cases n with
      | zero => omega
      | succ n => simp [many, hitem ha, ih has (n := n) (by omega)]

/-- The marks that may follow an item of a list with commas. -/
def itemEnds : List String := [",", "]", ")"]

/-- The marks that may follow a list with commas. -/
def listEnds : List String := ["]", ")"]

/-- The program reads the items of lists with commas among at most `N` tokens. -/
structure ReadsItems (item : Reading (Option α)) (R : Stretch α) (N : Nat) : Prop where
  taken {m : String} {w w₁ : List Lexeme} {a : α} (h : R w (.mark m :: w₁) a) (hm : m ∈ itemEnds)
    (hw : w.length < N) : item.eval w = some (some a, .mark m :: w₁)
  left {m : String} {w : List Lexeme} (hm : m ∈ listEnds) :
    item.eval (.mark m :: w) = some (none, .mark m :: w)
  shrinks {w w₁ : List Lexeme} {a : α} (h : R w w₁ a) : w₁.length < w.length

/-- What follows an item starts with a comma, unless it follows the list. -/
theorem mark_of_commaItems {R : Stretch α} {m : String} {w rest : List Lexeme} {as : List α}
    (h : Stretch.CommaItems R w (.mark m :: rest) as) (hm : m ∈ listEnds) :
    ∃ m' w', w = .mark m' :: w' ∧ m' ∈ itemEnds := by
  cases h with
  | nil => exact ⟨m, rest, rfl, List.mem_cons_of_mem _ hm⟩
  | trailing => exact ⟨",", _, rfl, List.mem_cons_self⟩
  | cons _ _ => exact ⟨",", _, rfl, List.mem_cons_self⟩

section

variable {item : Reading (Option α)} {R : Stretch α} {N n : Nat} {m : String}
  {rest : List Lexeme} {as : List α}

/-- Items with commas are read up to the mark behind them. -/
theorem ReadsItems.commaItems (hitem : ReadsItems item R N)
    (h : Stretch.CommaItems R w (.mark m :: rest) as) (hm : m ∈ listEnds) (hN : w.length < N)
    (hn : w.length < n) : (commaItems item n).eval w = some (as, .mark m :: rest) := by
  generalize hrest : Lexeme.mark m :: rest = w' at h
  induction h generalizing n with
  | nil =>
    cases n with
    | zero => omega
    | succ n =>
      have hcomma : Refuses (.delimiter ",") (.mark m :: rest) := by
        simp only [listEnds, List.mem_cons, List.not_mem_nil, or_false] at hm
        rcases hm with rfl | rfl <;> simp
      subst hrest
      simp [Reading.commaItems, mark?_left hcomma]
  | trailing =>
    cases n with
    | zero => omega
    | succ n =>
      subst hrest
      simp [Reading.commaItems, hitem.left hm]
  | @cons w w₁ w' a as ha hs ih =>
    cases n with
    | zero => omega
    | succ n =>
      subst hrest
      have hlt := hitem.shrinks ha
      -- behind the item stands a comma or the end of the list, so the item is read up to there
      obtain ⟨m', u, rfl, hm'⟩ := mark_of_commaItems hs hm
      rw [List.length_cons] at hN hn
      have hrest := ih (by omega) (n := n) (by omega) rfl
      simp [Reading.commaItems, hitem.taken ha hm' (by omega), hrest]

/-- A list with commas is read up to the mark behind it. -/
theorem ReadsItems.commaList (hitem : ReadsItems item R N)
    (h : Stretch.CommaList R w (.mark m :: rest) as) (hm : m ∈ listEnds) (hN : w.length < N)
    (hn : w.length < n) : (commaList item n).eval w = some (some as, .mark m :: rest) := by
  cases h with
  | mk ha hs =>
    have hlt := hitem.shrinks ha
    obtain ⟨m', u, rfl, hm'⟩ := mark_of_commaItems hs hm
    have hrest := hitem.commaItems hs hm (by omega) (n := n) (by omega)
    simp [Reading.commaList, hitem.taken ha hm' hN, hrest]

/-- Where a mark ends a list before it has begun, there is no list. -/
theorem ReadsItems.commaList_absent (hitem : ReadsItems item R N) (hm : m ∈ listEnds) :
    (Reading.commaList item n).eval (.mark m :: w) = some (none, .mark m :: w) := by
  simp [Reading.commaList, hitem.left hm]

end

section

variable {list : Reading (Option (List α))} {R : Stretch (List α)} {rest : List Lexeme}
  {as : List α} {N : Nat}

/-- A list in brackets is read, and an empty one is if no bracket follows. -/
theorem bracketed_eval
    (hlist : ∀ {u as}, R u (.mark "]" :: rest) as → u.length < N →
      list.eval u = some (some as, .mark "]" :: rest))
    (h : Stretch.Bracketed R w rest as) (hrest : as = [] → Refuses (.delimiter "[") rest)
    (hN : w.length < N) (expected : String) (rules : List Rule) :
    (bracketed list expected rules).eval w = some (as, rest) := by
  cases h with
  | absent => simp [bracketed, mark?_left (hrest rfl)]
  | present h =>
    rw [List.length_cons] at hN
    simp [bracketed, required, hlist h (by omega)]

/-- Behind an opening bracket there has to be an item. -/
theorem bracketed_failed
    (hlist : list.eval (.mark "]" :: w) = some (none, .mark "]" :: w)) (expected : String)
    (rules : List Rule) :
    (bracketed list expected rules).eval (.mark "[" :: .mark "]" :: w) = none := by
  simp [bracketed, required, hlist]

end

/-! ## Sections -/

/-- The tokens cannot continue an abstraction or a result. -/
structure Follows (w : List Lexeme) : Prop where
  dot : Refuses (.delimiter ".") w
  opening : Refuses (.delimiter "(") w
  bracket : Refuses (.delimiter "[") w

/-- The tokens cannot continue a section. -/
structure Closes (w : List Lexeme) : Prop extends Follows w where
  comment : Refuses .comment w
  identifier : Refuses .identifier w

/-- The program reads the items of a section among at most `N` tokens.  It gives back `f a` for the
item `a` if `G a` holds of it, and of its neighbours `Q`. -/
structure ReadsSection (item : Reading (Option α)) (R : Stretch α) (N : Nat) (f : α → α)
    (G : α → Prop) (Q : α → α → Prop) : Prop where
  last {w rest : List Lexeme} {a : α} (h : R w rest a) (hrest : Closes rest)
    (hw : w.length < N) : item.Gives w (G a) (some (f a)) rest
  next {w w₁ w₂ : List Lexeme} {a b : α} (h : R w w₁ a) (hb : R w₁ w₂ b)
    (hw : w.length < N) : item.Gives w (G a ∧ Q a b) (some (f a)) w₁
  left {rest : List Lexeme} (hrest : Closes rest) (hN : 0 < N) :
    item.eval rest = some (none, rest)
  shrinks {w w₁ : List Lexeme} {a : α} (h : R w w₁ a) : w₁.length < w.length

/-- What the items of a section have to meet to be read. -/
def Readable (G : α → Prop) (Q : α → α → Prop) (as : List α) : Prop :=
  (∀ a ∈ as, G a) ∧ as.IsChain Q

@[simp] theorem readable_nil {G : α → Prop} {Q : α → α → Prop} : Readable G Q [] := by
  simp [Readable]

/-- One item has no neighbour. -/
theorem readable_singleton {G : α → Prop} {Q : α → α → Prop} {a : α} :
    Readable G Q [a] ↔ G a := by
  simp [Readable]

/-- An item has to be readable, and to be apart from the one behind it. -/
theorem readable_cons_cons {G : α → Prop} {Q : α → α → Prop} {a b : α} {as : List α} :
    Readable G Q (a :: b :: as) ↔ (G a ∧ Q a b) ∧ Readable G Q (b :: as) := by
  simp only [Readable, List.forall_mem_cons, List.isChain_cons_cons]
  tauto

/-- Items that need not go together have to meet their own conditions only. -/
theorem readable_iff {G : α → Prop} {as : List α} :
    Readable G (fun _ _ => True) as ↔ ∀ a ∈ as, G a := by
  refine ⟨And.left, fun h => ⟨h, ?_⟩⟩
  exact (List.pairwise_of_forall fun _ _ => trivial).isChain

section

variable {item : Reading (Option α)} {R : Stretch α} {N n : Nat} {f : α → α} {G : α → Prop}
  {Q : α → α → Prop} {rest : List Lexeme} {as : List α}

/-- The first item is read as one of a section, and the others behind it. -/
theorem ReadsSection.many (hitem : ReadsSection item R N f G Q) {a : α} {w₁ : List Lexeme}
    (ha : R w w₁ a) (hs : Stretch.Items R w₁ rest as) (hrest : Closes rest) (hN : w.length < N)
    (hn : w₁.length < n) : ∃ G₁ G₂, (Readable G Q (a :: as) ↔ G₁ ∧ G₂) ∧
      item.Gives w G₁ (some (f a)) w₁ ∧ (many item n).Gives w₁ G₂ (as.map f) rest := by
  induction as generalizing w w₁ a n with
  | nil =>
    cases hs
    refine ⟨G a, True, by rw [readable_singleton, and_true], hitem.last ha hrest hN,
      .of_eval ?_⟩
    cases n with
    | zero => omega
    | succ n => simp [Reading.many, hitem.left hrest (by omega)]
  | cons b bs ih =>
    cases hs with
    | @cons _ w₂ _ _ _ hb hbs =>
      have hlt := hitem.shrinks ha
      have hlt' := hitem.shrinks hb
      cases n with
      | zero => omega
      | succ n =>
        obtain ⟨G₁, G₂, hG, hfirst, hothers⟩ := ih hb hbs (by omega) (n := n) (by omega)
        refine ⟨G a ∧ Q a b, Readable G Q (b :: bs), readable_cons_cons, hitem.next ha hb hN, ?_⟩
        refine Gives.congr ?_ hG.symm
        exact hfirst.bind (hothers.bind_done rfl)

/-- Items that do not depend on their neighbours, as long as the tokens behind them meet `P`. -/
theorem ReadsSection.of_gives {P : List Lexeme → Prop}
    (hread : ∀ {w rest a}, R w rest a → P rest → w.length < N →
      item.Gives w (G a) (some (f a)) rest)
    (hcloses : ∀ {rest}, Closes rest → P rest) (hnext : ∀ {w w₁ a}, R w w₁ a → P w)
    (hleft : ∀ {rest}, Closes rest → item.eval rest = some (none, rest))
    (hshrinks : ∀ {w w₁ a}, R w w₁ a → w₁.length < w.length) :
    ReadsSection item R N f G fun _ _ => True :=
  { last := fun h hrest hw => hread h (hcloses hrest) hw
    next := fun h hb hw => (hread h (hnext hb) hw).congr (by rw [and_true])
    left := fun hrest _ => hleft hrest
    shrinks := hshrinks }

/-- A section is read if its items can be. -/
theorem ReadsSection.section (hitem : ReadsSection item R N f G Q) {note : String}
    (h : Stretch.OrEmpty (Stretch.Titled note R) w rest as) (hrest : Closes rest)
    (hnote : Refuses (.note note) rest) (hN : w.length < N) (expected : String)
    (rules : List Rule) :
    (orEmpty (titled note item expected rules N)).Gives w (Readable G Q as) (as.map f) rest := by
  cases h with
  | absent =>
    have habsent : (titled note item expected rules N).eval w = some (none, w) := by
      simp [titled, note?_left hnote]
    exact (Gives.of_eval (orEmpty_absent habsent)).congr (by simp)
  | present h =>
    obtain ⟨⟨ha, hs⟩⟩ := h
    rw [List.length_cons] at hN
    have hlt := hitem.shrinks ha
    obtain ⟨G₁, G₂, hG, hfirst, hothers⟩ :=
      hitem.many ha hs hrest (by omega) (n := N) (by omega)
    refine (orEmpty_gives (Gives.congr ?_ hG.symm))
    refine Gives.bind_of_eval note?_taken ?_
    exact (required_gives hfirst expected rules).bind (hothers.bind_done rfl)

end

end Reading

end PackageModel
