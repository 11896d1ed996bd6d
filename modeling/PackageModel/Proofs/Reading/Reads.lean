import PackageModel.Proofs.Grammar.Stretch
import PackageModel.Proofs.Reading.Eval

/-!
# PackageModel.Proofs.Reading.Reads

What a program gives back, in terms of the tokens that it takes.  `Reading.Reads` says that the
result of every evaluation stands in the tokens in a certain way; there is one lemma for each way
to combine programs, and it puts the combination of stretches that has the same name in place of the
combination of programs.
-/

namespace PackageModel.Reading

open Stretch

variable {α β : Type}

/-- Whether the next token is the given one, which then has been taken. -/
inductive Flag (l : Lexeme) : Stretch Bool
  | present {w} : Flag l (l :: w) w true
  | absent {w} (h : w.head? ≠ some l) : Flag l w w false

/-- What the program gives back stands in the tokens that it takes. -/
def Reads (r : Reading α) (R : Stretch α) : Prop :=
  ∀ ⦃w w' a⦄, r.eval w = some (a, w') → R w w' a

/-- A constant has the one result and reads nothing. -/
theorem of_done {a b : α} {w w' : List Lexeme} (h : (done a).eval w = some (b, w')) :
    b = a ∧ w' = w := by
  rw [eval_done, Option.some.injEq, Prod.mk.injEq] at h
  exact ⟨h.1.symm, h.2.symm⟩

/-- What two readings read one after the other splits between them. -/
theorem of_bind {r : Reading α} {f : α → Reading β} {w w' : List Lexeme} {b : β}
    (h : (r.bind f).eval w = some (b, w')) :
    ∃ a w₁, r.eval w = some (a, w₁) ∧ (f a).eval w₁ = some (b, w') := by
  rw [eval_bind, Option.bind_eq_some_iff] at h
  obtain ⟨⟨a, w₁⟩, hr, hf⟩ := h
  exact ⟨a, w₁, hr, hf⟩

/-! ## Single tokens -/

/-- A token that is taken is as wanted, and one that is not is left. -/
theorem text?_reads (t : Terminal) : (text? t).Reads fun w w' o =>
    (∃ l, w = l :: w' ∧ t.accepts l = true ∧ o = some l.value) ∨
      (w = w' ∧ (∀ l, w.head? = some l → t.accepts l ≠ true) ∧ o = none) := by
  intro w w' o h
  cases w with
  | nil => cases h
  | cons l w =>
    by_cases hl : t.accepts l = true
    · simp only [text?, eval, takeLexeme, if_pos hl] at h
      cases h
      exact .inl ⟨l, rfl, hl, rfl⟩
    · simp only [text?, eval, takeLexeme, if_neg hl] at h
      cases h
      exact .inr ⟨rfl, by simpa using hl, rfl⟩

/-- A required text is the value of the next lexeme, which is accepted. -/
theorem text_reads (t : Terminal) (rules : List Rule) : (text t rules).Reads fun w w' v =>
    ∃ l, w = l :: w' ∧ t.accepts l = true ∧ v = l.value := by
  intro w w' v h
  cases w with
  | nil => cases h
  | cons l w =>
    by_cases hl : t.accepts l = true
    · simp only [text, eval, takeLexeme, if_pos hl] at h
      cases h
      exact ⟨l, rfl, hl, rfl⟩
    · simp only [text, eval, takeLexeme, if_neg hl] at h
      cases h

/-- A terminal of fixed text accepts one lexeme. -/
theorem accepts_fixed {k : Kind} {v : String} {l : Lexeme}
    (h : (Terminal.mk k (some v)).accepts l = true) : l = ⟨k, v⟩ := by
  obtain ⟨kind, value⟩ := l
  simpa [Terminal.accepts] using h

/-- A terminal of a kind leaves the text of the lexeme open. -/
theorem accepts_kind {k : Kind} {l : Lexeme} (h : (Terminal.mk k none).accepts l = true) :
    l = ⟨k, l.value⟩ := by
  obtain ⟨kind, value⟩ := l
  simpa [Terminal.accepts] using h

/-- An optional lexeme of a kind gives its text. -/
theorem kind?_reads (k : Kind) :
    (text? ⟨k, none⟩).Reads (Maybe fun w w' v => w = ⟨k, v⟩ :: w') := by
  intro w w' o h
  rcases text?_reads _ h with ⟨l, rfl, hl, rfl⟩ | ⟨rfl, -, rfl⟩
  · exact .present (by rw [← accepts_kind hl])
  · exact .absent

/-- A required lexeme of a kind gives its text. -/
theorem kind_reads (k : Kind) (rules : List Rule) :
    (text ⟨k, none⟩ rules).Reads fun w w' v => w = ⟨k, v⟩ :: w' := by
  intro w w' v h
  obtain ⟨l, rfl, hl, rfl⟩ := text_reads _ _ h
  rw [← accepts_kind hl]

/-- An optional identifier. -/
theorem identifier?_reads : identifier?.Reads (Maybe fun w w' i => w = .name i :: w') :=
  kind?_reads .identifier

/-- A required identifier. -/
theorem identifier_reads (rules : List Rule) :
    (identifier rules).Reads fun w w' i => w = .name i :: w' :=
  kind_reads .identifier rules

/-- A fixed token is taken if it comes next. -/
theorem fixed?_reads (k : Kind) (v : String) :
    ((text? ⟨k, some v⟩).bind fun o => done o.isSome).Reads (Flag ⟨k, v⟩) := by
  intro w w' b h
  obtain ⟨o, w₁, ho, h⟩ := of_bind h
  obtain ⟨rfl, rfl⟩ := of_done h
  rcases text?_reads _ ho with ⟨l, rfl, hl, rfl⟩ | ⟨rfl, hw, rfl⟩
  · rw [accepts_fixed hl]
    exact .present
  · refine .absent fun hhead => hw _ hhead ?_
    simp [Terminal.accepts]

/-- An optional delimiter, which answers whether it was there. -/
theorem mark?_reads (m : String) : (mark? m).Reads (Flag (.mark m)) := fixed?_reads .delimiter m

/-- An optional keyword, which answers whether it was there. -/
theorem keyword?_reads (word : String) : (keyword? word).Reads (Flag (.name word)) :=
  fixed?_reads .identifier word

/-- An optional heading, which answers whether it was there. -/
theorem note?_reads (line : String) : (note? line).Reads (Flag ⟨.note, line⟩) :=
  fixed?_reads .note line

/-- A required lexeme of fixed text, which has no result of its own. -/
theorem fixed_reads (k : Kind) (v : String) (rules : List Rule) :
    ((text ⟨k, some v⟩ rules).bind fun _ => done ()).Reads fun w w' _ => w = ⟨k, v⟩ :: w' := by
  intro w w' _ h
  obtain ⟨_, w₁, ht, h⟩ := of_bind h
  obtain ⟨-, rfl⟩ := of_done h
  obtain ⟨l, rfl, hl, -⟩ := text_reads _ _ ht
  rw [accepts_fixed hl]

/-- A required delimiter. -/
theorem mark_reads (m : String) (rules : List Rule) :
    (mark m rules).Reads fun w w' _ => w = .mark m :: w' :=
  fixed_reads .delimiter m rules

/-- A required keyword. -/
theorem keyword_reads (word : String) (rules : List Rule) :
    (keyword word rules).Reads fun w w' _ => w = .name word :: w' :=
  fixed_reads .identifier word rules

/-- Two tokens are taken together. -/
theorem taken_reads (t u : Terminal) : (take t (.taken u) done).Reads fun w w' o =>
    (∃ l m, w = l :: m :: w' ∧ t.accepts l = true ∧ u.accepts m = true ∧ o = some l.value) ∨
      (w = w' ∧ o = none) := by
  intro w w' o h
  rcases w with _ | ⟨l, w⟩
  · cases h
  by_cases hl : t.accepts l = true
  · rcases w with _ | ⟨m, w⟩
    · simp [eval, takeLexeme, hl] at h
    by_cases hm : u.accepts m = true
    · simp only [eval, takeLexeme, if_pos hl, if_pos hm] at h
      cases h
      exact .inl ⟨l, m, rfl, hl, hm, rfl⟩
    · simp only [eval, takeLexeme, if_pos hl, if_neg hm] at h
      cases h
      exact .inr ⟨rfl, rfl⟩
  · simp only [eval, takeLexeme, if_neg hl] at h
    cases h
    exact .inr ⟨rfl, rfl⟩

/-- A token is not taken in front of an excluded one. -/
theorem not_reads (t u : Terminal) : (take t (.not u) done).Reads fun w w' o =>
    (∃ l, w = l :: w' ∧ t.accepts l = true ∧ o = some l.value) ∨ (w = w' ∧ o = none) := by
  intro w w' o h
  rcases w with _ | ⟨l, w⟩
  · cases h
  by_cases hl : t.accepts l = true
  · rcases w with _ | ⟨m, w⟩
    · simp [eval, takeLexeme, hl] at h
    by_cases hm : u.accepts m = true
    · simp only [eval, takeLexeme, if_pos hl, if_pos hm] at h
      cases h
      exact .inr ⟨rfl, rfl⟩
    · simp only [eval, takeLexeme, if_pos hl, if_neg hm] at h
      cases h
      exact .inl ⟨l, rfl, hl, rfl⟩
  · simp only [eval, takeLexeme, if_neg hl] at h
    cases h
    exact .inr ⟨rfl, rfl⟩

/-! ## Combinations -/

variable {R : Stretch α} {item : Reading (Option α)}

/-- What a program may give back can be replaced by what follows from it. -/
theorem Reads.present {S : Stretch α} (hitem : item.Reads (Maybe R))
    (h : ∀ {w w' a}, R w w' a → S w w' a) : item.Reads (Maybe S) := by
  intro w w' o ho
  cases hitem ho with
  | absent => exact .absent
  | present ha => exact .present (h ha)

/-- A required node is there where the reading has a result. -/
theorem required_reads {rule : Reading (Option α)} (hrule : rule.Reads (Maybe R))
    (expected : String) (rules : List Rule) : (required rule expected rules).Reads R := by
  intro w w' a h
  obtain ⟨o, w₁, ho, h⟩ := of_bind h
  cases hrule ho with
  | absent => cases h
  | present ha =>
    obtain ⟨rfl, rfl⟩ := of_done h
    exact ha

/-- A list that is missing is an empty one. -/
theorem orEmpty_reads {R : Stretch (List α)} {list : Reading (Option (List α))}
    (hlist : list.Reads (Maybe R)) : (orEmpty list).Reads (OrEmpty R) := by
  intro w w' as h
  obtain ⟨o, w₁, ho, h⟩ := of_bind h
  obtain ⟨rfl, rfl⟩ := of_done h
  exact OrEmpty.iff_maybe.2 ⟨o, rfl, hlist ho⟩

/-- The items stand one behind the other, to the first that is missing. -/
theorem many_reads (hitem : item.Reads (Maybe R)) (n : Nat) : (many item n).Reads (Items R) := by
  induction n with
  | zero =>
    intro w w' as h
    obtain ⟨rfl, rfl⟩ := of_done h
    exact .nil
  | succ n ih =>
    intro w w' as h
    obtain ⟨o, w₁, ho, h⟩ := of_bind h
    cases hitem ho with
    | absent =>
      obtain ⟨rfl, rfl⟩ := of_done h
      exact .nil
    | present ha =>
      obtain ⟨bs, w₂, hs, h⟩ := of_bind h
      obtain ⟨rfl, rfl⟩ := of_done h
      exact .cons ha (ih hs)

/-- Where there is a first item there is a list. -/
theorem oneOrMore_reads (hitem : item.Reads (Maybe R)) (n : Nat) :
    (oneOrMore item n).Reads (Maybe (OneOrMore R)) := by
  intro w w' o h
  obtain ⟨o', w₁, ho, h⟩ := of_bind h
  cases hitem ho with
  | absent =>
    obtain ⟨rfl, rfl⟩ := of_done h
    exact .absent
  | present ha =>
    obtain ⟨as, w₂, hs, h⟩ := of_bind h
    obtain ⟨rfl, rfl⟩ := of_done h
    exact .present (.mk ha (many_reads hitem n hs))

/-- Each further item stands behind a comma. -/
theorem commaItems_reads (hitem : item.Reads (Maybe R)) (n : Nat) :
    (commaItems item n).Reads (CommaItems R) := by
  induction n with
  | zero =>
    intro w w' as h
    obtain ⟨rfl, rfl⟩ := of_done h
    exact .nil
  | succ n ih =>
    intro w w' as h
    obtain ⟨b, w₁, hb, h₁⟩ := of_bind h
    cases mark?_reads _ hb with
    | absent =>
      obtain ⟨rfl, rfl⟩ := of_done h₁
      exact .nil
    | present =>
      obtain ⟨o, w₂, ho, h₂⟩ := of_bind h₁
      cases hitem ho with
      | absent =>
        obtain ⟨rfl, rfl⟩ := of_done h₂
        exact .trailing
      | present ha =>
        obtain ⟨bs, w₃, hs, h₃⟩ := of_bind h₂
        obtain ⟨rfl, rfl⟩ := of_done h₃
        exact .cons ha (ih hs)

/-- A list with commas between the items, or no item at all. -/
theorem commaList_reads (hitem : item.Reads (Maybe R)) (n : Nat) :
    (commaList item n).Reads (Maybe (CommaList R)) := by
  intro w w' o h
  obtain ⟨o', w₁, ho, h⟩ := of_bind h
  cases hitem ho with
  | absent =>
    obtain ⟨rfl, rfl⟩ := of_done h
    exact .absent
  | present ha =>
    obtain ⟨as, w₂, hs, h⟩ := of_bind h
    obtain ⟨rfl, rfl⟩ := of_done h
    exact .present (.mk ha (commaItems_reads hitem n hs))

/-- A required list between brackets, which stand together or not at all. -/
theorem bracketed_reads {R : Stretch (List α)} {list : Reading (Option (List α))}
    (hlist : list.Reads (Maybe R)) (expected : String) (rules : List Rule) :
    (bracketed list expected rules).Reads (Bracketed R) := by
  intro w w' as h
  obtain ⟨b, w₁, hb, h₁⟩ := of_bind h
  cases mark?_reads _ hb with
  | absent =>
    obtain ⟨rfl, rfl⟩ := of_done h₁
    exact .absent
  | present =>
    obtain ⟨bs, w₂, hs, h₂⟩ := of_bind h₁
    obtain ⟨_, w₃, hm, h₃⟩ := of_bind h₂
    obtain ⟨rfl, rfl⟩ := of_done h₃
    obtain rfl := mark_reads _ _ hm
    exact .present (required_reads hlist _ _ hs)

/-- A heading, and behind it at least one item. -/
theorem titled_reads (hitem : item.Reads (Maybe R)) (note expected : String)
    (rules : List Rule) (n : Nat) :
    (titled note item expected rules n).Reads (Maybe (Titled note R)) := by
  intro w w' o h
  obtain ⟨b, w₁, hb, h₁⟩ := of_bind h
  cases note?_reads _ hb with
  | absent =>
    obtain ⟨rfl, rfl⟩ := of_done h₁
    exact .absent
  | present =>
    obtain ⟨a, w₂, ha, h₂⟩ := of_bind h₁
    obtain ⟨as, w₃, hs, h₃⟩ := of_bind h₂
    obtain ⟨rfl, rfl⟩ := of_done h₃
    exact .present (.mk (.mk (required_reads hitem _ _ ha) (many_reads hitem n hs)))

end PackageModel.Reading
