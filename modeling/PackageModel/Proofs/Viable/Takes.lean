import PackageModel.Proofs.Grammar.Words
import PackageModel.Proofs.Reading.Reads
import PackageModel.Proofs.Viable.Stuck

/-!
# PackageModel.Proofs.Viable.Takes

Programs and the languages that they read.  `Reading.Takes` says that a program takes a word of a
language, and that it gets stuck only behind the beginning of one.  There is one lemma for each way
to combine programs, and it combines the languages in the same way.
-/

namespace PackageModel.Reading

open Computability

variable {α β : Type} {L M : Language Lexeme} {w w' : List Lexeme}

/-- A program that gives back a result of which `P` holds has taken a word of the language, and
nothing if `P` does not hold of it; if it gets stuck, it has taken the beginning of a word. -/
structure TakesWhen (P : α → Prop) (r : Reading α) (L : Language Lexeme) : Prop where
  taken {w w' : List Lexeme} {a : α} (h : r.eval w = some (a, w')) (ha : P a) :
    ∃ u ∈ L, w = u ++ w'
  left {w w' : List Lexeme} {a : α} (h : r.eval w = some (a, w')) (ha : ¬ P a) : w = w'
  stuck {w rest : List Lexeme} (h : r.stuck? w = some rest) : ∃ u v, u ++ v ∈ L ∧ w = u ++ rest
  nonempty : ∃ u, u ∈ L

/-- The program takes a word of the language. -/
abbrev Takes (r : Reading α) (L : Language Lexeme) : Prop := TakesWhen (fun _ => True) r L

/-- The program takes a word of the language or has no result. -/
abbrev MayTake (r : Reading (Option α)) (L : Language Lexeme) : Prop :=
  TakesWhen (fun o => o.isSome = true) r L

namespace TakesWhen

variable {P : α → Prop} {Q : β → Prop} {r : Reading α} {f : α → Reading β}

/-- More words may be allowed. -/
theorem mono (h : TakesWhen P r L) (hLM : L ≤ M) : TakesWhen P r M where
  taken hw ha :=
    have ⟨u, hu, hw⟩ := h.taken hw ha
    ⟨u, hLM hu, hw⟩
  left := h.left
  stuck hw :=
    have ⟨u, v, huv, hw⟩ := h.stuck hw
    ⟨u, v, hLM huv, hw⟩
  nonempty := h.nonempty.imp fun _ hu => hLM hu

/-- A constant takes the empty word. -/
theorem pure (a : α) : Takes (done a) 1 where
  taken h _ := ⟨[], rfl, (of_done h).2.symm⟩
  left _ hn := absurd trivial hn
  stuck h := nomatch h
  nonempty := ⟨[], rfl⟩

/-- Programs behind each other take a word of each, unless the first one takes nothing. -/
theorem taken_bind {b : β} (hr : TakesWhen P r L) (hf : ∀ a, P a → Takes (f a) M)
    (h : (r.bind f).eval w = some (b, w')) :
    (∃ u ∈ L * M, w = u ++ w') ∨ ∃ a, ¬ P a ∧ (f a).eval w = some (b, w') := by
  obtain ⟨a, w₁, hw, h₁⟩ := of_bind h
  by_cases ha : P a
  · obtain ⟨x, hx, rfl⟩ := hr.taken hw ha
    obtain ⟨y, hy, rfl⟩ := (hf a ha).taken h₁ trivial
    exact .inl ⟨x ++ y, Language.append_mem_mul hx hy, by rw [List.append_assoc]⟩
  · obtain rfl := hr.left hw ha
    exact .inr ⟨a, ha, h₁⟩

/-- Where the second program gets stuck, the first one has taken its word. -/
theorem stuck_bind {rest : List Lexeme} (hr : TakesWhen P r L) (hM : ∃ u, u ∈ M)
    (hf : ∀ a, P a → Takes (f a) M) (hdone : ∀ a, ¬ P a → ∃ b, f a = done b)
    (h : (r.bind f).stuck? w = some rest) : ∃ u v, u ++ v ∈ L * M ∧ w = u ++ rest := by
  rcases of_stuck_bind h with hr₁ | ⟨a, w₁, hw, hf₁⟩
  · obtain ⟨u, v, huv, rfl⟩ := hr.stuck hr₁
    obtain ⟨m, hm⟩ := hM
    refine ⟨u, v ++ m, ?_, rfl⟩
    rw [← List.append_assoc]
    exact Language.append_mem_mul huv hm
  · by_cases ha : P a
    · obtain ⟨x, hx, rfl⟩ := hr.taken hw ha
      obtain ⟨u, v, huv, rfl⟩ := (hf a ha).stuck hf₁
      refine ⟨x ++ u, v, ?_, by rw [List.append_assoc]⟩
      rw [List.append_assoc]
      exact Language.append_mem_mul hx huv
    · obtain ⟨b, hb⟩ := hdone a ha
      rw [hb] at hf₁
      cases hf₁

/-- Two languages with words have a word together. -/
theorem nonempty_bind (hr : TakesWhen P r L) (hP : ∃ a, P a) (hf : ∀ a, P a → Takes (f a) M) :
    ∃ u, u ∈ L * M := by
  obtain ⟨a, ha⟩ := hP
  obtain ⟨x, hx⟩ := hr.nonempty
  obtain ⟨y, hy⟩ := (hf a ha).nonempty
  exact ⟨x ++ y, Language.append_mem_mul hx hy⟩

/-- A rule that is present if its first part is. -/
theorem bind_rule (hr : TakesWhen P r L) (hP : ∃ a, P a) (hf : ∀ a, P a → Takes (f a) M)
    (hdone : ∀ a, ¬ P a → ∃ b, f a = done b ∧ ¬ Q b)
    (hleft : ∀ {w w' b}, (r.bind f).eval w = some (b, w') → ¬ Q b → w = w') :
    TakesWhen Q (r.bind f) (L * M) where
  taken h hb := by
    rcases hr.taken_bind hf h with hu | ⟨a, ha, h₁⟩
    · exact hu
    · obtain ⟨c, hc, hn⟩ := hdone a ha
      rw [hc] at h₁
      rw [(of_done h₁).1] at hb
      exact absurd hb hn
  left := hleft
  stuck h := by
    obtain ⟨a, ha⟩ := hP
    refine hr.stuck_bind (hf a ha).nonempty hf (fun a hn => ?_) h
    exact (hdone a hn).imp fun _ hb => hb.1
  nonempty := hr.nonempty_bind hP hf

/-- One program behind another one. -/
theorem bind [Nonempty α] (hr : Takes r L) (hf : ∀ a, Takes (f a) M) :
    Takes (r.bind f) (L * M) :=
  have ⟨a⟩ := ‹Nonempty α›
  hr.bind_rule ⟨a, trivial⟩ (fun a _ => hf a) (fun _ hn => absurd trivial hn)
    fun _ hn => absurd trivial hn

/-- Something that is read only if its first part is present. -/
theorem bind_or (hr : TakesWhen P r L) (hM : ∃ u, u ∈ M) (hf : ∀ a, P a → Takes (f a) M)
    (hdone : ∀ a, ¬ P a → ∃ b, f a = done b) : Takes (r.bind f) (1 + L * M) where
  taken h _ := by
    rcases hr.taken_bind hf h with ⟨u, hu, hw⟩ | ⟨a, ha, h₁⟩
    · exact ⟨u, .inr hu, hw⟩
    · obtain ⟨b, hb⟩ := hdone a ha
      rw [hb] at h₁
      exact ⟨[], .inl rfl, (of_done h₁).2.symm⟩
  left _ hn := absurd trivial hn
  stuck h := by
    obtain ⟨u, v, huv, hw⟩ := hr.stuck_bind hM hf hdone h
    exact ⟨u, v, .inr huv, hw⟩
  nonempty := ⟨[], .inl rfl⟩

/-- A program whose result is made into another one, which is present as well or is not. -/
theorem map (hr : TakesWhen P r L) (hf : ∀ a, ∃ b, f a = done b ∧ (Q b ↔ P a)) :
    TakesWhen Q (r.bind f) L where
  taken h hb := by
    obtain ⟨a, w₁, hw, h₁⟩ := of_bind h
    obtain ⟨c, hc, hQ⟩ := hf a
    rw [hc] at h₁
    obtain ⟨rfl, rfl⟩ := of_done h₁
    exact hr.taken hw (hQ.1 hb)
  left h hb := by
    obtain ⟨a, w₁, hw, h₁⟩ := of_bind h
    obtain ⟨c, hc, hQ⟩ := hf a
    rw [hc] at h₁
    obtain ⟨rfl, rfl⟩ := of_done h₁
    exact hr.left hw (mt hQ.2 hb)
  stuck h := by
    rcases of_stuck_bind h with h₁ | ⟨a, w₁, -, h₁⟩
    · exact hr.stuck h₁
    · obtain ⟨c, hc, -⟩ := hf a
      rw [hc] at h₁
      cases h₁
  nonempty := hr.nonempty

/-- A program that gives back whatever is made of a result. -/
theorem bind_done (hr : Takes r L) (hf : ∀ a, ∃ b, f a = done b) : Takes (r.bind f) L :=
  hr.map fun a => (hf a).imp fun _ hb => ⟨hb, Iff.rfl⟩

/-- What stands for a right-hand side stands for the rule. -/
theorem rule {x : Rule} (h : TakesWhen P r L) (hx : x.composes = true)
    (hL : L = x.production.words) : TakesWhen P r x.words :=
  h.mono (Rule.le_words hx hL)

/-- A result that does not have to be there. -/
theorem optional {r : Reading (Option α)} (hr : MayTake r L) : Takes r (1 + L) where
  taken {w w' o} h _ := by
    by_cases ho : o.isSome = true
    · obtain ⟨u, hu, hw⟩ := hr.taken h ho
      exact ⟨u, .inr hu, hw⟩
    · exact ⟨[], .inl rfl, hr.left h ho⟩
  left _ hn := absurd trivial hn
  stuck h :=
    have ⟨u, v, huv, hw⟩ := hr.stuck h
    ⟨u, v, .inr huv, hw⟩
  nonempty := ⟨[], .inl rfl⟩

end TakesWhen

/-! ## Single tokens -/

/-- Each terminal accepts some lexeme. -/
theorem mem_terminal_words (t : Terminal) : ∃ u, u ∈ t.words := by
  obtain ⟨kind, value⟩ := t
  refine ⟨[⟨kind, value.getD ""⟩], _, ?_, rfl⟩
  cases value <;> simp [Terminal.accepts]

/-- An optional token is a word of its terminal, or it is left. -/
theorem text?_mayTake (t : Terminal) : (text? t).MayTake t.words where
  taken h ho := by
    rcases text?_reads t h with ⟨l, rfl, hl, -⟩ | ⟨-, -, rfl⟩
    · exact ⟨[l], ⟨l, hl, rfl⟩, rfl⟩
    · cases ho
  left h ho := by
    rcases text?_reads t h with ⟨l, -, -, rfl⟩ | ⟨hw, -, -⟩
    · exact absurd rfl ho
    · exact hw
  stuck {w rest} h := by
    obtain ⟨u, hu⟩ := mem_terminal_words t
    cases w with
    | nil =>
      cases h
      exact ⟨[], u, hu, rfl⟩
    | cons l w => by_cases hl : t.accepts l = true <;> simp [text?, stuck?, takeLexeme, hl] at h
  nonempty := mem_terminal_words t

/-- A token that has to be there is not taken where it is missing. -/
theorem of_text_stuck {t : Terminal} {rules : List Rule} {rest : List Lexeme}
    (h : (text t rules).stuck? w = some rest) : w = rest := by
  cases w with
  | nil => simpa [text, stuck?, takeLexeme] using h
  | cons l w => by_cases hl : t.accepts l = true <;> simp_all [text, stuck?, takeLexeme]

/-- A required token is a word of its terminal; a run gets stuck in front of it. -/
theorem text_takes (t : Terminal) (rules : List Rule) : (text t rules).Takes t.words where
  taken h _ := by
    obtain ⟨l, rfl, hl, -⟩ := text_reads t rules h
    exact ⟨[l], ⟨l, hl, rfl⟩, rfl⟩
  left _ hn := absurd trivial hn
  stuck h := by
    obtain ⟨u, hu⟩ := mem_terminal_words t
    exact ⟨[], u, hu, of_text_stuck h⟩
  nonempty := mem_terminal_words t

/-- A required identifier. -/
theorem identifier_takes (rules : List Rule) :
    (identifier rules).Takes Production.identifier.words :=
  text_takes _ rules

/-- A required keyword. -/
theorem keyword_takes (word : String) (rules : List Rule) :
    (keyword word rules).Takes (Production.word word).words :=
  (text_takes _ rules).bind_done fun _ => ⟨(), rfl⟩

/-- A required delimiter. -/
theorem mark_takes (m : String) (rules : List Rule) :
    (mark m rules).Takes (Production.mark m).words :=
  (text_takes _ rules).bind_done fun _ => ⟨(), rfl⟩

/-- A flag tells whether the token has been taken. -/
theorem flag_takes (t : Terminal) :
    TakesWhen (· = true) ((text? t).bind fun o => done o.isSome) t.words :=
  (text?_mayTake t).map fun o => ⟨o.isSome, rfl, Iff.rfl⟩

/-! ## Combinations -/

section

variable {item : Reading (Option α)} {R : Stretch α}

/-- A program without a result has taken nothing. -/
theorem left_of_reads (h : item.Reads (.Maybe R)) {o : Option α}
    (hw : item.eval w = some (o, w')) (ho : ¬ o.isSome = true) : w = w' := by
  cases h hw with
  | absent => rfl
  | present _ => exact absurd rfl ho

/-! ### Choices by a result and by a flag -/

namespace TakesWhen

section

variable {f : Option α → Reading β} {g : Bool → Reading β} {flag : Reading Bool}

/-- An optional item, and what stands behind it only where it is there. -/
theorem bind_or_some (hr : item.MayTake L) (hM : ∃ u, u ∈ M) (hf : ∀ a, Takes (f (some a)) M)
    (hnone : ∃ b, f none = done b) : Takes (item.bind f) (1 + L * M) := by
  refine hr.bind_or hM ?_ ?_
  · rintro (_ | a) ha
    · cases ha
    · exact hf a
  · intro o ho
    obtain rfl : o = none := by simpa using ho
    exact hnone

/-- The same behind a token that tells whether it was there. -/
theorem bind_or_true (hr : TakesWhen (· = true) flag L) (hg : Takes (g true) M)
    (hfalse : ∃ b, g false = done b) : Takes (flag.bind g) (1 + L * M) := by
  refine hr.bind_or hg.nonempty ?_ ?_
  · rintro _ rfl
    exact hg
  · intro b hb
    obtain rfl := Bool.eq_false_of_not_eq_true hb
    exact hfalse

end

section

variable {f : Option α → Reading (Option β)} {g : Bool → Reading (Option β)}
  {flag : Reading Bool} {S : Stretch β}

/-- A rule that starts with an item: where the item is missing, so is the node. -/
theorem bind_some [Nonempty α] (hr : item.MayTake L) (hf : ∀ a, Takes (f (some a)) M)
    (hnone : f none = done none) (hreads : (item.bind f).Reads (.Maybe S)) :
    (item.bind f).MayTake (L * M) := by
  obtain ⟨a⟩ := ‹Nonempty α›
  refine hr.bind_rule ⟨some a, rfl⟩ ?_ ?_ (left_of_reads hreads)
  · rintro (_ | a) ha
    · cases ha
    · exact hf a
  · intro o ho
    obtain rfl : o = none := by simpa using ho
    exact ⟨none, hnone, nofun⟩

/-- A rule that starts with a token: where the token is missing, so is the node. -/
theorem bind_true (hr : TakesWhen (· = true) flag L) (hg : Takes (g true) M)
    (hfalse : g false = done none) (hreads : (flag.bind g).Reads (.Maybe S)) :
    (flag.bind g).MayTake (L * M) := by
  refine hr.bind_rule ⟨true, rfl⟩ ?_ ?_ (left_of_reads hreads)
  · rintro _ rfl
    exact hg
  · intro b hb
    obtain rfl := Bool.eq_false_of_not_eq_true hb
    exact ⟨none, hfalse, nofun⟩

/-- A rule, or else another one. -/
theorem or_else (h : item.MayTake L) (hsome : ∀ a, ∃ b, f (some a) = done (some b))
    (hnone : (f none).MayTake M) : (item.bind f).MayTake (L + M) where
  taken h₁ hb := by
    obtain ⟨o, w₁, ho, h₂⟩ := of_bind h₁
    -- without a result the first rule has taken nothing, so the other one starts at the same place
    cases o with
    | none =>
      obtain rfl := h.left ho nofun
      obtain ⟨u, hu, hw⟩ := hnone.taken h₂ hb
      exact ⟨u, .inr hu, hw⟩
    | some a =>
      obtain ⟨b, hf⟩ := hsome a
      rw [hf] at h₂
      obtain ⟨-, rfl⟩ := of_done h₂
      obtain ⟨u, hu, hw⟩ := h.taken ho rfl
      exact ⟨u, .inl hu, hw⟩
  left h₁ hb := by
    obtain ⟨o, w₁, ho, h₂⟩ := of_bind h₁
    cases o with
    | none => exact (h.left ho nofun).trans (hnone.left h₂ hb)
    | some a =>
      obtain ⟨b, hf⟩ := hsome a
      rw [hf] at h₂
      rw [(of_done h₂).1] at hb
      exact absurd rfl hb
  stuck h₁ := by
    rcases of_stuck_bind h₁ with h₂ | ⟨o, w₁, ho, h₂⟩
    · obtain ⟨u, v, huv, hw⟩ := h.stuck h₂
      exact ⟨u, v, .inl huv, hw⟩
    · cases o with
      | none =>
        obtain rfl := h.left ho nofun
        obtain ⟨u, v, huv, hw⟩ := hnone.stuck h₂
        exact ⟨u, v, .inr huv, hw⟩
      | some a =>
        obtain ⟨b, hf⟩ := hsome a
        rw [hf] at h₂
        cases h₂
  nonempty := h.nonempty.imp fun _ => .inl

/-- A rule whose result is made into another one. -/
theorem map_some (h : item.MayTake L) (hsome : ∀ a, ∃ b, f (some a) = done (some b))
    (hnone : f none = done none) : (item.bind f).MayTake L := by
  refine h.map fun o => ?_
  cases o with
  | none => exact ⟨none, hnone, Iff.rfl⟩
  | some a =>
    obtain ⟨b, hb⟩ := hsome a
    exact ⟨some b, hb, iff_of_true rfl rfl⟩

end

/-! ### Required results -/

/-- Where the item is missing the run is stuck, and any word of the language is what could
follow. -/
theorem required (h : item.MayTake L) (expected : String) (rules : List Rule) :
    Takes (Reading.required item expected rules) L where
  taken hw _ := by
    obtain ⟨o, w₁, ho, h₁⟩ := of_bind hw
    cases o with
    | none => cases h₁
    | some a =>
      obtain ⟨-, rfl⟩ := of_done h₁
      exact h.taken ho rfl
  left _ hn := absurd trivial hn
  stuck hw := by
    rcases of_stuck_bind hw with h₁ | ⟨o, w₁, ho, h₁⟩
    · exact h.stuck h₁
    · cases o with
      | none =>
        cases h₁
        obtain ⟨u, hu⟩ := h.nonempty
        exact ⟨[], u, hu, h.left ho nofun⟩
      | some a => cases h₁
  nonempty := h.nonempty

/-- A list that may be missing. -/
theorem orEmpty {list : Reading (Option (List α))} (h : list.MayTake L) :
    Takes (Reading.orEmpty list) (1 + L) :=
  h.optional.bind_done fun o => ⟨o.getD [], rfl⟩

/-! ### Lists -/

/-- By induction on the number of items that may still be read. -/
theorem many (h : item.MayTake L) (n : Nat) : Takes (Reading.many item n) L∗ := by
  induction n with
  | zero => exact (TakesWhen.pure []).mono one_le_kstar
  | succ n ih =>
    rw [← Language.one_add_self_mul_kstar_eq_kstar L]
    exact h.bind_or_some ⟨[], Language.nil_mem_kstar L⟩
      (fun a => ih.bind_done fun as => ⟨a :: as, rfl⟩) ⟨[], rfl⟩

/-- An item and any number of further ones. -/
theorem oneOrMore [Nonempty α] (h : item.MayTake L) (hreads : item.Reads (.Maybe R)) (n : Nat) :
    (Reading.oneOrMore item n).MayTake (L * L∗) :=
  h.bind_some (fun a => (h.many n).bind_done fun as => ⟨some (a :: as), rfl⟩) rfl
    (oneOrMore_reads hreads n)

end TakesWhen

/-- What may stand behind the first item of a list with commas. -/
def commaWords (L : Language Lexeme) : Language Lexeme :=
  ((Production.mark ",").words * L)∗ * (1 + (Production.mark ",").words)

/-- Behind an item there may be nothing. -/
theorem nil_mem_commaWords (L : Language Lexeme) : [] ∈ commaWords L :=
  Language.append_mem_mul (Language.nil_mem_kstar _) (.inl rfl)

/-- Behind the first item there is nothing, or a comma and perhaps an item and what is behind it. -/
theorem commaWords_eq (L : Language Lexeme) :
    commaWords L = 1 + (Production.mark ",").words * (1 + L * commaWords L) := by
  unfold commaWords
  generalize (Production.mark ",").words = C
  symm
  calc 1 + C * (1 + L * ((C * L)∗ * (1 + C)))
      = (1 + C) + C * L * (C * L)∗ * (1 + C) := by
        simp only [mul_add, mul_one, mul_assoc, add_assoc]
    _ = (1 + C * L * (C * L)∗) * (1 + C) := by rw [add_mul, one_mul]
    _ = (C * L)∗ * (1 + C) := by rw [Language.one_add_self_mul_kstar_eq_kstar]

namespace TakesWhen

/-- By induction on the number of items, along `commaWords_eq`. -/
theorem commaItems (h : item.MayTake L) (n : Nat) :
    Takes (Reading.commaItems item n) (commaWords L) := by
  induction n with
  | zero =>
    refine (TakesWhen.pure []).mono fun u hu => ?_
    rw [hu]
    exact nil_mem_commaWords L
  | succ n ih =>
    rw [commaWords_eq]
    refine (flag_takes (.delimiter ",")).bind_or_true ?_ ⟨[], rfl⟩
    exact h.bind_or_some ⟨[], nil_mem_commaWords L⟩
      (fun a => ih.bind_done fun as => ⟨a :: as, rfl⟩) ⟨[], rfl⟩

/-- An item and what may stand behind it. -/
theorem commaList [Nonempty α] (h : item.MayTake L) (hreads : item.Reads (.Maybe R)) (n : Nat) :
    (Reading.commaList item n).MayTake (L * commaWords L) :=
  h.bind_some (fun a => (h.commaItems n).bind_done fun as => ⟨some (a :: as), rfl⟩) rfl
    (commaList_reads hreads n)

/-- A list between brackets may be missing; with the opening bracket, all of it has to follow. -/
theorem bracketed {list : Reading (Option (List α))} {r : Rule} (h : list.MayTake r.words)
    (expected : String) (rules : List Rule) :
    Takes (Reading.bracketed list expected rules) (Production.bracketed r).words := by
  have hwords : (Production.bracketed r).words =
      1 + (Production.mark "[").words * (r.words * (Production.mark "]").words) :=
    congrArg _ (mul_assoc _ _ _)
  rw [hwords]
  refine (flag_takes (.delimiter "[")).bind_or_true ?_ ⟨[], rfl⟩
  exact (h.required expected rules).bind fun as =>
    (mark_takes "]" rules).bind_done fun _ => ⟨as, rfl⟩

/-- A heading and at least one item. -/
theorem titled [Nonempty α] (h : item.MayTake L) (hreads : item.Reads (.Maybe R))
    (note expected : String) (rules : List Rule) (n : Nat) :
    (Reading.titled note item expected rules n).MayTake
      ((Terminal.note note).words * (L * L∗)) := by
  refine (flag_takes (.note note)).bind_true ?_ rfl (titled_reads hreads note expected rules n)
  exact (h.required expected rules).bind fun a =>
    (h.many n).bind_done fun as => ⟨some (a :: as), rfl⟩

end TakesWhen

end

end PackageModel.Reading
