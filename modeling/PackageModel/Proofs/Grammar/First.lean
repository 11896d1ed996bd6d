import PackageModel.Proofs.Grammar.Derivation

/-!
# PackageModel.Proofs.Grammar.First

The tokens that the rules start with.  No rule derives an empty list of tokens, and the first token
of what it derives is accepted by one of `Rule.starts`.  A reader that looks one token ahead
decides by this whether a rule is absent.
-/

namespace PackageModel

namespace Terminal

/-- A terminal accepts a lexeme of its kind, and one text only if it has one. -/
theorem accepts_iff {t : Terminal} {l : Lexeme} :
    t.accepts l = true ↔ l.kind = t.kind ∧ ∀ v, t.value = some v → l.value = v := by
  obtain ⟨kind, value⟩ := t
  cases value <;> simp [accepts]

/-- No token is accepted by both terminals. -/
def excludes (s t : Terminal) : Bool :=
  s.kind ≠ t.kind || (s.value.any fun v => t.value.any (v ≠ ·))

/-- Two terminals that exclude each other accept no lexeme in common. -/
theorem not_accepts_of_excludes {s t : Terminal} {l : Lexeme} (h : s.excludes t = true)
    (ht : t.accepts l = true) : s.accepts l = false := by
  rw [accepts_iff] at ht
  rw [← Bool.not_eq_true, accepts_iff]
  rintro ⟨hk, hv⟩
  obtain ⟨skind, svalue⟩ := s
  obtain ⟨tkind, tvalue⟩ := t
  cases svalue <;> cases tvalue <;> simp_all [excludes]

end Terminal

/-- There is a next token, and the terminal does not accept it. -/
def Refuses (t : Terminal) : List Lexeme → Prop
  | [] => False
  | l :: _ => t.accepts l = false

@[simp] theorem refuses_cons {t : Terminal} {l : Lexeme} {w : List Lexeme} :
    Refuses t (l :: w) ↔ t.accepts l = false := Iff.rfl

/-- The terminals that a rule can start with. -/
def Rule.starts : Rule → List Terminal
  | .abstraction | .arguments | .qualifier =>
    [.delimiter "[", .keyword "map", .keyword "chan", .identifier]
  | .result => [.delimiter "[", .keyword "map", .keyword "chan", .identifier, .delimiter "("]
  | .attributeMethod | .constant | .constructor | .function | .method | .module | .modules
  | .parameter | .parameters | .values => [.identifier]
  | .aspect | .classInterface | .instanceInterface | .declaration | .specialization
  | .functional | .header | .notice | .document | .source => [.comment]
  | .enumeration => [.keyword "const"]
  | .imports => [.keyword "import"]
  | .types => [.note "// TYPES"]
  | .interfaces => [.note "// INTERFACES"]
  | .abstractions => [.note "// Abstractions"]
  | .aspects => [.note "// Aspects"]
  | .attributes => [.note "// Attributes"]
  | .classes => [.note "// Classes"]
  | .constants => [.note "// Constants"]
  | .constructors => [.note "// Constructors"]
  | .functionals => [.note "// Functionals"]
  | .functions => [.note "// Functions"]
  | .instances => [.note "// Instances"]
  | .methods => [.note "// Methods"]
  | .specializations => [.note "// Specializations"]

namespace Production

/-- Whether the right-hand side derives the empty list of tokens. -/
def nullable : Production → Bool
  | terminal _ | rule _ => false
  | optional _ | many _ => true
  | some p => p.nullable
  | sequence p q => p.nullable && q.nullable
  | choice p q => p.nullable || q.nullable

/-- The terminals that a right-hand side can start with. -/
def starts : Production → List Terminal
  | terminal t => [t]
  | rule r => r.starts
  | optional p | many p | some p => p.starts
  | sequence p q => if p.nullable then p.starts ++ q.starts else p.starts
  | choice p q => p.starts ++ q.starts

/-- The starts of a rule are closed under its right-hand side, which derives no empty list. -/
theorem starts_production (r : Rule) :
    r.production.nullable = false ∧ ∀ t ∈ r.production.starts, t ∈ r.starts := by
  cases r <;> decide

/-- The tokens up to `rest` are none, if there may be none, or one of the terminals accepts the
first of them. -/
def StartsWith (empty : Bool) (ts : List Terminal) (w rest : List Lexeme) : Prop :=
  (w = rest ∧ empty = true) ∨
    ∃ l u, w = l :: u ∧ rest.length ≤ u.length ∧ ∃ t ∈ ts, t.accepts l = true

/-- A larger set of first lexemes may be allowed. -/
theorem StartsWith.weaken {b c : Bool} {ts us : List Terminal} {w w' : List Lexeme}
    (h : StartsWith b ts w w') (hbc : b = true → c = true) (hs : ∀ t ∈ ts, t ∈ us) :
    StartsWith c us w w' := by
  rcases h with ⟨rfl, hb⟩ | ⟨l, u, rfl, hle, t, ht, hl⟩
  · exact .inl ⟨rfl, hbc hb⟩
  · exact .inr ⟨l, u, rfl, hle, t, hs t ht, hl⟩

/-- The second part shows its first token only if the first part may be empty. -/
theorem StartsWith.trans {b c : Bool} {ts us : List Terminal} {w w₁ w' : List Lexeme}
    (h₁ : StartsWith b ts w w₁) (h₂ : StartsWith c us w₁ w') :
    StartsWith (b && c) (if b then ts ++ us else ts) w w' := by
  rcases h₁ with ⟨rfl, rfl⟩ | ⟨l, u, rfl, hle, t, ht, hl⟩
  · exact h₂.weaken (by simp) (by simp +contextual)
  · have hle' : w'.length ≤ w₁.length := by
      rcases h₂ with ⟨rfl, -⟩ | ⟨_, _, rfl, hle', -⟩
      · exact Nat.le_refl _
      · rw [List.length_cons]; omega
    refine .inr ⟨l, u, rfl, Nat.le_trans hle' hle, t, ?_, hl⟩
    split <;> simp [ht]

/-- What a right-hand side derives starts as the right-hand side can start. -/
theorem Derives.start {C : Condition} {p : Production} {w w' : List Lexeme} {v : p.Value}
    (h : Derives C p w w' v) : StartsWith p.nullable p.starts w w' := by
  induction h with
  | @terminal t l w h => exact .inr ⟨l, w, rfl, Nat.le_refl _, t, by simp [starts], h⟩
  | @rule r _ _ _ _ _ ih =>
    obtain ⟨hn, hs⟩ := starts_production r
    exact ih.weaken (by simp [hn]) hs
  | absent => exact .inl ⟨rfl, rfl⟩
  | present _ ih => exact ih.weaken (fun _ => rfl) fun _ ht => ht
  | nil => exact .inl ⟨rfl, rfl⟩
  | cons _ _ ih ihs =>
    refine (ih.trans ihs).weaken (fun _ => rfl) fun t ht => ?_
    split at ht <;> simpa [starts] using ht
  | some _ _ ih ihs =>
    refine (ih.trans ihs).weaken (by simp [nullable]) fun t ht => ?_
    split at ht <;> simpa [starts] using ht
  | sequence _ _ ih₁ ih₂ => exact ih₁.trans ih₂
  | left _ ih => exact ih.weaken (by simp +contextual [nullable]) (by simp +contextual [starts])
  | right _ ih => exact ih.weaken (by simp +contextual [nullable]) (by simp +contextual [starts])

/-- A rule derives at least one token. -/
theorem Derives.length_lt {C : Condition} {r : Rule} {w w' : List Lexeme} {a : r.Node}
    (h : Derives C (.rule r) w w' a) : w'.length < w.length := by
  rcases h.start with ⟨-, hn⟩ | ⟨l, u, rfl, hle, -⟩
  · simp [nullable] at hn
  · simp; omega

/-- A terminal that a rule does not start with refuses what the rule derives. -/
theorem Derives.refuses {C : Condition} {r : Rule} {w w' : List Lexeme} {a : r.Node}
    {s : Terminal} (h : Derives C (.rule r) w w' a) (hs : ∀ t ∈ r.starts, s.excludes t = true) :
    Refuses s w := by
  rcases h.start with ⟨-, hn⟩ | ⟨l, u, rfl, -, t, ht, hl⟩
  · simp [nullable] at hn
  · exact Terminal.not_accepts_of_excludes (hs t ht) hl

/-! ## Tokens -/

/-- The terminals of a right-hand side. -/
def terminals : Production → List Terminal
  | terminal t => [t]
  | rule _ => []
  | optional p | many p | some p => p.terminals
  | sequence p q | choice p q => p.terminals ++ q.terminals

/-- Each token that is derived is accepted by a terminal of the grammar. -/
theorem Derives.exists_terminal {C : Condition} {p : Production} {w w' : List Lexeme}
    {v : p.Value} (h : Derives C p w w' v) :
    ∀ l ∈ w, l ∈ w' ∨ ∃ t, (t ∈ p.terminals ∨ ∃ r : Rule, t ∈ r.production.terminals) ∧
      t.accepts l = true := by
  induction h with
  | @terminal t l w h =>
    intro m hm
    rcases List.mem_cons.1 hm with rfl | hm
    · exact .inr ⟨t, .inl (by simp [terminals]), h⟩
    · exact .inl hm
  | @rule r _ _ _ _ _ ih =>
    intro l hl
    rcases ih l hl with hl | ⟨t, ht | ht, hacc⟩
    · exact .inl hl
    · exact .inr ⟨t, .inr ⟨r, ht⟩, hacc⟩
    · exact .inr ⟨t, .inr ht, hacc⟩
  | absent | nil => exact fun l hl => .inl hl
  | present _ ih => exact ih
  | cons _ _ ih ihs | some _ _ ih ihs =>
    intro l hl
    rcases ih l hl with hl | h
    · exact ihs l hl
    · exact .inr h
  | sequence _ _ ih₁ ih₂ =>
    intro l hl
    rcases ih₁ l hl with hl | ⟨t, ht, hacc⟩
    · rcases ih₂ l hl with hl | ⟨t, ht, hacc⟩
      · exact .inl hl
      · exact .inr ⟨t, ht.imp_left (List.mem_append_right _), hacc⟩
    · exact .inr ⟨t, ht.imp_left (List.mem_append_left _), hacc⟩
  | left _ ih =>
    intro l hl
    rcases ih l hl with hl | ⟨t, ht, hacc⟩
    · exact .inl hl
    · exact .inr ⟨t, ht.imp_left (List.mem_append_left _), hacc⟩
  | right _ ih =>
    intro l hl
    rcases ih l hl with hl | ⟨t, ht, hacc⟩
    · exact .inl hl
    · exact .inr ⟨t, ht.imp_left (List.mem_append_right _), hacc⟩

/-- No terminal of the grammar accepts an error token. -/
theorem kind_ne_error (r : Rule) : ∀ t ∈ r.production.terminals, t.kind ≠ .error := by
  cases r <;> decide

/-- What a rule derives holds no error tokens. -/
theorem Derives.kind_ne_error {C : Condition} {r : Rule} {w : List Lexeme} {a : r.Node}
    (h : Derives C (.rule r) w [] a) : ∀ l ∈ w, l.kind ≠ .error := by
  intro l hl
  rcases h.exists_terminal l hl with hl | ⟨t, ht | ⟨r, ht⟩, hacc⟩
  · cases hl
  · simp [terminals] at ht
  · rw [(Terminal.accepts_iff.1 hacc).1]
    exact Production.kind_ne_error r t ht

end Production

end PackageModel
