import PackageModel.Proofs.Document.Texts

/-!
# PackageModel.Proofs.Grammar.Texts

The texts of the tree of a derivation.  What holds of all tokens that are derived holds of the texts
of the tree; and so does what a condition says of the tokens of each rule that are not fixed.
-/

namespace PackageModel

namespace Production

/-- All terminals of a right-hand side, with the texts of their tokens, meet `Q`, and all its nodes
meet `N`. -/
def Each (Q : Terminal → String → Prop) (N : (r : Rule) → r.Node → Prop) :
    (p : Production) → p.Value → Prop
  | terminal t, v => Q t v
  | rule r, a => N r a
  | optional p, (o : Option p.Value) => ∀ v, o = Option.some v → p.Each Q N v
  | many p, (vs : List p.Value) | some p, (vs : List p.Value) => ∀ v ∈ vs, p.Each Q N v
  | sequence p q, (v : p.Value × q.Value) => p.Each Q N v.1 ∧ q.Each Q N v.2
  | choice p q, (v : p.Value ⊕ q.Value) =>
    (∀ u, v = .inl u → p.Each Q N u) ∧ ∀ u, v = .inr u → q.Each Q N u

end Production

/-- Every text of the node has the property. -/
def Rule.TextsAre (P : Lexeme → Prop) (r : Rule) (a : r.Node) : Prop := ∀ l ∈ r.texts a, P l

/-- The property of the tokens that are not fixed. -/
def Terminal.TextIs (P : Lexeme → Prop) (t : Terminal) (v : String) : Prop :=
  t.value = none → P ⟨t.kind, v⟩

section

variable {P : Lexeme → Prop} {β : Type} {f : β → List Lexeme}

/-- A property of the texts of several nodes. -/
theorem forall_mem_texts {bs : List β} (h : ∀ b ∈ bs, ∀ l ∈ f b, P l) :
    ∀ l ∈ bs.flatMap f, P l := by
  intro l hl
  obtain ⟨b, hb, hl⟩ := List.mem_flatMap.1 hl
  exact h b hb l hl

/-- A property of the texts of a node that may be missing. -/
theorem forall_mem_toList {o : Option β} (h : ∀ b, o = some b → ∀ l ∈ f b, P l) :
    ∀ l ∈ o.toList.flatMap f, P l :=
  forall_mem_texts fun b hb => h b (Option.mem_toList.1 hb)

/-- A property of the texts of a list that may be missing. -/
theorem forall_mem_getD {o : Option (List β)}
    (h : ∀ bs, o = some bs → ∀ l ∈ bs.flatMap f, P l) : ∀ l ∈ (o.getD []).flatMap f, P l := by
  cases o with
  | none => exact nofun
  | some bs => exact h bs rfl

end

namespace Production

variable {P : Lexeme → Prop} {r : Rule}

/-- A property of the texts in brackets. -/
theorem forall_mem_bracketed {β : Type} {f : β → List Lexeme} {items : r.Node → List β}
    {v : (bracketed r).Value}
    (h : (bracketed r).Each (Terminal.TextIs P) (Rule.TextsAre P) v)
    (hr : ∀ a, r.TextsAre P a → ∀ l ∈ (items a).flatMap f, P l) :
    ∀ l ∈ (bracketValues items v).flatMap f, P l := by
  cases v with
  | none => exact nofun
  | some v => exact hr _ (h v rfl).1.2

/-- A property of the texts of a list with commas. -/
theorem forall_mem_commaList {v : (commaList r).Value}
    (h : (commaList r).Each (Terminal.TextIs P) (Rule.TextsAre P) v) :
    ∀ l ∈ (commaValues v).flatMap r.texts, P l := by
  obtain ⟨⟨a, as⟩, _⟩ := v
  obtain ⟨⟨ha, has⟩, -⟩ := h
  refine forall_mem_texts (List.forall_mem_cons.2 ⟨ha, fun b hb => ?_⟩)
  obtain ⟨c, hc, rfl⟩ := List.mem_map.1 hb
  exact (has c hc).2

end Production

open Production in
/-- A rule keeps no texts but those of its right-hand side. -/
theorem Rule.textsAre_build {P : Lexeme → Prop} (r : Rule) (v : r.production.Value)
    (h : r.production.Each (Terminal.TextIs P) (TextsAre P) v) : r.TextsAre P (r.build v) := by
  have happend {ls ms : List Lexeme} (hl : ∀ l ∈ ls, P l) (hm : ∀ l ∈ ms, P l) :
      ∀ l ∈ ls ++ ms, P l := List.forall_mem_append.2 ⟨hl, hm⟩
  have hcons {l : Lexeme} {ms : List Lexeme} (hl : P l) (hm : ∀ l ∈ ms, P l) :
      ∀ l' ∈ l :: ms, P l' := List.forall_mem_cons.2 ⟨hl, hm⟩
  cases r with
  | abstraction =>
    obtain ⟨⟨q, i⟩, as⟩ := v
    obtain ⟨⟨hq, hi⟩, has⟩ := h
    refine happend (forall_mem_toList hq) (hcons (hi rfl) ?_)
    rw [Abstraction.textsOfAll_eq]
    exact forall_mem_bracketed has fun _ h => h
  | arguments | parameters => exact forall_mem_commaList h
  | abstractions | aspects | attributes | classes | constants | constructors | functionals
  | functions | instances | methods | specializations => exact forall_mem_texts h.2
  | aspect =>
    obtain ⟨⟨⟨⟨d, _⟩, _⟩, ms⟩, _⟩ := v
    obtain ⟨⟨⟨⟨hd, -⟩, -⟩, hms⟩, -⟩ := h
    exact happend hd (forall_mem_getD hms)
  | attributeMethod =>
    obtain ⟨⟨⟨⟨i, _⟩, p⟩, _⟩, a⟩ := v
    obtain ⟨⟨⟨⟨hi, -⟩, hp⟩, -⟩, ha⟩ := h
    exact happend (hcons (hi rfl) (forall_mem_toList hp)) (forall_mem_toList ha)
  | classInterface =>
    obtain ⟨⟨⟨⟨d, _⟩, _⟩, ⟨⟨cs, ns⟩, fs⟩⟩, _⟩ := v
    obtain ⟨⟨⟨⟨hd, -⟩, -⟩, ⟨⟨hcs, hns⟩, hfs⟩⟩, -⟩ := h
    exact happend (happend (happend hd (forall_mem_getD hcs)) (forall_mem_getD hns))
      (forall_mem_getD hfs)
  | constant =>
    obtain ⟨⟨⟨i, _⟩, _⟩, a⟩ := v
    obtain ⟨⟨⟨hi, -⟩, -⟩, ha⟩ := h
    exact hcons (hi rfl) ha
  | constructor | function =>
    obtain ⟨⟨⟨⟨i, _⟩, ps⟩, _⟩, a⟩ := v
    obtain ⟨⟨⟨⟨hi, -⟩, hps⟩, -⟩, ha⟩ := h
    exact happend (hcons (hi rfl) (forall_mem_getD hps)) ha
  | declaration =>
    obtain ⟨⟨⟨c, _⟩, i⟩, ps⟩ := v
    obtain ⟨⟨⟨hc, -⟩, hi⟩, hps⟩ := h
    exact hcons (hc rfl) (hcons (hi rfl) (forall_mem_bracketed hps fun _ h => h))
  | document =>
    obtain ⟨⟨⟨⟨n, d⟩, ms⟩, ts⟩, is⟩ := v
    obtain ⟨⟨⟨⟨hn, hd⟩, hms⟩, hts⟩, his⟩ := h
    exact happend (happend (happend (happend hn hd) (forall_mem_getD hms))
      (forall_mem_toList hts)) (forall_mem_toList his)
  | enumeration =>
    obtain ⟨⟨⟨_, _⟩, vs⟩, _⟩ := v
    exact h.1.2
  | functional =>
    obtain ⟨⟨⟨⟨⟨d, _⟩, _⟩, ps⟩, _⟩, r⟩ := v
    obtain ⟨⟨⟨⟨⟨hd, -⟩, -⟩, hps⟩, -⟩, hr⟩ := h
    exact happend (happend hd (forall_mem_getD hps)) hr
  | header =>
    obtain ⟨⟨c, _⟩, i⟩ := v
    obtain ⟨⟨hc, -⟩, hi⟩ := h
    exact hcons (hc rfl) (hcons (hi rfl) nofun)
  | imports =>
    obtain ⟨⟨⟨_, _⟩, ms⟩, _⟩ := v
    exact forall_mem_getD h.1.2
  | instanceInterface =>
    obtain ⟨⟨⟨⟨d, _⟩, _⟩, ⟨⟨ts, as⟩, ms⟩⟩, _⟩ := v
    obtain ⟨⟨⟨⟨hd, -⟩, -⟩, ⟨⟨hts, has⟩, hms⟩⟩, -⟩ := h
    exact happend (happend (happend hd (forall_mem_getD hts)) (forall_mem_getD has))
      (forall_mem_getD hms)
  | interfaces =>
    obtain ⟨⟨⟨_, as⟩, cs⟩, is⟩ := v
    obtain ⟨⟨⟨-, has⟩, hcs⟩, his⟩ := h
    exact happend (happend (forall_mem_getD has) (forall_mem_getD hcs)) (forall_mem_getD his)
  | method =>
    obtain ⟨⟨⟨⟨i, _⟩, ps⟩, _⟩, r⟩ := v
    obtain ⟨⟨⟨⟨hi, -⟩, hps⟩, -⟩, hr⟩ := h
    exact happend (hcons (hi rfl) (forall_mem_getD hps)) (forall_mem_toList hr)
  | module =>
    obtain ⟨i, t⟩ := v
    exact hcons (h.1 rfl) (hcons (h.2 rfl) nofun)
  | modules => exact forall_mem_texts h
  | notice => exact hcons (h rfl) nofun
  | parameter =>
    obtain ⟨i, a⟩ := v
    exact hcons (h.1 rfl) h.2
  | qualifier =>
    rcases v with _ | ⟨⟨⟨_, _⟩, k⟩, _⟩ | _ | ⟨i, _⟩
    · exact nofun
    · exact hcons (((h.2 _ rfl).1 _ rfl).1.2 rfl) nofun
    · exact nofun
    · exact hcons ((((h.2 _ rfl).2 _ rfl).2 _ rfl).1 rfl) nofun
  | result =>
    rcases v with a | ⟨⟨_, ps⟩, _⟩
    · exact h.1 _ rfl
    · exact (h.2 _ rfl).1.2
  | source =>
    obtain ⟨d, _⟩ := v
    exact h.1
  | specialization =>
    obtain ⟨⟨d, a⟩, e⟩ := v
    obtain ⟨⟨hd, ha⟩, he⟩ := h
    exact happend (happend hd ha) (forall_mem_toList he)
  | types =>
    obtain ⟨⟨_, ss⟩, fs⟩ := v
    obtain ⟨⟨-, hss⟩, hfs⟩ := h
    exact happend (forall_mem_getD hss) (forall_mem_getD hfs)
  | values =>
    obtain ⟨⟨⟨p, _⟩, _⟩, is⟩ := v
    obtain ⟨⟨⟨hp, -⟩, -⟩, his⟩ := h
    refine happend hp fun l hl => ?_
    obtain ⟨i, hi, rfl⟩ := List.mem_map.1 hl
    exact his i hi rfl

namespace Production

variable {C : Condition} {p : Production} {r : Rule} {w w' : List Lexeme}

/-- What holds of the tokens of a derivation holds of the texts of the tree. -/
theorem Derives.textsAre {P : Lexeme → Prop} {u : List Lexeme} {a : r.Node}
    (h : Derives C (.rule r) (u ++ w') w' a) (hu : ∀ l ∈ u, P l) : r.TextsAre P a := by
  -- the tokens of the parts of a derivation are among its own
  have hparts {w w₁ w' : List Lexeme} (h₁ : w₁ <:+ w) (h₂ : w' <:+ w₁)
      (hw : ∀ u, w = u ++ w' → ∀ l ∈ u, P l) :
      (∀ u, w = u ++ w₁ → ∀ l ∈ u, P l) ∧ ∀ u, w₁ = u ++ w' → ∀ l ∈ u, P l := by
    constructor
    · rintro u rfl l hl
      obtain ⟨u₂, rfl⟩ := h₂
      exact hw (u ++ u₂) (List.append_assoc u u₂ w').symm l (List.mem_append_left u₂ hl)
    · rintro u rfl l hl
      obtain ⟨u₁, rfl⟩ := h₁
      exact hw (u₁ ++ u) (List.append_assoc u₁ u w').symm l (List.mem_append_right u₁ hl)
  have heach {p : Production} {w w' : List Lexeme} {v : p.Value} (h : Derives C p w w' v)
      (hw : ∀ u, w = u ++ w' → ∀ l ∈ u, P l) :
      p.Each (Terminal.TextIs P) (Rule.TextsAre P) v := by
    induction h with
    | @terminal t l w hl =>
      intro _
      rw [← (Terminal.accepts_iff.1 hl).1]
      exact hw [l] rfl l (List.mem_singleton.2 rfl)
    | @rule r _ _ v _ _ ih => exact r.textsAre_build v (ih hw)
    | absent => exact nofun
    | present _ ih =>
      rintro v ⟨⟩
      exact ih hw
    | nil => exact nofun
    | cons h hs ih ihs | some h hs ih ihs =>
      obtain ⟨hw₁, hw₂⟩ := hparts h.suffix hs.suffix hw
      exact List.forall_mem_cons.2 ⟨ih hw₁, ihs hw₂⟩
    | sequence h₁ h₂ ih₁ ih₂ =>
      obtain ⟨hw₁, hw₂⟩ := hparts h₁.suffix h₂.suffix hw
      exact ⟨ih₁ hw₁, ih₂ hw₂⟩
    | left _ ih =>
      refine ⟨?_, nofun⟩
      rintro v ⟨⟩
      exact ih hw
    | right _ ih =>
      refine ⟨nofun, ?_⟩
      rintro v ⟨⟩
      exact ih hw
  refine heach h fun u' hu' => ?_
  rw [← List.append_cancel_right hu']
  exact hu

/-- What a condition says of the tokens of each rule that are not fixed holds of all texts of the
tree. -/
theorem Derives.textsAre_of_condition {P : Lexeme → Prop} {a : r.Node}
    (hC : ∀ r v, C r v → r.production.Each (Terminal.TextIs P) (fun _ _ => True) v)
    (h : Derives C (.rule r) w w' a) : r.TextsAre P a := by
  have heach {p : Production} {w w' : List Lexeme} {v : p.Value} (h : Derives C p w w' v)
      (hv : p.Each (Terminal.TextIs P) (fun _ _ => True) v) :
      p.Each (Terminal.TextIs P) (Rule.TextsAre P) v := by
    induction h with
    | terminal _ => exact hv
    | @rule r _ _ v _ hCv ih => exact r.textsAre_build v (ih (hC r v hCv))
    | absent => exact nofun
    | present _ ih =>
      rintro v ⟨⟩
      exact ih (hv _ rfl)
    | nil => exact nofun
    | cons _ _ ih ihs =>
      obtain ⟨hv, hvs⟩ := List.forall_mem_cons.1 hv
      exact List.forall_mem_cons.2 ⟨ih hv, ihs hvs⟩
    | some _ _ ih ihs =>
      obtain ⟨hv, hvs⟩ := List.forall_mem_cons.1 hv
      exact List.forall_mem_cons.2 ⟨ih hv, ihs hvs⟩
    | sequence _ _ ih₁ ih₂ => exact ⟨ih₁ hv.1, ih₂ hv.2⟩
    | left _ ih =>
      refine ⟨?_, nofun⟩
      rintro v ⟨⟩
      exact ih (hv.1 _ rfl)
    | right _ ih =>
      refine ⟨nofun, ?_⟩
      rintro v ⟨⟩
      exact ih (hv.2 _ rfl)
  exact heach h trivial

end Production

end PackageModel
