import PackageModel.Problem
import PackageModel.Proofs.Completeness
import PackageModel.Proofs.Grammar.Arranged
import PackageModel.Proofs.Soundness

/-!
# PackageModel.Proofs.Siblings

The order of siblings in the source.  `Production.Shuffles` says that the same siblings stand in
other places in a second list of tokens, in any number of groups and at all levels at once.  As
long as no two siblings of a group have the same key this makes no difference to the document.
Which tokens belong to a sibling is what a plain derivation says, as it is for parsing.
-/

namespace PackageModel

/-- A sibling: its tokens, its tokens with the siblings inside of it moved, and its node. -/
structure Sibling (r : Rule) where
  tokens : List Lexeme
  shuffled : List Lexeme
  node : r.Node

namespace Production

/-- The first tokens are derivable from the right-hand side, with the given tree; the second ones
are the same with whole siblings in other places.  Siblings are moved only within a group that has a
canonical order, and only if all their keys are different. -/
inductive Shuffles (C : Condition) :
    (p : Production) → (w u : List Lexeme) → p.Value → Prop where
  | terminal {t : Terminal} {l : Lexeme} (h : t.accepts l) :
      Shuffles C (.terminal t) [l] [l] l.value
  | rule {r : Rule} {w u : List Lexeme} {v : r.production.Value}
      (h : Shuffles C r.production w u v) (hv : C r v) : Shuffles C (.rule r) w u (r.build v)
  | absent {p : Production} : Shuffles C (.optional p) [] [] none
  | present {p : Production} {w u : List Lexeme} {v : p.Value} (h : Shuffles C p w u v) :
      Shuffles C (.optional p) w u (Option.some v)
  | nil {p : Production} : Shuffles C (.many p) [] [] []
  | cons {p : Production} {w w' u u' : List Lexeme} {v : p.Value} {vs : List p.Value}
      (h : Shuffles C p w u v) (hs : Shuffles C (.many p) w' u' vs) :
      Shuffles C (.many p) (w ++ w') (u ++ u') (v :: vs)
  | some {p : Production} {w w' u u' : List Lexeme} {v : p.Value} {vs : List p.Value}
      (h : Shuffles C p w u v) (hs : Shuffles C (.many p) w' u' vs) :
      Shuffles C (.some p) (w ++ w') (u ++ u') (v :: vs)
  | siblings {r : Rule} {ranked : Ranked r.Node} {items moved : List (Sibling r)}
      (hranked : r.ranked? = Option.some ranked) (hne : items ≠ [])
      (hitems : ∀ s ∈ items, Shuffles C (.rule r) s.tokens s.shuffled s.node)
      (hkeys : (items.map fun s => rankKey s.node).Nodup) (hmoved : moved.Perm items) :
      Shuffles C (.some (.rule r)) (items.flatMap (·.tokens)) (moved.flatMap (·.shuffled))
        (items.map (·.node))
  | sequence {p q : Production} {w w' u u' : List Lexeme} {v₁ : p.Value} {v₂ : q.Value}
      (h₁ : Shuffles C p w u v₁) (h₂ : Shuffles C q w' u' v₂) :
      Shuffles C (.sequence p q) (w ++ w') (u ++ u') (v₁, v₂)
  | left {p q : Production} {w u : List Lexeme} {v : p.Value} (h : Shuffles C p w u v) :
      Shuffles C (.choice p q) w u (Sum.inl v)
  | right {p q : Production} {w u : List Lexeme} {v : q.Value} (h : Shuffles C q w u v) :
      Shuffles C (.choice p q) w u (Sum.inr v)

/-! ## Single tokens -/

section

variable {C : Condition}

/-- A name stays where it is. -/
theorem Shuffles.name {i : String} : Shuffles C .identifier [.name i] [.name i] i :=
  .terminal (l := .name i) rfl

/-- A comment stays where it is. -/
theorem Shuffles.comment {c : String} : Shuffles C .comment [⟨.comment, c⟩] [⟨.comment, c⟩] c :=
  .terminal (l := ⟨.comment, c⟩) rfl

/-- A lexeme of fixed text stays where it is. -/
theorem Shuffles.fixed {k : Kind} {v : String} :
    Shuffles C (.terminal ⟨k, Option.some v⟩) [⟨k, v⟩] [⟨k, v⟩] v :=
  .terminal (l := ⟨k, v⟩) (by simp [Terminal.accepts])

end

/-! ## Derivations of both lists -/

/-- Items that are derivable whatever follows them are derivable one behind the other. -/
theorem derives_many_flatMap {α : Type} {C : Condition} {p : Production} {items : List α}
    {tokens : α → List Lexeme} {value : α → p.Value}
    (h : ∀ a ∈ items, ∀ rest, Derives C p (tokens a ++ rest) rest (value a)) (rest : List Lexeme) :
    Derives C (.many p) (items.flatMap tokens ++ rest) rest (items.map value) := by
  induction items with
  | nil => exact .nil
  | cons a as ih =>
    rw [List.flatMap_cons, List.append_assoc]
    exact .cons (h a List.mem_cons_self _) (ih fun b hb => h b (List.mem_cons_of_mem a hb))

/-- The same for at least one item. -/
theorem derives_some_flatMap {α : Type} {C : Condition} {p : Production} {items : List α}
    {tokens : α → List Lexeme} {value : α → p.Value} (hne : items ≠ [])
    (h : ∀ a ∈ items, ∀ rest, Derives C p (tokens a ++ rest) rest (value a)) (rest : List Lexeme) :
    Derives C (.some p) (items.flatMap tokens ++ rest) rest (items.map value) := by
  obtain ⟨a, as, rfl⟩ := List.exists_cons_of_ne_nil hne
  rw [List.flatMap_cons, List.append_assoc]
  exact .some (h a List.mem_cons_self _)
    (derives_many_flatMap (fun b hb => h b (List.mem_cons_of_mem a hb)) rest)

namespace Shuffles

variable {C : Condition} {p : Production} {w u : List Lexeme} {v : p.Value}

/-- The first tokens are derivable, whatever follows them. -/
theorem derives (h : Shuffles C p w u v) (rest : List Lexeme) :
    Derives C p (w ++ rest) rest v := by
  induction h generalizing rest with
  | terminal h => exact .terminal h
  | rule _ hv ih => exact .rule (ih rest) hv
  | absent => exact .absent
  | present _ ih => exact .present (ih rest)
  | nil => exact .nil
  | cons _ _ ih ihs =>
    rw [List.append_assoc]
    exact .cons (ih _) (ihs rest)
  | some _ _ ih ihs =>
    rw [List.append_assoc]
    exact .some (ih _) (ihs rest)
  | siblings _ hne _ _ _ ih => exact derives_some_flatMap hne ih rest
  | sequence _ _ ih₁ ih₂ =>
    rw [List.append_assoc]
    exact .sequence (ih₁ _) (ih₂ rest)
  | left _ ih => exact .left (ih rest)
  | right _ ih => exact .right (ih rest)

/-- Tokens that are derivable are so with no sibling moved. -/
theorem of_derives {w' : List Lexeme} (h : Derives C p w w' v) :
    ∃ u, w = u ++ w' ∧ Shuffles C p u u v := by
  induction h with
  | @terminal _ l _ h => exact ⟨[l], rfl, .terminal h⟩
  | rule _ hv ih =>
    obtain ⟨u, rfl, h⟩ := ih
    exact ⟨u, rfl, .rule h hv⟩
  | absent => exact ⟨[], rfl, .absent⟩
  | present _ ih =>
    obtain ⟨u, rfl, h⟩ := ih
    exact ⟨u, rfl, .present h⟩
  | nil => exact ⟨[], rfl, .nil⟩
  | cons _ _ ih ihs =>
    obtain ⟨u, rfl, h⟩ := ih
    obtain ⟨us, rfl, hs⟩ := ihs
    exact ⟨u ++ us, by rw [List.append_assoc], .cons h hs⟩
  | some _ _ ih ihs =>
    obtain ⟨u, rfl, h⟩ := ih
    obtain ⟨us, rfl, hs⟩ := ihs
    exact ⟨u ++ us, by rw [List.append_assoc], .some h hs⟩
  | sequence _ _ ih₁ ih₂ =>
    obtain ⟨u₁, rfl, h₁⟩ := ih₁
    obtain ⟨u₂, rfl, h₂⟩ := ih₂
    exact ⟨u₁ ++ u₂, by rw [List.append_assoc], .sequence h₁ h₂⟩
  | left _ ih =>
    obtain ⟨u, rfl, h⟩ := ih
    exact ⟨u, rfl, .left h⟩
  | right _ ih =>
    obtain ⟨u, rfl, h⟩ := ih
    exact ⟨u, rfl, .right h⟩

/-- Only rules in which nothing is sorted have a condition. -/
theorem plain_of_arranged {r : Rule} {v v' : r.production.Value}
    (h : r.production.arranged v' = r.production.arranged v) (hv : Condition.plain r v) :
    Condition.plain r v' := by
  cases r with
  | abstraction | qualifier =>
    rw [arranged_of_not_sorts (by decide), arranged_of_not_sorts (by decide)] at h
    rwa [h]
  | _ => trivial

/-- Siblings that have been moved are derivable, and sorting them has the same result. -/
theorem exists_derives_siblings {r : Rule} {ranked : Ranked r.Node} {items moved : List (Sibling r)}
    (hranked : r.ranked? = Option.some ranked) (hne : items ≠ [])
    (hkeys : (items.map fun s => rankKey s.node).Nodup) (hmoved : moved.Perm items)
    (h : ∀ s ∈ items, ∃ a, (∀ rest, Derives .plain (.rule r) (s.shuffled ++ rest) rest a) ∧
      r.arranged a = r.arranged s.node) :
    ∃ as, (∀ rest, Derives .plain (.some (.rule r)) (moved.flatMap (·.shuffled) ++ rest) rest as) ∧
      (Production.some (.rule r)).arranged as =
        (Production.some (.rule r)).arranged (items.map (·.node)) := by
  have hexists (s : Sibling r) : ∃ a : r.Node, s ∈ items →
      (∀ rest, Derives .plain (.rule r) (s.shuffled ++ rest) rest a) ∧
        r.arranged a = r.arranged s.node := by
    by_cases hs : s ∈ items
    · obtain ⟨a, ha⟩ := h s hs
      exact ⟨a, fun _ => ha⟩
    · exact ⟨s.node, fun hs' => absurd hs' hs⟩
  -- the node of each sibling in the second list
  choose node hnode using hexists
  have hmem {s : Sibling r} (hs : s ∈ moved) : s ∈ items := hmoved.mem_iff.1 hs
  have hne' : moved ≠ [] := by
    rintro rfl
    exact hne hmoved.symm.eq_nil
  refine ⟨moved.map node, derives_some_flatMap hne' fun s hs => (hnode s (hmem hs)).1, ?_⟩
  -- in order, the nodes are those of the first list, only in other places
  have hmap : (moved.map node).map r.arranged = moved.map fun s => r.arranged s.node := by
    rw [List.map_map]
    exact List.map_congr_left fun s hs => (hnode s (hmem hs)).2
  have hnodup : ((items.map fun s => r.arranged s.node).map rankKey).Nodup := by
    rw [List.map_map]
    simpa only [Function.comp_def, Rule.rankKey_arranged hranked] using hkeys
  calc r.sortItems ((moved.map node).map r.arranged)
    _ = canonicalSort (moved.map fun s => r.arranged s.node) := by
        rw [hmap, Rule.sortItems_of_ranked hranked]
    _ = canonicalSort (items.map fun s => r.arranged s.node) :=
        canonicalSort_eq_of_perm (hmoved.map _) hnodup
    _ = r.sortItems ((items.map (·.node)).map r.arranged) := by
        rw [List.map_map, Rule.sortItems_of_ranked hranked]
        rfl

/-- The second tokens are derivable as well, whatever follows them, and in canonical order their
tree is the same. -/
theorem exists_derives (h : Shuffles .plain p w u v) :
    ∃ v', (∀ rest, Derives .plain p (u ++ rest) rest v') ∧ p.arranged v' = p.arranged v := by
  induction h with
  | terminal h => exact ⟨_, fun _ => .terminal h, rfl⟩
  | @rule r w u v _ hv ih =>
    obtain ⟨v', hd, harranged⟩ := ih
    refine ⟨r.build v', fun rest => .rule (hd rest) (plain_of_arranged harranged hv), ?_⟩
    calc r.arranged (r.build v')
      _ = r.build (r.production.arranged v') := r.arranged_build v'
      _ = r.build (r.production.arranged v) := by rw [harranged]
      _ = r.arranged (r.build v) := (r.arranged_build v).symm
  | absent => exact ⟨none, fun _ => .absent, rfl⟩
  | present _ ih =>
    obtain ⟨v', hd, harranged⟩ := ih
    exact ⟨Option.some v', fun rest => .present (hd rest), congrArg Option.some harranged⟩
  | nil => exact ⟨[], fun _ => .nil, rfl⟩
  | cons _ _ ih ihs =>
    obtain ⟨v', hd, harranged⟩ := ih
    obtain ⟨vs', hds, hsarranged⟩ := ihs
    refine ⟨v' :: vs', fun rest => ?_, congrArg₂ List.cons harranged hsarranged⟩
    rw [List.append_assoc]
    exact .cons (hd _) (hds rest)
  | @some p _ _ _ _ _ _ _ _ ih ihs =>
    obtain ⟨v', hd, harranged⟩ := ih
    obtain ⟨vs', hds, hsarranged⟩ := ihs
    have hitems := congrArg₂ List.cons harranged hsarranged
    refine ⟨v' :: vs', fun rest => ?_, congrArg p.sortItems hitems⟩
    rw [List.append_assoc]
    exact .some (hd _) (hds rest)
  | siblings hranked hne _ hkeys hmoved ih =>
    exact exists_derives_siblings hranked hne hkeys hmoved ih
  | sequence _ _ ih₁ ih₂ =>
    obtain ⟨v₁, hd₁, harranged₁⟩ := ih₁
    obtain ⟨v₂, hd₂, harranged₂⟩ := ih₂
    refine ⟨(v₁, v₂), fun rest => ?_, Prod.ext harranged₁ harranged₂⟩
    rw [List.append_assoc]
    exact .sequence (hd₁ _) (hd₂ rest)
  | left _ ih =>
    obtain ⟨v', hd, harranged⟩ := ih
    exact ⟨Sum.inl v', fun rest => .left (hd rest), congrArg Sum.inl harranged⟩
  | right _ ih =>
    obtain ⟨v', hd, harranged⟩ := ih
    exact ⟨Sum.inr v', fun rest => .right (hd rest), congrArg Sum.inr harranged⟩

end Shuffles

end Production

/-! ## Sources -/

namespace Document

open Production

/-- Siblings with the same key stand as they do in the source.  If no two siblings of a group have
the same key, it makes no difference where they stand: a source with the same siblings in other
places has the same document, and so the same canonical text and the same outcome of all checks. -/
theorem parse_of_shuffles {x : String} {d : Document} (hx : parse x = .ok d) :
    (∃ d₀, Plain .source ((tokenize x).map (·.toLexeme)) [] d₀ ∧ d₀.Arranged d) ∧
      ∀ y d₀, Shuffles .plain (.rule .source) ((tokenize x).map (·.toLexeme))
          ((tokenize y).map (·.toLexeme)) d₀ →
        (∃ e, parse y = .ok e) →
          parse x = parse y ∧ format x = format y ∧ check x = check y := by
  constructor
  · obtain ⟨d₀, hplain, rfl⟩ := plain_of_parse hx
    exact ⟨d₀, hplain, d₀.arranged_arranges⟩
  · rintro y d₀ h ⟨e, hy⟩
    obtain ⟨d₁, hd₁, harranged⟩ := h.exists_derives
    have hplain₀ := h.derives []
    have hplain₁ := hd₁ []
    rw [List.append_nil] at hplain₀ hplain₁
    have heq : parse x = parse y := calc
      parse x = .ok d₀.arranged := ofTokens_eq_arranged hplain₀ ⟨d, hx⟩
      _ = .ok d₁.arranged := congrArg Except.ok harranged.symm
      _ = parse y := (ofTokens_eq_arranged hplain₁ ⟨e, hy⟩).symm
    exact ⟨heq, by rw [format, format, heq], by rw [check, check, heq]⟩

/-- A method without parameters and result. -/
def bareMethod (i : String) : Sibling .method where
  tokens := [.name i, .mark "(", .mark ")"]
  shuffled := [.name i, .mark "(", .mark ")"]
  node := (⟨i, [], none⟩ : Method)

/-- A method without parameters and result has no siblings inside. -/
theorem shuffles_bareMethod (i : String) : Shuffles .plain (.rule .method) (bareMethod i).tokens
    (bareMethod i).shuffled (bareMethod i).node :=
  .rule (r := .method) (v := ((((i, _), none), _), none))
    (.sequence (.sequence (.sequence (.sequence .name .fixed) .absent) .fixed) .absent) trivial

/-- An aspect whose methods may be moved. -/
def bareAspect (i : String) (methods shuffled : List Lexeme) (ms : List Method) :
    Sibling .aspect where
  tokens := ⟨.comment, "/*\n\n*/\n"⟩ :: .name "type" :: .name i :: .name "interface" ::
    .mark "\x7b" :: (methods ++ [.mark "\x7d"])
  shuffled := ⟨.comment, "/*\n\n*/\n"⟩ :: .name "type" :: .name i :: .name "interface" ::
    .mark "\x7b" :: (shuffled ++ [.mark "\x7d"])
  node := (⟨⟨"/*\n\n*/\n", i, []⟩, ms⟩ : Aspect)

/-- The methods of an aspect may stand in another order. -/
theorem shuffles_bareAspect (i : String) {methods shuffled : List Lexeme}
    {ms : Option (List Method)}
    (h : Shuffles .plain (.optional (.rule .methods)) methods shuffled ms) :
    Shuffles .plain (.rule .aspect) (bareAspect i methods shuffled (ms.getD [])).tokens
      (bareAspect i methods shuffled (ms.getD [])).shuffled
      (bareAspect i methods shuffled (ms.getD [])).node := by
  have hdeclaration : Shuffles .plain (.rule .declaration)
      [⟨.comment, "/*\n\n*/\n"⟩, .name "type", .name i]
      [⟨.comment, "/*\n\n*/\n"⟩, .name "type", .name i] (⟨"/*\n\n*/\n", i, []⟩ : Declaration) :=
    .rule (r := .declaration) (v := (((_, _), i), none))
      (.sequence (.sequence (.sequence .comment .fixed) .name) .absent) trivial
  exact .rule (r := .aspect) (v := ((((⟨"/*\n\n*/\n", i, []⟩, _), _), ms), _))
    (.sequence (.sequence (.sequence (.sequence hdeclaration .fixed) .fixed) h) .fixed) trivial

/-- The tokens of a source with aspects only. -/
def aspectsWords (aspects : List Lexeme) : List Lexeme :=
  ⟨.comment, "/*\n\n*/\n"⟩ :: ⟨.comment, "/*\n\n*/\n"⟩ :: .name "package" :: .name "p" ::
    ⟨.note, "// INTERFACES"⟩ :: ⟨.note, "// Aspects"⟩ :: (aspects ++ [.eof])

/-- So may the aspects of a source. -/
theorem shuffles_aspectsWords {w u : List Lexeme} {as : List Aspect}
    (h : Shuffles .plain (.some (.rule .aspect)) w u as) :
    Shuffles .plain (.rule .source) (aspectsWords w) (aspectsWords u)
      (⟨"/*\n\n*/\n", ⟨"/*\n\n*/\n", "p"⟩, none, none, some ⟨as, [], []⟩⟩ : Document) := by
  have hnotice {c : String} :
      Shuffles .plain (.rule .notice) [⟨.comment, c⟩] [⟨.comment, c⟩] c :=
    .rule (r := .notice) (v := c) .comment trivial
  have hheader {c : String} : Shuffles .plain (.rule .header)
      [⟨.comment, c⟩, .name "package", .name "p"] [⟨.comment, c⟩, .name "package", .name "p"]
      (⟨c, "p"⟩ : Header) :=
    .rule (r := .header) (v := ((_, _), _)) (.sequence (.sequence .comment .fixed) .name) trivial
  have haspects : Shuffles .plain (.rule .aspects) (⟨.note, "// Aspects"⟩ :: w)
      (⟨.note, "// Aspects"⟩ :: u) as :=
    .rule (r := .aspects) (v := (_, as)) (.sequence .fixed h) trivial
  have hinterfaces : Shuffles .plain (.rule .interfaces)
      (⟨.note, "// INTERFACES"⟩ :: ⟨.note, "// Aspects"⟩ :: w ++ [] ++ [])
      (⟨.note, "// INTERFACES"⟩ :: ⟨.note, "// Aspects"⟩ :: u ++ [] ++ [])
      (⟨as, [], []⟩ : Interfaces) :=
    .rule (r := .interfaces) (v := (((_, some as), none), none))
      (.sequence (.sequence (.sequence .fixed (.present haspects)) .absent) .absent) trivial
  rw [List.append_nil, List.append_nil, List.append_nil, List.append_nil] at hinterfaces
  exact .rule (r := .source) (v := (_, ""))
    (.sequence (.rule (r := .document) (v := ((((_, ⟨_, "p"⟩), none), none), some _))
      (.sequence (.sequence (.sequence (.sequence hnotice hheader) .absent) .absent)
        (.present hinterfaces)) trivial) (.terminal (l := .eof) rfl)) trivial

/-- An accepted source has a document. -/
theorem exists_of_isOk {source : String} (h : (parse source).isOk = true) :
    ∃ d, parse source = .ok d := by
  cases hparse : parse source with
  | error e =>
    rw [hparse] at h
    cases h
  | ok d => exact ⟨d, rfl⟩

/-- Two aspects change places, and so do the methods of one of them. -/
theorem parse_of_shuffles_aspects :
    let x := "/*\n\n*/\n/*\n\n*/\npackage p\n// INTERFACES\n// Aspects\n" ++
      "/*\n\n*/\ntype B interface \x7b\n// Methods\nn()\nm()\n\x7d\n" ++
      "/*\n\n*/\ntype A interface \x7b\x7d\n"
    let y := "/*\n\n*/\n/*\n\n*/\npackage p\n// INTERFACES\n// Aspects\n" ++
      "/*\n\n*/\ntype A interface \x7b\x7d\n" ++
      "/*\n\n*/\ntype B interface \x7b\n// Methods\nm()\nn()\n\x7d\n"
    (∃ d, parse x = .ok d) ∧ (∃ e, parse y = .ok e) ∧
      (∃ d₀, Shuffles .plain (.rule .source) ((tokenize x).map (·.toLexeme))
        ((tokenize y).map (·.toLexeme)) d₀) ∧ parse x = parse y := by
  intro x y
  obtain ⟨d, hx⟩ : ∃ d, parse x = .ok d := exists_of_isOk (by decide +kernel)
  have hy : ∃ e, parse y = .ok e := exists_of_isOk (by decide +kernel)
  let methods : List (Sibling .method) := [bareMethod "n", bareMethod "m"]
  let moved : List (Sibling .method) := [bareMethod "m", bareMethod "n"]
  let a := bareAspect "A" [] [] []
  let b := bareAspect "B" (⟨.note, "// Methods"⟩ :: methods.flatMap (·.tokens))
    (⟨.note, "// Methods"⟩ :: moved.flatMap (·.shuffled)) [⟨"n", [], none⟩, ⟨"m", [], none⟩]
  have hmethods : Shuffles .plain (.rule .methods)
      (⟨.note, "// Methods"⟩ :: methods.flatMap (·.tokens))
      (⟨.note, "// Methods"⟩ :: moved.flatMap (·.shuffled))
      ([⟨"n", [], none⟩, ⟨"m", [], none⟩] : List Method) := by
    refine .rule (r := .methods) (v := (_, [_, _])) (.sequence .fixed
      (.siblings (r := .method) rfl nofun ?_ (by decide) (.swap ..))) trivial
    exact List.forall_mem_cons.2 ⟨shuffles_bareMethod "n",
      List.forall_mem_singleton.2 (shuffles_bareMethod "m")⟩
  have haspects : Shuffles .plain (.some (.rule .aspect)) ([b, a].flatMap (·.tokens))
      ([a, b].flatMap (·.shuffled)) ([b.node, a.node] : List Aspect) := by
    refine .siblings (r := .aspect) rfl nofun ?_ (by decide) (.swap ..)
    exact List.forall_mem_cons.2 ⟨shuffles_bareAspect "B" (.present hmethods),
      List.forall_mem_singleton.2 (shuffles_bareAspect "A" .absent)⟩
  have htokensx : (tokenize x).map (·.toLexeme) = aspectsWords ([b, a].flatMap (·.tokens)) := by
    decide +kernel
  have htokensy : (tokenize y).map (·.toLexeme) = aspectsWords ([a, b].flatMap (·.shuffled)) := by
    decide +kernel
  have hshuffles := shuffles_aspectsWords haspects
  rw [← htokensx, ← htokensy] at hshuffles
  exact ⟨⟨d, hx⟩, hy, ⟨_, hshuffles⟩, ((parse_of_shuffles hx).2 y _ hshuffles hy).1⟩

end Document

end PackageModel
