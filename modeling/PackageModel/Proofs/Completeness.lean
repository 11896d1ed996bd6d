import PackageModel.Proofs.Complete.Document
import PackageModel.Proofs.Grammar.Texts
import PackageModel.Proofs.Token.Tokenize

/-!
# PackageModel.Proofs.Completeness

How far parsing is complete for the grammar.  Tokens without keywords in the place of names are
parsed if and only if two constructs do not occur in them that need a second token of lookahead.
-/

namespace PackageModel

open Production

/-- No token that stands for a name is spelt like a keyword. -/
def Condition.noKeyword : Condition := fun r v =>
  r.production.Each (fun t i => t = .identifier → i ∉ keywords) (fun _ _ => True) v

/-- What is asked of each token may be weakened. -/
theorem Production.Each.mono {Q Q' : Terminal → String → Prop} {N : (r : Rule) → r.Node → Prop}
    {p : Production} {v : p.Value} (hQ : ∀ t i, Q t i → Q' t i) (h : p.Each Q N v) :
    p.Each Q' N v := by
  induction p with
  | terminal t => exact hQ t v h
  | rule r => exact h
  | optional p ih => exact fun u hu => ih (h u hu)
  | many p ih | some p ih => exact fun u hu => ih (h u hu)
  | sequence p q ihp ihq => exact ⟨ihp h.1, ihq h.2⟩
  | choice p q ihp ihq => exact ⟨fun u hu => ihp (h.1 u hu), fun u hu => ihq (h.2 u hu)⟩

/-- The words of a prefix are among those of the language. -/
theorem not_mem_words {i : String} (hi : i ∉ keywords) : i ∉ Prefix.words := by
  intro hmem
  simp only [Prefix.words, List.mem_cons, List.not_mem_nil, or_false] at hmem
  rcases hmem with rfl | rfl <;> exact hi (by decide)

/-- Without keywords in the place of names, a keyword that starts a prefix names nothing. -/
theorem Condition.plain_of_noKeyword (r : Rule) (v : r.production.Value)
    (h : Condition.noKeyword r v) : Condition.plain r v := by
  cases r with
  | abstraction =>
    obtain ⟨⟨q, i⟩, as⟩ := v
    exact fun _ => not_mem_words (h.1.2 rfl)
  | qualifier =>
    rcases v with _ | _ | _ | ⟨i, _⟩
    · trivial
    · trivial
    · trivial
    · exact not_mem_words ((((h.2 _ rfl).2 _ rfl).2 _ rfl).1 rfl)
  | _ => trivial

namespace Document

variable {tokens : List Token} {d : Document}

/-- The tokens of a plain derivation are parsed if and only if the document is legible, and then
the result is the document in canonical order. -/
theorem ofTokens_of_plain (h : Plain .source (tokens.map (·.toLexeme)) [] d) :
    ((∃ e, ofTokens tokens = .ok e) ↔ d.Legible) ∧
      (d.Legible → ofTokens tokens = .ok d.arranged) := by
  have hgives : (readSource (tokens.length + 1)).Gives (TokenStream.ofList tokens).lexemes
      d.Legible d.arranged [] := by
    refine readSource_gives h ?_
    rw [TokenStream.lexemes, List.length_map]
    exact Nat.lt_succ_self _
  have herror : ∀ t ∈ (TokenStream.ofList tokens).ahead, t.kind ≠ .error := fun t ht =>
    h.kind_ne_error t.toLexeme (List.mem_map_of_mem ht)
  have hok (hd : d.Legible) : ofTokens tokens = .ok d.arranged := by
    obtain ⟨s', hrun⟩ := Reading.run_of_eval herror (hgives.ok hd)
    exact congrArg Prod.fst hrun
  refine ⟨⟨?_, fun hd => ⟨_, hok hd⟩⟩, hok⟩
  rintro ⟨e, he⟩
  by_contra hd
  have hrun : (readSource (tokens.length + 1)).run (.ofList tokens) =
      (.ok e, ((readSource (tokens.length + 1)).run (.ofList tokens)).2) := Prod.ext he rfl
  have heval := Reading.eval_of_run hrun
  rw [hgives.failed hd] at heval
  cases heval

/-- Tokens of a plain derivation that are parsed have its document, in canonical order. -/
theorem ofTokens_eq_arranged (h : Plain .source (tokens.map (·.toLexeme)) [] d)
    (hok : ∃ e, ofTokens tokens = .ok e) : ofTokens tokens = .ok d.arranged :=
  (ofTokens_of_plain h).2 ((ofTokens_of_plain h).1.1 hok)

/-! ## Tokens without keywords in the place of names -/

/-- The texts of an aspect are texts of its document. -/
theorem mem_texts_of_aspect {a : Aspect} {l : Lexeme} (ha : a ∈ d.aspects) (hl : l ∈ a.texts) :
    l ∈ d.texts := by
  obtain ⟨notice, header, imports, types, interfaces⟩ := d
  cases interfaces with
  | none => cases ha
  | some i =>
    have hmem : l ∈ i.texts := by
      simp only [Interfaces.texts, List.mem_append, List.mem_flatMap]
      exact .inl (.inl ⟨a, ha, hl⟩)
    simp [texts, hmem]

/-- The texts of an instance are texts of its document. -/
theorem mem_texts_of_instance {i : Instance} {l : Lexeme} (hi : i ∈ d.instances)
    (hl : l ∈ i.texts) : l ∈ d.texts := by
  obtain ⟨notice, header, imports, types, interfaces⟩ := d
  cases interfaces with
  | none => cases hi
  | some j =>
    have hmem : l ∈ j.texts := by
      simp only [Interfaces.texts, List.mem_append, List.mem_flatMap]
      exact .inr ⟨i, hi, hl⟩
    simp [texts, hmem]

/-- Where everything may stand next to everything else, any order will do. -/
theorem isChain_of_forall_mem {α : Type} {R : α → α → Prop} {items : List α}
    (h : ∀ b ∈ items, ∀ a, R a b) : items.IsChain R :=
  List.Pairwise.isChain (List.pairwise_of_forall_mem_list fun a _ b hb => h b hb a)

/-- Where no name is a keyword, a result never stands for one. -/
theorem legible_iff_of_names (h : ∀ i, .name i ∈ d.texts → i ∉ Prefix.words) :
    d.Legible ↔ (∀ s ∈ d.specializations, s.Legible) ∧
      ∀ i ∈ d.instances, i.abstractions.IsChain Abstraction.Apart := by
  constructor
  · intro hd
    exact ⟨hd.specializations, fun i hi => (hd.instances i hi).abstractions⟩
  · rintro ⟨hs, habstractions⟩
    have haspects : ∀ a ∈ d.aspects, a.Legible := fun a ha =>
      isChain_of_forall_mem fun m hm _ _ => h _ <| mem_texts_of_aspect ha <|
        List.mem_append_right _ (List.mem_flatMap.2 ⟨m, hm, List.mem_append_left _ (by simp)⟩)
    have hattributes : ∀ i ∈ d.instances, i.attributes.IsChain Attribute.Apart := fun i hi =>
      isChain_of_forall_mem fun a ha _ _ => h _ <| mem_texts_of_instance hi <| by
        simp only [Instance.texts, List.mem_append, List.mem_flatMap]
        exact .inl (.inl (.inr ⟨a, ha, by simp [Attribute.texts]⟩))
    have hmethods : ∀ i ∈ d.instances, i.methods.IsChain Method.Apart := fun i hi =>
      isChain_of_forall_mem fun m hm _ _ => h _ <| mem_texts_of_instance hi <| by
        simp only [Instance.texts, List.mem_append, List.mem_flatMap]
        exact .inr ⟨m, hm, by simp [Method.texts]⟩
    exact ⟨hs, haspects,
      fun i hi => ⟨hattributes i hi, habstractions i hi, hmethods i hi⟩⟩

/-- The tokens of a source with one specialization, which is defined by the given ones. -/
def specializationWords (words : List Lexeme) : List Lexeme :=
  ⟨.comment, "/*\n\n*/\n"⟩ :: ⟨.comment, "/*\n\n*/\n"⟩ :: .name "package" :: .name "p" ::
    ⟨.note, "// TYPES"⟩ :: ⟨.note, "// Specializations"⟩ :: ⟨.comment, "/*\n\n*/\n"⟩ ::
    .name "type" :: .name "A" :: (words ++ [.eof])

/-- A document with one specialization, without generic parameters. -/
def ofSpecialization (a : Abstraction) : Document :=
  ⟨"/*\n\n*/\n", ⟨"/*\n\n*/\n", "p"⟩, none,
    some ⟨[⟨⟨"/*\n\n*/\n", "A", []⟩, a, none⟩], []⟩, none⟩

/-- The tokens of an abstraction make the tokens of a source. -/
theorem derives_specializationWords (words : List Lexeme) {a : Abstraction}
    (h : Derives .noKeyword (.rule .abstraction) (words ++ [.eof]) [.eof] a) :
    Derives .noKeyword (.rule .source) (specializationWords words) [] (ofSpecialization a) := by
  have hcomment {w : List Lexeme} {v : String} :
      Derives .noKeyword (.terminal .comment) (⟨.comment, v⟩ :: w) w v := derives_kind.2 rfl
  have hnote {w : List Lexeme} {v : String} :
      Derives .noKeyword (.terminal (.note v)) (⟨.note, v⟩ :: w) w v := derives_fixed.2 ⟨rfl, rfl⟩
  have heof : Derives .noKeyword (.terminal .eof) [Lexeme.eof] [] "" := derives_kind.2 rfl
  have hp : "p" ∉ keywords := by decide
  have hA : "A" ∉ keywords := by decide
  have hnotice {w : List Lexeme} {c : String} :
      Derives .noKeyword (.rule .notice) (⟨.comment, c⟩ :: w) w c :=
    .rule (r := .notice) (v := c) hcomment nofun
  have hheader {w : List Lexeme} {c : String} : Derives .noKeyword (.rule .header)
      (⟨.comment, c⟩ :: .name "package" :: .name "p" :: w) w (⟨c, "p"⟩ : Header) :=
    .rule (r := .header) (v := ((c, "package"), "p"))
      (.sequence (.sequence hcomment .word) .name) ⟨⟨nofun, nofun⟩, fun _ => hp⟩
  have hdeclaration {w : List Lexeme} {c : String} : Derives .noKeyword (.rule .declaration)
      (⟨.comment, c⟩ :: .name "type" :: .name "A" :: w) w (⟨c, "A", []⟩ : Declaration) :=
    .rule (r := .declaration) (v := (((c, "type"), "A"), none))
      (.sequence (.sequence (.sequence hcomment .word) .name) .absent)
      ⟨⟨⟨nofun, nofun⟩, fun _ => hA⟩, nofun⟩
  have hspecialization {c : String} : Derives .noKeyword (.rule .specialization)
      (⟨.comment, c⟩ :: .name "type" :: .name "A" :: (words ++ [.eof])) [.eof]
      (⟨⟨c, "A", []⟩, a, none⟩ : Specialization) :=
    .rule (r := .specialization) (v := ((⟨c, "A", []⟩, a), none))
      (.sequence (.sequence hdeclaration h) .absent) ⟨⟨trivial, trivial⟩, nofun⟩
  have htypes {c : String} : Derives .noKeyword (.rule .types)
      (⟨.note, "// TYPES"⟩ :: ⟨.note, "// Specializations"⟩ :: ⟨.comment, c⟩ :: .name "type" ::
        .name "A" :: (words ++ [.eof])) [.eof] (⟨[⟨⟨c, "A", []⟩, a, none⟩], []⟩ : Types) :=
    .rule (r := .types) (v := (("// TYPES", some [⟨⟨c, "A", []⟩, a, none⟩]), none))
      (.sequence (.sequence hnote (.present (.rule (r := .specializations)
        (v := ("// Specializations", [⟨⟨c, "A", []⟩, a, none⟩]))
        (.sequence hnote (.some hspecialization .nil)) ⟨nofun, fun _ _ => trivial⟩))) .absent)
      ⟨⟨nofun, fun _ _ => trivial⟩, nofun⟩
  exact .rule (r := .source) (.sequence (.rule (r := .document)
    (v := ((((_, ⟨_, "p"⟩), none), some _), none))
    (.sequence (.sequence (.sequence (.sequence hnotice hheader) .absent) (.present htypes))
      .absent)
    ⟨⟨⟨⟨trivial, trivial⟩, nofun⟩, fun _ _ => trivial⟩, nofun⟩) heof) ⟨trivial, nofun⟩

/-- Tokens that are derivable without keywords in the place of names are parsed if and only if no
sequence type is defined by a name without generic parameters, and none stands behind an
abstraction without arguments in a list of abstractions. -/
theorem exists_ofTokens_iff
    (h : Derives .noKeyword (.rule .source) (tokens.map (·.toLexeme)) [] d) :
    ((∃ e, ofTokens tokens = .ok e) ↔ (∀ s ∈ d.specializations, s.Legible) ∧
      ∀ i ∈ d.instances, i.abstractions.IsChain Abstraction.Apart) ∧
    ∀ e, ofTokens tokens = .ok e → e = d.arranged := by
  have hplain : Plain .source (tokens.map (·.toLexeme)) [] d :=
    h.mono Condition.plain_of_noKeyword
  have htexts : ∀ l ∈ d.texts, l.kind = .identifier → l.value ∉ keywords := by
    refine Derives.textsAre_of_condition (r := .source) (fun r v hv => ?_) h
    refine hv.mono fun t i ht hnone hkind => ht ?_
    obtain ⟨kind, value⟩ := t
    obtain rfl : value = none := hnone
    obtain rfl : kind = .identifier := hkind
    rfl
  have hnames : ∀ i, .name i ∈ d.texts → i ∉ Prefix.words := fun i hi =>
    not_mem_words (htexts _ hi rfl)
  obtain ⟨hiff, hok⟩ := ofTokens_of_plain hplain
  refine ⟨hiff.trans (legible_iff_of_names hnames), fun e he => ?_⟩
  have heq := hok (hiff.1 ⟨e, he⟩)
  rw [he] at heq
  exact Except.ok.inj heq

/-- A name may define another one. -/
theorem exists_ofTokens_iff_name :
    let source := "/*\n\n*/\n/*\n\n*/\npackage p\n// TYPES\n// Specializations\n" ++
      "/*\n\n*/\ntype A B"
    Derives .noKeyword (.rule .source) ((tokenize source).map (·.toLexeme)) []
        (ofSpecialization (.mk none "B" [])) ∧
      ∃ e, ofTokens (tokenize source) = .ok e := by
  intro source
  have hB : "B" ∉ keywords := by decide
  have htokens : (tokenize source).map (·.toLexeme) = specializationWords [.name "B"] := by
    decide
  have h : Derives .noKeyword (.rule .source) ((tokenize source).map (·.toLexeme)) []
      (ofSpecialization (.mk none "B" [])) := by
    rw [htokens]
    refine derives_specializationWords _
      (.rule (r := .abstraction) (v := ((none, "B"), none)) ?_ ?_)
    · exact .sequence (.sequence .absent .name) .absent
    · exact ⟨⟨nofun, fun _ => hB⟩, nofun⟩
  refine ⟨h, (exists_ofTokens_iff h).1.2 ⟨fun s hs _ => ?_, nofun⟩⟩
  obtain rfl := List.mem_singleton.1 hs
  exact nofun

/-- A name cannot define a sequence type, although the grammar says so. -/
theorem exists_derives_not_ofTokens :
    ∃ tokens d, Derives .noKeyword (.rule .source) (tokens.map (·.toLexeme)) [] d ∧
      ∀ e, ofTokens tokens ≠ .ok e := by
  have hB : "B" ∉ keywords := by decide
  have htokens : (tokenize ("/*\n\n*/\n/*\n\n*/\npackage p\n// TYPES\n// Specializations\n" ++
      "/*\n\n*/\ntype A []B")).map (·.toLexeme) =
      specializationWords [.mark "[", .mark "]", .name "B"] := by decide
  have h := derives_specializationWords [.mark "[", .mark "]", .name "B"]
    (.rule (r := .abstraction) (v := ((some Prefix.array, "B"), none))
      (.sequence (.sequence (.present (.rule (r := .qualifier) (.left (.sequence .mark .mark))
        ⟨fun _ _ => ⟨nofun, nofun⟩, nofun⟩)) .name) .absent)
      ⟨⟨fun _ _ => trivial, fun _ => hB⟩, nofun⟩)
  rw [← htokens] at h
  refine ⟨_, _, h, fun e he => ?_⟩
  have hd := (ofTokens_of_plain (h.mono Condition.plain_of_noKeyword)).1.1 ⟨e, he⟩
  exact hd.specializations _ (List.mem_singleton.2 rfl) rfl rfl

end Document

end PackageModel
