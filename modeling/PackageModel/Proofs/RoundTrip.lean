import Mathlib
import PackageModel.Problem
import PackageModel.Proofs.Completeness
import PackageModel.Proofs.Layout.Fits
import PackageModel.Proofs.Layout.Shows
import PackageModel.Proofs.Soundness

/-!
# PackageModel.Proofs.RoundTrip

Parsing the canonical text of a document.  A well-formed document is found again.  What a text
parses to is well-formed but for one thing: putting methods in order may bring a method without a
result in front of one that is named like a prefix.
-/

namespace PackageModel.Document

open Production

/-- Documents that can be written down and read again: their texts are tokens, no name is taken for
a prefix, one token of lookahead is enough, and the siblings are in canonical order. -/
structure WellFormed (d : Document) : Prop where
  texts : AllWhole d.texts
  proper : d.Proper
  legible : d.Legible
  inOrder : d.InOrder

variable {d : Document} {source : String}

/-! ## Documents -/

/-- The canonical text has a plain derivation. -/
theorem plain_canonicalText (ht : AllWhole d.texts) (hp : d.Proper) :
    Plain .source ((tokenize d.canonicalText).map (·.toLexeme)) [] d := by
  rw [tokenize_canonicalText ht, derives_source]
  exact ⟨"", layout_shows hp [.eof]⟩

/-- A document in order that is not legible is not read again, any other one is. -/
theorem parse_canonicalText_of_inOrder (ht : AllWhole d.texts) (hp : d.Proper) (ho : d.InOrder) :
    ((∃ e, parse d.canonicalText = .ok e) ↔ d.Legible) ∧
      (d.Legible → parse d.canonicalText = .ok d) := by
  have h := ofTokens_of_plain (plain_canonicalText ht hp)
  rw [arranged_of_inOrder ho] at h
  exact h

/-- Formatting lays out the document that was read. -/
theorem format_of_parse (h : parse source = .ok d) : format source = .ok d.canonicalText := by
  rw [format, h]
  rfl

/-- Parsing undoes formatting. -/
theorem parse_canonicalText (h : d.WellFormed) :
    parse d.canonicalText = .ok d ∧ format d.canonicalText = .ok d.canonicalText := by
  have hparse := (parse_canonicalText_of_inOrder h.texts h.proper h.inOrder).2 h.legible
  exact ⟨hparse, format_of_parse hparse⟩

/-- A document with imports, a map type and methods with and without a result. -/
def withMap : Document :=
  ⟨"/*\nNotice\n*/\n", ⟨"/*\nHeader\n*/\n", "a"⟩, some [⟨"c", "\"x\""⟩, ⟨"b", "\"y\""⟩],
    some ⟨[⟨⟨"/*\n\n*/\n", "A", []⟩, .mk (some (.map "K")) "B" [], none⟩], []⟩,
    some ⟨[⟨⟨"/*\n\n*/\n", "C", []⟩, [⟨"m", [⟨"p", .mk none "B" []⟩], none⟩,
      ⟨"n", [], some (.abstraction (.mk none "B" []))⟩]⟩], [], []⟩⟩

theorem parse_canonicalText_withMap :
    withMap.WellFormed ∧ parse withMap.canonicalText = .ok withMap ∧
      format withMap.canonicalText = .ok withMap.canonicalText := by
  have hB : Abstraction.Proper (.mk none "B" []) := ⟨nofun, fun _ => by decide, trivial⟩
  have hproper : withMap.Proper := by
    refine ⟨?_, nofun, ?_, nofun, nofun⟩
    · intro s hs
      obtain rfl := List.mem_singleton.1 hs
      refine ⟨nofun, ⟨?_, nofun, trivial⟩, nofun⟩
      rintro q ⟨⟩
      trivial
    · intro a ha
      obtain rfl := List.mem_singleton.1 ha
      refine ⟨nofun, List.forall_mem_cons.2 ⟨⟨?_, nofun⟩, List.forall_mem_singleton.2 ⟨nofun, ?_⟩⟩⟩
      · exact List.forall_mem_singleton.2 hB
      · rintro r ⟨⟩
        exact hB
  have hlegible : withMap.Legible := by
    refine ⟨?_, ?_, nofun⟩
    · exact List.forall_mem_singleton.2 fun _ => nofun
    · refine List.forall_mem_singleton.2 ?_
      exact List.isChain_pair.2 fun _ => by decide
  have horder : withMap.InOrder := by
    refine ⟨by decide, by decide, by decide, by decide, by decide, by decide, ?_, nofun, nofun,
      nofun⟩
    exact List.forall_mem_singleton.2 (by decide)
  have h : withMap.WellFormed := ⟨by decide, hproper, hlegible, horder⟩
  exact ⟨h, parse_canonicalText h⟩

/-! ## Texts that parse -/

/-- What stands behind the document is the last token of the source. -/
theorem document_of_plain (h : Plain .source ((tokenize source).map (·.toLexeme)) [] d) :
    Plain .document ((tokenize source).map (·.toLexeme)) [.eof] d := by
  obtain ⟨v, hd⟩ := derives_source.1 h
  obtain ⟨ts, e, htokens, he, -⟩ := exists_tokenize_eq source
  obtain ⟨u, hu⟩ := hd.suffix
  rw [htokens, List.map_append, List.map_singleton, he] at hu
  rwa [List.singleton_inj.1 (List.append_inj' hu rfl).2] at hd

/-- The texts of what has been parsed are tokens of the source. -/
theorem allWhole_of_plain (h : Plain .source ((tokenize source).map (·.toLexeme)) [] d) :
    AllWhole d.texts := by
  obtain ⟨ts, e, htokens, he, hts⟩ := exists_tokenize_eq source
  have herror := h.kind_ne_error
  have hd := document_of_plain h
  rw [htokens, List.map_append, List.map_singleton, he] at hd
  refine Derives.textsAre (r := .document) hd fun l hl => ?_
  obtain ⟨t, ht, rfl⟩ := List.mem_map.1 hl
  rcases hts t ht with hkind | hwhole
  · refine absurd hkind (herror _ (List.mem_map_of_mem ?_))
    rw [htokens]
    exact List.mem_append_left _ ht
  · exact hwhole

/-! ## Putting in order -/

/-- Documents have the same texts in any order. -/
theorem allWhole_arranged (h : AllWhole d.texts) : AllWhole d.arranged.texts := by
  obtain ⟨notice, header, imports, types, interfaces⟩ := d
  have htypes : (∀ t ∈ types.toList, AllWhole t.texts) →
      ∀ t ∈ (types.map Types.arranged).toList, AllWhole t.texts := by
    cases types with
    | none => exact id
    | some t => simp [Types.arranged, Types.texts]
  have hinterfaces : (∀ i ∈ interfaces.toList, AllWhole i.texts) →
      ∀ i ∈ (interfaces.map Interfaces.arranged).toList, AllWhole i.texts := by
    cases interfaces with
    | none => exact id
    | some i =>
      simp [Interfaces.arranged, Interfaces.texts, Aspect.arranged, Aspect.texts, Class.arranged,
        Class.texts, Instance.arranged, Instance.texts]
  simp only [texts, List.cons_append, allWhole_cons, allWhole_append, allWhole_flatMap] at h ⊢
  obtain ⟨hnotice, ⟨⟨hheader, hmodules⟩, ht⟩, hi⟩ := h
  exact ⟨hnotice, ⟨⟨hheader, fun m hm => hmodules m (mem_arranged_modules.1 hm)⟩, htypes ht⟩,
    hinterfaces hi⟩

/-- Documents are proper in any order. -/
theorem proper_arranged (h : d.Proper) : d.arranged.Proper := by
  refine ⟨fun s hs => h.specializations s (mem_arranged_specializations.1 hs),
    fun f hf => h.functionals f (mem_arranged_functionals.1 hf), ?_, ?_, ?_⟩
  · intro a ha
    obtain ⟨b, hb, rfl⟩ := mem_arranged_aspects ha
    have hproper := h.aspects b hb
    exact ⟨hproper.declaration, fun m hm => hproper.methods m (mem_canonicalSort.1 hm)⟩
  · intro c hc
    obtain ⟨b, hb, rfl⟩ := mem_arranged_classes hc
    have hproper := h.classes b hb
    exact ⟨hproper.declaration, hproper.constants,
      fun k hk => hproper.constructors k (mem_canonicalSort.1 hk),
      fun f hf => hproper.functions f (mem_canonicalSort.1 hf)⟩
  · intro i hi
    obtain ⟨b, hb, rfl⟩ := mem_arranged_instances hi
    have hproper := h.instances b hb
    exact ⟨hproper.declaration, hproper.attributes, hproper.abstractions,
      fun m hm => hproper.methods m (mem_canonicalSort.1 hm)⟩

/-- Putting a legible document in order moves nothing but methods to where they cannot be read. -/
theorem legible_arranged_iff (h : d.Legible) :
    d.arranged.Legible ↔ (∀ a ∈ d.arranged.aspects, a.Legible) ∧
      ∀ i ∈ d.arranged.instances, i.methods.IsChain Method.Apart := by
  constructor
  · intro hd
    exact ⟨hd.aspects, fun i hi => (hd.instances i hi).methods⟩
  · rintro ⟨ha, hi⟩
    refine ⟨fun s hs => h.specializations s (mem_arranged_specializations.1 hs), ha, ?_⟩
    intro i hmem
    obtain ⟨b, hb, rfl⟩ := mem_arranged_instances hmem
    have hlegible := h.instances b hb
    exact ⟨hlegible.attributes, hlegible.abstractions, hi _ hmem⟩

/-- The canonical text of a document that has been parsed is read again, as this document, if and
only if no method without a result has come to stand in front of one named like a prefix; else it
does not parse. -/
theorem parse_canonicalText_iff (h : parse source = .ok d) :
    (parse d.canonicalText = .ok d ↔ (∀ a ∈ d.aspects, a.Legible) ∧
      ∀ i ∈ d.instances, i.methods.IsChain Method.Apart) ∧
    (format d.canonicalText = .ok d.canonicalText ↔ parse d.canonicalText = .ok d) ∧
    ∀ e, parse d.canonicalText = .ok e → e = d := by
  obtain ⟨d₀, hplain, rfl⟩ := plain_of_parse h
  obtain ⟨v, hd⟩ := derives_source.1 hplain
  have htexts := allWhole_arranged (allWhole_of_plain hplain)
  have hproper := proper_arranged (proper_of_derives hd)
  have hlegible := (ofTokens_of_plain hplain).1.1 ⟨_, h⟩
  obtain ⟨hiff, hok⟩ := parse_canonicalText_of_inOrder htexts hproper d₀.arranged_inOrder
  -- whatever the canonical text is read as, it is legible, and then it is this document
  have honly : ∀ e, parse d₀.arranged.canonicalText = .ok e → e = d₀.arranged := by
    intro e he
    have heq := hok (hiff.1 ⟨e, he⟩)
    rw [he] at heq
    exact Except.ok.inj heq
  refine ⟨?_, ?_, honly⟩
  · rw [← legible_arranged_iff hlegible]
    exact ⟨fun hparse => hiff.1 ⟨_, hparse⟩, hok⟩
  · constructor
    · intro hformat
      cases hparse : parse d₀.arranged.canonicalText with
      | error e =>
        rw [format, hparse] at hformat
        cases hformat
      | ok e => rw [honly e hparse]
    · exact format_of_parse

/-- A document with one aspect, which has the given methods. -/
def ofMethods (methods : List Method) : Document :=
  ⟨"/*\n\n*/\n", ⟨"/*\n\n*/\n", "p"⟩, none, none,
    some ⟨[⟨⟨"/*\n\n*/\n", "A", []⟩, methods⟩], [], []⟩⟩

/-- The two methods are read, and they stand in canonical order then. -/
theorem parse_foo_bar :
    parse ("/*\n\n*/\n/*\n\n*/\npackage p\n// INTERFACES\n// Aspects\n/*\n\n*/\n" ++
      "type A interface \x7b\n// Methods\nfoo()\nbar()\n\x7d\n") =
      .ok (ofMethods [⟨"bar", [], none⟩, ⟨"foo", [], none⟩]) := by
  unfold ofMethods
  cbv

/-- Methods that come to stand in front of methods with other names. -/
theorem parse_canonicalText_iff_sorted :
    let d := ofMethods [⟨"bar", [], none⟩, ⟨"foo", [], none⟩]
    (∃ source, parse source = .ok d) ∧ parse d.canonicalText = .ok d := by
  intro d
  refine ⟨⟨_, parse_foo_bar⟩, (parse_canonicalText_iff parse_foo_bar).1.2 ⟨?_, nofun⟩⟩
  refine List.forall_mem_singleton.2 ?_
  exact List.isChain_pair.2 fun _ => by decide

/-- A method without a result in front of one that is named like a prefix. -/
def barChan : Document :=
  ofMethods [⟨"bar", [], none⟩, ⟨"chan", [], some (.abstraction (.mk none "a" []))⟩]

/-- A text may parse although the canonical text of its document does not. -/
theorem exists_parse_not_canonicalText :
    ∃ source d, parse source = .ok d ∧ ∀ e, parse d.canonicalText ≠ .ok e := by
  have hsource : parse ("/*\n\n*/\n/*\n\n*/\npackage p\n// INTERFACES\n// Aspects\n" ++
      "/*\n\n*/\ntype A interface \x7b\n// Methods\nchan() a\nbar()\n\x7d\n") =
      .ok barChan := by
    unfold barChan ofMethods
    cbv
  obtain ⟨text, htext, hfail⟩ :
      ∃ text, barChan.canonicalText = text ∧ (parse text).isOk = false := by
    refine ⟨"/*\n\n*/\n/*\n\n*/\npackage p\n\n// INTERFACES\n\n// Aspects\n\n/*\n\n*/\n" ++
      "type A interface \x7b\n\t// Methods\n\tbar()\n\tchan() a\n\x7d\n", ?_, ?_⟩
    · unfold barChan ofMethods
      cbv
    · cbv
  refine ⟨_, barChan, hsource, fun e he => ?_⟩
  rw [← htext, he] at hfail
  cases hfail

end PackageModel.Document
