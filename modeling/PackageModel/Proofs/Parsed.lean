import PackageModel.Proofs.RoundTrip

/-!
# PackageModel.Proofs.Parsed

What can be relied on in a document that has been parsed.  It lacks only one thing to be
well-formed: in canonical order a method without a result may stand in front of one that is named
like a prefix.
-/

namespace PackageModel.Document

open Production

/-- Documents as parsing gives them. -/
structure Regular (d : Document) : Prop where
  /-- Every comment, name and locator is one whole token. -/
  texts : AllWhole d.texts
  /-- No name is spelt like a prefix where a prefix may stand, and no result is empty. -/
  proper : d.Proper
  inOrder : d.InOrder
  /-- Only a name with generic parameters is defined as a sequence type. -/
  specializations : ∀ s ∈ d.specializations, s.Legible
  /-- No attribute without an abstraction stands in front of one that is named like a prefix. -/
  attributes : ∀ i ∈ d.instances, i.attributes.IsChain Attribute.Apart
  /-- No abstraction without arguments stands in front of a sequence type. -/
  abstractions : ∀ i ∈ d.instances, i.abstractions.IsChain Abstraction.Apart

variable {d : Document} {source : String}

/-- What else a well-formed document has concerns its methods. -/
theorem wellFormed_iff : d.WellFormed ↔ d.Regular ∧ (∀ a ∈ d.aspects, a.Legible) ∧
    ∀ i ∈ d.instances, i.methods.IsChain Method.Apart := by
  constructor
  · intro h
    have hinstances := h.legible.instances
    exact ⟨⟨h.texts, h.proper, h.inOrder, h.legible.specializations,
      fun i hi => (hinstances i hi).attributes, fun i hi => (hinstances i hi).abstractions⟩,
      h.legible.aspects, fun i hi => (hinstances i hi).methods⟩
  · rintro ⟨h, haspects, hmethods⟩
    exact ⟨h.texts, h.proper, ⟨h.specializations, haspects, fun i hi =>
      ⟨h.attributes i hi, h.abstractions i hi, hmethods i hi⟩⟩, h.inOrder⟩

/-- Putting methods in order cannot do harm to anything else. -/
theorem regular_arranged (ht : AllWhole d.texts) (hp : d.Proper) (hl : d.Legible) :
    d.arranged.Regular where
  texts := allWhole_arranged ht
  proper := proper_arranged hp
  inOrder := d.arranged_inOrder
  specializations s hs := hl.specializations s (mem_arranged_specializations.1 hs)
  attributes i hi := by
    obtain ⟨j, hj, rfl⟩ := mem_arranged_instances hi
    exact (hl.instances j hj).attributes
  abstractions i hi := by
    obtain ⟨j, hj, rfl⟩ := mem_arranged_instances hi
    exact (hl.instances j hj).abstractions

/-- A document that has been parsed is regular, and where siblings have equal keys they stand as
they do in the source. -/
theorem regular_of_parse (h : parse source = .ok d) :
    d.Regular ∧ ∃ d₀, Derives .any (.rule .source) ((tokenize source).map (·.toLexeme)) [] d₀ ∧
      d₀.Arranged d := by
  obtain ⟨d₀, hplain, rfl⟩ := plain_of_parse h
  obtain ⟨v, hd⟩ := derives_source.1 hplain
  have hlegible : d₀.Legible := (ofTokens_of_plain hplain).1.1 ⟨_, h⟩
  exact ⟨regular_arranged (allWhole_of_plain hplain) (proper_of_derives hd) hlegible,
    d₀, hplain.mono fun _ _ _ => trivial, d₀.arranged_arranges⟩

/-- Two types with the same key, of which one is generic and defined as a sequence type. -/
theorem regular_of_parse_sameKey :
    ∃ d, parse ("/*\n\n*/\n/*\n\n*/\npackage p\n// TYPES\n// Specializations\n" ++
        "/*\n\n*/\ntype b a.C\n/*\n\n*/\ntype B[K C] []K\n") = .ok d ∧
      d.Regular ∧ d.specializations.map (·.declaration.identifier) = ["b", "B"] := by
  have h : parse ("/*\n\n*/\n/*\n\n*/\npackage p\n// TYPES\n// Specializations\n" ++
      "/*\n\n*/\ntype b a.C\n/*\n\n*/\ntype B[K C] []K\n") =
      .ok ⟨"/*\n\n*/\n", ⟨"/*\n\n*/\n", "p"⟩, none,
        some ⟨[⟨⟨"/*\n\n*/\n", "b", []⟩, .mk (some (.aliased "a")) "C" [], none⟩,
          ⟨⟨"/*\n\n*/\n", "B", [⟨"K", .mk none "C" []⟩]⟩, .mk (some .array) "K" [], none⟩], []⟩,
        none⟩ := by cbv
  exact ⟨_, h, (regular_of_parse h).1, rfl⟩

end PackageModel.Document
