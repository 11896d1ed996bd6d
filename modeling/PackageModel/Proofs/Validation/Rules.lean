import PackageModel.Proofs.Validation

/-!
# PackageModel.Proofs.Validation.Rules

Which documents are valid.  The rules are stated for each declaration by itself.  A document is
valid if and only if the declarations that stand in its tables keep them; those that a later one
replaces need not.
-/

namespace PackageModel

variable {d : Document} {names : List String}

/-- Nothing is reported exactly if there is nothing to report. -/
theorem firstOf_eq_ok_iff {vs : List Violation} : firstOf vs = .ok () ↔ vs = [] := by
  cases vs <;> simp [firstOf]

/-! ## Attributes -/

namespace Attribute

variable {a : Attribute} {word word' : String}

/-- The attribute is named for what it does, and has the shape for it. -/
inductive Lawful (a : Attribute) : Prop
  /-- A getter takes nothing and gives a value. -/
  | get (hname : a.StartsWith "Get") (hparameter : a.parameter = none)
      (habstraction : a.abstraction.isSome)
  /-- A setter takes a value and gives nothing. -/
  | set (hname : a.StartsWith "Set") (hparameter : a.parameter.isSome)
      (habstraction : a.abstraction = none)
  /-- A question takes nothing and gives a truth value. -/
  | ask (hname : ∃ word ∈ questionWords, a.StartsWith word) (hparameter : a.parameter = none)
      (habstraction : a.abstraction = some (.named "bool"))

/-- A name cannot start with two words of which neither starts with the other. -/
theorem StartsWith.not_of_ne (h : a.StartsWith word)
    (hne : ¬ word.toList <+: word'.toList ∧ ¬ word'.toList <+: word.toList) :
    ¬ a.StartsWith word' :=
  fun h' => (List.prefix_or_prefix_of_prefix h h').elim hne.1 hne.2

/-- No name starts with both words. -/
theorem not_get_of_set (h : a.StartsWith "Set") : ¬ a.StartsWith "Get" := h.not_of_ne (by decide)

/-- A question starts with neither of the other words. -/
theorem not_getOrSet_of_ask (h : ∃ word ∈ questionWords, a.StartsWith word) :
    ¬ a.StartsWith "Get" ∧ ¬ a.StartsWith "Set" := by
  obtain ⟨word, hword, hstarts⟩ := h
  have hne : ∀ word ∈ questionWords, ∀ word' ∈ ["Get", "Set"],
      ¬ word.toList <+: word'.toList ∧ ¬ word'.toList <+: word.toList := by decide
  exact ⟨hstarts.not_of_ne (hne word hword _ (by decide)),
    hstarts.not_of_ne (hne word hword _ (by decide))⟩

/-- Nothing is wrong with the answer to a question if it is the plain truth type. -/
theorem answerFaults_eq_nil_iff {i : String} {answer : Abstraction} :
    answerFaults i answer = [] ↔ answer = .named "bool" := by
  have hfields : answerFaults i answer = [] ↔ answer.qualifier = none ∧
      answer.identifier = "bool" ∧ answer.arguments = [] := by
    simp [answerFaults]
  rw [hfields]
  obtain ⟨q, name, arguments⟩ := answer
  simp [Abstraction.named]

/-- An attribute has no faults if it is as the rules want it. -/
theorem faults_eq_nil_iff : a.faults = [] ↔ a.Lawful := by
  constructor
  · intro h
    unfold faults at h
    split_ifs at h with hget hshape hset hshape hask
    · exact .get hget (by simpa using hshape.1) hshape.2
    · exact .set hset hshape.1 (by simpa using hshape.2)
    · split at h
      · next hparameter habstraction =>
        rw [answerFaults_eq_nil_iff.1 h] at habstraction
        exact .ask hask hparameter habstraction
      · cases h
  · intro h
    cases h with
    | get hname hparameter habstraction => simp [faults, hname, hparameter, habstraction]
    | set hname hparameter habstraction =>
      simp [faults, hname, not_get_of_set hname, hparameter, habstraction]
    | ask hname hparameter habstraction =>
      obtain ⟨hget, hset⟩ := not_getOrSet_of_ask hname
      rw [faults, if_neg hget, if_neg hset, if_pos hname, hparameter, habstraction]
      exact answerFaults_eq_nil_iff.2 rfl

/-- The uses of types in the attribute, whether they count or not. -/
def abstractions (a : Attribute) : List Abstraction :=
  (a.parameter.map (·.abstraction)).toList ++ a.abstraction.toList

/-- In a lawful attribute no alias stands in a place that is not looked at. -/
theorem Lawful.forall_aliases_iff (h : a.Lawful) {P : String → Prop} :
    (∀ b ∈ a.walked, ∀ name ∈ b.aliases, P name) ↔
      ∀ b ∈ a.abstractions, ∀ name ∈ b.aliases, P name := by
  cases h with
  | get hname hparameter habstraction => simp [walked, abstractions, hname, hparameter]
  | set hname hparameter habstraction =>
    simp [walked, abstractions, hname, not_get_of_set hname, habstraction]
  | ask hname hparameter habstraction =>
    obtain ⟨hget, hset⟩ := not_getOrSet_of_ask hname
    have hbool : (Abstraction.named "bool").aliases = [] := rfl
    simp [walked, abstractions, hget, hset, hparameter, habstraction, hbool]

end Attribute

/-! ## Declarations -/

/-- The uses of types in the part, whether they count or not. -/
def Part.abstractions : Part → List Abstraction
  | use a => [a]
  | access a => a.abstractions

namespace Entry

variable {e : Entry}

/-- The rules for a declaration by itself: its attributes are lawful, and all aliases in it, at any
depth, name modules. -/
structure Lawful (d : Document) (e : Entry) : Prop where
  attributes : ∀ a, .access a ∈ e.parts → a.Lawful
  aliases : ∀ p ∈ e.parts, ∀ b ∈ p.abstractions, ∀ name ∈ b.aliases, d.Imports name

/-- The declaration uses the name of another one. -/
def Refers (e : Entry) (name : String) : Prop :=
  e.identifier ≠ name ∧ ∃ p ∈ e.parts, name ∈ p.names

/-- Whether a declaration refers to a name can be computed. -/
instance (e : Entry) (name : String) : Decidable (e.Refers name) :=
  inferInstanceAs (Decidable (_ ∧ _))

/-- The uses of a declaration are the names that it refers to. -/
theorem mem_uses {name : String} : name ∈ e.uses ↔ e.Refers name := by
  rw [uses, List.mem_filter, List.mem_flatMap, decide_eq_true_eq, ne_comm, and_comm]
  rfl

/-- A declaration that has to be used is used or reported. -/
theorem unused_eq_nil_iff :
    e.unused names = [] ↔ (e.mustBeUsed.isSome → e.identifier ∈ names) := by
  unfold unused
  cases e.mustBeUsed <;> simp

end Entry

/-- Nothing is unknown if every alias is that of an import. -/
theorem Document.unknown_eq_nil_iff {aliases : List String} :
    d.unknown aliases = [] ↔ ∀ name ∈ aliases, d.Imports name := by
  simp [unknown]

/-- A part is fine if its attribute is lawful and its aliases are imported. -/
theorem Part.violations_eq_nil_iff {p : Part} :
    p.violations d = [] ↔ (∀ a, p = .access a → a.Lawful) ∧
      ∀ b ∈ p.abstractions, ∀ name ∈ b.aliases, d.Imports name := by
  have hparts : p.violations d = [] ↔ p.faults = [] ∧
      ∀ b ∈ p.walked, ∀ name ∈ b.aliases, d.Imports name := by
    simp [violations, Document.unknown_eq_nil_iff]
  rw [hparts]
  cases p with
  | use a => simp [faults, walked, abstractions]
  | access a =>
    constructor
    · rintro ⟨hfaults, hwalked⟩
      have hlawful := Attribute.faults_eq_nil_iff.1 hfaults
      refine ⟨?_, hlawful.forall_aliases_iff.1 hwalked⟩
      rintro _ ⟨⟩
      exact hlawful
    · rintro ⟨hlawful, haliases⟩
      have ha := hlawful a rfl
      exact ⟨Attribute.faults_eq_nil_iff.2 ha, ha.forall_aliases_iff.2 haliases⟩

/-- A declaration is fine if it is lawful. -/
theorem Entry.violations_eq_nil_iff {e : Entry} : e.violations d = [] ↔ e.Lawful d := by
  simp only [violations, List.flatMap_eq_nil_iff, Part.violations_eq_nil_iff]
  constructor
  · intro h
    exact ⟨fun a ha => (h _ ha).1 a rfl, fun p hp => (h p hp).2⟩
  · rintro h p hp
    exact ⟨fun a ha => h.attributes a (ha ▸ hp), h.aliases p hp⟩

/-! ## Documents -/

namespace Document

/-- The declarations keep the rules: each of them those for itself, and the name of each one that
has to be used is used by one with another name. -/
structure Keeps (d : Document) (es : List Entry) : Prop where
  lawful : ∀ e ∈ es, e.Lawful d
  used : ∀ e ∈ es, e.mustBeUsed.isSome → ∃ f ∈ es, f.Refers e.identifier

/-- The rules for declarations do not depend on their order. -/
theorem Keeps.congr {es fs : List Entry} (h : d.Keeps es) (hmem : ∀ e, e ∈ es ↔ e ∈ fs) :
    d.Keeps fs := by
  refine ⟨fun e he => h.lawful e ((hmem e).2 he), fun e he hkind => ?_⟩
  obtain ⟨f, hf, hrefers⟩ := h.used e ((hmem e).2 he) hkind
  exact ⟨f, (hmem f).1 hf, hrefers⟩

/-- The uses of a document are the names that some declaration refers to. -/
theorem mem_uses {name : String} : name ∈ d.uses ↔ ∃ e ∈ d.entries, e.Refers name := by
  simp only [uses, List.mem_flatMap, Entry.mem_uses]

/-- The rules for declarations hold if there is nothing to report on them. -/
theorem keeps_entries_iff :
    d.Keeps d.entries ↔ d.entries.flatMap (·.violations d) = [] ∧ d.unusedViolations = [] := by
  simp only [unusedViolations, List.flatMap_eq_nil_iff, Entry.violations_eq_nil_iff,
    Entry.unused_eq_nil_iff, mem_uses]
  exact ⟨fun h => ⟨h.lawful, h.used⟩, fun h => ⟨h.1, h.2⟩⟩

/-- The aliases are fine if they all have three characters. -/
theorem aliasViolations_eq_nil_iff :
    d.aliasViolations = [] ↔ ∀ m ∈ d.namedModules, m.identifier.length = 3 := by
  simp [aliasViolations]

/-- Classes and instances belong together if their keys are the same. -/
theorem pairingViolations_eq_nil_iff :
    d.pairingViolations = [] ↔
      ∀ k, (∃ c ∈ d.classes, rankKey c = k) ↔ ∃ i ∈ d.instances, rankKey i = k := by
  rw [← map_survivors_eq_iff]
  simp [pairingViolations]

/-- Nothing is wrong with a document if the three groups of rules hold. -/
theorem violations_eq_nil_iff :
    d.violations = [] ↔ (∀ m ∈ d.namedModules, m.identifier.length = 3) ∧
      (∀ k, (∃ c ∈ d.classes, rankKey c = k) ↔ ∃ i ∈ d.instances, rankKey i = k) ∧
      d.Keeps d.entries := by
  rw [violations, walkViolations, keeps_entries_iff, ← aliasViolations_eq_nil_iff,
    ← pairingViolations_eq_nil_iff]
  simp only [List.append_eq_nil_iff, and_assoc]

/-- No two declarations of the same kind have the same key. -/
structure KeysDistinct (d : Document) : Prop where
  classes : d.classes.Pairwise fun a b => rankKey a ≠ rankKey b
  instances : d.instances.Pairwise fun a b => rankKey a ≠ rankKey b
  aspects : d.aspects.Pairwise fun a b => rankKey a ≠ rankKey b
  specializations : d.specializations.Pairwise fun a b => rankKey a ≠ rankKey b
  functionals : d.functionals.Pairwise fun a b => rankKey a ≠ rankKey b

/-- If all keys are distinct, no declaration replaces another one. -/
theorem mem_entries_of_keysDistinct (h : d.KeysDistinct) (e : Entry) :
    e ∈ d.entries ↔ e ∈ d.declared := by
  simp only [entries, declared, entriesOf, List.mem_append, List.mem_map, mem_survivors,
    lastOfKeys_eq_self h.classes, lastOfKeys_eq_self h.instances, lastOfKeys_eq_self h.aspects,
    lastOfKeys_eq_self h.specializations, lastOfKeys_eq_self h.functionals, id]

/-- A document is valid if and only if the aliases have three characters, classes and instances
belong together, and the declarations that no later one with the same key replaces keep the rules.
These are all declarations if the keys are distinct. -/
theorem validate_eq_ok_iff (d : Document) :
    (d.validate = .ok () ↔ (∀ m ∈ d.namedModules, m.identifier.length = 3) ∧
      (∀ k, (∃ c ∈ d.classes, rankKey c = k) ↔ ∃ i ∈ d.instances, rankKey i = k) ∧
      d.Keeps d.entries) ∧
    (d.KeysDistinct → d.validate = .ok () → d.Keeps d.declared) := by
  have hiff : d.validate = .ok () ↔ d.violations = [] := by
    rw [validate_eq_firstOf, firstOf_eq_ok_iff]
  rw [violations_eq_nil_iff] at hiff
  refine ⟨hiff, fun hdistinct hvalid => ?_⟩
  exact (hiff.1 hvalid).2.2.congr (mem_entries_of_keysDistinct hdistinct)

/-- A class and its instances, with an alias that is spelt in capitals, and a type in use. -/
theorem validate_eq_ok_iff_foo :
    let d : Document := ⟨"", ⟨"", "p"⟩, some [⟨"abc", "\"x\""⟩],
      some ⟨[⟨⟨"", "Bar", []⟩, .named "string", none⟩], []⟩,
      some ⟨[], [⟨⟨"", "FooClassLike", []⟩, [], [], []⟩],
        [⟨⟨"", "FooLike", []⟩, [⟨"GetBar", none, some (.named "Bar")⟩,
          ⟨"SetBar", some ⟨"bar", .mk (some (.aliased "ABC")) "Bar" []⟩, none⟩,
          ⟨"IsGood", none, some (.named "bool")⟩], [], []⟩]⟩⟩
    d.KeysDistinct ∧ d.validate = .ok () ∧ d.Keeps d.entries ∧ d.Keeps d.declared := by
  intro d
  have hdistinct : d.KeysDistinct :=
    ⟨by decide +kernel, by decide +kernel, by decide +kernel, by decide +kernel, by decide +kernel⟩
  have hvalid : d.validate = .ok () := by decide +kernel
  obtain ⟨hiff, hdeclared⟩ := validate_eq_ok_iff d
  exact ⟨hdistinct, hvalid, (hiff.1 hvalid).2.2, hdeclared hdistinct hvalid⟩

/-- A declaration that is replaced escapes all checks: the first of these types uses an alias that
is not imported, and no declaration uses its name. -/
theorem exists_validate_not_keeps :
    ∃ d : Document, d.validate = .ok () ∧ ∃ e ∈ d.declared, ¬ e.Lawful d ∧
      e.mustBeUsed = some .specialization ∧ ∀ f ∈ d.declared, ¬ f.Refers e.identifier := by
  let s : Specialization := ⟨⟨"", "A", []⟩, .mk (some (.aliased "abc")) "Z" [], none⟩
  let d := ofSpecializations [s, ⟨⟨"", "a", []⟩, .named "B", none⟩,
    ⟨⟨"", "B", []⟩, .named "a", none⟩]
  refine ⟨d, by decide +kernel, s.entry, List.mem_cons_self, fun h => ?_, rfl, by decide +kernel⟩
  have himports : d.Imports "abc" :=
    h.aliases _ List.mem_cons_self _ List.mem_cons_self "abc" (by decide)
  exact absurd himports (by decide)

end Document

end PackageModel
