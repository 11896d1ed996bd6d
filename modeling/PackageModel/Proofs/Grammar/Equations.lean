import PackageModel.Proofs.Grammar.Stretch

/-!
# PackageModel.Proofs.Grammar.Equations

The equations of the rules: which tokens a rule derives in plain derivations, in terms of the
parts of its node.
-/

namespace PackageModel.Production

open Stretch

/-- The tokens of a prefix. -/
inductive Prefixed : Stretch Prefix
  | array {w} : Prefixed (.mark "[" :: .mark "]" :: w) w .array
  | map {w k} : Prefixed (.name "map" :: .mark "[" :: .name k :: .mark "]" :: w) w (.map k)
  | channel {w} : Prefixed (.name "chan" :: w) w .channel
  | aliased {w i} (hi : i ∉ Prefix.words) : Prefixed (.name i :: .mark "." :: w) w (.aliased i)

/-- The tokens of a result. -/
inductive Resulting : Stretch Result
  | abstraction {w w'} {a : Abstraction} (h : Plain .abstraction w w' a) :
      Resulting w w' (.abstraction a)
  | parameters {w w'} {ps : List Parameter} (h : Plain .parameters w (.mark ")" :: w') ps) :
      Resulting (.mark "(" :: w) w' (.parameters ps)

variable {w w' : List Lexeme}

/-- If the condition of a rule holds of everything, its nodes are what its production derives. -/
theorem plain_iff {r : Rule} {a : r.Node} (hr : ∀ v, Condition.plain r v) :
    Plain r w w' a ↔ ∃ v, a = r.build v ∧ Derives .plain r.production w w' v := by
  constructor
  · intro h
    obtain ⟨v, rfl, h, -⟩ := h.of_rule
    exact ⟨v, rfl, h⟩
  · rintro ⟨v, rfl, h⟩
    exact .rule h (hr v)

/-! ## Uses of types -/

/-- A prefix is a word, a map with its key, or a name in front of a dot. -/
theorem derives_qualifier {q : Prefix} : Plain .qualifier w w' q ↔ Prefixed w w' q := by
  constructor
  · intro h
    obtain ⟨v, rfl, hq, hv⟩ := h.of_rule
    rcases hq.of_choice with ⟨_, rfl, hl⟩ | ⟨_, rfl, hr⟩
    · obtain ⟨_, _, _, rfl, h₁, h₂⟩ := hl.of_sequence
      obtain ⟨rfl, -⟩ := derives_mark.1 h₁
      obtain ⟨rfl, -⟩ := derives_mark.1 h₂
      exact .array
    rcases hr.of_choice with ⟨_, rfl, hl⟩ | ⟨_, rfl, hr'⟩
    · obtain ⟨_, _, _, rfl, hl, h₄⟩ := hl.of_sequence
      obtain ⟨_, _, _, rfl, hl, h₃⟩ := hl.of_sequence
      obtain ⟨_, _, _, rfl, h₁, h₂⟩ := hl.of_sequence
      obtain ⟨rfl, -⟩ := derives_word.1 h₁
      obtain ⟨rfl, -⟩ := derives_mark.1 h₂
      obtain rfl := derives_identifier.1 h₃
      obtain ⟨rfl, -⟩ := derives_mark.1 h₄
      exact .map
    rcases hr'.of_choice with ⟨_, rfl, hl⟩ | ⟨_, rfl, hl⟩
    · obtain ⟨rfl, -⟩ := derives_word.1 hl
      exact .channel
    · obtain ⟨_, _, _, rfl, h₁, h₂⟩ := hl.of_sequence
      obtain rfl := derives_identifier.1 h₁
      obtain ⟨rfl, -⟩ := derives_mark.1 h₂
      exact .aliased hv
  · intro h
    cases h with
    | array => exact .rule (r := .qualifier) (.left (.sequence .mark .mark)) trivial
    | map =>
      exact .rule (r := .qualifier)
        (.right (.left (.sequence (.sequence (.sequence .word .mark) .name) .mark))) trivial
    | channel => exact .rule (r := .qualifier) (.right (.right (.left .word))) trivial
    | aliased hn =>
      exact .rule (r := .qualifier) (.right (.right (.right (.sequence .name .mark)))) hn

/-- Arguments are abstractions with commas between them. -/
theorem derives_arguments {as : List Abstraction} :
    Plain .arguments w w' as ↔ CommaList (Plain .abstraction) w w' as :=
  (plain_iff (r := .arguments) fun _ => trivial).trans derives_commaList

/-- Parameters are separated as arguments are. -/
theorem derives_parameters {ps : List Parameter} :
    Plain .parameters w w' ps ↔ CommaList (Plain .parameter) w w' ps :=
  (plain_iff (r := .parameters) fun _ => trivial).trans derives_commaList

/-- Arguments between brackets, if there are brackets at all; without them there are none. -/
theorem derives_bracketed_arguments {as : List Abstraction} :
    (∃ v, as = bracketValues (r := .arguments) id v ∧
        Derives .plain (bracketed .arguments) w w' v) ↔
      Bracketed (Plain .arguments) w w' as :=
  derives_bracketed fun _ _ as => ⟨fun h => ⟨as, rfl, h⟩, fun ⟨_, e, h⟩ => e ▸ h⟩

/-- Parameters between brackets, if there are brackets at all; without them there are none. -/
theorem derives_bracketed_parameters {ps : List Parameter} :
    (∃ v, ps = bracketValues (r := .parameters) id v ∧
        Derives .plain (bracketed .parameters) w w' v) ↔
      Bracketed (Plain .parameters) w w' ps :=
  derives_bracketed fun _ _ ps => ⟨fun h => ⟨ps, rfl, h⟩, fun ⟨_, e, h⟩ => e ▸ h⟩

/-- An abstraction is a name between its prefix and its arguments.  Without a prefix the name is no
word that starts one. -/
theorem derives_abstraction {a : Abstraction} :
    Plain .abstraction w w' a ↔ ∃ w₁,
      Maybe (Plain .qualifier) w (.name a.identifier :: w₁) a.qualifier ∧
      (a.qualifier = none → a.identifier ∉ Prefix.words) ∧
      Bracketed (Plain .arguments) w₁ w' a.arguments := by
  constructor
  · intro h
    obtain ⟨v, rfl, h, hv⟩ := h.of_rule
    obtain ⟨w₁, _, as, rfl, h, has⟩ := h.of_sequence
    obtain ⟨_, q, i, rfl, hq, hi⟩ := h.of_sequence
    obtain rfl := derives_identifier.1 hi
    exact ⟨w₁, derives_optional.1 hq, hv, derives_bracketed_arguments.1 ⟨as, rfl, has⟩⟩
  · rintro ⟨w₁, hq, hi, has⟩
    obtain ⟨q, i, as⟩ := a
    obtain ⟨v, rfl, hv⟩ := derives_bracketed_arguments.2 has
    exact .rule (r := .abstraction) (v := ((q, i), v))
      (.sequence (.sequence (derives_optional.2 hq) .name) hv) hi

/-- A parameter is a name in front of an abstraction. -/
theorem derives_parameter {p : Parameter} :
    Plain .parameter w w' p ↔ ∃ w₁, w = .name p.identifier :: w₁ ∧
      Plain .abstraction w₁ w' p.abstraction := by
  refine (plain_iff (r := .parameter) fun _ => trivial).trans ⟨?_, ?_⟩
  · rintro ⟨_, rfl, h⟩
    obtain ⟨w₁, i, a, rfl, hi, ha⟩ := h.of_sequence
    exact ⟨w₁, derives_identifier.1 hi, ha⟩
  · rintro ⟨w₁, rfl, ha⟩
    exact ⟨(p.identifier, p.abstraction), rfl, .sequence .name ha⟩

/-- A result is an abstraction, or parameters between parentheses. -/
theorem derives_result {r : Result} : Plain .result w w' r ↔ Resulting w w' r := by
  refine (plain_iff (r := .result) fun _ => trivial).trans ⟨?_, ?_⟩
  · rintro ⟨_, rfl, h⟩
    rcases h.of_choice with ⟨a, rfl, ha⟩ | ⟨_, rfl, hs⟩
    · exact .abstraction ha
    · obtain ⟨_, _, _, rfl, hs, hr⟩ := hs.of_sequence
      obtain ⟨_, _, ps, rfl, hl, hps⟩ := hs.of_sequence
      obtain ⟨rfl, -⟩ := derives_mark.1 hl
      obtain ⟨rfl, -⟩ := derives_mark.1 hr
      exact .parameters hps
  · intro h
    cases h with
    | abstraction h => exact ⟨_, rfl, .left h⟩
    | parameters h => exact ⟨_, rfl, .right (.sequence (.sequence .mark h) .mark)⟩

/-! ## Sections -/

/-- Abstractions stand behind their note, one at least. -/
theorem derives_abstractions {as : List Abstraction} :
    Plain .abstractions w w' as ↔ Titled "// Abstractions" (Plain .abstraction) w w' as :=
  (plain_iff (r := .abstractions) fun _ => trivial).trans derives_titled

/-- Aspects stand behind their note, one at least. -/
theorem derives_aspects {as : List Aspect} :
    Plain .aspects w w' as ↔ Titled "// Aspects" (Plain .aspect) w w' as :=
  (plain_iff (r := .aspects) fun _ => trivial).trans derives_titled

/-- Attributes stand behind their note, one at least. -/
theorem derives_attributes {as : List Attribute} :
    Plain .attributes w w' as ↔ Titled "// Attributes" (Plain .attributeMethod) w w' as :=
  (plain_iff (r := .attributes) fun _ => trivial).trans derives_titled

/-- Classes stand behind their note, one at least. -/
theorem derives_classes {cs : List Class} :
    Plain .classes w w' cs ↔ Titled "// Classes" (Plain .classInterface) w w' cs :=
  (plain_iff (r := .classes) fun _ => trivial).trans derives_titled

/-- Constants stand behind their note, one at least. -/
theorem derives_constants {cs : List Constant} :
    Plain .constants w w' cs ↔ Titled "// Constants" (Plain .constant) w w' cs :=
  (plain_iff (r := .constants) fun _ => trivial).trans derives_titled

/-- Constructors stand behind their note, one at least. -/
theorem derives_constructors {cs : List Constructor} :
    Plain .constructors w w' cs ↔ Titled "// Constructors" (Plain .constructor) w w' cs :=
  (plain_iff (r := .constructors) fun _ => trivial).trans derives_titled

/-- Functionals stand behind their note, one at least. -/
theorem derives_functionals {fs : List Functional} :
    Plain .functionals w w' fs ↔ Titled "// Functionals" (Plain .functional) w w' fs :=
  (plain_iff (r := .functionals) fun _ => trivial).trans derives_titled

/-- Functions stand behind their note, one at least. -/
theorem derives_functions {fs : List Function} :
    Plain .functions w w' fs ↔ Titled "// Functions" (Plain .function) w w' fs :=
  (plain_iff (r := .functions) fun _ => trivial).trans derives_titled

/-- Instances stand behind their note, one at least. -/
theorem derives_instances {is : List Instance} :
    Plain .instances w w' is ↔ Titled "// Instances" (Plain .instanceInterface) w w' is :=
  (plain_iff (r := .instances) fun _ => trivial).trans derives_titled

/-- Methods stand behind their note, one at least. -/
theorem derives_methods {ms : List Method} :
    Plain .methods w w' ms ↔ Titled "// Methods" (Plain .method) w w' ms :=
  (plain_iff (r := .methods) fun _ => trivial).trans derives_titled

/-- Specializations stand behind their note, one at least. -/
theorem derives_specializations {ss : List Specialization} :
    Plain .specializations w w' ss ↔
      Titled "// Specializations" (Plain .specialization) w w' ss :=
  (plain_iff (r := .specializations) fun _ => trivial).trans derives_titled

/-- Modules have no note in front of them; there is one at least. -/
theorem derives_modules {ms : List Module} :
    Plain .modules w w' ms ↔ OneOrMore (Plain .module) w w' ms :=
  (plain_iff (r := .modules) fun _ => trivial).trans
    ⟨fun ⟨_, e, h⟩ => e ▸ derives_some.1 h, fun h => ⟨ms, rfl, derives_some.2 h⟩⟩

/-! ## Members -/

/-- A constant is a name without parameters in front of its abstraction. -/
theorem derives_constant {c : Constant} :
    Plain .constant w w' c ↔ ∃ w₁, w = .name c.identifier :: .mark "(" :: .mark ")" :: w₁ ∧
      Plain .abstraction w₁ w' c.abstraction := by
  refine (plain_iff (r := .constant) fun _ => trivial).trans ⟨?_, ?_⟩
  · rintro ⟨_, rfl, h⟩
    obtain ⟨w₁, _, a, rfl, h₃, ha⟩ := h.of_sequence
    obtain ⟨_, _, _, rfl, h₂, hr⟩ := h₃.of_sequence
    obtain ⟨_, i, _, rfl, hi, hl⟩ := h₂.of_sequence
    obtain rfl := derives_identifier.1 hi
    obtain ⟨rfl, -⟩ := derives_mark.1 hl
    obtain ⟨rfl, -⟩ := derives_mark.1 hr
    exact ⟨w₁, rfl, ha⟩
  · rintro ⟨w₁, rfl, ha⟩
    exact ⟨(((c.identifier, "("), ")"), c.abstraction), rfl,
      .sequence (.sequence (.sequence .name .mark) .mark) ha⟩

/-- A constructor is a called name in front of its abstraction. -/
theorem derives_constructor {c : Constructor} :
    Plain .constructor w w' c ↔ ∃ w₁,
      Called (OrEmpty (Plain .parameters)) c.identifier w w₁ c.parameters ∧
      Plain .abstraction w₁ w' c.abstraction := by
  refine (plain_iff (r := .constructor) fun _ => trivial).trans ⟨?_, ?_⟩
  · rintro ⟨_, rfl, h⟩
    obtain ⟨w₁, _, a, rfl, hc, ha⟩ := h.of_sequence
    obtain ⟨i, o, rfl, ho⟩ := derives_called.1 hc
    exact ⟨w₁, Called.iff_maybe.2 ⟨o, rfl, ho⟩, ha⟩
  · rintro ⟨w₁, hc, ha⟩
    obtain ⟨i, ps, a⟩ := c
    obtain ⟨o, rfl, hc⟩ := Called.iff_maybe.1 hc
    exact ⟨_, rfl, .sequence (derives_called.2 ⟨i, o, rfl, hc⟩) ha⟩

/-- A function is a called name in front of its result. -/
theorem derives_function {f : Function} :
    Plain .function w w' f ↔ ∃ w₁,
      Called (OrEmpty (Plain .parameters)) f.identifier w w₁ f.parameters ∧
      Plain .result w₁ w' f.result := by
  refine (plain_iff (r := .function) fun _ => trivial).trans ⟨?_, ?_⟩
  · rintro ⟨_, rfl, h⟩
    obtain ⟨w₁, _, r, rfl, hc, hr⟩ := h.of_sequence
    obtain ⟨i, o, rfl, ho⟩ := derives_called.1 hc
    exact ⟨w₁, Called.iff_maybe.2 ⟨o, rfl, ho⟩, hr⟩
  · rintro ⟨w₁, hc, hr⟩
    obtain ⟨i, ps, r⟩ := f
    obtain ⟨o, rfl, hc⟩ := Called.iff_maybe.1 hc
    exact ⟨_, rfl, .sequence (derives_called.2 ⟨i, o, rfl, hc⟩) hr⟩

/-- A method is a called name, with a result or without. -/
theorem derives_method {m : Method} :
    Plain .method w w' m ↔ ∃ w₁,
      Called (OrEmpty (Plain .parameters)) m.identifier w w₁ m.parameters ∧
      Maybe (Plain .result) w₁ w' m.result := by
  refine (plain_iff (r := .method) fun _ => trivial).trans ⟨?_, ?_⟩
  · rintro ⟨_, rfl, h⟩
    obtain ⟨w₁, _, r, rfl, hc, hr⟩ := h.of_sequence
    obtain ⟨i, o, rfl, ho⟩ := derives_called.1 hc
    exact ⟨w₁, Called.iff_maybe.2 ⟨o, rfl, ho⟩, derives_optional.1 hr⟩
  · rintro ⟨w₁, hc, hr⟩
    obtain ⟨i, ps, r⟩ := m
    obtain ⟨o, rfl, hc⟩ := Called.iff_maybe.1 hc
    exact ⟨_, rfl, .sequence (derives_called.2 ⟨i, o, rfl, hc⟩) (derives_optional.2 hr)⟩

/-- An attribute is a name called with one parameter or none, with an abstraction or without. -/
theorem derives_attribute {a : Attribute} :
    Plain .attributeMethod w w' a ↔ ∃ w₁,
      Called (Maybe (Plain .parameter)) a.identifier w w₁ a.parameter ∧
      Maybe (Plain .abstraction) w₁ w' a.abstraction := by
  refine (plain_iff (r := .attributeMethod) fun _ => trivial).trans ⟨?_, ?_⟩
  · rintro ⟨_, rfl, h⟩
    obtain ⟨w₁, _, r, rfl, hc, hr⟩ := h.of_sequence
    obtain ⟨i, o, rfl, ho⟩ := derives_called.1 hc
    exact ⟨w₁, ho, derives_optional.1 hr⟩
  · rintro ⟨w₁, hc, hr⟩
    exact ⟨((((a.identifier, "("), a.parameter), ")"), a.abstraction), rfl,
      .sequence (derives_called.2 ⟨_, _, rfl, hc⟩) (derives_optional.2 hr)⟩

/-! ## Types -/

/-- A declaration is a comment, the word `type`, a name, and parameters between brackets. -/
theorem derives_declaration {d : Declaration} :
    Plain .declaration w w' d ↔ ∃ w₁,
      w = ⟨.comment, d.comment⟩ :: .name "type" :: .name d.identifier :: w₁ ∧
      Bracketed (Plain .parameters) w₁ w' d.parameters := by
  refine (plain_iff (r := .declaration) fun _ => trivial).trans ⟨?_, ?_⟩
  · rintro ⟨_, rfl, h⟩
    obtain ⟨w₁, _, ps, rfl, h₃, hps⟩ := h.of_sequence
    obtain ⟨_, _, i, rfl, h₂, hi⟩ := h₃.of_sequence
    obtain ⟨_, c, _, rfl, hc, ht⟩ := h₂.of_sequence
    obtain rfl := derives_kind.1 hc
    obtain ⟨rfl, -⟩ := derives_word.1 ht
    obtain rfl := derives_identifier.1 hi
    exact ⟨w₁, rfl, derives_bracketed_parameters.1 ⟨ps, rfl, hps⟩⟩
  · rintro ⟨w₁, rfl, hps⟩
    obtain ⟨c, i, ps⟩ := d
    obtain ⟨v, rfl, hv⟩ := derives_bracketed_parameters.2 hps
    exact ⟨(((c, "type"), i), v), rfl,
      .sequence (.sequence (.sequence (derives_kind.2 rfl) .word) .name) hv⟩

/-- The values of an enumeration follow a parameter that is set to `iota`, and are names. -/
theorem derives_values {v : Values} :
    Plain .values w w' v ↔ ∃ w₁,
      Plain .parameter w (.mark "=" :: .name "iota" :: w₁) v.parameter ∧
      Items (fun w w' i => w = .name i :: w') w₁ w' v.identifiers := by
  have hname : Derives Condition.plain identifier = fun w w' i => w = .name i :: w' := by
    funext u u' i
    exact propext derives_identifier
  refine (plain_iff (r := .values) fun _ => trivial).trans ⟨?_, ?_⟩
  · rintro ⟨_, rfl, h⟩
    obtain ⟨w₁, _, is, rfl, h₃, his⟩ := h.of_sequence
    obtain ⟨_, _, _, rfl, h₂, hw⟩ := h₃.of_sequence
    obtain ⟨_, p, _, rfl, hp, hm⟩ := h₂.of_sequence
    obtain ⟨rfl, -⟩ := derives_mark.1 hm
    obtain ⟨rfl, -⟩ := derives_word.1 hw
    exact ⟨w₁, hp, hname ▸ derives_many.1 his⟩
  · rintro ⟨w₁, hp, his⟩
    exact ⟨(((v.parameter, "="), "iota"), v.identifiers), rfl,
      .sequence (.sequence (.sequence hp .mark) .word) (derives_many.2 (hname ▸ his))⟩

/-- An enumeration is a list of values between parentheses behind the word `const`. -/
theorem derives_enumeration {v : Values} :
    Plain .enumeration w w' v ↔ ∃ w₁, w = .name "const" :: .mark "(" :: w₁ ∧
      Plain .values w₁ (.mark ")" :: w') v := by
  refine (plain_iff (r := .enumeration) fun _ => trivial).trans ⟨?_, ?_⟩
  · rintro ⟨_, rfl, h⟩
    obtain ⟨_, _, _, rfl, h₃, hr⟩ := h.of_sequence
    obtain ⟨w₁, _, v, rfl, h₂, hv⟩ := h₃.of_sequence
    obtain ⟨_, _, _, rfl, hw, hl⟩ := h₂.of_sequence
    obtain ⟨rfl, -⟩ := derives_word.1 hw
    obtain ⟨rfl, -⟩ := derives_mark.1 hl
    obtain ⟨rfl, -⟩ := derives_mark.1 hr
    exact ⟨w₁, rfl, hv⟩
  · rintro ⟨w₁, rfl, hv⟩
    exact ⟨((("const", "("), v), ")"), rfl,
      .sequence (.sequence (.sequence .word .mark) hv) .mark⟩

/-- A specialization is a declaration in front of an abstraction, and an enumeration behind it. -/
theorem derives_specialization {s : Specialization} :
    Plain .specialization w w' s ↔ ∃ w₁ w₂, Plain .declaration w w₁ s.declaration ∧
      Plain .abstraction w₁ w₂ s.abstraction ∧
      Maybe (Plain .enumeration) w₂ w' s.enumeration := by
  refine (plain_iff (r := .specialization) fun _ => trivial).trans ⟨?_, ?_⟩
  · rintro ⟨_, rfl, h⟩
    obtain ⟨w₂, _, e, rfl, h, he⟩ := h.of_sequence
    obtain ⟨w₁, d, a, rfl, hd, ha⟩ := h.of_sequence
    exact ⟨w₁, w₂, hd, ha, derives_optional.1 he⟩
  · rintro ⟨w₁, w₂, hd, ha, he⟩
    exact ⟨((s.declaration, s.abstraction), s.enumeration), rfl,
      .sequence (.sequence hd ha) (derives_optional.2 he)⟩

/-- A functional is a declaration in front of a function type. -/
theorem derives_functional {f : Functional} :
    Plain .functional w w' f ↔ ∃ w₁ w₂,
      Plain .declaration w (.name "func" :: .mark "(" :: w₁) f.declaration ∧
      OrEmpty (Plain .parameters) w₁ (.mark ")" :: w₂) f.parameters ∧
      Plain .result w₂ w' f.result := by
  refine (plain_iff (r := .functional) fun _ => trivial).trans ⟨?_, ?_⟩
  · rintro ⟨_, rfl, h⟩
    obtain ⟨w₂, _, r, rfl, h₅, hr⟩ := h.of_sequence
    obtain ⟨_, _, _, rfl, h₄, hm⟩ := h₅.of_sequence
    obtain ⟨w₁, _, ps, rfl, h₃, hps⟩ := h₄.of_sequence
    obtain ⟨_, _, _, rfl, h₂, hl⟩ := h₃.of_sequence
    obtain ⟨_, d, _, rfl, hd, hf⟩ := h₂.of_sequence
    obtain ⟨rfl, -⟩ := derives_word.1 hf
    obtain ⟨rfl, -⟩ := derives_mark.1 hl
    obtain ⟨rfl, -⟩ := derives_mark.1 hm
    exact ⟨w₁, w₂, hd, OrEmpty.iff_maybe.2 ⟨ps, rfl, derives_optional.1 hps⟩, hr⟩
  · rintro ⟨w₁, w₂, hd, hps, hr⟩
    obtain ⟨d, ps, r⟩ := f
    obtain ⟨o, rfl, ho⟩ := OrEmpty.iff_maybe.1 hps
    exact ⟨(((((d, "func"), "("), o), ")"), r), rfl, .sequence (.sequence (.sequence (.sequence
      (.sequence hd .word) .mark) (derives_optional.2 ho)) .mark) hr⟩

/-- The types are two sections behind their note; each can be missing. -/
theorem derives_types {t : Types} :
    Plain .types w w' t ↔ ∃ w₁ w₂, w = ⟨.note, "// TYPES"⟩ :: w₁ ∧
      OrEmpty (Plain .specializations) w₁ w₂ t.specializations ∧
      OrEmpty (Plain .functionals) w₂ w' t.functionals := by
  refine (plain_iff (r := .types) fun _ => trivial).trans ⟨?_, ?_⟩
  · rintro ⟨_, rfl, h⟩
    obtain ⟨w₂, _, fs, rfl, h₂, hfs⟩ := h.of_sequence
    obtain ⟨w₁, _, ss, rfl, hn, hss⟩ := h₂.of_sequence
    obtain ⟨rfl, -⟩ := derives_fixed.1 hn
    exact ⟨w₁, w₂, rfl, OrEmpty.iff_maybe.2 ⟨ss, rfl, derives_optional.1 hss⟩,
      OrEmpty.iff_maybe.2 ⟨fs, rfl, derives_optional.1 hfs⟩⟩
  · rintro ⟨w₁, w₂, rfl, hss, hfs⟩
    obtain ⟨ss, fs⟩ := t
    obtain ⟨ss, rfl, hss'⟩ := OrEmpty.iff_maybe.1 hss
    obtain ⟨fs, rfl, hfs'⟩ := OrEmpty.iff_maybe.1 hfs
    exact ⟨(("// TYPES", ss), fs), rfl, .sequence (.sequence (derives_fixed.2 ⟨rfl, rfl⟩)
      (derives_optional.2 hss')) (derives_optional.2 hfs')⟩

/-! ## Interfaces -/

/-- An aspect is a declaration in front of an interface with methods. -/
theorem derives_aspect {a : Aspect} :
    Plain .aspect w w' a ↔ ∃ w₁,
      Plain .declaration w (.name "interface" :: .mark "\x7b" :: w₁) a.declaration ∧
      OrEmpty (Plain .methods) w₁ (.mark "\x7d" :: w') a.methods := by
  refine (plain_iff (r := .aspect) fun _ => trivial).trans ⟨?_, ?_⟩
  · rintro ⟨_, rfl, h⟩
    obtain ⟨d, ms, w₁, rfl, hd, hms⟩ := derives_interface.1 h
    exact ⟨w₁, hd, OrEmpty.iff_maybe.2 ⟨ms, rfl, derives_optional.1 hms⟩⟩
  · rintro ⟨w₁, hd, hms⟩
    obtain ⟨d, ms⟩ := a
    obtain ⟨ms, rfl, hms'⟩ := OrEmpty.iff_maybe.1 hms
    exact ⟨_, rfl, derives_interface.2 ⟨d, ms, w₁, rfl, hd, derives_optional.2 hms'⟩⟩

/-- A class is a declaration in front of an interface with three sections. -/
theorem derives_class {c : Class} :
    Plain .classInterface w w' c ↔ ∃ w₁ w₂ w₃,
      Plain .declaration w (.name "interface" :: .mark "\x7b" :: w₁) c.declaration ∧
      OrEmpty (Plain .constants) w₁ w₂ c.constants ∧
      OrEmpty (Plain .constructors) w₂ w₃ c.constructors ∧
      OrEmpty (Plain .functions) w₃ (.mark "\x7d" :: w') c.functions := by
  refine (plain_iff (r := .classInterface) fun _ => trivial).trans ⟨?_, ?_⟩
  · rintro ⟨_, rfl, h⟩
    obtain ⟨d, _, w₁, rfl, hd, hb⟩ := derives_interface.1 h
    obtain ⟨w₃, _, fs, rfl, hb, hfs⟩ := hb.of_sequence
    obtain ⟨w₂, cs, ns, rfl, hcs, hns⟩ := hb.of_sequence
    exact ⟨w₁, w₂, w₃, hd, OrEmpty.iff_maybe.2 ⟨cs, rfl, derives_optional.1 hcs⟩,
      OrEmpty.iff_maybe.2 ⟨ns, rfl, derives_optional.1 hns⟩,
      OrEmpty.iff_maybe.2 ⟨fs, rfl, derives_optional.1 hfs⟩⟩
  · rintro ⟨w₁, w₂, w₃, hd, hcs, hns, hfs⟩
    obtain ⟨d, cs, ns, fs⟩ := c
    obtain ⟨cs, rfl, hcs'⟩ := OrEmpty.iff_maybe.1 hcs
    obtain ⟨ns, rfl, hns'⟩ := OrEmpty.iff_maybe.1 hns
    obtain ⟨fs, rfl, hfs'⟩ := OrEmpty.iff_maybe.1 hfs
    exact ⟨_, rfl, derives_interface.2 ⟨d, ((cs, ns), fs), w₁, rfl, hd, .sequence (.sequence
      (derives_optional.2 hcs') (derives_optional.2 hns')) (derives_optional.2 hfs')⟩⟩

/-- An instance is a declaration in front of an interface with three sections. -/
theorem derives_instance {i : Instance} :
    Plain .instanceInterface w w' i ↔ ∃ w₁ w₂ w₃,
      Plain .declaration w (.name "interface" :: .mark "\x7b" :: w₁) i.declaration ∧
      OrEmpty (Plain .attributes) w₁ w₂ i.attributes ∧
      OrEmpty (Plain .abstractions) w₂ w₃ i.abstractions ∧
      OrEmpty (Plain .methods) w₃ (.mark "\x7d" :: w') i.methods := by
  refine (plain_iff (r := .instanceInterface) fun _ => trivial).trans ⟨?_, ?_⟩
  · rintro ⟨_, rfl, h⟩
    obtain ⟨d, _, w₁, rfl, hd, hb⟩ := derives_interface.1 h
    obtain ⟨w₃, _, ms, rfl, hb, hms⟩ := hb.of_sequence
    obtain ⟨w₂, ts, as, rfl, hts, has⟩ := hb.of_sequence
    exact ⟨w₁, w₂, w₃, hd, OrEmpty.iff_maybe.2 ⟨ts, rfl, derives_optional.1 hts⟩,
      OrEmpty.iff_maybe.2 ⟨as, rfl, derives_optional.1 has⟩,
      OrEmpty.iff_maybe.2 ⟨ms, rfl, derives_optional.1 hms⟩⟩
  · rintro ⟨w₁, w₂, w₃, hd, hts, has, hms⟩
    obtain ⟨d, ts, as, ms⟩ := i
    obtain ⟨ts, rfl, hts'⟩ := OrEmpty.iff_maybe.1 hts
    obtain ⟨as, rfl, has'⟩ := OrEmpty.iff_maybe.1 has
    obtain ⟨ms, rfl, hms'⟩ := OrEmpty.iff_maybe.1 hms
    exact ⟨_, rfl, derives_interface.2 ⟨d, ((ts, as), ms), w₁, rfl, hd, .sequence (.sequence
      (derives_optional.2 hts') (derives_optional.2 has')) (derives_optional.2 hms')⟩⟩

/-- The interfaces are three sections behind their note; each can be missing. -/
theorem derives_interfaces {i : Interfaces} :
    Plain .interfaces w w' i ↔ ∃ w₁ w₂ w₃, w = ⟨.note, "// INTERFACES"⟩ :: w₁ ∧
      OrEmpty (Plain .aspects) w₁ w₂ i.aspects ∧
      OrEmpty (Plain .classes) w₂ w₃ i.classes ∧
      OrEmpty (Plain .instances) w₃ w' i.instances := by
  refine (plain_iff (r := .interfaces) fun _ => trivial).trans ⟨?_, ?_⟩
  · rintro ⟨_, rfl, h⟩
    obtain ⟨w₃, _, is, rfl, h₃, his⟩ := h.of_sequence
    obtain ⟨w₂, _, cs, rfl, h₂, hcs⟩ := h₃.of_sequence
    obtain ⟨w₁, _, as, rfl, hn, has⟩ := h₂.of_sequence
    obtain ⟨rfl, -⟩ := derives_fixed.1 hn
    exact ⟨w₁, w₂, w₃, rfl, OrEmpty.iff_maybe.2 ⟨as, rfl, derives_optional.1 has⟩,
      OrEmpty.iff_maybe.2 ⟨cs, rfl, derives_optional.1 hcs⟩,
      OrEmpty.iff_maybe.2 ⟨is, rfl, derives_optional.1 his⟩⟩
  · rintro ⟨w₁, w₂, w₃, rfl, has, hcs, his⟩
    obtain ⟨as, cs, is⟩ := i
    obtain ⟨as, rfl, has'⟩ := OrEmpty.iff_maybe.1 has
    obtain ⟨cs, rfl, hcs'⟩ := OrEmpty.iff_maybe.1 hcs
    obtain ⟨is, rfl, his'⟩ := OrEmpty.iff_maybe.1 his
    exact ⟨((("// INTERFACES", as), cs), is), rfl, .sequence (.sequence (.sequence
      (derives_fixed.2 ⟨rfl, rfl⟩) (derives_optional.2 has')) (derives_optional.2 hcs'))
      (derives_optional.2 his')⟩

/-! ## Documents -/

/-- A notice is a comment. -/
theorem derives_notice {c : String} : Plain .notice w w' c ↔ w = ⟨.comment, c⟩ :: w' :=
  (plain_iff (r := .notice) fun _ => trivial).trans
    ⟨fun ⟨_, e, h⟩ => e ▸ derives_kind.1 h, fun h => ⟨c, rfl, derives_kind.2 h⟩⟩

/-- A header is a comment, the word `package` and a name. -/
theorem derives_header {h : Header} :
    Plain .header w w' h ↔
      w = ⟨.comment, h.comment⟩ :: .name "package" :: .name h.identifier :: w' := by
  refine (plain_iff (r := .header) fun _ => trivial).trans ⟨?_, ?_⟩
  · rintro ⟨_, rfl, h⟩
    obtain ⟨_, _, i, rfl, h₂, hi⟩ := h.of_sequence
    obtain ⟨_, c, _, rfl, hc, hw⟩ := h₂.of_sequence
    obtain rfl := derives_kind.1 hc
    obtain ⟨rfl, -⟩ := derives_word.1 hw
    obtain rfl := derives_identifier.1 hi
    rfl
  · rintro rfl
    exact ⟨((h.comment, "package"), h.identifier), rfl,
      .sequence (.sequence (derives_kind.2 rfl) .word) .name⟩

/-- A module is its alias in front of its path. -/
theorem derives_module {m : Module} :
    Plain .module w w' m ↔ w = .name m.identifier :: ⟨.text, m.text⟩ :: w' := by
  refine (plain_iff (r := .module) fun _ => trivial).trans ⟨?_, ?_⟩
  · rintro ⟨_, rfl, h⟩
    obtain ⟨_, i, t, rfl, hi, ht⟩ := h.of_sequence
    obtain rfl := derives_identifier.1 hi
    obtain rfl := derives_kind.1 ht
    rfl
  · rintro rfl
    exact ⟨(m.identifier, m.text), rfl, .sequence .name (derives_kind.2 rfl)⟩

/-- Imports are modules between parentheses behind the word `import`. -/
theorem derives_imports {ms : List Module} :
    Plain .imports w w' ms ↔ ∃ w₁, w = .name "import" :: .mark "(" :: w₁ ∧
      OrEmpty (Plain .modules) w₁ (.mark ")" :: w') ms := by
  refine (plain_iff (r := .imports) fun _ => trivial).trans ⟨?_, ?_⟩
  · rintro ⟨_, rfl, h⟩
    obtain ⟨_, _, _, rfl, h₃, hr⟩ := h.of_sequence
    obtain ⟨w₁, _, ms, rfl, h₂, hms⟩ := h₃.of_sequence
    obtain ⟨_, _, _, rfl, hw, hl⟩ := h₂.of_sequence
    obtain ⟨rfl, -⟩ := derives_word.1 hw
    obtain ⟨rfl, -⟩ := derives_mark.1 hl
    obtain ⟨rfl, -⟩ := derives_mark.1 hr
    exact ⟨w₁, rfl, OrEmpty.iff_maybe.2 ⟨ms, rfl, derives_optional.1 hms⟩⟩
  · rintro ⟨w₁, rfl, hms⟩
    obtain ⟨ms, rfl, hms'⟩ := OrEmpty.iff_maybe.1 hms
    exact ⟨((("import", "("), ms), ")"), rfl,
      .sequence (.sequence (.sequence .word .mark) (derives_optional.2 hms')) .mark⟩

/-- A document is a notice and a header, and up to three parts behind them. -/
theorem derives_document {d : Document} :
    Plain .document w w' d ↔ ∃ w₁ w₂ w₃ w₄, w = ⟨.comment, d.notice⟩ :: w₁ ∧
      Plain .header w₁ w₂ d.header ∧ Maybe (Plain .imports) w₂ w₃ d.imports ∧
      Maybe (Plain .types) w₃ w₄ d.types ∧ Maybe (Plain .interfaces) w₄ w' d.interfaces := by
  refine (plain_iff (r := .document) fun _ => trivial).trans ⟨?_, ?_⟩
  · rintro ⟨_, rfl, h⟩
    obtain ⟨w₄, _, is, rfl, h₄, his⟩ := h.of_sequence
    obtain ⟨w₃, _, ts, rfl, h₃, hts⟩ := h₄.of_sequence
    obtain ⟨w₂, _, ms, rfl, h₂, hms⟩ := h₃.of_sequence
    obtain ⟨w₁, n, h, rfl, hn, hh⟩ := h₂.of_sequence
    exact ⟨w₁, w₂, w₃, w₄, derives_notice.1 hn, hh, derives_optional.1 hms, derives_optional.1 hts,
      derives_optional.1 his⟩
  · rintro ⟨w₁, w₂, w₃, w₄, hn, hh, hms, hts, his⟩
    exact ⟨((((d.notice, d.header), d.imports), d.types), d.interfaces), rfl,
      .sequence (.sequence (.sequence (.sequence (derives_notice.2 hn) hh) (derives_optional.2 hms))
        (derives_optional.2 hts)) (derives_optional.2 his)⟩

/-- A source is a document up to the end of the input. -/
theorem derives_source {d : Document} :
    Plain .source w w' d ↔ ∃ v, Plain .document w (⟨.eof, v⟩ :: w') d := by
  refine (plain_iff (r := .source) fun _ => trivial).trans ⟨?_, ?_⟩
  · rintro ⟨_, rfl, h⟩
    obtain ⟨_, d, v, rfl, hd, hv⟩ := h.of_sequence
    obtain rfl := derives_kind.1 hv
    exact ⟨v, hd⟩
  · rintro ⟨v, hd⟩
    exact ⟨(d, v), rfl, .sequence hd (derives_kind.2 rfl)⟩

end PackageModel.Production
