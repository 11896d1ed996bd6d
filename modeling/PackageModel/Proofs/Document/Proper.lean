import PackageModel.Proofs.Grammar.Equations

/-!
# PackageModel.Proofs.Document.Proper

Documents whose names are taken for what they are.  A document is proper if no name in front of
which a prefix may stand is spelt like the start of one, and if no result is an empty list of
parameters.  The tree of a plain derivation is proper.
-/

namespace PackageModel

open Stretch
open Production hiding some optional rule comment many identifier mark bracketed titled called
  interface commaList

/-! ## Proper nodes -/

/-- An alias is not spelt like the start of another prefix. -/
def Prefix.Proper : Prefix → Prop
  | aliased name => name ∉ words
  | _ => True

mutual

/-- Neither the abstraction nor any of its arguments starts with a keyword instead of a name. -/
def Abstraction.Proper : Abstraction → Prop
  | .mk qualifier identifier arguments =>
    (∀ q ∈ qualifier, q.Proper) ∧ (qualifier = none → identifier ∉ Prefix.words) ∧
      Abstraction.ProperAll arguments

/-- All the abstractions are proper. -/
def Abstraction.ProperAll : List Abstraction → Prop
  | [] => True
  | a :: as => a.Proper ∧ Abstraction.ProperAll as

end

/-- A parameter is as proper as its abstraction. -/
def Parameter.Proper (p : Parameter) : Prop := p.abstraction.Proper

/-- The parameters of a result are not left out. -/
def Result.Proper : Result → Prop
  | abstraction value => value.Proper
  | parameters values => values ≠ [] ∧ ∀ p ∈ values, p.Proper

/-- A declaration says nothing improper in its parameters; the name behind `type` may be any. -/
def Declaration.Proper (d : Declaration) : Prop := ∀ p ∈ d.parameters, p.Proper

/-- The three parts of a specialization are proper. -/
structure Specialization.Proper (s : Specialization) : Prop where
  declaration : s.declaration.Proper
  abstraction : s.abstraction.Proper
  enumeration : ∀ v ∈ s.enumeration, v.parameter.Proper

/-- The three parts of a functional are proper. -/
structure Functional.Proper (f : Functional) : Prop where
  declaration : f.declaration.Proper
  parameters : ∀ p ∈ f.parameters, p.Proper
  result : f.result.Proper

/-- A constant is as proper as its abstraction. -/
def Constant.Proper (c : Constant) : Prop := c.abstraction.Proper

/-- The parameters and the abstraction of a constructor are proper. -/
structure Constructor.Proper (c : Constructor) : Prop where
  parameters : ∀ p ∈ c.parameters, p.Proper
  abstraction : c.abstraction.Proper

/-- The parameters and the result of a function are proper. -/
structure Function.Proper (f : Function) : Prop where
  parameters : ∀ p ∈ f.parameters, p.Proper
  result : f.result.Proper

/-- What an attribute takes and gives is proper, where it is there. -/
structure Attribute.Proper (a : Attribute) : Prop where
  parameter : ∀ p ∈ a.parameter, p.Proper
  abstraction : ∀ b ∈ a.abstraction, b.Proper

/-- The parameters of a method are proper, and its result where it has one. -/
structure Method.Proper (m : Method) : Prop where
  parameters : ∀ p ∈ m.parameters, p.Proper
  result : ∀ r ∈ m.result, r.Proper

/-- The declaration and the methods of an aspect are proper. -/
structure Aspect.Proper (a : Aspect) : Prop where
  declaration : a.declaration.Proper
  methods : ∀ m ∈ a.methods, m.Proper

/-- The declaration and the members of a class are proper. -/
structure Class.Proper (c : Class) : Prop where
  declaration : c.declaration.Proper
  constants : ∀ k ∈ c.constants, k.Proper
  constructors : ∀ k ∈ c.constructors, k.Proper
  functions : ∀ f ∈ c.functions, f.Proper

/-- The declaration and the members of an instance are proper. -/
structure Instance.Proper (i : Instance) : Prop where
  declaration : i.declaration.Proper
  attributes : ∀ a ∈ i.attributes, a.Proper
  abstractions : ∀ a ∈ i.abstractions, a.Proper
  methods : ∀ m ∈ i.methods, m.Proper

/-- All the definitions of a document are proper. -/
structure Document.Proper (d : Document) : Prop where
  specializations : ∀ s ∈ d.specializations, s.Proper
  functionals : ∀ f ∈ d.functionals, f.Proper
  aspects : ∀ a ∈ d.aspects, a.Proper
  classes : ∀ c ∈ d.classes, c.Proper
  instances : ∀ i ∈ d.instances, i.Proper

/-! ## Trees of plain derivations -/

variable {w w' : List Lexeme}

/-- An alias is derived only where no other prefix starts. -/
theorem Prefix.proper_of_derives {q : Prefix} (h : Plain .qualifier w w' q) : q.Proper := by
  cases derives_qualifier.1 h with
  | array | map | channel => trivial
  | aliased hi => exact hi

mutual

/-- By recursion on the abstraction, along its arguments. -/
theorem Abstraction.proper_of_derives :
    {a : Abstraction} → Stands (Plain .abstraction) a → a.Proper
  | .mk q i as, ⟨_, _, h⟩ => by
    obtain ⟨_, hq, hi, has⟩ := derives_abstraction.1 h
    have harguments : ∀ a ∈ as, Stands (Plain .abstraction) a :=
      has.stands fun h => (derives_arguments.1 h).stands.2
    refine ⟨fun q' hq' => ?_, hi, properAll_of_derives harguments⟩
    obtain ⟨_, _, hq'⟩ := hq.stands q' hq'
    exact Prefix.proper_of_derives hq'

/-- The arguments of an abstraction, each of which is derived somewhere. -/
theorem Abstraction.properAll_of_derives :
    {as : List Abstraction} → (∀ a ∈ as, Stands (Plain .abstraction) a) → ProperAll as
  | [], _ => trivial
  | a :: _, h =>
    ⟨proper_of_derives (h a List.mem_cons_self),
      properAll_of_derives fun b hb => h b (List.mem_cons_of_mem a hb)⟩

end

/-- A parameter is a name and an abstraction. -/
theorem Parameter.proper_of_derives {p : Parameter} (h : Plain .parameter w w' p) :
    p.Proper := by
  obtain ⟨_, -, ha⟩ := derives_parameter.1 h
  exact Abstraction.proper_of_derives ⟨_, _, ha⟩

/-- A list of parameters is not empty. -/
theorem Parameter.all_proper_of_derives {ps : List Parameter} (h : Plain .parameters w w' ps) :
    ps ≠ [] ∧ ∀ p ∈ ps, p.Proper := by
  obtain ⟨hne, hps⟩ := (derives_parameters.1 h).stands
  refine ⟨hne, fun p hp => ?_⟩
  obtain ⟨_, _, h⟩ := hps p hp
  exact proper_of_derives h

/-- The parentheses of a result hold at least one parameter. -/
theorem Result.proper_of_derives {r : Result} (h : Plain .result w w' r) : r.Proper := by
  cases derives_result.1 h with
  | abstraction ha => exact Abstraction.proper_of_derives ⟨_, _, ha⟩
  | parameters hps => exact Parameter.all_proper_of_derives hps

/-- The parameters of a declaration, where there are any. -/
theorem Declaration.proper_of_derives {d : Declaration} (h : Plain .declaration w w' d) :
    d.Proper := by
  obtain ⟨_, -, hps⟩ := derives_declaration.1 h
  exact hps.stands fun h => (Parameter.all_proper_of_derives h).2

/-- The parameters between the parentheses of a call. -/
theorem Parameter.all_proper_of_called {i : String} {ps : List Parameter}
    (h : Called (OrEmpty (Plain .parameters)) i w w' ps) : ∀ p ∈ ps, p.Proper := by
  cases h with
  | mk h => exact h.stands fun h => (all_proper_of_derives h).2

/-- An enumeration starts with a parameter. -/
theorem Values.proper_of_derives {v : Values} (h : Plain .enumeration w w' v) :
    v.parameter.Proper := by
  obtain ⟨_, -, hv⟩ := derives_enumeration.1 h
  obtain ⟨_, hp, -⟩ := derives_values.1 hv
  exact Parameter.proper_of_derives hp

/-- A specialization and its parts. -/
theorem Specialization.proper_of_derives {s : Specialization}
    (h : Plain .specialization w w' s) : s.Proper := by
  obtain ⟨_, _, hd, ha, he⟩ := derives_specialization.1 h
  refine ⟨Declaration.proper_of_derives hd, Abstraction.proper_of_derives ⟨_, _, ha⟩, ?_⟩
  intro v hv
  obtain ⟨_, _, h⟩ := he.stands v hv
  exact Values.proper_of_derives h

/-- A functional and its parts. -/
theorem Functional.proper_of_derives {f : Functional} (h : Plain .functional w w' f) :
    f.Proper := by
  obtain ⟨_, _, hd, hps, hr⟩ := derives_functional.1 h
  exact ⟨Declaration.proper_of_derives hd,
    hps.stands fun h => (Parameter.all_proper_of_derives h).2, Result.proper_of_derives hr⟩

/-- A constant has an abstraction. -/
theorem Constant.proper_of_derives {c : Constant} (h : Plain .constant w w' c) : c.Proper := by
  obtain ⟨_, -, ha⟩ := derives_constant.1 h
  exact Abstraction.proper_of_derives ⟨_, _, ha⟩

/-- A constructor has parameters and an abstraction. -/
theorem Constructor.proper_of_derives {c : Constructor} (h : Plain .constructor w w' c) :
    c.Proper := by
  obtain ⟨_, hps, ha⟩ := derives_constructor.1 h
  exact ⟨Parameter.all_proper_of_called hps, Abstraction.proper_of_derives ⟨_, _, ha⟩⟩

/-- A function has parameters and a result. -/
theorem Function.proper_of_derives {f : Function} (h : Plain .function w w' f) : f.Proper := by
  obtain ⟨_, hps, hr⟩ := derives_function.1 h
  exact ⟨Parameter.all_proper_of_called hps, Result.proper_of_derives hr⟩

/-- A method has parameters, and a result where it is there. -/
theorem Method.proper_of_derives {m : Method} (h : Plain .method w w' m) : m.Proper := by
  obtain ⟨_, hps, hr⟩ := derives_method.1 h
  refine ⟨Parameter.all_proper_of_called hps, fun r hmem => ?_⟩
  obtain ⟨_, _, h⟩ := hr.stands r hmem
  exact Result.proper_of_derives h

/-- An attribute has a parameter or an abstraction, or both. -/
theorem Attribute.proper_of_derives {a : Attribute} (h : Plain .attributeMethod w w' a) :
    a.Proper := by
  obtain ⟨_, hp, ha⟩ := derives_attribute.1 h
  refine ⟨?_, fun b hb => Abstraction.proper_of_derives (ha.stands b hb)⟩
  cases hp with
  | mk hp =>
    intro p hmem
    obtain ⟨_, _, h⟩ := hp.stands p hmem
    exact Parameter.proper_of_derives h

/-- The items of a section are proper. -/
theorem Titled.all_proper {r : Rule} {note : String} {P : r.Node → Prop} {as : List r.Node}
    (hP : ∀ {w w' a}, Plain r w w' a → P a) (h : Titled note (Plain r) w w' as) :
    ∀ a ∈ as, P a := by
  intro a ha
  obtain ⟨_, _, h⟩ := h.stands a ha
  exact hP h

/-- The methods of a section, which may be missing. -/
theorem Method.all_proper_of_derives {ms : List Method} (h : OrEmpty (Plain .methods) w w' ms) :
    ∀ m ∈ ms, m.Proper :=
  h.stands fun h => Titled.all_proper Method.proper_of_derives (derives_methods.1 h)

/-- An aspect and its methods. -/
theorem Aspect.proper_of_derives {a : Aspect} (h : Plain .aspect w w' a) : a.Proper := by
  obtain ⟨_, hd, hms⟩ := derives_aspect.1 h
  exact ⟨Declaration.proper_of_derives hd, Method.all_proper_of_derives hms⟩

/-- A class and its three sections. -/
theorem Class.proper_of_derives {c : Class} (h : Plain .classInterface w w' c) : c.Proper := by
  obtain ⟨_, _, _, hd, hcs, hns, hfs⟩ := derives_class.1 h
  exact ⟨Declaration.proper_of_derives hd,
    hcs.stands fun h => Titled.all_proper Constant.proper_of_derives (derives_constants.1 h),
    hns.stands fun h =>
      Titled.all_proper Constructor.proper_of_derives (derives_constructors.1 h),
    hfs.stands fun h => Titled.all_proper Function.proper_of_derives (derives_functions.1 h)⟩

/-- An instance and its three sections. -/
theorem Instance.proper_of_derives {i : Instance} (h : Plain .instanceInterface w w' i) :
    i.Proper := by
  obtain ⟨_, _, _, hd, hts, has, hms⟩ := derives_instance.1 h
  exact ⟨Declaration.proper_of_derives hd,
    hts.stands fun h => Titled.all_proper Attribute.proper_of_derives (derives_attributes.1 h),
    has.stands fun h => Titled.all_proper (fun h => Abstraction.proper_of_derives ⟨_, _, h⟩)
      (derives_abstractions.1 h),
    Method.all_proper_of_derives hms⟩

/-- The two sections of the types. -/
theorem Types.all_proper_of_derives {t : Types} (h : Plain .types w w' t) :
    (∀ s ∈ t.specializations, s.Proper) ∧ ∀ f ∈ t.functionals, f.Proper := by
  obtain ⟨_, _, -, hss, hfs⟩ := derives_types.1 h
  exact ⟨hss.stands fun h =>
      Titled.all_proper Specialization.proper_of_derives (derives_specializations.1 h),
    hfs.stands fun h =>
      Titled.all_proper Functional.proper_of_derives (derives_functionals.1 h)⟩

/-- The three sections of the interfaces. -/
theorem Interfaces.all_proper_of_derives {i : Interfaces} (h : Plain .interfaces w w' i) :
    (∀ a ∈ i.aspects, a.Proper) ∧ (∀ c ∈ i.classes, c.Proper) ∧
      ∀ j ∈ i.instances, j.Proper := by
  obtain ⟨_, _, _, -, has, hcs, his⟩ := derives_interfaces.1 h
  exact ⟨has.stands fun h => Titled.all_proper Aspect.proper_of_derives (derives_aspects.1 h),
    hcs.stands fun h => Titled.all_proper Class.proper_of_derives (derives_classes.1 h),
    his.stands fun h => Titled.all_proper Instance.proper_of_derives (derives_instances.1 h)⟩

/-- The tree of a plain derivation is proper. -/
theorem Document.proper_of_derives {d : Document} (h : Plain .document w w' d) : d.Proper := by
  obtain ⟨notice, header, imports, types, interfaces⟩ := d
  obtain ⟨_, _, _, _, -, -, -, hts, his⟩ := derives_document.1 h
  have htypes : (∀ s ∈ (types.map (·.specializations)).getD [], s.Proper) ∧
      ∀ f ∈ (types.map (·.functionals)).getD [], f.Proper := by
    cases types with
    | none => exact ⟨nofun, nofun⟩
    | some t =>
      obtain ⟨_, _, ht⟩ := hts.stands t rfl
      exact Types.all_proper_of_derives ht
  have hinterfaces : (∀ a ∈ (interfaces.map (·.aspects)).getD [], a.Proper) ∧
      (∀ c ∈ (interfaces.map (·.classes)).getD [], c.Proper) ∧
      ∀ i ∈ (interfaces.map (·.instances)).getD [], i.Proper := by
    cases interfaces with
    | none => exact ⟨nofun, nofun, nofun⟩
    | some i =>
      obtain ⟨_, _, hi⟩ := his.stands i rfl
      exact Interfaces.all_proper_of_derives hi
  exact ⟨htypes.1, htypes.2, hinterfaces.1, hinterfaces.2.1, hinterfaces.2.2⟩

end PackageModel
