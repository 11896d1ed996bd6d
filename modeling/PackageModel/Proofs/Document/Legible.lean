import Mathlib.Data.List.Chain
import PackageModel.Proofs.Document.Arranged
import PackageModel.Proofs.Grammar.Stretch

/-!
# PackageModel.Proofs.Document.Legible

Documents that can be read with one token of lookahead.  A bracket behind the name of a type is
taken for that of its generic arguments, and behind the name of a declaration for that of its
generic parameters; a keyword that starts a prefix is taken for one wherever a result may stand.
A document is legible if it gives no occasion for this.
-/

namespace PackageModel

/-- A sequence type is not defined by a name without generic parameters. -/
def Specialization.Legible (s : Specialization) : Prop :=
  s.declaration.parameters = [] → s.abstraction.qualifier ≠ some .array

/-- An abstraction without arguments stands in front of no sequence type. -/
def Abstraction.Apart (a b : Abstraction) : Prop :=
  a.arguments = [] → b.qualifier ≠ some .array

/-- An attribute without an abstraction stands in front of none that is named like a prefix. -/
def Attribute.Apart (a b : Attribute) : Prop :=
  a.abstraction = none → b.identifier ∉ Prefix.words

/-- A method without a result stands in front of none that is named like a prefix. -/
def Method.Apart (m m' : Method) : Prop := m.result = none → m'.identifier ∉ Prefix.words

/-- The methods of an aspect can be told apart. -/
def Aspect.Legible (a : Aspect) : Prop := a.methods.IsChain Method.Apart

/-- The members of an instance can be told apart where one section runs up to the next. -/
structure Instance.Legible (i : Instance) : Prop where
  attributes : i.attributes.IsChain Attribute.Apart
  abstractions : i.abstractions.IsChain Abstraction.Apart
  methods : i.methods.IsChain Method.Apart

/-- All the definitions of a document can be read back. -/
structure Document.Legible (d : Document) : Prop where
  specializations : ∀ s ∈ d.specializations, s.Legible
  aspects : ∀ a ∈ d.aspects, a.Legible
  instances : ∀ i ∈ d.instances, i.Legible

end PackageModel
