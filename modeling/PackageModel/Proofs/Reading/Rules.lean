import PackageModel.Proofs.Grammar.Arranged
import PackageModel.Proofs.Reading.Bound
import PackageModel.Proofs.Reading.Sound

/-!
# PackageModel.Proofs.Reading.Rules

The rules of the grammar and the programs that read them.  `Rule.reading` gives the program of every
rule, also of those that the larger rules read in place.
-/

namespace PackageModel

open Reading Stretch
open Production hiding some optional rule comment many identifier mark bracketed titled called
  interface commaList

/-! ## The programs -/

/-- Reads a section and puts its items in canonical order. -/
def Reading.sortedSection {α : Type} [Ranked α] (note : String) (item : Reading (Option α))
    (expected : String) (rules : List Rule) (n : Nat) : Reading (Option (List α)) :=
  return (← titled note item expected rules n).map canonicalSort

/-- The program that reads the rule. -/
def Rule.reading (n : Nat) : (r : Rule) → Reading (Option r.Node)
  | .abstraction => Abstraction.read n
  | .abstractions =>
    titled "// Abstractions" (Abstraction.read n) "abstraction" [.abstractions, .abstraction] n
  | .arguments => commaList (Abstraction.read n) n
  | .aspect => Aspect.read n
  | .aspects => sortedSection "// Aspects" (Aspect.read n) "aspect" [.aspects, .aspect] n
  | .attributeMethod => Attribute.read n
  | .attributes =>
    titled "// Attributes" (Attribute.read n) "attribute" [.attributes, .attributeMethod] n
  | .classInterface => Class.read n
  | .classes => sortedSection "// Classes" (Class.read n) "class" [.classes, .classInterface] n
  | .constant => Constant.read n
  | .constants => titled "// Constants" (Constant.read n) "constant" [.constants, .constant] n
  | .constructor => Constructor.read n
  | .constructors =>
    sortedSection "// Constructors" (Constructor.read n) "constructor"
      [.constructors, .constructor] n
  | .declaration => Declaration.read n
  | .document => Document.read n
  | .enumeration => Values.readEnumeration n
  | .function => Function.read n
  | .functional => Functional.read n
  | .functionals =>
    sortedSection "// Functionals" (Functional.read n) "functional" [.functionals, .functional] n
  | .functions =>
    sortedSection "// Functions" (Function.read n) "function" [.functions, .function] n
  | .header => Header.read
  | .imports => Module.readImports n
  | .instanceInterface => Instance.read n
  | .instances =>
    sortedSection "// Instances" (Instance.read n) "instance" [.instances, .instanceInterface] n
  | .interfaces => Interfaces.read n
  | .method => Method.read n
  | .methods => sortedSection "// Methods" (Method.read n) "method" [.methods, .method] n
  | .module => Module.read
  | .modules => return (← oneOrMore Module.read n).map canonicalSort
  | .notice => text? .comment
  | .parameter => Parameter.read n
  | .parameters => Parameter.readList n
  | .qualifier => Prefix.read
  | .result => Result.read n
  | .source => return some (← Document.readSource n)
  | .specialization => Specialization.read n
  | .specializations =>
    sortedSection "// Specializations" (Specialization.read n) "specialization"
      [.specializations, .specialization] n
  | .types => Types.read n
  | .values => Values.read n

namespace Reading

variable {α β γ : Type}

/-- Three readings one after the other. -/
theorem bind_assoc (r : Reading α) (f : α → Reading β) (g : β → Reading γ) :
    (r.bind f).bind g = r.bind fun a => (f a).bind g := by
  induction r with
  | done a => rfl
  | fail expected rules => rfl
  | take wanted behind next ih =>
    rw [bind, bind, bind]
    exact congrArg _ (funext ih)

/-- An absent list is empty whether it is sorted or not. -/
theorem orEmpty_map_canonicalSort [Ranked α] (list : Reading (Option (List α))) :
    (orEmpty (list.bind fun o => done (o.map canonicalSort))) =
      (orEmpty list).bind fun as => done (canonicalSort as) := by
  simp only [orEmpty, bind_eq_bind, pure_eq_done, bind_assoc, bind, getD_map_canonicalSort]

/-- A sorted section that is missing has no items. -/
theorem sorted_eq [Ranked α] (note : String) (item : Reading (Option α)) (expected : String)
    (rules : List Rule) (n : Nat) :
    sorted note item expected rules n = orEmpty (sortedSection note item expected rules n) :=
  (orEmpty_map_canonicalSort _).symm

end Reading

/-! ## The larger rules

They read their parts by the programs of these parts, and an absent part as an empty list. -/

/-- An abstraction as its rules read it: a qualifier, a name and arguments between brackets. -/
theorem Abstraction.read_succ (n : Nat) : Abstraction.read (n + 1) = do
    let qualifier ← Rule.qualifier.reading n
    match ← readName qualifier with
    | none => return none
    | some identifier =>
      let arguments ← bracketed (Rule.arguments.reading n) "arguments" rules
      return some (mk qualifier identifier arguments) := rfl

/-- The types are the two sections behind their heading. -/
theorem Types.read_eq (n : Nat) : Types.read n = do
    if ← note? "// TYPES" then
      let specializations ← orEmpty (Rule.specializations.reading n)
      let functionals ← orEmpty (Rule.functionals.reading n)
      return some { specializations, functionals }
    return none := by
  simp only [Types.read, sorted_eq]
  rfl

/-- A section of methods that is missing has no methods. -/
theorem Method.readSection_eq (n : Nat) :
    Method.readSection n = orEmpty (Rule.methods.reading n) := sorted_eq ..

/-- The sections of a class, each of which may be missing. -/
theorem Class.readBody_eq (n : Nat) : Class.readBody n = do
    let constants ← orEmpty (Rule.constants.reading n)
    let constructors ← orEmpty (Rule.constructors.reading n)
    let functions ← orEmpty (Rule.functions.reading n)
    return (constants, constructors, functions) := by
  simp only [Class.readBody, sorted_eq]
  rfl

/-- The sections of an instance, each of which may be missing. -/
theorem Instance.readBody_eq (n : Nat) : Instance.readBody n = do
    let attributes ← orEmpty (Rule.attributes.reading n)
    let abstractions ← orEmpty (Rule.abstractions.reading n)
    let methods ← orEmpty (Rule.methods.reading n)
    return (attributes, abstractions, methods) := by
  simp only [Instance.readBody, Method.readSection_eq]
  rfl

/-- The interfaces are the three sections behind their heading. -/
theorem Interfaces.read_eq (n : Nat) : Interfaces.read n = do
    if ← note? "// INTERFACES" then
      let aspects ← orEmpty (Rule.aspects.reading n)
      let classes ← orEmpty (Rule.classes.reading n)
      let instances ← orEmpty (Rule.instances.reading n)
      return some { aspects, classes, instances }
    return none := by
  simp only [Interfaces.read, sorted_eq]
  rfl

/-- The imports of a module, which stand behind their heading or are missing. -/
theorem Module.readImports_eq (n : Nat) : Module.readImports n = do
    let rules := [.imports, .modules, .module]
    if ← keyword? "import" then
      mark "(" rules
      let modules ← orEmpty (Rule.modules.reading n)
      mark ")" rules
      return some modules
    return none := by
  have hmodules : orEmpty (Rule.modules.reading n) =
      (orEmpty (oneOrMore read n)).bind fun ms => done (canonicalSort ms) :=
    orEmpty_map_canonicalSort _
  rw [hmodules]
  simp only [readImports, bind_eq_bind, pure_eq_done, bind_assoc, Reading.bind]

/-! ## What they read -/

section

variable {α β : Type} {R : Stretch α} {S : Stretch (List α)} {item : Reading (Option α)}

/-- A result that is changed afterwards is that of the rule. -/
theorem map_reads {rule : Reading (Option α)} (h : rule.Reads (Maybe R)) (f : α → β) :
    (rule.bind fun o => done (o.map f)).Reads (Maybe (Via f R)) := by
  intro w w' o ho
  obtain ⟨o₁, w₁, ho₁, h₁⟩ := of_bind ho
  obtain ⟨rfl, rfl⟩ := of_done h₁
  cases h ho₁ with
  | absent => exact .absent
  | present ha => exact .present ⟨_, rfl, ha⟩

/-- A section whose items are put in order when they have been read. -/
theorem sortedSection_reads [Ranked α] {note : String} (hitem : item.Reads (Maybe R))
    (h : ∀ {w w' as}, Titled note R w w' as → S w w' as) (expected : String)
    (rules : List Rule) (n : Nat) :
    (sortedSection note item expected rules n).Reads (Maybe (Via canonicalSort S)) :=
  map_reads ((titled_reads hitem note expected rules n).present h) canonicalSort

/-- A section whose items are put in order themselves. -/
theorem sortedSection_via_reads [Ranked α] {f : α → α} {note : String}
    (hitem : item.Reads (Maybe (Via f R)))
    (h : ∀ {w w' as}, Titled note R w w' as → S w w' as) (expected : String)
    (rules : List Rule) (n : Nat) :
    (sortedSection note item expected rules n).Reads
      (Maybe (Via (fun as => canonicalSort (as.map f)) S)) := by
  refine (sortedSection_reads hitem Titled.of_via expected rules n).present ?_
  rintro w w' _ ⟨_, rfl, as, rfl, has⟩
  exact ⟨as, rfl, h has⟩

end

/-- What a rule reads is a node of it in canonical order, and what is left of the tokens is behind
the tokens that the node is derived from. -/
theorem Rule.reading_reads (n : Nat) (r : Rule) :
    (r.reading n).Reads (Maybe (Via r.arranged (Plain r))) := by
  have plain {r : Rule} (h : (r.reading n).Reads (Maybe (Plain r))) (hsorts : r.sorts = false) :
      (r.reading n).Reads (Maybe (Via r.arranged (Plain r))) :=
    h.present fun {_ _ a} ha => ⟨a, (arranged_of_not_sorts hsorts a).symm, ha⟩
  cases r with
  | abstraction => exact plain (Abstraction.read_reads n) rfl
  | abstractions =>
    exact plain ((titled_reads (Abstraction.read_reads n) _ _ _ n).present
      derives_abstractions.2) rfl
  | arguments =>
    exact plain ((commaList_reads (Abstraction.read_reads n) n).present derives_arguments.2) rfl
  | aspect => exact Aspect.read_reads n
  | aspects => exact sortedSection_via_reads (Aspect.read_reads n) derives_aspects.2 _ _ n
  | attributeMethod => exact plain (Attribute.read_reads n) rfl
  | attributes =>
    exact plain ((titled_reads (Attribute.read_reads n) _ _ _ n).present derives_attributes.2) rfl
  | classInterface => exact Class.read_reads n
  | classes => exact sortedSection_via_reads (Class.read_reads n) derives_classes.2 _ _ n
  | constant => exact plain (Constant.read_reads n) rfl
  | constants =>
    exact plain ((titled_reads (Constant.read_reads n) _ _ _ n).present derives_constants.2) rfl
  | constructor => exact plain (Constructor.read_reads n) rfl
  | constructors =>
    exact sortedSection_reads (Constructor.read_reads n) derives_constructors.2 _ _ n
  | declaration => exact plain (Declaration.read_reads n) rfl
  | document => exact Document.read_reads n
  | enumeration => exact plain (Values.readEnumeration_reads n) rfl
  | function => exact plain (Function.read_reads n) rfl
  | functional => exact plain (Functional.read_reads n) rfl
  | functionals => exact sortedSection_reads (Functional.read_reads n) derives_functionals.2 _ _ n
  | functions => exact sortedSection_reads (Function.read_reads n) derives_functions.2 _ _ n
  | header => exact plain Header.read_reads rfl
  | imports => exact Module.readImports_reads n
  | instanceInterface => exact Instance.read_reads n
  | instances => exact sortedSection_via_reads (Instance.read_reads n) derives_instances.2 _ _ n
  | interfaces => exact Interfaces.read_reads n
  | method => exact plain (Method.read_reads n) rfl
  | methods => exact sortedSection_reads (Method.read_reads n) derives_methods.2 _ _ n
  | module => exact plain Module.read_reads rfl
  | modules =>
    exact map_reads ((oneOrMore_reads Module.read_reads n).present derives_modules.2) canonicalSort
  | notice => exact plain ((kind?_reads .comment).present derives_notice.2) rfl
  | parameter => exact plain (Parameter.read_reads n) rfl
  | parameters => exact plain (Parameter.readList_reads n) rfl
  | qualifier => exact plain (fun _ _ _ h => (Prefix.read_reads h).1) rfl
  | result => exact plain (Result.read_reads n) rfl
  | source =>
    intro w w' o h
    obtain ⟨d, w₁, hd, h₁⟩ := of_bind h
    obtain ⟨rfl, rfl⟩ := of_done h₁
    exact .present (Document.readSource_reads n hd)
  | specialization => exact plain (Specialization.read_reads n) rfl
  | specializations =>
    exact sortedSection_reads (Specialization.read_reads n) derives_specializations.2 _ _ n
  | types => exact Types.read_reads n
  | values => exact plain (Values.read_reads n) rfl

/-! ## Their bounds -/

/-- Two rules that agree on short texts still do when their results are changed. -/
theorem Reading.SameBelow.map {α β : Type} {N : Nat} {rule rule' : Reading (Option α)}
    (h : SameBelow N rule rule') (f : α → β) :
    SameBelow N (rule.bind fun o => done (o.map f)) (rule'.bind fun o => done (o.map f)) :=
  h.bind fun _ => .rfl

/-- The bound of a rule has no effect on streams with fewer tokens ahead. -/
theorem Rule.sameBelow_reading {N n m : Nat} (hn : N ≤ n) (hm : N ≤ m) (r : Rule) :
    SameBelow N (r.reading n) (r.reading m) := by
  cases r with
  | abstraction => exact Abstraction.sameBelow_read hn hm
  | abstractions =>
    exact (Abstraction.sameBelow_read hn hm).titled (Abstraction.takesIf_read n) hn hm
  | arguments => exact (Abstraction.sameBelow_read hn hm).commaList hn hm
  | aspect => exact Aspect.sameBelow_read hn hm
  | aspects =>
    exact ((Aspect.sameBelow_read hn hm).titled (takesIf_interface.bind_some rfl) hn hm).map _
  | attributeMethod => exact Attribute.sameBelow_read hn hm
  | attributes =>
    exact (Attribute.sameBelow_read hn hm).titled (TakesIf.identifier?.bind_some rfl) hn hm
  | classInterface => exact Class.sameBelow_read hn hm
  | classes =>
    exact ((Class.sameBelow_read hn hm).titled (takesIf_interface.bind_some rfl) hn hm).map _
  | constant => exact Constant.sameBelow_read hn hm
  | constants =>
    exact (Constant.sameBelow_read hn hm).titled (TakesIf.identifier?.bind_some rfl) hn hm
  | constructor => exact Constructor.sameBelow_read hn hm
  | constructors =>
    exact ((Constructor.sameBelow_read hn hm).titled (takesIf_called.bind_some rfl) hn hm).map _
  | declaration => exact Declaration.sameBelow_read hn hm
  | document => exact Document.sameBelow_read hn hm
  | enumeration => exact Values.sameBelow_readEnumeration hn hm
  | function => exact Function.sameBelow_read hn hm
  | functional => exact Functional.sameBelow_read hn hm
  | functionals =>
    exact ((Functional.sameBelow_read hn hm).titled (Declaration.takesIf_read.bind_some rfl)
      hn hm).map _
  | functions =>
    exact ((Function.sameBelow_read hn hm).titled (takesIf_called.bind_some rfl) hn hm).map _
  | header | module | notice | qualifier => exact .rfl
  | imports => exact Module.sameBelow_readImports hn hm
  | instanceInterface => exact Instance.sameBelow_read hn hm
  | instances =>
    exact ((Instance.sameBelow_read hn hm).titled (takesIf_interface.bind_some rfl) hn hm).map _
  | interfaces => exact Interfaces.sameBelow_read hn hm
  | method => exact Method.sameBelow_read hn hm
  | methods =>
    exact ((Method.sameBelow_read hn hm).titled (takesIf_called.bind_some rfl) hn hm).map _
  | modules => exact (SameBelow.rfl.oneOrMore Module.takesIf_read hn hm).map _
  | parameter => exact Parameter.sameBelow_read hn hm
  | parameters => exact Parameter.sameBelow_readList hn hm
  | result => exact Result.sameBelow_read hn hm
  | source => exact (Document.sameBelow_readSource hn hm).bind fun _ => .rfl
  | specialization => exact Specialization.sameBelow_read hn hm
  | specializations =>
    exact ((Specialization.sameBelow_read hn hm).titled (Declaration.takesIf_read.bind_some rfl)
      hn hm).map _
  | types => exact Types.sameBelow_read hn hm
  | values => exact Values.sameBelow_read hn hm

end PackageModel
