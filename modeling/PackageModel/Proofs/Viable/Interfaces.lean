import PackageModel.Proofs.Complete.Interfaces
import PackageModel.Proofs.Viable.Types

/-!
# PackageModel.Proofs.Viable.Interfaces

The beginnings of interfaces.  Constants, constructors and functions can stand one behind the other
in any order; the attributes, abstractions and methods of a section have to be apart.
-/

namespace PackageModel

open Reading Stretch
open Production hiding some optional rule comment many identifier mark bracketed titled called
  interface commaList

variable {n : Nat}

/-! ## Members -/

/-- A name with parameters between parentheses is read as the words of `called` go. -/
theorem called_mayTake (rules : List Rule) (n : Nat) :
    (called rules n).MayTake (Production.called .parameters).words := by
  have h : (called rules n).MayTake _ := (text?_mayTake .identifier).bind_some
    (fun i => (mark_takes "(" rules).bind fun _ =>
      (Parameter.readList_mayTake n).orEmpty.bind fun ps =>
        (mark_takes ")" rules).bind_done fun _ => ⟨some (i, ps), rfl⟩) rfl (called_reads rules n)
  refine h.mono (le_of_eq ?_)
  simp only [Production.called, words_append, mul_assoc]
  rfl

/-- A constant takes its name, an empty pair of parentheses and an abstraction, which is
required. -/
theorem Constant.read_mayTake (n : Nat) : (Constant.read n).MayTake Rule.constant.words := by
  have h : (Constant.read n).MayTake _ := (text?_mayTake .identifier).bind_some
    (fun i => (mark_takes "(" _).bind fun _ => (mark_takes ")" _).bind fun _ =>
      ((Abstraction.read_mayTake n).required "abstraction" _).bind_done fun a =>
        ⟨some ⟨i, a⟩, rfl⟩) rfl (read_reads n)
  exact h.rule rfl (by simp only [Rule.production, words_append, mul_assoc]; rfl)

/-- A constructor takes a called name and an abstraction, which is required. -/
theorem Constructor.read_mayTake (n : Nat) :
    (Constructor.read n).MayTake Rule.constructor.words :=
  TakesWhen.rule ((called_mayTake _ n).bind_some
    (fun c => ((Abstraction.read_mayTake n).required "abstraction" _).bind_done fun a =>
      ⟨some ⟨c.1, c.2, a⟩, rfl⟩) rfl (read_reads n)) rfl rfl

/-- A function takes a called name and a result, which is required. -/
theorem Function.read_mayTake (n : Nat) : (Function.read n).MayTake Rule.function.words :=
  TakesWhen.rule ((called_mayTake _ n).bind_some
    (fun c => ((Result.read_mayTake n).required "result" _).bind_done fun r =>
      ⟨some ⟨c.1, c.2, r⟩, rfl⟩) rfl (read_reads n)) rfl rfl

/-- A method takes a called name; it ends there if no result follows. -/
theorem Method.read_mayTake (n : Nat) : (Method.read n).MayTake Rule.method.words :=
  TakesWhen.rule ((called_mayTake _ n).bind_some
    (fun c => (Result.read_mayTake n).optional.bind_done fun r => ⟨some ⟨c.1, c.2, r⟩, rfl⟩)
    rfl (read_reads n)) rfl rfl

/-- An attribute takes a name with one parameter at most between the parentheses, and an abstraction
if one follows. -/
theorem Attribute.read_mayTake (n : Nat) :
    (Attribute.read n).MayTake Rule.attributeMethod.words := by
  have h : (Attribute.read n).MayTake _ := (text?_mayTake .identifier).bind_some
    (fun i => (mark_takes "(" _).bind fun _ => (Parameter.read_mayTake n).optional.bind fun p =>
      (mark_takes ")" _).bind fun _ => (Abstraction.read_mayTake n).optional.bind_done fun a =>
        ⟨some ⟨i, p, a⟩, rfl⟩) rfl (read_reads n)
  exact h.rule rfl (by simp only [Rule.production, Production.called, words_append, mul_assoc]; rfl)


/-! ## Sections with neighbours -/

/-- A method without result is read only if the next lexeme starts no prefix, so the method behind
it is none that could have been taken for its result. -/
theorem Method.readsApart (hn : 0 < n) : ReadsApart (r := .method) (Method.read n)
    (fun m l => m.result = none → ∀ i, l = some (.name i) → i ∉ Prefix.words) Method.Apart where
  reads := read_next hn
  takes := read_mayTake n
  apart ha hb hresult := by
    obtain ⟨u, rfl⟩ := head_eq hb
    exact ha hresult _ rfl

/-- An attribute without abstraction is read only if the next lexeme starts no prefix. -/
theorem Attribute.readsApart (hn : 0 < n) : ReadsApart (r := .attributeMethod) (Attribute.read n)
    (fun a l => a.abstraction = none → ∀ i, l = some (.name i) → i ∉ Prefix.words)
    Attribute.Apart where
  reads := read_next hn
  takes := read_mayTake n
  apart ha hb habstraction := by
    obtain ⟨u, rfl⟩ := head_eq hb
    exact ha habstraction _ rfl

/-- An abstraction without arguments is read only if no bracket follows, so the one behind it is no
sequence type. -/
theorem Abstraction.readsApart (n : Nat) : ReadsApart (r := .abstraction) (Abstraction.read n)
    (fun a l => a.arguments = [] → l ≠ some (.mark "[")) Abstraction.Apart where
  reads := read_next n
  takes := read_mayTake n
  apart ha hb harguments harray := by
    obtain ⟨u, rfl⟩ := brackets_of_array hb harray
    exact ha harguments rfl

/-- A section of methods that are apart can be left out. -/
theorem Method.readSection_takes (hn : 0 < n) :
    (Method.readSection n).Takes (1 + Rule.methods.words) := by
  have h : (titled "// Methods" (Method.read n) "method" [.methods, .method] n).MayTake
      Rule.methods.words := (readsApart hn).section_mayTake (L := Rule.methods.words)
    (fun hms hapart => ⟨_, fun rest => derives_methods.2 (hms rest), hapart⟩) _ _ n
  exact h.sorted

/-- The attributes that are read in a section are apart, so they are a word of the section. -/
theorem Attribute.readSection_mayTake (hn : 0 < n) (expected : String) (rules : List Rule) :
    (titled "// Attributes" (Attribute.read n) expected rules n).MayTake
      Rule.attributes.words :=
  (readsApart hn).section_mayTake (L := Rule.attributes.words)
    (fun has hapart => ⟨_, fun rest => derives_attributes.2 (has rest), hapart⟩) _ _ n

/-- The abstractions that are read in a section are apart, so they are a word of the section. -/
theorem Abstraction.readSection_mayTake (n : Nat) (expected : String) (rules : List Rule) :
    (titled "// Abstractions" (Abstraction.read n) expected rules n).MayTake
      Rule.abstractions.words :=
  (readsApart n).section_mayTake (L := Rule.abstractions.words)
    (fun has hapart => ⟨_, fun rest => derives_abstractions.2 (has rest), hapart⟩) _ _ n

/-! ## Interfaces -/

/-- An interface takes a declaration and, between braces, what its body takes. -/
theorem interface_mayTake {α : Type} [Nonempty α] {p : Production} {body : Reading α}
    (hbody : body.Takes p.words) (rules : List Rule) (n : Nat) :
    (interface rules body n).MayTake (Production.interface p).words := by
  have h : (interface rules body n).MayTake _ := (Declaration.read_mayTake n).bind_some
    (fun d => (keyword_takes "interface" rules).bind fun _ => (mark_takes "\x7b" rules).bind
      fun _ => hbody.bind fun b => (mark_takes "\x7d" rules).bind_done fun _ => ⟨some (d, b), rfl⟩)
    rfl (interface_reads (R := fun _ _ _ => True) (fun _ _ _ _ => trivial) rules n)
  refine h.mono (le_of_eq ?_)
  simp only [Production.interface, words_append, mul_assoc]
  rfl

/-- The body of an aspect is its methods. -/
theorem Aspect.read_mayTake (hn : 0 < n) : (Aspect.read n).MayTake Rule.aspect.words :=
  TakesWhen.rule ((interface_mayTake (p := .optional (.rule .methods))
    (Method.readSection_takes hn) _ n).map_some (fun x => ⟨⟨x.1, x.2⟩, rfl⟩) rfl) rfl rfl

/-- The body of a class is three sections, each of which can be left out; members of a class have
nothing optional at their end, so they need not be apart. -/
theorem Class.read_mayTake (n : Nat) : (Class.read n).MayTake Rule.classInterface.words := by
  have hconstants := ((Constant.read_mayTake n).titled (Constant.read_reads n)
    "// Constants" "constant" [.constants, .constant] n).rule (x := .constants) rfl rfl
  have hconstructors := ((Constructor.read_mayTake n).titled (Constructor.read_reads n)
    "// Constructors" "constructor" [.constructors, .constructor] n).rule
    (x := .constructors) rfl rfl
  have hfunctions := ((Function.read_mayTake n).titled (Function.read_reads n)
    "// Functions" "function" [.functions, .function] n).rule (x := .functions) rfl rfl
  have hbody : (readBody n).Takes _ := hconstants.orEmpty.bind fun cs =>
    hconstructors.sorted.bind fun ns => hfunctions.sorted.bind_done fun fs =>
      ⟨(cs, ns, fs), rfl⟩
  rw [← mul_assoc] at hbody
  have hinterface := interface_mayTake (p := .optional (.rule .constants) ++
    .optional (.rule .constructors) ++ .optional (.rule .functions)) hbody
    [.classInterface, .declaration, .constants, .constructors, .functions] n
  have h : (read n).MayTake _ := hinterface.map_some
    (fun (d, cs, ns, fs) => ⟨⟨d, cs, ns, fs⟩, rfl⟩) rfl
  exact h.rule rfl rfl

/-- The body of an instance is three sections, in each of which the members have to be apart. -/
theorem Instance.read_mayTake (hn : 0 < n) :
    (Instance.read n).MayTake Rule.instanceInterface.words := by
  have hattributes := Attribute.readSection_mayTake hn "attribute" [.attributes, .attributeMethod]
  have habstractions := Abstraction.readSection_mayTake n "abstraction"
    [.abstractions, .abstraction]
  have hbody : (readBody n).Takes _ := hattributes.orEmpty.bind fun ts =>
    habstractions.orEmpty.bind fun as => (Method.readSection_takes hn).bind_done fun ms =>
      ⟨(ts, as, ms), rfl⟩
  rw [← mul_assoc] at hbody
  have hinterface := interface_mayTake (p := .optional (.rule .attributes) ++
    .optional (.rule .abstractions) ++ .optional (.rule .methods)) hbody
    [.instanceInterface, .declaration, .attributes, .abstractions, .methods] n
  have h : (read n).MayTake _ := hinterface.map_some
    (fun (d, ts, as, ms) => ⟨⟨d, ts, as, ms⟩, rfl⟩) rfl
  exact h.rule rfl rfl

/-- The interfaces are three sections behind their note. -/
theorem Interfaces.read_mayTake (hn : 0 < n) :
    (Interfaces.read n).MayTake Rule.interfaces.words := by
  have haspects := ((Aspect.read_mayTake hn).titled (Aspect.read_reads n)
    "// Aspects" "aspect" [.aspects, .aspect] n).rule (x := .aspects) rfl rfl
  have hclasses := ((Class.read_mayTake n).titled (Class.read_reads n)
    "// Classes" "class" [.classes, .classInterface] n).rule (x := .classes) rfl rfl
  have hinstances := ((Instance.read_mayTake hn).titled (Instance.read_reads n)
    "// Instances" "instance" [.instances, .instanceInterface] n).rule (x := .instances) rfl rfl
  have h : (Interfaces.read n).MayTake _ := (flag_takes (.note "// INTERFACES")).bind_true
    (haspects.sorted.bind fun as => hclasses.sorted.bind fun cs =>
      hinstances.sorted.bind_done fun is => ⟨some ⟨as, cs, is⟩, rfl⟩) rfl (read_reads n)
  exact h.rule rfl (by simp only [Rule.production, words_append, mul_assoc]; rfl)

end PackageModel
