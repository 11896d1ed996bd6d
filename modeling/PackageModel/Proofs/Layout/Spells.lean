import PackageModel.Layout.Document
import PackageModel.Proofs.Layout.Shows

/-!
# PackageModel.Proofs.Layout.Spells

The tokens from which a node has been read.  All derivations of one node have the same tokens but
for the commas, which may stand behind the last item of a list or not; and these are the tokens of
the layout of the node.
-/

namespace PackageModel

open Stretch
open Production hiding some optional rule comment many identifier mark bracketed titled called
  interface commaList

/-- The tokens that are not commas. -/
def withoutCommas (ls : List Lexeme) : List Lexeme := ls.filter (· ≠ .mark ",")

section

variable {ls ms : List Lexeme} {s : String}

@[simp] theorem withoutCommas_nil : withoutCommas [] = [] := rfl

@[simp] theorem withoutCommas_append :
    withoutCommas (ls ++ ms) = withoutCommas ls ++ withoutCommas ms := List.filter_append ..

@[simp] theorem withoutCommas_flatMap {α : Type} {f : α → List Lexeme} {as : List α} :
    withoutCommas (as.flatMap f) = as.flatMap fun a => withoutCommas (f a) :=
  List.filter_flatMap ..

@[simp] theorem withoutCommas_comma : withoutCommas (.mark "," :: ls) = withoutCommas ls := rfl

@[simp] theorem withoutCommas_mark (h : s ≠ ",") :
    withoutCommas (.mark s :: ls) = .mark s :: withoutCommas ls :=
  List.filter_cons_of_pos (by simpa [Lexeme.mark] using h)

/-- What is no delimiter is no comma. -/
theorem withoutCommas_cons {l : Lexeme} (h : l.kind ≠ .delimiter) :
    withoutCommas (l :: ls) = l :: withoutCommas ls :=
  List.filter_cons_of_pos (decide_eq_true fun hl => h (congrArg Lexeme.kind hl))

@[simp] theorem withoutCommas_name :
    withoutCommas (.name s :: ls) = .name s :: withoutCommas ls := withoutCommas_cons nofun

@[simp] theorem withoutCommas_note :
    withoutCommas (⟨.note, s⟩ :: ls) = ⟨.note, s⟩ :: withoutCommas ls := withoutCommas_cons nofun

@[simp] theorem withoutCommas_comment :
    withoutCommas (⟨.comment, s⟩ :: ls) = ⟨.comment, s⟩ :: withoutCommas ls :=
  withoutCommas_cons nofun

@[simp] theorem withoutCommas_text :
    withoutCommas (⟨.text, s⟩ :: ls) = ⟨.text, s⟩ :: withoutCommas ls := withoutCommas_cons nofun

end

namespace Layout

/-- The tokens of a layout that are not commas. -/
def content (l : Layout) : List Lexeme := withoutCommas l.lexemes

/-- Whatever tokens stand for `a`, they are those of the layout but for commas. -/
def Spells {α : Type} (l : Layout) (R : Stretch α) (a : α) : Prop :=
  ∀ ⦃w w'⦄, R w w' a → withoutCommas w = l.content ++ withoutCommas w'

/-! ## Layouts of lists -/

section

variable {α : Type} {R : Stretch α} {f : α → Layout} {as : List α} {w w' : List Lexeme}

/-- Items in a row add nothing but commas. -/
theorem content_sequence (depth : Nat) (items : List Layout) :
    content (sequence depth items) = items.flatMap fun l => l.content := by
  unfold sequence
  cases items with
  | nil => rfl
  | cons l items => split <;> simp [content, lexemes_intercalate]

/-- Items one behind the other are spelled out if each of them is. -/
theorem items_spell (h : ∀ a ∈ as, (f a).Spells R a) (hs : Items R w w' as) :
    withoutCommas w = as.flatMap (fun a => (f a).content) ++ withoutCommas w' := by
  induction hs with
  | nil => rfl
  | cons ha _ ih =>
    obtain ⟨hl, hls⟩ := List.forall_mem_cons.1 h
    rw [hl ha, ih hls, List.flatMap_cons, List.append_assoc]

/-- Items with commas are spelled out if each of them is; a comma behind the last one makes no
difference. -/
theorem commaItems_spell (h : ∀ a ∈ as, (f a).Spells R a) (hs : CommaItems R w w' as) :
    withoutCommas w = as.flatMap (fun a => (f a).content) ++ withoutCommas w' := by
  induction hs with
  | nil | trailing => rfl
  | cons ha _ ih =>
    obtain ⟨hl, hls⟩ := List.forall_mem_cons.1 h
    rw [withoutCommas_comma, hl ha, ih hls, List.flatMap_cons, List.append_assoc]

/-- A list with commas has the tokens of its items, on one line and on several. -/
theorem sequence_spells (depth : Nat) (h : ∀ a ∈ as, (f a).Spells R a) :
    (sequence depth (as.map f)).Spells (CommaList R) as := by
  intro w w' hs
  cases hs with
  | mk ha hs =>
    obtain ⟨hl, hls⟩ := List.forall_mem_cons.1 h
    rw [hl ha, commaItems_spell hls hs, content_sequence, List.flatMap_map, List.flatMap_cons,
      List.append_assoc]

/-- A list between brackets is not empty. -/
theorem bracketed_spells (depth : Nat) {S : Stretch (List α)}
    (h : (sequence depth (as.map f)).Spells S as) (hne : ∀ {w w'}, ¬ S w w' []) :
    (bracketed depth (as.map f)).Spells (Bracketed S) as := by
  intro w w' hs
  cases hs with
  | absent => rfl
  | present hs =>
    cases as with
    | nil => exact absurd hs hne
    | cons a as =>
      have hitems := h hs
      simp [content] at hitems
      simp [bracketed, content, hitems]

/-- An optional thing is spelled out if it is there. -/
theorem optional_spells {o : Option α} (h : ∀ a ∈ o, (f a).Spells R a)
    (ho : Maybe R w w' o) :
    withoutCommas w = content ((o.map f).getD []) ++ withoutCommas w' := by
  cases ho with
  | absent => rfl
  | present ha => exact h _ rfl ha

/-- The items below a note, which are left out with it if there are none. -/
theorem titled_spells {note : String} {S : Stretch (List α)}
    (hS : ∀ {w w'}, S w w' as → Titled note R w w' as) (h : ∀ a ∈ as, (f a).Spells R a)
    (hs : OrEmpty S w w' as) :
    withoutCommas w = (if as.isEmpty then [] else
      ⟨.note, note⟩ :: as.flatMap fun a => (f a).content) ++ withoutCommas w' := by
  cases hs with
  | absent => rfl
  | present hs =>
    cases hS hs with
    | mk hitems =>
      cases hitems with
      | mk ha has =>
        obtain ⟨hl, hls⟩ := List.forall_mem_cons.1 h
        rw [withoutCommas_note, hl ha, items_spell hls has]
        simp

/-- A section of members is spelled out, and nothing where there is none. -/
theorem memberSection_spells {note : String} {f : Nat → α → Layout} {S : Stretch (List α)}
    (hS : ∀ {w w'}, S w w' as → Titled note R w w' as) (h : ∀ a ∈ as, (f 1 a).Spells R a) :
    (memberSection note f as).Spells (OrEmpty S) as := by
  intro w w' hs
  rw [titled_spells hS h hs]
  unfold memberSection
  split
  · rfl
  · simp [content, titled, List.flatMap_map]

/-- A block of declarations is spelled out, and nothing where there is none. -/
theorem declarationBlock_spells {note : String} {S : Stretch (List α)}
    (hS : ∀ {w w'}, S w w' as → Titled note R w w' as) (h : ∀ a ∈ as, (f a).Spells R a) :
    (declarationBlock note f as).Spells (OrEmpty S) as := by
  intro w w' hs
  rw [titled_spells hS h hs]
  unfold declarationBlock
  split
  · rfl
  · simp [content]

end

end Layout

open Layout

variable (depth : Nat) {w w' : List Lexeme}

/-! ## Uses of types -/

/-- A prefix is spelled out. -/
theorem Prefix.layout_spells (q : Prefix) : q.layout.Spells (Plain .qualifier) q := by
  intro w w' h
  cases derives_qualifier.1 h with
  | array | map | channel | aliased _ => simp [layout, content]

mutual

/-- An abstraction is spelled out; only the commas between its arguments may differ. -/
theorem Abstraction.layout_spells (depth : Nat) :
    (a : Abstraction) → (a.layout depth).Spells (Plain .abstraction) a
  | .mk q i as, w, w', h => by
    obtain ⟨w₁, hq, -, has⟩ := derives_abstraction.1 h
    have hqualifier : withoutCommas w = content ((q.map Prefix.layout).getD []) ++
        withoutCommas (.name i :: w₁) := optional_spells (fun q _ => q.layout_spells) hq
    have hlist : (sequence depth
        (as.map (layout (itemDepth depth as.length)))).Spells (Plain .arguments) as :=
      fun _ _ h => sequence_spells depth (layouts_spell (itemDepth depth as.length) as)
        (derives_arguments.1 h)
    have harguments := bracketed_spells depth hlist
      (fun h => (derives_arguments.1 h).stands.1 rfl) has
    rw [hqualifier, withoutCommas_name, harguments, layout, layouts_eq_map]
    simp [content]

/-- The same holds for arguments, one by one. -/
theorem Abstraction.layouts_spell (depth : Nat) :
    (as : List Abstraction) → ∀ a ∈ as, (a.layout depth).Spells (Plain .abstraction) a
  | [] => nofun
  | a :: as => List.forall_mem_cons.2 ⟨layout_spells depth a, layouts_spell depth as⟩

end

/-- A parameter is spelled out. -/
theorem Parameter.layout_spells (p : Parameter) :
    (p.layout depth).Spells (Plain .parameter) p := by
  intro w w' h
  obtain ⟨w₁, rfl, ha⟩ := derives_parameter.1 h
  rw [withoutCommas_name, Abstraction.layout_spells depth _ ha]
  simp [layout, content]

/-- Parameters in a row are spelled out. -/
theorem Parameter.list_spells (ps : List Parameter) :
    (sequence depth (ps.map (layout (itemDepth depth ps.length)))).Spells (Plain .parameters) ps :=
  fun _ _ h => sequence_spells depth (fun p _ => p.layout_spells _) (derives_parameters.1 h)

/-- Parameters between parentheses may be left out. -/
theorem Parameter.layoutList_spells (ps : List Parameter) :
    (layoutList depth ps).Spells (OrEmpty (Plain .parameters)) ps := by
  intro w w' h
  cases h with
  | absent => rfl
  | present h => exact list_spells depth ps h

/-- A result is spelled out. -/
theorem Result.layout_spells (r : Result) : (r.layout depth).Spells (Plain .result) r := by
  intro w w' h
  cases derives_result.1 h with
  | abstraction ha => exact Abstraction.layout_spells depth _ ha
  | @parameters _ _ ps hps =>
    rw [withoutCommas_mark (by decide), Parameter.list_spells depth ps hps]
    simp [layout, Parameter.layoutCall, Parameter.layoutList, content]

/-! ## Members of interfaces -/

/-- A name with its parameters is spelled out. -/
theorem call_spells (i : String) (ps : List Parameter) :
    Spells (.name i :: Parameter.layoutCall depth ps) (Called (OrEmpty (Plain .parameters)) i)
      ps := by
  intro w w' h
  cases h with
  | mk h =>
    rw [withoutCommas_name, withoutCommas_mark (by decide), Parameter.layoutList_spells depth ps h]
    simp [Parameter.layoutCall, content]

/-- A constant is spelled out. -/
theorem Constant.layout_spells (c : Constant) : (c.layout depth).Spells (Plain .constant) c := by
  intro w w' h
  obtain ⟨w₁, rfl, ha⟩ := derives_constant.1 h
  have habstraction := Abstraction.layout_spells depth _ ha
  simp [layout, content, habstraction]

/-- A constructor is spelled out. -/
theorem Constructor.layout_spells (c : Constructor) :
    (c.layout depth).Spells (Plain .constructor) c := by
  intro w w' h
  obtain ⟨w₁, hps, ha⟩ := derives_constructor.1 h
  rw [call_spells depth _ _ hps, Abstraction.layout_spells depth _ ha]
  simp [layout, content]

/-- A function is spelled out. -/
theorem Function.layout_spells (f : Function) : (f.layout depth).Spells (Plain .function) f := by
  intro w w' h
  obtain ⟨w₁, hps, hr⟩ := derives_function.1 h
  rw [call_spells depth _ _ hps, Result.layout_spells depth _ hr]
  simp [layout, content]

/-- A method is spelled out. -/
theorem Method.layout_spells (m : Method) : (m.layout depth).Spells (Plain .method) m := by
  intro w w' h
  obtain ⟨i, ps, result⟩ := m
  obtain ⟨w₁, hps, hr⟩ := derives_method.1 h
  rw [call_spells depth _ _ hps]
  cases hr with
  | absent => simp [layout, content]
  | present hr =>
    rw [Result.layout_spells depth _ hr]
    simp [layout, content]

/-- An attribute is spelled out. -/
theorem Attribute.layout_spells (a : Attribute) :
    (a.layout depth).Spells (Plain .attributeMethod) a := by
  intro w w' h
  obtain ⟨i, parameter, abstraction⟩ := a
  obtain ⟨w₁, hp, ha⟩ := derives_attribute.1 h
  cases hp with
  | mk hp =>
    have hparameter : withoutCommas _ =
        content ((parameter.map (Parameter.layout depth)).getD []) ++
          withoutCommas (.mark ")" :: w₁) := optional_spells (fun p _ => p.layout_spells depth) hp
    rw [withoutCommas_name, withoutCommas_mark (by decide), hparameter,
      withoutCommas_mark (by decide)]
    cases ha with
    | absent => simp [layout, content]
    | present ha =>
      rw [Abstraction.layout_spells depth _ ha]
      simp [layout, content]

/-! ## Declarations -/

/-- A declaration is spelled out. -/
theorem Declaration.layout_spells (d : Declaration) : d.layout.Spells (Plain .declaration) d := by
  intro w w' h
  obtain ⟨w₁, rfl, hps⟩ := derives_declaration.1 h
  have hparameters := bracketed_spells 0 (Parameter.list_spells 0 d.parameters)
    (fun h => (derives_parameters.1 h).stands.1 rfl) hps
  simp [layout, content, hparameters]

/-- An enumeration is spelled out. -/
theorem Values.layout_spells (v : Values) : v.layout.Spells (Plain .enumeration) v := by
  intro w w' h
  obtain ⟨w₁, rfl, hv⟩ := derives_enumeration.1 h
  obtain ⟨w₂, hp, hnames⟩ := derives_values.1 hv
  have hparameter := Parameter.layout_spells 1 _ hp
  have hidentifiers : withoutCommas w₂ =
      (v.identifiers.flatMap fun i => content [.line 1, .name i]) ++
        withoutCommas (.mark ")" :: w') := by
    refine items_spell (fun i _ u u' hu => ?_) hnames
    rw [hu]
    simp [content]
  simp [layout, content, hparameter] at hidentifiers ⊢
  simp [hidentifiers]

/-- A specialization is spelled out. -/
theorem Specialization.layout_spells (s : Specialization) :
    s.layout.Spells (Plain .specialization) s := by
  intro w w' h
  obtain ⟨w₁, w₂, hd, ha, he⟩ := derives_specialization.1 h
  have henumeration : withoutCommas w₂ = content ((s.enumeration.map Values.layout).getD []) ++
      withoutCommas w' := optional_spells (fun v _ => v.layout_spells) he
  rw [Declaration.layout_spells _ hd, Abstraction.layout_spells 0 _ ha, henumeration]
  simp [layout, content]

/-- A functional is spelled out. -/
theorem Functional.layout_spells (f : Functional) : f.layout.Spells (Plain .functional) f := by
  intro w w' h
  obtain ⟨w₁, w₂, hd, hps, hr⟩ := derives_functional.1 h
  have hparameters := Parameter.layoutList_spells 0 _ hps
  rw [Declaration.layout_spells _ hd]
  simp [layout, Parameter.layoutCall, content, hparameters, Result.layout_spells 0 _ hr]

/-! ## Interfaces -/

/-- The head of an interface and what is between its braces. -/
theorem Declaration.layoutInterface_content (d : Declaration) (sections : List Layout) :
    content (d.layoutInterface sections) = d.layout.content ++ .name "interface" ::
      .mark "\x7b" :: sections.flatMap (fun l => l.content) ++ [.mark "\x7d"] := by
  simp [layoutInterface, lexemes_separated, content]

/-- An aspect is spelled out. -/
theorem Aspect.layout_spells (a : Aspect) : a.layout.Spells (Plain .aspect) a := by
  intro w w' h
  obtain ⟨w₁, hd, hms⟩ := derives_aspect.1 h
  have hmethods := memberSection_spells derives_methods.1 (fun m _ => m.layout_spells 1) hms
  rw [Declaration.layout_spells _ hd, layout, Declaration.layoutInterface_content]
  simp [hmethods]

/-- A class is spelled out. -/
theorem Class.layout_spells (c : Class) : c.layout.Spells (Plain .classInterface) c := by
  intro w w' h
  obtain ⟨w₁, w₂, w₃, hd, hcs, hns, hfs⟩ := derives_class.1 h
  have hconstants := memberSection_spells derives_constants.1
    (fun k _ => k.layout_spells 1) hcs
  have hconstructors := memberSection_spells derives_constructors.1
    (fun k _ => k.layout_spells 1) hns
  have hfunctions := memberSection_spells derives_functions.1
    (fun f _ => f.layout_spells 1) hfs
  rw [Declaration.layout_spells _ hd, layout, Declaration.layoutInterface_content]
  simp [hconstants, hconstructors, hfunctions]

/-- An instance is spelled out. -/
theorem Instance.layout_spells (i : Instance) :
    i.layout.Spells (Plain .instanceInterface) i := by
  intro w w' h
  obtain ⟨w₁, w₂, w₃, hd, hts, has, hms⟩ := derives_instance.1 h
  have hattributes := memberSection_spells derives_attributes.1
    (fun a _ => a.layout_spells 1) hts
  have habstractions := memberSection_spells derives_abstractions.1
    (fun a _ => a.layout_spells 1) has
  have hmethods := memberSection_spells derives_methods.1 (fun m _ => m.layout_spells 1) hms
  rw [Declaration.layout_spells _ hd, layout, Declaration.layoutInterface_content]
  simp [hattributes, habstractions, hmethods]

/-! ## Documents -/

/-- Imports are spelled out. -/
theorem Module.layoutImports_spells (ms : List Module) :
    (layoutImports ms).Spells (Plain .imports) ms := by
  intro w w' h
  obtain ⟨w₁, rfl, hms⟩ := derives_imports.1 h
  have hmodule : ∀ m ∈ ms, m.layout.Spells (Plain .module) m := by
    intro m _ u u' hm
    obtain rfl := derives_module.1 hm
    simp [layout, content]
  have hmodules : withoutCommas w₁ =
      ms.flatMap (fun m => m.layout.content) ++ withoutCommas (.mark ")" :: w') := by
    cases hms with
    | absent => rfl
    | present hms =>
      cases derives_modules.1 hms with
      | mk hm hothers =>
        obtain ⟨hl, hls⟩ := List.forall_mem_cons.1 hmodule
        rw [hl hm, items_spell hls hothers, List.flatMap_cons, List.append_assoc]
  rw [withoutCommas_name, withoutCommas_mark (by decide), hmodules]
  unfold layoutImports
  split
  · next hempty =>
    obtain rfl := List.isEmpty_iff.1 hempty
    simp [content]
  · simp [content]

/-- Types are spelled out. -/
theorem Types.layout_spells (t : Types) : t.layout.Spells (Plain .types) t := by
  intro w w' h
  obtain ⟨w₁, w₂, rfl, hss, hfs⟩ := derives_types.1 h
  have hspecializations := declarationBlock_spells derives_specializations.1
    (fun s _ => s.layout_spells) hss
  have hfunctionals := declarationBlock_spells derives_functionals.1
    (fun f _ => f.layout_spells) hfs
  rw [withoutCommas_note, hspecializations, hfunctionals]
  simp [layout, content]

/-- Interfaces are spelled out. -/
theorem Interfaces.layout_spells (i : Interfaces) : i.layout.Spells (Plain .interfaces) i := by
  intro w w' h
  obtain ⟨w₁, w₂, w₃, rfl, has, hcs, his⟩ := derives_interfaces.1 h
  have haspects := declarationBlock_spells derives_aspects.1 (fun a _ => a.layout_spells) has
  have hclasses := declarationBlock_spells derives_classes.1 (fun c _ => c.layout_spells) hcs
  have hinstances := declarationBlock_spells derives_instances.1
    (fun i _ => i.layout_spells) his
  rw [withoutCommas_note, haspects, hclasses, hinstances]
  simp [layout, content]

/-- The tokens from which a document has been read are those of its layout but for commas. -/
theorem Document.layout_spells (d : Document) : d.layout.Spells (Plain .document) d := by
  intro w w' h
  obtain ⟨w₁, w₂, w₃, w₄, rfl, hh, hms, hts, his⟩ := derives_document.1 h
  obtain rfl := derives_header.1 hh
  have himports : withoutCommas w₂ =
      content ((d.imports.map Module.layoutImports).getD []) ++ withoutCommas w₃ :=
    optional_spells (fun ms _ => Module.layoutImports_spells ms) hms
  have htypes : withoutCommas w₃ = content ((d.types.map Types.layout).getD []) ++
      withoutCommas w₄ := optional_spells (fun t _ => t.layout_spells) hts
  have hinterfaces : withoutCommas w₄ =
      content ((d.interfaces.map Interfaces.layout).getD []) ++ withoutCommas w' :=
    optional_spells (fun i _ => i.layout_spells) his
  rw [withoutCommas_comment, withoutCommas_comment, withoutCommas_name, withoutCommas_name,
    himports, htypes, hinterfaces]
  simp [layout, content]

end PackageModel
