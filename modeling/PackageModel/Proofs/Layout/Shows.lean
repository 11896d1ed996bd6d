import PackageModel.Layout.Document
import PackageModel.Proofs.Document.Proper

/-!
# PackageModel.Proofs.Layout.Shows

The tokens of the canonical layout.  The layout of a proper node shows it: the tokens are derivable
from its rule, with this node for a tree.
-/

namespace PackageModel

open Stretch
open Production hiding some optional rule comment many identifier mark bracketed titled called
  interface commaList

/-- A separator stands in front of each item but the first. -/
theorem intercalate_cons {α : Type} {separator l : List α} {items : List (List α)} :
    separator.intercalate (l :: items) = l ++ items.flatMap (separator ++ ·) := by
  induction items generalizing l with
  | nil => rw [List.intercalate_singleton, List.flatMap_nil, List.append_nil]
  | cons i items ih =>
    rw [List.intercalate_cons_cons, ih, List.flatMap_cons, List.append_assoc, List.append_assoc]

section

variable {α β γ : Type} {R : List β → List γ → Prop} {as : List α} {g : α → List β}
  {f : α → List γ}

/-- What holds of parts and is kept by appending holds of the parts one after the other. -/
theorem flatMap_related (hnil : R [] [])
    (happend : ∀ {l l' m m'}, R l m → R l' m' → R (l ++ l') (m ++ m'))
    (h : ∀ a ∈ as, R (g a) (f a)) : R (as.flatMap g) (as.flatMap f) := by
  induction as with
  | nil => exact hnil
  | cons a as ih =>
    obtain ⟨ha, has⟩ := List.forall_mem_cons.1 h
    exact happend ha (ih has)

/-- The same with a separator. -/
theorem intercalate_related (hnil : R [] [])
    (happend : ∀ {l l' m m'}, R l m → R l' m' → R (l ++ l') (m ++ m'))
    {separator : List β} {separator' : List γ} (hs : R separator separator')
    (h : ∀ a ∈ as, R (g a) (f a)) :
    R (separator.intercalate (as.map g)) (separator'.intercalate (as.map f)) := by
  cases as with
  | nil => exact hnil
  | cons a as =>
    obtain ⟨ha, has⟩ := List.forall_mem_cons.1 h
    rw [List.map_cons, List.map_cons, intercalate_cons, intercalate_cons, List.flatMap_map,
      List.flatMap_map]
    exact happend ha (flatMap_related hnil happend fun b hb => happend hs (has b hb))

/-- What holds of the parts of an optional thing holds of the whole if it holds of nothing. -/
theorem optional_related {o : Option α} (hnil : R [] []) (h : ∀ a ∈ o, R (g a) (f a)) :
    R ((o.map g).getD []) ((o.map f).getD []) := by
  cases o with
  | none => exact hnil
  | some a => exact h a rfl

end

namespace Layout

/-! ## Tokens of layouts -/

section

variable {l m : Layout} {s : String}

@[simp] theorem lexemes_nil : lexemes [] = [] := rfl

@[simp] theorem lexemes_append : lexemes (l ++ m) = l.lexemes ++ m.lexemes :=
  List.filterMap_append

@[simp] theorem lexemes_space : lexemes (.space :: l) = l.lexemes := rfl

@[simp] theorem lexemes_line {depth : Nat} : lexemes (.line depth :: l) = l.lexemes := rfl

@[simp] theorem lexemes_name : lexemes (.name s :: l) = .name s :: l.lexemes := rfl

@[simp] theorem lexemes_keyword : lexemes (.keyword s :: l) = .name s :: l.lexemes := rfl

@[simp] theorem lexemes_mark : lexemes (.mark s :: l) = .mark s :: l.lexemes := rfl

@[simp] theorem lexemes_note : lexemes (.note s :: l) = ⟨.note, s⟩ :: l.lexemes := rfl

@[simp] theorem lexemes_comment : lexemes (.comment s :: l) = ⟨.comment, s⟩ :: l.lexemes := rfl

@[simp] theorem lexemes_text : lexemes (.text s :: l) = ⟨.text, s⟩ :: l.lexemes := rfl

@[simp] theorem lexemes_flatMap {α : Type} {f : α → Layout} {as : List α} :
    lexemes (as.flatMap f) = as.flatMap fun a => (f a).lexemes := by
  induction as with
  | nil => rfl
  | cons a as ih => rw [List.flatMap_cons, List.flatMap_cons, lexemes_append, ih]

/-- The tokens of a separator stand in front of each item but the first. -/
theorem lexemes_intercalate {items : List Layout} :
    lexemes (m.intercalate (l :: items)) =
      l.lexemes ++ items.flatMap fun i => m.lexemes ++ i.lexemes := by
  simp only [intercalate_cons, lexemes_append, lexemes_flatMap]

/-- Blank lines between parts are no tokens. -/
theorem lexemes_separated {parts : List Layout} :
    lexemes (separated parts) = parts.flatMap lexemes := by
  have hparts : (parts.filter (!·.isEmpty)).flatMap lexemes = parts.flatMap lexemes := by
    induction parts with
    | nil => rfl
    | cons p parts ih =>
      cases p with
      | nil => simpa using ih
      | cons q p => simpa using ih
  rw [← hparts, separated]
  cases parts.filter (!·.isEmpty) with
  | nil => rfl
  | cons p parts => simp [lexemes_intercalate]

end

/-! ## Layouts of lists -/

/-- The tokens of the layout stand for `a`, whatever comes behind them. -/
def Shows {α : Type} (R : Stretch α) (l : Layout) (a : α) : Prop := ∀ w, R (l.lexemes ++ w) w a

section

variable {α : Type} {R : Stretch α} {f : α → Layout} {as : List α} {depth : Nat}

/-- Items behind commas continue a list of items. -/
theorem commaItems_append {w w' : List Lexeme} (h : ∀ a ∈ as, (f a).Shows R a)
    (hend : CommaItems R w w' []) :
    CommaItems R (as.flatMap (fun a => .mark "," :: (f a).lexemes) ++ w) w' as := by
  induction as with
  | nil => exact hend
  | cons a as ih =>
    have has := ih fun b hb => h b (List.mem_cons_of_mem a hb)
    have ha := h a List.mem_cons_self (as.flatMap (fun a => .mark "," :: (f a).lexemes) ++ w)
    rw [List.flatMap_cons, List.append_assoc, List.cons_append]
    exact .cons ha has

/-- A list with commas, with one behind the last item or without it. -/
theorem sequence_shows (hne : as ≠ []) (h : ∀ a ∈ as, (f a).Shows R a) :
    (sequence depth (as.map f)).Shows (CommaList R) as := by
  intro w
  cases as with
  | nil => exact absurd rfl hne
  | cons a as =>
    have htail : ∀ b ∈ as, (f b).Shows R b := fun b hb => h b (List.mem_cons_of_mem a hb)
    unfold sequence
    split
    · have has := commaItems_append (w := .mark "," :: w) htail .trailing
      have hlist := CommaList.mk (h a List.mem_cons_self _) has
      simpa [lexemes_intercalate, List.flatMap_map] using hlist
    · have has := commaItems_append (w := w) htail .nil
      have hlist := CommaList.mk (h a List.mem_cons_self _) has
      simpa [lexemes_intercalate, List.flatMap_map] using hlist

/-- Items between brackets are shown if they are shown between none; without items there are no
brackets. -/
theorem bracketed_shows (depth : Nat) {R : Stretch (List α)}
    (h : as ≠ [] → (sequence depth (as.map f)).Shows R as) :
    (bracketed depth (as.map f)).Shows (Bracketed R) as := by
  intro w
  cases as with
  | nil => exact .absent
  | cons a as =>
    have hlist := h nofun (.mark "]" :: w)
    have hbracketed := Bracketed.present hlist
    simpa [bracketed] using hbracketed

/-- Items one behind the other are shown if each of them is. -/
theorem items_append (h : ∀ a ∈ as, (f a).Shows R a) (w : List Lexeme) :
    Items R (as.flatMap (fun a => (f a).lexemes) ++ w) w as := by
  induction as with
  | nil => exact .nil
  | cons a as ih =>
    have has := ih fun b hb => h b (List.mem_cons_of_mem a hb)
    rw [List.flatMap_cons, List.append_assoc]
    exact .cons (h a List.mem_cons_self _) has

/-- Items below a note. -/
theorem titled_append (note : String) (hne : as ≠ []) (h : ∀ a ∈ as, (f a).Shows R a)
    (w : List Lexeme) :
    Titled note R (⟨.note, note⟩ :: (as.flatMap (fun a => (f a).lexemes) ++ w)) w as := by
  cases as with
  | nil => exact absurd rfl hne
  | cons a as =>
    have has := items_append (fun b hb => h b (List.mem_cons_of_mem a hb)) w
    rw [List.flatMap_cons, List.append_assoc]
    exact .mk (.mk (h a List.mem_cons_self _) has)

/-- The section of members is left out if there are none. -/
theorem memberSection_shows {note : String} {f : Nat → α → Layout} {S : Stretch (List α)}
    (hS : ∀ {w w'}, Titled note R w w' as → S w w' as) (h : ∀ a ∈ as, (f 1 a).Shows R a) :
    (memberSection note f as).Shows (OrEmpty S) as := by
  intro w
  unfold memberSection
  split
  · next hempty =>
    obtain rfl := List.isEmpty_iff.1 hempty
    exact .absent
  · next hempty =>
    have hne : as ≠ [] := fun hnil => hempty (List.isEmpty_iff.2 hnil)
    have htitled := hS (titled_append note hne h w)
    exact .present (by simpa [titled, List.flatMap_map] using htitled)

/-- The block of declarations is left out if there are none. -/
theorem declarationBlock_shows {note : String} {S : Stretch (List α)}
    (hS : ∀ {w w'}, Titled note R w w' as → S w w' as) (h : ∀ a ∈ as, (f a).Shows R a) :
    (declarationBlock note f as).Shows (OrEmpty S) as := by
  intro w
  unfold declarationBlock
  split
  · next hempty =>
    obtain rfl := List.isEmpty_iff.1 hempty
    exact .absent
  · next hempty =>
    have hne : as ≠ [] := fun hnil => hempty (List.isEmpty_iff.2 hnil)
    have htitled := hS (titled_append note hne h w)
    exact .present (by simpa using htitled)

end

end Layout

open Layout

variable (depth : Nat)

/-! ## Uses of types -/

/-- The canonical form of a prefix is one of the grammar. -/
theorem Prefix.layout_shows {q : Prefix} (h : q.Proper) :
    q.layout.Shows (Plain .qualifier) q := by
  intro w
  rw [derives_qualifier]
  cases q with
  | array => exact .array
  | channel => exact .channel
  | aliased name => exact .aliased h
  | map key => exact .map

/-- The layouts of a list are those of its members. -/
theorem Abstraction.layouts_eq_map (as : List Abstraction) :
    layouts depth as = as.map (layout depth) := by
  induction as with
  | nil => rw [layouts, List.map_nil]
  | cons a as ih => rw [layouts, ih, List.map_cons]

mutual

/-- The canonical form of an abstraction is one of the grammar. -/
theorem Abstraction.layout_shows (depth : Nat) :
    (a : Abstraction) → a.Proper → (a.layout depth).Shows (Plain .abstraction) a
  | .mk q i as, ⟨hq, hi, has⟩, w => by
    have hlist (hne : as ≠ []) : (sequence depth
        (as.map (layout (itemDepth depth as.length)))).Shows (Plain .arguments) as := fun w =>
      derives_arguments.2 (sequence_shows hne (layouts_show (itemDepth depth as.length) as has) w)
    have harguments := bracketed_shows depth hlist w
    have hprefix {u : List Lexeme} :
        Maybe (Plain .qualifier) (lexemes ((q.map Prefix.layout).getD []) ++ u) u q := by
      cases q with
      | none => exact .absent
      | some q => exact .present (Prefix.layout_shows (hq q rfl) u)
    rw [layout, layouts_eq_map, lexemes_append, lexemes_name, List.append_assoc, List.cons_append]
    exact derives_abstraction.2 ⟨_, hprefix, hi, harguments⟩

/-- The same holds for arguments, one by one. -/
theorem Abstraction.layouts_show (depth : Nat) :
    (as : List Abstraction) → ProperAll as →
      ∀ a ∈ as, (a.layout depth).Shows (Plain .abstraction) a
  | [], _ => nofun
  | a :: as, ⟨ha, has⟩ =>
    List.forall_mem_cons.2 ⟨layout_shows depth a ha, layouts_show depth as has⟩

end

/-- The canonical form of a parameter is one of the grammar. -/
theorem Parameter.layout_shows {p : Parameter} (h : p.Proper) :
    (p.layout depth).Shows (Plain .parameter) p := by
  intro w
  have habstraction := Abstraction.layout_shows depth _ h w
  simpa [layout] using derives_parameter.2 ⟨_, rfl, habstraction⟩

/-- Parameters in a row are a list of the grammar, on one line or on several. -/
theorem Parameter.list_shows {ps : List Parameter} (hne : ps ≠ []) (h : ∀ p ∈ ps, p.Proper) :
    (sequence depth (ps.map (layout (itemDepth depth ps.length)))).Shows (Plain .parameters) ps :=
  fun w => derives_parameters.2 (sequence_shows hne (fun p hp => layout_shows _ (h p hp)) w)

/-- Parameters between parentheses may be left out. -/
theorem Parameter.layoutList_shows {ps : List Parameter} (h : ∀ p ∈ ps, p.Proper) :
    (layoutList depth ps).Shows (OrEmpty (Plain .parameters)) ps := by
  intro w
  cases ps with
  | nil => exact .absent
  | cons p ps => exact .present (list_shows depth (List.cons_ne_nil p ps) h w)

/-- The canonical form of a result is one of the grammar. -/
theorem Result.layout_shows {r : Result} (h : r.Proper) :
    (r.layout depth).Shows (Plain .result) r := by
  intro w
  rw [derives_result]
  cases r with
  | abstraction a => exact .abstraction (Abstraction.layout_shows depth a h w)
  | parameters ps =>
    have hps := Parameter.list_shows depth h.1 h.2 (.mark ")" :: w)
    simpa [layout, Parameter.layoutCall, Parameter.layoutList] using Resulting.parameters hps

/-! ## Members of interfaces -/

/-- A name with its parameters is shown as a called name. -/
theorem call_shows (i : String) {ps : List Parameter} (h : ∀ p ∈ ps, p.Proper) :
    Shows (Called (OrEmpty (Plain .parameters)) i) (.name i :: Parameter.layoutCall depth ps)
      ps := by
  intro w
  have hps := Parameter.layoutList_shows depth h (.mark ")" :: w)
  simpa [Parameter.layoutCall] using Called.mk hps

/-- The canonical form of a constant is one of the grammar. -/
theorem Constant.layout_shows {c : Constant} (h : c.Proper) :
    (c.layout depth).Shows (Plain .constant) c := by
  intro w
  have habstraction := Abstraction.layout_shows depth _ h w
  simpa [layout] using derives_constant.2 ⟨_, rfl, habstraction⟩

/-- The canonical form of a constructor is one of the grammar. -/
theorem Constructor.layout_shows {c : Constructor} (h : c.Proper) :
    (c.layout depth).Shows (Plain .constructor) c := by
  intro w
  have habstraction := Abstraction.layout_shows depth _ h.abstraction w
  have hcall := call_shows depth c.identifier h.parameters
    ((c.abstraction.layout depth).lexemes ++ w)
  simpa [layout] using derives_constructor.2 ⟨_, hcall, habstraction⟩

/-- The canonical form of a function is one of the grammar. -/
theorem Function.layout_shows {f : Function} (h : f.Proper) :
    (f.layout depth).Shows (Plain .function) f := by
  intro w
  have hresult := Result.layout_shows depth h.result w
  have hcall := call_shows depth f.identifier h.parameters
    ((f.result.layout depth).lexemes ++ w)
  simpa [layout] using derives_function.2 ⟨_, hcall, hresult⟩

/-- The canonical form of a method is one of the grammar, with a result or without. -/
theorem Method.layout_shows {m : Method} (h : m.Proper) :
    (m.layout depth).Shows (Plain .method) m := by
  intro w
  obtain ⟨i, ps, result⟩ := m
  cases result with
  | none =>
    have hcall := call_shows depth i h.parameters w
    have hmethod : Plain .method _ w ⟨i, ps, none⟩ := derives_method.2 ⟨w, hcall, .absent⟩
    simpa [layout] using hmethod
  | some r =>
    have hresult := Result.layout_shows depth (h.result r rfl) w
    have hcall := call_shows depth i h.parameters
      ((r.layout depth).lexemes ++ w)
    have hmethod : Plain .method _ w ⟨i, ps, some r⟩ :=
      derives_method.2 ⟨_, hcall, .present hresult⟩
    simpa [layout] using hmethod

/-- The canonical form of an attribute is one of the grammar, whatever it leaves out. -/
theorem Attribute.layout_shows {a : Attribute} (h : a.Proper) :
    (a.layout depth).Shows (Plain .attributeMethod) a := by
  intro w
  obtain ⟨i, parameter, abstraction⟩ := a
  have hparameter {u : List Lexeme} : Maybe (Plain .parameter)
      (lexemes ((parameter.map (Parameter.layout depth)).getD []) ++ u) u parameter := by
    cases parameter with
    | none => exact .absent
    | some p => exact .present (Parameter.layout_shows depth (h.parameter p rfl) u)
  cases abstraction with
  | none =>
    have hattribute : Plain .attributeMethod _ w ⟨i, parameter, none⟩ :=
      derives_attribute.2 ⟨w, .mk hparameter, .absent⟩
    simpa [layout] using hattribute
  | some b =>
    have habstraction := Abstraction.layout_shows depth b (h.abstraction b rfl) w
    have hattribute : Plain .attributeMethod _ w ⟨i, parameter, some b⟩ :=
      derives_attribute.2 ⟨_, .mk hparameter, .present habstraction⟩
    simpa [layout] using hattribute

/-! ## Declarations -/

/-- The canonical form of a declaration is one of the grammar. -/
theorem Declaration.layout_shows {d : Declaration} (h : d.Proper) :
    d.layout.Shows (Plain .declaration) d := by
  intro w
  have hparameters := bracketed_shows 0 (fun hne => Parameter.list_shows 0 hne h) w
  simpa [layout] using derives_declaration.2 ⟨_, rfl, hparameters⟩

/-- The canonical form of an enumeration is one of the grammar. -/
theorem Values.layout_shows {v : Values} (h : v.parameter.Proper) :
    v.layout.Shows (Plain .enumeration) v := by
  intro w
  have hnames : Items (fun w w' i => w = .name i :: w')
      (v.identifiers.map Lexeme.name ++ .mark ")" :: w) (.mark ")" :: w) v.identifiers := by
    induction v.identifiers with
    | nil => exact .nil
    | cons i is ih => exact .cons rfl ih
  have hparameter := Parameter.layout_shows 1 h
    (.mark "=" :: .name "iota" :: (v.identifiers.map Lexeme.name ++ .mark ")" :: w))
  have henumeration := derives_enumeration.2 ⟨_, rfl, derives_values.2 ⟨_, hparameter, hnames⟩⟩
  simpa [layout, List.map_eq_flatMap] using henumeration

/-- The canonical form of a specialization is one of the grammar, with an enumeration or without. -/
theorem Specialization.layout_shows {s : Specialization} (h : s.Proper) :
    s.layout.Shows (Plain .specialization) s := by
  intro w
  obtain ⟨d, a, enumeration⟩ := s
  have henumeration : Maybe (Plain .enumeration)
      (lexemes ((enumeration.map Values.layout).getD []) ++ w) w enumeration := by
    cases enumeration with
    | none => exact .absent
    | some v => exact .present (Values.layout_shows (h.enumeration v rfl) w)
  have habstraction := Abstraction.layout_shows 0 a h.abstraction
    (lexemes ((enumeration.map Values.layout).getD []) ++ w)
  have hdeclaration := Declaration.layout_shows h.declaration
    ((a.layout 0).lexemes ++ (lexemes ((enumeration.map Values.layout).getD []) ++ w))
  have hspecialization : Plain .specialization _ w ⟨d, a, enumeration⟩ :=
    derives_specialization.2 ⟨_, _, hdeclaration, habstraction, henumeration⟩
  simpa [layout] using hspecialization

/-- The canonical form of a functional is one of the grammar. -/
theorem Functional.layout_shows {f : Functional} (h : f.Proper) :
    f.layout.Shows (Plain .functional) f := by
  intro w
  have hresult := Result.layout_shows 0 h.result w
  have hparameters := Parameter.layoutList_shows 0 h.parameters
    (.mark ")" :: ((f.result.layout 0).lexemes ++ w))
  have hdeclaration := Declaration.layout_shows h.declaration (.name "func" :: .mark "(" ::
    ((Parameter.layoutList 0 f.parameters).lexemes ++
      .mark ")" :: ((f.result.layout 0).lexemes ++ w)))
  have hfunctional := derives_functional.2 ⟨_, _, hdeclaration, hparameters, hresult⟩
  simpa [layout, Parameter.layoutCall] using hfunctional

/-! ## Interfaces -/

/-- The head of an interface, in front of the tokens of its sections. -/
theorem Declaration.head_shows {d : Declaration} (h : d.Proper) (w : List Lexeme) :
    Plain .declaration (d.layout.lexemes ++ .name "interface" :: .mark "\x7b" :: w)
      (.name "interface" :: .mark "\x7b" :: w) d :=
  layout_shows h _

/-- Constants are shown as a section that can be missing. -/
theorem Constant.section_shows {cs : List Constant} (h : ∀ c ∈ cs, c.Proper) :
    (memberSection "// Constants" layout cs).Shows (OrEmpty (Plain .constants)) cs :=
  memberSection_shows derives_constants.2 fun c hc => layout_shows 1 (h c hc)

/-- Constructors are shown as a section that can be missing. -/
theorem Constructor.section_shows {cs : List Constructor} (h : ∀ c ∈ cs, c.Proper) :
    (memberSection "// Constructors" layout cs).Shows (OrEmpty (Plain .constructors)) cs :=
  memberSection_shows derives_constructors.2 fun c hc => layout_shows 1 (h c hc)

/-- Functions are shown as a section that can be missing. -/
theorem Function.section_shows {fs : List Function} (h : ∀ f ∈ fs, f.Proper) :
    (memberSection "// Functions" layout fs).Shows (OrEmpty (Plain .functions)) fs :=
  memberSection_shows derives_functions.2 fun f hf => layout_shows 1 (h f hf)

/-- Methods are shown as a section that can be missing. -/
theorem Method.section_shows {ms : List Method} (h : ∀ m ∈ ms, m.Proper) :
    (memberSection "// Methods" layout ms).Shows (OrEmpty (Plain .methods)) ms :=
  memberSection_shows derives_methods.2 fun m hm => layout_shows 1 (h m hm)

/-- Attributes are shown as a section that can be missing. -/
theorem Attribute.section_shows {as : List Attribute} (h : ∀ a ∈ as, a.Proper) :
    (memberSection "// Attributes" layout as).Shows (OrEmpty (Plain .attributes)) as :=
  memberSection_shows derives_attributes.2 fun a ha => layout_shows 1 (h a ha)

/-- Abstractions are shown as a section that can be missing. -/
theorem Abstraction.section_shows {as : List Abstraction} (h : ∀ a ∈ as, a.Proper) :
    (memberSection "// Abstractions" layout as).Shows (OrEmpty (Plain .abstractions)) as :=
  memberSection_shows derives_abstractions.2 fun a ha => layout_shows 1 a (h a ha)

/-- The canonical form of an aspect is one of the grammar. -/
theorem Aspect.layout_shows {a : Aspect} (h : a.Proper) : a.layout.Shows (Plain .aspect) a := by
  intro w
  have hmethods := Method.section_shows h.methods (.mark "\x7d" :: w)
  have haspect := derives_aspect.2 ⟨_, Declaration.head_shows h.declaration _, hmethods⟩
  simpa [layout, Declaration.layoutInterface, lexemes_separated] using haspect

/-- The canonical form of a class is one of the grammar, whichever sections it has. -/
theorem Class.layout_shows {c : Class} (h : c.Proper) :
    c.layout.Shows (Plain .classInterface) c := by
  intro w
  have hfunctions := Function.section_shows h.functions (.mark "\x7d" :: w)
  have hconstructors := Constructor.section_shows h.constructors
    ((memberSection "// Functions" Function.layout c.functions).lexemes ++ .mark "\x7d" :: w)
  have hconstants := Constant.section_shows h.constants
    ((memberSection "// Constructors" Constructor.layout c.constructors).lexemes ++
      ((memberSection "// Functions" Function.layout c.functions).lexemes ++ .mark "\x7d" :: w))
  have hclass := derives_class.2 ⟨_, _, _, Declaration.head_shows h.declaration _, hconstants,
    hconstructors, hfunctions⟩
  simpa [layout, Declaration.layoutInterface, lexemes_separated] using hclass

/-- The canonical form of an instance is one of the grammar, whichever sections it has. -/
theorem Instance.layout_shows {i : Instance} (h : i.Proper) :
    i.layout.Shows (Plain .instanceInterface) i := by
  intro w
  have hmethods := Method.section_shows h.methods (.mark "\x7d" :: w)
  have habstractions := Abstraction.section_shows h.abstractions
    ((memberSection "// Methods" Method.layout i.methods).lexemes ++ .mark "\x7d" :: w)
  have hattributes := Attribute.section_shows h.attributes
    ((memberSection "// Abstractions" Abstraction.layout i.abstractions).lexemes ++
      ((memberSection "// Methods" Method.layout i.methods).lexemes ++ .mark "\x7d" :: w))
  have hinstance := derives_instance.2 ⟨_, _, _, Declaration.head_shows h.declaration _,
    hattributes, habstractions, hmethods⟩
  simpa [layout, Declaration.layoutInterface, lexemes_separated] using hinstance

/-! ## Documents -/

/-- Specializations are shown as a block that can be missing. -/
theorem Specialization.block_shows {ss : List Specialization} (h : ∀ s ∈ ss, s.Proper) :
    (declarationBlock "// Specializations" layout ss).Shows
      (OrEmpty (Plain .specializations)) ss :=
  declarationBlock_shows derives_specializations.2 fun s hs => layout_shows (h s hs)

/-- Functionals are shown as a block that can be missing. -/
theorem Functional.block_shows {fs : List Functional} (h : ∀ f ∈ fs, f.Proper) :
    (declarationBlock "// Functionals" layout fs).Shows (OrEmpty (Plain .functionals)) fs :=
  declarationBlock_shows derives_functionals.2 fun f hf => layout_shows (h f hf)

/-- Aspects are shown as a block that can be missing. -/
theorem Aspect.block_shows {as : List Aspect} (h : ∀ a ∈ as, a.Proper) :
    (declarationBlock "// Aspects" layout as).Shows (OrEmpty (Plain .aspects)) as :=
  declarationBlock_shows derives_aspects.2 fun a ha => layout_shows (h a ha)

/-- Classes are shown as a block that can be missing. -/
theorem Class.block_shows {cs : List Class} (h : ∀ c ∈ cs, c.Proper) :
    (declarationBlock "// Classes" layout cs).Shows (OrEmpty (Plain .classes)) cs :=
  declarationBlock_shows derives_classes.2 fun c hc => layout_shows (h c hc)

/-- Instances are shown as a block that can be missing. -/
theorem Instance.block_shows {is : List Instance} (h : ∀ i ∈ is, i.Proper) :
    (declarationBlock "// Instances" layout is).Shows (OrEmpty (Plain .instances)) is :=
  declarationBlock_shows derives_instances.2 fun i hi => layout_shows (h i hi)

/-- Imports are shown as they are derived, also if there are none between the parentheses. -/
theorem Module.layoutImports_shows (ms : List Module) :
    (layoutImports ms).Shows (Plain .imports) ms := by
  intro w
  have hmodules : OrEmpty (Plain .modules)
      (ms.flatMap (fun m => m.layout.lexemes) ++ .mark ")" :: w) (.mark ")" :: w) ms := by
    have hmodule : ∀ m ∈ ms, m.layout.Shows (Plain .module) m := fun m _ w => derives_module.2 rfl
    cases ms with
    | nil => exact .absent
    | cons m ms =>
      have hothers := items_append (fun b hb => hmodule b (List.mem_cons_of_mem m hb))
        (.mark ")" :: w)
      exact .present (derives_modules.2 (.mk (derives_module.2 rfl) hothers))
  have himports := derives_imports.2 ⟨_, rfl, hmodules⟩
  unfold layoutImports
  split
  · next hempty =>
    obtain rfl := List.isEmpty_iff.1 hempty
    simpa using himports
  · simpa using himports

/-- The canonical form of types is one of the grammar. -/
theorem Types.layout_shows {t : Types} (hs : ∀ s ∈ t.specializations, s.Proper)
    (hf : ∀ f ∈ t.functionals, f.Proper) : t.layout.Shows (Plain .types) t := by
  intro w
  have hfunctionals := Functional.block_shows hf w
  have hspecializations := Specialization.block_shows hs
    ((declarationBlock "// Functionals" Functional.layout t.functionals).lexemes ++ w)
  have htypes := derives_types.2 ⟨_, _, rfl, hspecializations, hfunctionals⟩
  simpa [layout] using htypes

/-- The canonical form of interfaces is one of the grammar. -/
theorem Interfaces.layout_shows {i : Interfaces} (ha : ∀ a ∈ i.aspects, a.Proper)
    (hc : ∀ c ∈ i.classes, c.Proper) (hi : ∀ j ∈ i.instances, j.Proper) :
    i.layout.Shows (Plain .interfaces) i := by
  intro w
  have hinstances := Instance.block_shows hi w
  have hclasses := Class.block_shows hc
    ((declarationBlock "// Instances" Instance.layout i.instances).lexemes ++ w)
  have haspects := Aspect.block_shows ha
    ((declarationBlock "// Classes" Class.layout i.classes).lexemes ++
      ((declarationBlock "// Instances" Instance.layout i.instances).lexemes ++ w))
  have hinterfaces := derives_interfaces.2 ⟨_, _, _, rfl, haspects, hclasses, hinstances⟩
  simpa [layout] using hinterfaces

/-- The tokens of the canonical layout of a proper document have a plain derivation, with the
document for a tree. -/
theorem Document.layout_shows {d : Document} (h : d.Proper) :
    d.layout.Shows (Plain .document) d := by
  intro w
  obtain ⟨notice, header, imports, types, interfaces⟩ := d
  have hinterfaces : Maybe (Plain .interfaces)
      (lexemes ((interfaces.map Interfaces.layout).getD []) ++ w) w interfaces := by
    cases interfaces with
    | none => exact .absent
    | some i => exact .present (Interfaces.layout_shows h.aspects h.classes h.instances w)
  have htypes {u : List Lexeme} : Maybe (Plain .types)
      (lexemes ((types.map Types.layout).getD []) ++ u) u types := by
    cases types with
    | none => exact .absent
    | some t => exact .present (Types.layout_shows h.specializations h.functionals u)
  have himports {u : List Lexeme} : Maybe (Plain .imports)
      (lexemes ((imports.map Module.layoutImports).getD []) ++ u) u imports := by
    cases imports with
    | none => exact .absent
    | some ms => exact .present (Module.layoutImports_shows ms u)
  have hdocument : Plain .document _ w ⟨notice, header, imports, types, interfaces⟩ :=
    derives_document.2 ⟨_, _, _, _, rfl, derives_header.2 rfl, himports, htypes, hinterfaces⟩
  simpa [layout] using hdocument

end PackageModel
