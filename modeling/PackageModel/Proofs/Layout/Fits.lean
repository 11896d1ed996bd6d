import PackageModel.Layout.Document
import PackageModel.Proofs.Document.Texts
import PackageModel.Proofs.Layout.Tidy

/-!
# PackageModel.Proofs.Layout.Fits

The canonical layout is tidy if all texts of the document are whole.  Every part of it fits, as no
part is followed by a name without blank space between them.
-/

namespace PackageModel

open Layout

/-- All tokens are whole. -/
def AllWhole (ls : List Lexeme) : Prop := ∀ l ∈ ls, l.Whole

/-- Whether all lexemes are whole can be computed. -/
instance (ls : List Lexeme) : Decidable (AllWhole ls) :=
  inferInstanceAs (Decidable (∀ l ∈ ls, l.Whole))

section

variable {l : Lexeme} {ls ms : List Lexeme}

@[simp] theorem allWhole_nil : AllWhole [] := nofun

@[simp] theorem allWhole_cons : AllWhole (l :: ls) ↔ l.Whole ∧ AllWhole ls :=
  List.forall_mem_cons

@[simp] theorem allWhole_append : AllWhole (ls ++ ms) ↔ AllWhole ls ∧ AllWhole ms :=
  List.forall_mem_append

@[simp] theorem allWhole_flatMap {β : Type} {f : β → List Lexeme} {bs : List β} :
    AllWhole (bs.flatMap f) ↔ ∀ b ∈ bs, AllWhole (f b) := by
  constructor
  · exact fun h b hb l hl => h l (List.mem_flatMap.2 ⟨b, hb, hl⟩)
  · intro h l hl
    obtain ⟨b, hb, hl⟩ := List.mem_flatMap.1 hl
    exact h b hb l hl

end

variable (depth : Nat)

/-! ## Uses of types -/

/-- A prefix is tidy in front of a name. -/
theorem Prefix.tidy_layout {q : Prefix} {i : String} {rest : Layout} (hq : AllWhole q.texts)
    (h : Tidy (.name i :: rest)) : Tidy (q.layout ++ .name i :: rest) := by
  rw [tidy_name] at h
  cases q with
  | array | channel => simp [layout, h]
  | aliased name | map key =>
    simp only [texts, allWhole_cons] at hq
    simp [layout, h, hq.1]

mutual

/-- An abstraction of whole names fits in front of anything that ends a name. -/
theorem Abstraction.layout_fits (depth : Nat) :
    (a : Abstraction) → AllWhole a.texts → (a.layout depth).Fits
  | .mk q i as, h, rest, hb, hr => by
    simp only [texts, allWhole_append, allWhole_cons, allWhole_flatMap] at h
    obtain ⟨hq, hi, has⟩ := h
    have harguments := bracketed_fits depth
      (layouts_fits (itemDepth depth as.length) as has) rest hb hr
    have hname : Tidy (.name i ::
        (bracketed depth (layouts (itemDepth depth as.length) as) ++ rest)) := by
      rw [tidy_name]
      exact ⟨hi, before_bracketed _ nofun hb, harguments⟩
    rw [layout, List.append_assoc, List.cons_append]
    cases q with
    | none => exact hname
    | some q => exact Prefix.tidy_layout (hq q (by simp)) hname

/-- The same holds for arguments, one by one. -/
theorem Abstraction.layouts_fits (depth : Nat) :
    (as : List Abstraction) → AllWhole (textsOfAll as) → ∀ l ∈ layouts depth as, l.Fits
  | [], _ => nofun
  | a :: as, h => by
    rw [textsOfAll, allWhole_append] at h
    rw [layouts]
    exact List.forall_mem_cons.2 ⟨layout_fits depth a h.1, layouts_fits depth as h.2⟩

end

/-- A parameter of whole names fits. -/
theorem Parameter.layout_fits {p : Parameter} (h : AllWhole p.texts) : (p.layout depth).Fits := by
  intro rest hb hr
  simp only [texts, allWhole_cons] at h
  simpa [layout, h.1] using Abstraction.layout_fits depth _ h.2 rest hb hr

/-- The parameters behind a name fit. -/
theorem Parameter.layoutCall_fits {ps : List Parameter} (h : AllWhole (ps.flatMap texts)) :
    (layoutCall depth ps).Fits := by
  intro rest hb hr
  rw [allWhole_flatMap] at h
  have hps : (layoutList depth ps).Fits :=
    sequence_fits depth (List.forall_mem_map.2 fun p hp => layout_fits _ (h p hp))
  have hfits := hps (.mark ")" :: rest) (by simp) (by simp [hr])
  simpa [layoutCall] using hfits

/-- A result of whole names fits. -/
theorem Result.layout_fits {r : Result} (h : AllWhole r.texts) : (r.layout depth).Fits := by
  cases r with
  | abstraction a => exact Abstraction.layout_fits depth a h
  | parameters ps => exact Parameter.layoutCall_fits depth h

/-! ## Members of interfaces -/

/-- A name and parameters in parentheses, in front of a space or of what does not start with a
name. -/
theorem tidy_call {i : String} {ps : List Parameter} {rest : Layout} (hi : (Lexeme.name i).Whole)
    (hps : AllWhole (ps.flatMap Parameter.texts)) (hb : Kind.identifier.Before rest)
    (hr : Tidy rest) : Tidy (.name i :: (Parameter.layoutCall depth ps ++ rest)) := by
  rw [tidy_name]
  exact ⟨hi, by simp [Parameter.layoutCall], Parameter.layoutCall_fits depth hps rest hb hr⟩

/-- A constant of whole names fits. -/
theorem Constant.layout_fits {c : Constant} (h : AllWhole c.texts) : (c.layout depth).Fits := by
  intro rest hb hr
  simp only [texts, allWhole_cons] at h
  simpa [layout, h.1] using Abstraction.layout_fits depth _ h.2 rest hb hr

/-- A constructor of whole names fits. -/
theorem Constructor.layout_fits {c : Constructor} (h : AllWhole c.texts) :
    (c.layout depth).Fits := by
  intro rest hb hr
  simp only [texts, List.cons_append, allWhole_cons, allWhole_append] at h
  have ha := Abstraction.layout_fits depth _ h.2.2 rest hb hr
  have hcall := tidy_call depth h.1 h.2.1 (Kind.before_space.2 nofun) (tidy_space.2 ha)
  simpa [layout] using hcall

/-- A function of whole names fits. -/
theorem Function.layout_fits {f : Function} (h : AllWhole f.texts) : (f.layout depth).Fits := by
  intro rest hb hr
  simp only [texts, List.cons_append, allWhole_cons, allWhole_append] at h
  have hresult := Result.layout_fits depth h.2.2 rest hb hr
  have hcall := tidy_call depth h.1 h.2.1 (Kind.before_space.2 nofun) (tidy_space.2 hresult)
  simpa [layout] using hcall

/-- A method of whole names fits, with a result or without. -/
theorem Method.layout_fits {m : Method} (h : AllWhole m.texts) : (m.layout depth).Fits := by
  intro rest hb hr
  obtain ⟨i, ps, result⟩ := m
  simp only [texts, List.cons_append, allWhole_cons, allWhole_append, allWhole_flatMap] at h
  obtain ⟨hi, hps, hresult⟩ := h
  have hps' := allWhole_flatMap.2 hps
  cases result with
  | none => simpa [layout] using tidy_call depth hi hps' hb hr
  | some r =>
    have hr' := Result.layout_fits depth (hresult r (by simp)) rest hb hr
    have hcall := tidy_call depth hi hps' (Kind.before_space.2 nofun) (tidy_space.2 hr')
    simpa [layout] using hcall

/-- A parameter, or none, in front of a closing parenthesis. -/
theorem Parameter.tidy_optional {p : Option Parameter} {rest : Layout}
    (h : ∀ q ∈ p.toList, AllWhole q.texts) (hr : Tidy rest) :
    Tidy ((p.map (layout depth)).getD [] ++ .mark ")" :: rest) := by
  cases p with
  | none => simp [hr]
  | some p => exact layout_fits depth (h p (by simp)) _ (by simp) (by simp [hr])

/-- An attribute of whole names fits, whatever it leaves out. -/
theorem Attribute.layout_fits {a : Attribute} (h : AllWhole a.texts) :
    (a.layout depth).Fits := by
  intro rest hb hr
  obtain ⟨i, parameter, abstraction⟩ := a
  simp only [texts, List.cons_append, allWhole_cons, allWhole_append, allWhole_flatMap] at h
  obtain ⟨hi, hparameter, habstraction⟩ := h
  cases abstraction with
  | none =>
    have htidy := Parameter.tidy_optional depth hparameter hr
    simpa [layout, hi] using htidy
  | some b =>
    have hbr := Abstraction.layout_fits depth b (habstraction b (by simp)) rest hb hr
    have htidy := Parameter.tidy_optional depth hparameter (tidy_space.2 hbr)
    simpa [layout, hi] using htidy

/-! ## Declarations -/

/-- A declaration in front of a space. -/
theorem Declaration.tidy_layout {d : Declaration} {rest : Layout} (h : AllWhole d.texts)
    (hr : Tidy rest) : Tidy (d.layout ++ .space :: rest) := by
  simp only [texts, allWhole_cons, allWhole_flatMap] at h
  obtain ⟨hc, hi, hps⟩ := h
  have hitems : ∀ l ∈ d.parameters.map (Parameter.layout (itemDepth 0 d.parameters.length)),
      l.Fits := List.forall_mem_map.2 fun p hp => Parameter.layout_fits _ (hps p hp)
  have hparameters := bracketed_fits 0 hitems (.space :: rest) (by simp) (by simp [hr])
  have hbefore : Kind.identifier.Before (bracketed 0 (d.parameters.map
      (Parameter.layout (itemDepth 0 d.parameters.length))) ++ .space :: rest) :=
    before_bracketed 0 nofun (by simp)
  simp [layout, hc, hi, hbefore, hparameters]

/-- An enumeration of whole names fits. -/
theorem Values.layout_fits {v : Values} (h : AllWhole v.texts) : v.layout.Fits := by
  intro rest hb hr
  simp only [texts, allWhole_append] at h
  have hnames : Fits (v.identifiers.flatMap fun i => [.line 1, .name i]) := by
    have hitems : ∀ l ∈ v.identifiers.map fun i => [Piece.name i], Fits l := by
      refine List.forall_mem_map.2 fun i hi rest hb hr => ?_
      have hwhole : (Lexeme.name i).Whole := h.2 _ (List.mem_map_of_mem hi)
      simp [hwhole, hb, hr]
    have hlines := lines_fit 1 hitems
    rwa [List.flatMap_map] at hlines
  have hend := hnames (.line 0 :: .mark ")" :: rest) (by simp) (by simp [hr])
  have hbefore : Kind.identifier.Before ((v.identifiers.flatMap fun i => [.line 1, .name i]) ++
      .line 0 :: .mark ")" :: rest) := by
    cases v.identifiers with
    | nil => simp
    | cons i is => simp
  have hparameter := Parameter.layout_fits 1 h.1
    (.space :: .mark "=" :: .space :: .keyword "iota" ::
      ((v.identifiers.flatMap fun i => [.line 1, .name i]) ++ .line 0 :: .mark ")" :: rest))
    (by simp) (by simp [hend, hbefore])
  simpa [layout] using hparameter

/-- A specialization of whole texts fits. -/
theorem Specialization.layout_fits {s : Specialization} (h : AllWhole s.texts) :
    s.layout.Fits := by
  intro rest hb hr
  obtain ⟨d, a, enumeration⟩ := s
  simp only [texts, allWhole_append, allWhole_flatMap] at h
  obtain ⟨⟨hd, ha⟩, he⟩ := h
  have hbehind : Kind.identifier.Before ((enumeration.map Values.layout).getD [] ++ rest) ∧
      Tidy ((enumeration.map Values.layout).getD [] ++ rest) := by
    cases enumeration with
    | none => exact ⟨hb, hr⟩
    | some v => exact ⟨by simp [Values.layout], Values.layout_fits (he v (by simp)) rest hb hr⟩
  have habstraction := Abstraction.layout_fits 0 a ha _ hbehind.1 hbehind.2
  simpa [layout] using Declaration.tidy_layout hd habstraction

/-- A functional of whole texts fits. -/
theorem Functional.layout_fits {f : Functional} (h : AllWhole f.texts) : f.layout.Fits := by
  intro rest hb hr
  simp only [texts, allWhole_append] at h
  obtain ⟨⟨hd, hps⟩, hresult⟩ := h
  have hr' := Result.layout_fits 0 hresult rest hb hr
  have hcall := Parameter.layoutCall_fits 0 hps (.space :: (f.result.layout 0 ++ rest))
    (by simp) (by simp [hr'])
  have hbefore : Kind.identifier.Before (Parameter.layoutCall 0 f.parameters ++
      .space :: (f.result.layout 0 ++ rest)) := by simp [Parameter.layoutCall]
  have hfunc := (tidy_keyword (by simp : "func" ∈ keywords)).2 ⟨hbefore, hcall⟩
  have htidy := Declaration.tidy_layout hd hfunc
  simpa [layout] using htidy

/-! ## Interfaces -/

/-- A section of members fits if they do. -/
theorem Layout.memberSection_fits {α : Type} {note : String} {layout : Nat → α → Layout}
    {items : List α} (hnote : note ∈ notes) (h : ∀ a ∈ items, (layout 1 a).Fits) :
    (memberSection note layout items).Fits := by
  unfold memberSection
  split
  · exact fun rest _ hr => hr
  · next hne =>
    exact titled_fits 1 hnote (by simpa using hne) (List.forall_mem_map.2 h)

/-- An interface fits if its sections do. -/
theorem Declaration.layoutInterface_fits {d : Declaration} {sections : List Layout}
    (hd : AllWhole d.texts) (h : ∀ l ∈ sections, l.Fits) :
    (d.layoutInterface sections).Fits := by
  intro rest hb hr
  have hsections := separated_fits h (.line 0 :: .mark "\x7d" :: rest) (by simp) (by simp [hr])
  have hbody : Tidy (.keyword "interface" :: .space :: .mark "\x7b" ::
      (separated sections ++ .line 0 :: .mark "\x7d" :: rest)) := by simp [hsections]
  have htidy := tidy_layout hd hbody
  simpa [layoutInterface] using htidy

/-- An aspect of whole texts fits. -/
theorem Aspect.layout_fits {a : Aspect} (h : AllWhole a.texts) : a.layout.Fits := by
  simp only [texts, allWhole_append, allWhole_flatMap] at h
  refine Declaration.layoutInterface_fits h.1 (List.forall_mem_singleton.2 ?_)
  exact memberSection_fits (by simp) fun m hm => Method.layout_fits 1 (h.2 m hm)

/-- A class of whole texts fits. -/
theorem Class.layout_fits {c : Class} (h : AllWhole c.texts) : c.layout.Fits := by
  simp only [texts, allWhole_append, allWhole_flatMap] at h
  obtain ⟨⟨⟨hd, hcs⟩, hns⟩, hfs⟩ := h
  refine Declaration.layoutInterface_fits hd fun l hl => ?_
  simp only [List.mem_cons, List.not_mem_nil, or_false] at hl
  rcases hl with rfl | rfl | rfl
  · exact memberSection_fits (by simp) fun c hc => Constant.layout_fits 1 (hcs c hc)
  · exact memberSection_fits (by simp) fun c hc => Constructor.layout_fits 1 (hns c hc)
  · exact memberSection_fits (by simp) fun f hf => Function.layout_fits 1 (hfs f hf)

/-- An instance of whole texts fits. -/
theorem Instance.layout_fits {i : Instance} (h : AllWhole i.texts) : i.layout.Fits := by
  simp only [texts, allWhole_append, allWhole_flatMap] at h
  obtain ⟨⟨⟨hd, hts⟩, has⟩, hms⟩ := h
  refine Declaration.layoutInterface_fits hd fun l hl => ?_
  simp only [List.mem_cons, List.not_mem_nil, or_false] at hl
  rcases hl with rfl | rfl | rfl
  · exact memberSection_fits (by simp) fun a ha => Attribute.layout_fits 1 (hts a ha)
  · exact memberSection_fits (by simp) fun a ha => Abstraction.layout_fits 1 a (has a ha)
  · exact memberSection_fits (by simp) fun m hm => Method.layout_fits 1 (hms m hm)

/-! ## Documents -/

/-- Declarations are separated by line ends, so anything tidy may stand behind them. -/
theorem Layout.tidy_declarationBlock {α : Type} {note : String} {layout : α → Layout}
    {items : List α} {rest : Layout} (hnote : note ∈ notes) (h : ∀ a ∈ items, (layout a).Fits)
    (hr : Tidy rest) : Tidy (declarationBlock note layout items ++ rest) := by
  have hitems : Tidy ((items.flatMap fun a => layout a ++ [.line 0]) ++ rest) := by
    induction items with
    | nil => exact hr
    | cons a items ih =>
      have htail := ih fun b hb => h b (List.mem_cons_of_mem _ hb)
      have ha := h a List.mem_cons_self (.line 0 :: _) (by simp) (tidy_line.2 htail)
      simpa using ha
  unfold declarationBlock
  split
  · exact hr
  · simp [hnote, hitems]

/-- Imports of whole texts are tidy in front of what is tidy. -/
theorem Module.tidy_layoutImports {ms : List Module} {rest : Layout}
    (h : AllWhole (ms.flatMap texts)) (hr : Tidy rest) : Tidy (layoutImports ms ++ rest) := by
  rw [allWhole_flatMap] at h
  have hmodules : Tidy ((ms.flatMap fun m => .line 1 :: m.layout) ++
      .line 0 :: .mark ")" :: .line 0 :: rest) := by
    induction ms with
    | nil => simp [hr]
    | cons m ms ih =>
      have htail := ih fun b hb => h b (List.mem_cons_of_mem _ hb)
      have hm := h m List.mem_cons_self
      simp only [texts, allWhole_cons] at hm
      simpa [layout, hm.1, hm.2.1] using htail
  unfold layoutImports
  split
  · simp [hr]
  · simpa using hmodules

/-- Types of whole texts are tidy in front of what is tidy. -/
theorem Types.tidy_layout {t : Types} {rest : Layout} (h : AllWhole t.texts) (hr : Tidy rest) :
    Tidy (t.layout ++ rest) := by
  simp only [texts, allWhole_append, allWhole_flatMap] at h
  have hfs := tidy_declarationBlock (by simp : "// Functionals" ∈ notes)
    (fun f hf => Functional.layout_fits (h.2 f hf)) hr
  have hss := tidy_declarationBlock (by simp : "// Specializations" ∈ notes)
    (fun s hs => Specialization.layout_fits (h.1 s hs)) hfs
  simpa [layout] using hss

/-- Interfaces of whole texts are tidy in front of what is tidy. -/
theorem Interfaces.tidy_layout {i : Interfaces} {rest : Layout} (h : AllWhole i.texts)
    (hr : Tidy rest) : Tidy (i.layout ++ rest) := by
  simp only [texts, allWhole_append, allWhole_flatMap] at h
  have his := tidy_declarationBlock (by simp : "// Instances" ∈ notes)
    (fun j hj => Instance.layout_fits (h.2 j hj)) hr
  have hcs := tidy_declarationBlock (by simp : "// Classes" ∈ notes)
    (fun c hc => Class.layout_fits (h.1.2 c hc)) his
  have has := tidy_declarationBlock (by simp : "// Aspects" ∈ notes)
    (fun a ha => Aspect.layout_fits (h.1.1 a ha)) hcs
  simpa [layout] using has

/-- The canonical layout of a document with whole texts is tidy. -/
theorem Document.tidy_layout {d : Document} (h : AllWhole d.texts) : Tidy d.layout := by
  obtain ⟨notice, header, imports, types, interfaces⟩ := d
  simp only [texts, List.cons_append, allWhole_cons, allWhole_append, Header.texts,
    allWhole_flatMap] at h
  obtain ⟨hnotice, hcomment, hname, ⟨⟨-, hmodules⟩, htypes⟩, hinterfaces⟩ := h
  have hi : Tidy ((interfaces.map Interfaces.layout).getD []) := by
    cases interfaces with
    | none => exact .nil
    | some i =>
      have htidy := Interfaces.tidy_layout (hinterfaces i (by simp)) .nil
      simpa using htidy
  have ht : Tidy ((types.map Types.layout).getD [] ++
      (interfaces.map Interfaces.layout).getD []) := by
    cases types with
    | none => exact hi
    | some t => exact Types.tidy_layout (htypes t (by simp)) hi
  have hm : Tidy ((imports.map Module.layoutImports).getD [] ++
      ((types.map Types.layout).getD [] ++ (interfaces.map Interfaces.layout).getD [])) := by
    cases imports with
    | none => exact ht
    | some ms => exact Module.tidy_layoutImports (allWhole_flatMap.2 hmodules) ht
  simp [layout, hnotice, hcomment, hname, hm]

/-- The tokens of the canonical text are those of the layout. -/
theorem Document.tokenize_canonicalText {d : Document} (h : AllWhole d.texts) :
    (tokenize d.canonicalText).map (·.toLexeme) = d.layout.lexemes ++ [.eof] :=
  tokenize_render (tidy_layout h)

end PackageModel
