import Mathlib.Data.List.Forall2
import PackageModel.Generic
import PackageModel.Proofs.Generic.Word

/-!
# PackageModel.Proofs.Generic

The text of a specialized method is that of the method of the aspect, in which the generic
parameters have been replaced by the texts of their arguments, all at once.
-/

namespace PackageModel

open Layout Word

/-! ## Substitution -/

/-- All bound arguments have whole texts. -/
def Bindings.Whole (b : Bindings) : Prop := ∀ i a, b.find? i = some a → AllWhole a.texts

/-- The tokens that stand for a name. -/
def Bindings.tokens (b : Bindings) (i : String) : List Lexeme :=
  match b.find? i with
  | some a => (a.layout 0).lexemes
  | none => [.name i]

section

variable {b : Bindings} (depth : Nat)

/-- At every depth an argument has the same tokens. -/
theorem Abstraction.layout_renders {a : Abstraction} (h : AllWhole a.texts) :
    (a.layout depth).Renders (a.layout 0).lexemes := by
  rw [lexemes_layout 0, ← lexemes_layout depth]
  exact (layout_fits depth a h).renders

/-- The text of an argument stands behind the prefix that is put in front of it. -/
theorem Prefix.render_prepend (p : Prefix) (argument : Abstraction) :
    ∃ d, ((p.prepend argument).layout depth).render = render (p.layout ++ argument.layout d) := by
  obtain ⟨q, i, as⟩ := argument
  cases q with
  | none => exact ⟨depth, rfl⟩
  | some q =>
    refine ⟨0, ?_⟩
    have hlayout (text : String) :
        (Abstraction.mk (some p) text []).layout depth = p.layout ++ [.name text] := rfl
    rw [prepend, Abstraction.qualifier_mk, hlayout, render_append, render_append, render_singleton]
    rfl

/-- The text of a prefix with its map key replaced. -/
theorem Prefix.substitute_opens (hb : b.Whole) {q : Prefix} (hq : AllWhole q.texts) :
    (q.substitute b).layout.Opens (fill b.tokens q.marked) := by
  cases q with
  | array => exact opens_of_tidy fun rest hrest => by simp [hrest, substitute, layout]
  | channel => exact opens_of_tidy fun rest hrest => by simp [hrest, substitute, layout]
  | aliased i =>
    simp only [texts, allWhole_cons] at hq
    exact opens_of_tidy fun rest hrest => by simp [hrest, hq, substitute, layout]
  | map key =>
    simp only [texts, allWhole_cons] at hq
    simp only [substitute, marked, fill_name, fill_mark, fill_use, Bindings.tokens]
    cases hkey : b.find? key with
    | none =>
      exact opens_of_tidy fun rest hrest => by simp [hrest, hq, layout]
    | some a =>
      have ha := Abstraction.layout_fits 0 a (hb key a hkey)
      refine ⟨.keyword "map" :: .mark "[" :: (a.layout 0 ++ [.mark "]"]), ?_, ?_, by simp⟩
      · simp only [layout, render_cons, render_append]
        rfl
      · intro rest hrest
        simpa using ha (.mark "]" :: rest) (by simp) (by simp [hrest])

namespace Abstraction

/-- Arguments are replaced one by one. -/
theorem substituteList_eq_map (b : Bindings) (as : List Abstraction) :
    substituteList b as = as.map (substitute b) := by
  induction as with
  | nil => rw [substituteList, List.map_nil]
  | cons a as ih => rw [substituteList, ih, List.map_cons]

/-- A name that has arguments or is not bound stays, and any other is replaced. -/
theorem substitute_cases (b : Bindings) (q : Option Prefix) (i : String) (as : List Abstraction) :
    ((as = [] → b.find? i = none) ∧
        substitute b (.mk q i as) = .mk (q.map (.substitute b)) i (as.map (substitute b))) ∨
      ∃ u, as = [] ∧ b.find? i = some u ∧ substitute b (.mk q i as) =
        match q with
        | some q => (q.substitute b).prepend u
        | none => u := by
  by_cases hfixed : ∀ u, as = [] → b.find? i = some u → False
  · rw [substitute.eq_2 b q i as hfixed, substituteList_eq_map]
    exact .inl ⟨fun has => Option.eq_none_iff_forall_ne_some.2 fun u => hfixed u has, rfl⟩
  · obtain ⟨u, rfl, hbound⟩ : ∃ u, as = [] ∧ b.find? i = some u := by simpa using hfixed
    refine .inr ⟨u, rfl, hbound, ?_⟩
    rw [substitute.eq_1 b q i u hbound]
    cases q <;> rfl

/-- A name and the arguments behind it, which render. -/
theorem arguments_render {i : String} {as : List Abstraction} {g : Abstraction → Abstraction}
    {k : Abstraction → List Lexeme} (hi : (Lexeme.name i).Whole)
    (h : ∀ a ∈ as, ((g a).layout (itemDepth depth as.length)).Renders (k a)) :
    Renders (.name i :: bracketed depth (layouts (itemDepth depth as.length) (as.map g)))
      (.name i :: if as.isEmpty then [] else
        .mark "[" :: commaed (.mark ",") (as.map k) ++ [.mark "]"]) := by
  rw [layouts_eq_map, List.map_map]
  cases as with
  | nil => exact Fits.renders fun rest hb hrest => by simp [bracketed, hi, hb, hrest]
  | cons a as =>
    have hopen : Opens [.name i, .mark "["] [.name i, .mark "["] :=
      opens_of_tidy fun rest hrest => by simp [hi, hrest]
    exact hopen.append ((sequence_renders depth h).append_mark (by simp))

mutual

/-- The text of an abstraction with its generic parameters replaced. -/
theorem substitute_renders (hb : b.Whole) (depth : Nat) : (a : Abstraction) →
    AllWhole a.texts → ((a.substitute b).layout depth).Renders (fill b.tokens a.marked)
  | .mk q i as, h => by
    simp only [texts, allWhole_append, allWhole_cons, allWhole_flatMap] at h
    obtain ⟨hq, hi, has⟩ := h
    have hqualifier : Opens (((q.map (Prefix.substitute b)).map Prefix.layout).getD [])
        (fill b.tokens ((q.map Prefix.marked).getD [])) := by
      cases q with
      | none => exact opens_of_tidy fun rest hrest => hrest
      | some q => exact Prefix.substitute_opens hb (hq q (by simp))
    rw [marked, fill_append, markedAll_eq_map]
    -- a name with arguments stays, a bound name without arguments is replaced as a whole
    rcases substitute_cases b q i as with ⟨hfixed, heq⟩ | ⟨a, rfl, hbound, heq⟩
    · have hname := arguments_render depth hi
        (substituteList_render hb (itemDepth depth as.length) as has)
      rw [heq, layout, List.length_map]
      refine hqualifier.append ?_
      cases as with
      | nil => simpa [Bindings.tokens, hfixed rfl] using hname
      | cons a as => simpa [Function.comp_def] using hname
    · have hargument (d : Nat) : (a.layout d).Renders (fill b.tokens [.use i]) := by
        simpa [Bindings.tokens, hbound] using layout_renders d (hb i a hbound)
      rw [heq]
      cases q with
      | none => exact hargument depth
      | some q =>
        obtain ⟨d, hd⟩ := (q.substitute b).render_prepend depth a
        exact (hqualifier.append (hargument d)).of_eq hd

/-- The arguments of an abstraction, at any depth. -/
theorem substituteList_render (hb : b.Whole) (depth : Nat) :
    (as : List Abstraction) → AllWhole (textsOfAll as) →
      ∀ a ∈ as, ((a.substitute b).layout depth).Renders (fill b.tokens a.marked)
  | [], _ => nofun
  | a :: as, h => by
    rw [textsOfAll, allWhole_append] at h
    exact List.forall_mem_cons.2
      ⟨substitute_renders hb depth a h.1, substituteList_render hb depth as h.2⟩

end

end Abstraction

/-- A parameter is written with its type replaced. -/
theorem Parameter.substitute_renders (hb : b.Whole) {p : Parameter} (h : AllWhole p.texts) :
    ((p.substitute b).layout depth).Renders (fill b.tokens p.marked) := by
  simp only [texts, allWhole_cons] at h
  have hopen : Opens [.name p.identifier, .space] [.name p.identifier] :=
    opens_of_tidy fun rest hrest => by simp [h.1, hrest]
  exact hopen.append (p.abstraction.substitute_renders hb depth h.2)

/-- The parameters of a call and the parenthesis behind them. -/
theorem Parameter.substituteList_render (hb : b.Whole) {ps : List Parameter}
    (h : AllWhole (ps.flatMap texts)) :
    Renders (layoutList depth (ps.map (substitute b)) ++ [.mark ")"])
      (fill b.tokens (commaed (.mark ",") (ps.map marked) ++ [.mark ")"])) := by
  rw [allWhole_flatMap] at h
  have hitems : ∀ p ∈ ps, ((p.substitute b).layout (itemDepth depth ps.length)).Renders
      (fill b.tokens p.marked) := fun p hp => substitute_renders _ hb (h p hp)
  have hsequence := (sequence_renders depth hitems).append_mark (by simp : ")" ∈ marks)
  simpa [layoutList, Function.comp_def] using hsequence

/-- A result is written with its types replaced. -/
theorem Result.substitute_renders (hb : b.Whole) {r : Result} (h : AllWhole r.texts) :
    ((r.substitute b).layout depth).Renders (fill b.tokens r.marked) := by
  cases r with
  | abstraction a => exact a.substitute_renders hb depth h
  | parameters ps =>
    have hopen : Opens [.mark "("] [.mark "("] := opens_of_tidy fun rest hrest => by simp [hrest]
    exact hopen.append (Parameter.substituteList_render depth hb h)

/-- The text of a method with its generic parameters replaced. -/
theorem Method.substitute_renders (hb : b.Whole) {m : Method} (h : AllWhole m.texts) :
    ((m.substitute b).layout depth).Renders (fill b.tokens m.marked) := by
  obtain ⟨i, ps, result⟩ := m
  simp only [texts, List.cons_append, allWhole_cons, allWhole_append] at h
  obtain ⟨hi, hps, hresult⟩ := h
  have hopen : Opens [.name i, .mark "("] [.name i, .mark "("] :=
    opens_of_tidy fun rest hrest => by simp [hi, hrest]
  have hcall := hopen.append (Parameter.substituteList_render depth hb hps)
  cases result with
  | none =>
    simpa [substitute, layout, Parameter.layoutCall, marked, Parameter.markedCall] using hcall
  | some r =>
    have hr : AllWhole r.texts := by simpa using hresult
    have hmethod := hcall.append_space (r.substitute_renders depth hb hr)
    simpa [substitute, layout, Parameter.layoutCall, marked, Parameter.markedCall] using hmethod

end

/-! ## Specialization -/

/-- One value, or several with these names. -/
def Result.shape : Result → Option (List String)
  | abstraction _ => none
  | parameters values => some (values.map (·.identifier))

/-- The tokens that stand for a name, if the generic parameters with these names have these
arguments. -/
def argumentTokens (names : List String) (arguments : List Abstraction) (i : String) :
    List Lexeme :=
  match (names.zip arguments).lookup i with
  | some a => tokensOf (a.layout 0).render
  | none => [.name i]

/-- A method reads like another one in which the uses of names have been replaced. -/
structure Method.SpecializesTo (f : String → List Lexeme) (m m' : Method) : Prop where
  identifier : m'.identifier = m.identifier
  parameters : m'.parameters.map (·.identifier) = m.parameters.map (·.identifier)
  result : m'.result.map Result.shape = m.result.map Result.shape
  original : tokensOf (m.layout 0).render = fill asWritten m.marked
  specialized : tokensOf (m'.layout 0).render = fill f m.marked

/-- Where no name is bound twice, it does not matter in which order the bindings are looked up. -/
theorem lookup_reverse {l : List (String × Abstraction)} (h : (l.map Prod.fst).Nodup) (i : String) :
    l.reverse.lookup i = l.lookup i := by
  induction l with
  | nil => rfl
  | cons p l ih =>
    obtain ⟨name, argument⟩ := p
    obtain ⟨hname, hl⟩ := List.nodup_cons.1 h
    rw [List.reverse_cons, List.lookup_append, ih hl, List.lookup_cons, List.lookup_cons]
    by_cases hi : i = name
    · subst hi
      have hnone : l.lookup i = none := List.lookup_eq_none_iff.2 fun p hp =>
        bne_iff_ne.2 fun hp' => hname (List.mem_map.2 ⟨p, hp, hp'.symm⟩)
      rw [hnone]
      simp
    · rw [beq_false_of_ne hi]
      simp

section

variable {ps : List Parameter} {arguments : List Abstraction}

/-- What is found is one of the arguments. -/
theorem Bindings.mem_of_find? {i : String} {a : Abstraction}
    (h : (ofLists ps arguments).find? i = some a) : a ∈ arguments := by
  obtain ⟨l, l', hl, -⟩ := List.lookup_eq_some_iff.1 h
  have hmem : (i, a) ∈ ofLists ps arguments := hl ▸ List.mem_append_right l List.mem_cons_self
  exact (List.of_mem_zip (List.mem_reverse.1 hmem)).2

/-- Whole arguments make whole bindings. -/
theorem Bindings.whole_ofLists (h : ∀ x ∈ arguments, AllWhole x.texts) :
    (ofLists ps arguments).Whole := fun _ a ha => h a (mem_of_find? ha)

/-- The tokens that stand for a name are those of the text of its argument. -/
theorem Bindings.tokens_ofLists (hlength : ps.length = arguments.length)
    (hnames : (ps.map (·.identifier)).Nodup) (h : ∀ x ∈ arguments, AllWhole x.texts) :
    (ofLists ps arguments).tokens = argumentTokens (ps.map (·.identifier)) arguments := by
  funext i
  have hkeys : (((ps.map (·.identifier)).zip arguments).map Prod.fst).Nodup := by
    rwa [List.map_fst_zip (by simp [hlength])]
  have hfind : (ofLists ps arguments).find? i =
      ((ps.map (·.identifier)).zip arguments).lookup i := lookup_reverse hkeys i
  unfold Bindings.tokens argumentTokens
  rw [← hfind]
  cases ha : (ofLists ps arguments).find? i with
  | none => rfl
  | some a => exact (Abstraction.layout_renders 0 (whole_ofLists h i a ha)).tokensOf.symm

end

/-- A result keeps its shape. -/
theorem Result.shape_substitute (b : Bindings) (r : Result) :
    (r.substitute b).shape = r.shape := by
  cases r with
  | abstraction a => rfl
  | parameters ps =>
    simp only [substitute, shape, List.map_map]
    rfl

/-- A method is specialized as its words are filled, all at once. -/
theorem Method.specializesTo_substitute {b : Bindings} (hb : b.Whole) {m : Method}
    (h : AllWhole m.texts) : SpecializesTo b.tokens m (m.substitute b) where
  identifier := rfl
  parameters := by
    rw [substitute, List.map_map]
    rfl
  result := by
    rw [substitute, Option.map_map]
    exact congrArg (Option.map · m.result) (funext fun r => r.shape_substitute b)
  original := by
    rw [(layout_fits 0 h).renders.tokensOf, lexemes_layout]
  specialized := (substitute_renders 0 hb h).tokensOf

/-- Specializing an aspect whose generic parameters have different names replaces them in the texts
of its methods, in order: each name of an abstraction without arguments and each map key that is the
name of a parameter by the text of its argument, all at once.  With any other number of arguments
the error gives both numbers. -/
theorem Aspect.specialize_reads (a : Aspect) (claim : Abstraction) :
    let names := a.declaration.parameters.map (·.identifier)
    (names.length = claim.arguments.length → names.Nodup → (∀ m ∈ a.methods, AllWhole m.texts) →
      (∀ x ∈ claim.arguments, AllWhole x.texts) →
      ∃ ms, a.specialize claim = .ok ms ∧
        List.Forall₂ (Method.SpecializesTo (argumentTokens names claim.arguments)) a.methods ms) ∧
    (names.length ≠ claim.arguments.length →
      a.specialize claim =
        .error (.arity a.declaration.identifier names.length claim.arguments.length)) := by
  intro names
  have hlength : names.length = a.declaration.parameters.length := List.length_map ..
  rw [hlength]
  refine ⟨fun hcount hnames hmethods harguments => ?_, fun hcount => ?_⟩
  · refine ⟨_, by rw [specialize, if_pos hcount], ?_⟩
    rw [List.forall₂_map_right_iff, List.forall₂_same,
      ← Bindings.tokens_ofLists hcount hnames harguments]
    exact fun m hm => m.specializesTo_substitute (Bindings.whole_ofLists harguments) (hmethods m hm)
  · rw [specialize, if_neg hcount]

/-- Arguments that are named like the generic parameters are not replaced again. -/
theorem Aspect.specialize_reads_swapped :
    let parameters : List Parameter := [⟨"K", .named "any"⟩, ⟨"V", .named "any"⟩]
    let pair : Method := ⟨"GetPair", [⟨"key", .named "K"⟩],
      some (.parameters [⟨"value", .named "V"⟩, ⟨"index", .mk (some (.map "K")) "V" []⟩])⟩
    let a : Aspect := ⟨⟨"/*\n\n*/\n", "Associative", parameters⟩, [pair]⟩
    let claim : Abstraction := .mk none "Associative" [.named "V", .mk (some .array) "K" []]
    (["K", "V"].length = claim.arguments.length ∧ ["K", "V"].Nodup ∧
      (∀ m ∈ a.methods, AllWhole m.texts) ∧ ∀ x ∈ claim.arguments, AllWhole x.texts) ∧
    ∃ ms, a.specialize claim = .ok ms ∧
      List.Forall₂ (Method.SpecializesTo (argumentTokens ["K", "V"] claim.arguments))
        a.methods ms ∧
      ms.map (fun m => (m.layout 0).render) = ["GetPair(key V) (value []K, index map[V][]K)"] := by
  intro parameters pair a claim
  have hcount : ["K", "V"].length = claim.arguments.length := rfl
  have hnames : ["K", "V"].Nodup := by decide
  have hmethods : ∀ m ∈ a.methods, AllWhole m.texts := by decide
  have harguments : ∀ x ∈ claim.arguments, AllWhole x.texts := by decide
  obtain ⟨ms, hms, hreads⟩ :=
    (specialize_reads a claim).1 hcount hnames hmethods harguments
  refine ⟨⟨hcount, hnames, hmethods, harguments⟩, ms, hms, hreads, ?_⟩
  cases hms
  decide

end PackageModel
