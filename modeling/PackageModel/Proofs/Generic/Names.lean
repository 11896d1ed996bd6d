import PackageModel.Proofs.Generic.Positions

/-!
# PackageModel.Proofs.Generic.Names

The names in a specialized method: those of the generic parameters are gone from it, unless a method
of the aspect gives arguments to one of them.
-/

namespace PackageModel

/-! ## Texts that are no names -/

/-- A name has no other characters than those that continue names. -/
theorem Lexeme.Whole.continuesName {i : String} (h : (Lexeme.name i).Whole) :
    ∀ c ∈ i.toList, Shape.continuesName c = true := by
  obtain ⟨shape, hkind, hwhole⟩ := h
  obtain rfl : shape = .identifier := by cases shape <;> first | rfl | cases hkind
  have hsplit : Shape.identifier.split i.toList = some (i.toList, []) :=
    matchAt_eq_some_iff.1 hwhole
  revert hsplit
  generalize i.toList = cs
  cases cs with
  | nil => nofun
  | cons c cs =>
    intro hsplit
    rw [Shape.split, Option.ite_none_right_eq_some] at hsplit
    obtain ⟨hc, hparts⟩ := hsplit
    obtain ⟨hpiece, -⟩ := Prod.mk.inj (Option.some.inj hparts)
    rw [← (List.cons.inj hpiece).2]
    refine List.forall_mem_cons.2 ⟨?_, List.all_eq_true.1 List.all_takeWhile⟩
    rw [Shape.continuesName, hc, Bool.true_or]

/-- The characters of a piece are in the text. -/
theorem Layout.mem_render {l : Layout} {p : Piece} {c : Char} (hp : p ∈ l)
    (hc : c ∈ p.render.toList) : c ∈ l.render.toList := by
  obtain ⟨front, rest, rfl⟩ := List.append_of_mem hp
  rw [render_append, render_cons, String.toList_append, String.toList_append]
  exact List.mem_append_right _ (List.mem_append_left _ hc)

/-- A prefix ends with a mark or a space. -/
theorem Prefix.exists_mem_layout (q : Prefix) :
    ∃ p ∈ q.layout, ∃ c ∈ p.render.toList, Shape.continuesName c = false := by
  cases q with
  | array | map key => exact ⟨.mark "[", by simp [layout], '[', by decide, by decide⟩
  | channel => exact ⟨.space, by simp [layout], ' ', by decide, by decide⟩
  | aliased name => exact ⟨.mark ".", by simp [layout], '.', by decide, by decide⟩

/-- A use of a type that is not written as a name is no bare name. -/
theorem Abstraction.eq_named_of_whole {a : Abstraction}
    (h : (Lexeme.name (a.layout 0).render).Whole) : a = named a.identifier := by
  obtain ⟨q, i, as⟩ := a
  have hchars := h.continuesName
  have hnone {p : Piece} {c : Char} (hp : p ∈ (mk q i as).layout 0) (hc : c ∈ p.render.toList)
      (hf : Shape.continuesName c = false) : False := by
    rw [hchars c (Layout.mem_render hp hc)] at hf
    cases hf
  cases q with
  | some q =>
    obtain ⟨p, hp, c, hc, hf⟩ := q.exists_mem_layout
    exact (hnone (by simp [layout, hp]) hc hf).elim
  | none =>
    cases as with
    | nil => rfl
    | cons a as =>
      exact (hnone (p := .mark "[") (c := '[') (by simp [layout, layouts, Layout.bracketed])
        (by decide) (by decide)).elim

/-- A name without a prefix and arguments is its own text. -/
theorem Abstraction.render_named (i : String) : ((named i).layout 0).render = i :=
  Layout.render_singleton

/-! ## What stands for names -/

/-- Every generic parameter has an argument. -/
theorem Bindings.exists_find? {ps : List Parameter} {arguments : List Abstraction} {i : String}
    (h : ps.length = arguments.length) (hi : i ∈ ps.map (·.identifier)) :
    ∃ u, (ofLists ps arguments).find? i = some u := by
  have hkeys : ((ps.map (·.identifier)).zip arguments).map Prod.fst = ps.map (·.identifier) :=
    List.map_fst_zip (by simp [h])
  rw [← hkeys] at hi
  obtain ⟨p, hp, rfl⟩ := List.mem_map.1 hi
  refine Option.ne_none_iff_exists'.1 fun hnone => ?_
  simpa using List.lookup_eq_none_iff.1 hnone p (List.mem_reverse.2 hp)

namespace Abstraction

variable {b : Bindings} {x : Abstraction}

/-- What stands in an argument behind a prefix is all of it, or stands in the argument. -/
theorem mem_all_prepend {p : Prefix} {u : Abstraction} (hx : x ∈ (p.prepend u).all) :
    x = p.prepend u ∨ x ∈ u.all := by
  obtain ⟨q, i, as⟩ := u
  cases q with
  | none =>
    rw [Prefix.prepend, qualifier_mk, identifier_mk, arguments_mk, all_mk] at hx
    exact (List.mem_cons.1 hx).imp_right fun h => all_mk .. ▸ List.mem_cons_of_mem _ h
  | some q =>
    rw [Prefix.prepend, qualifier_mk, all_mk, List.flatMap_nil] at hx
    exact .inl (List.mem_singleton.1 hx)

mutual

/-- What stands in an abstraction after the substitution stood there before, or stands in an
argument that a name has been replaced by. -/
theorem mem_all_substitute : (a : Abstraction) → x ∈ (a.substitute b).all →
    ∃ y ∈ a.all, x = y.substitute b ∨ ∃ u, b.find? y.identifier = some u ∧ x ∈ u.all
  | .mk q i as, hx => by
    rw [all_mk]
    rcases substitute_cases b q i as with ⟨-, heq⟩ | ⟨u, rfl, hbound, heq⟩
    · rw [heq, all_mk] at hx
      rcases List.mem_cons.1 hx with rfl | hx
      · exact ⟨_, List.mem_cons_self, .inl heq.symm⟩
      · obtain ⟨y, hy, h⟩ := mem_all_substituteList as hx
        exact ⟨y, List.mem_cons_of_mem _ hy, h⟩
    · refine ⟨_, List.mem_cons_self, ?_⟩
      rw [heq] at hx ⊢
      cases q with
      | none => exact .inr ⟨u, hbound, hx⟩
      | some q => exact (mem_all_prepend hx).imp_right fun h => ⟨u, hbound, h⟩

/-- The arguments of an abstraction. -/
theorem mem_all_substituteList : (as : List Abstraction) →
    x ∈ (as.map (substitute b)).flatMap all →
    ∃ y ∈ as.flatMap all, x = y.substitute b ∨ ∃ u, b.find? y.identifier = some u ∧ x ∈ u.all
  | [], hx => nomatch hx
  | a :: as, hx => by
    rw [List.flatMap_cons]
    rcases List.mem_append.1 (List.flatMap_cons ▸ hx) with hx | hx
    · obtain ⟨y, hy, h⟩ := mem_all_substitute a hx
      exact ⟨y, List.mem_append_left _ hy, h⟩
    · obtain ⟨y, hy, h⟩ := mem_all_substituteList as hx
      exact ⟨y, List.mem_append_right _ hy, h⟩

end

end Abstraction

/-! ## Names of parameters -/

/-- Each of the names is bound, and none of them is left in what names are bound to. -/
structure Bindings.Clears (b : Bindings) (names : List String) : Prop where
  bound : ∀ i ∈ names, ∃ u, b.find? i = some u
  clear : ∀ i u, b.find? i = some u → ∀ j ∈ u.names, j ∉ names
  written : ∀ i u, b.find? i = some u → (u.layout 0).render ∉ names

section

variable {b : Bindings} {names : List String}

/-- The key of a map is replaced where it is one of the names. -/
theorem Prefix.key_substitute (hb : Bindings.Clears b names) {q : Prefix} {key : String}
    (h : q.substitute b = .map key) : key ∉ names := by
  cases q with
  | map k =>
    rw [substitute] at h
    cases hk : b.find? k with
    | some u =>
      rw [hk] at h
      cases h
      exact hb.written k u hk
    | none =>
      rw [hk] at h
      cases h
      intro hkey
      obtain ⟨u, hu⟩ := hb.bound _ hkey
      rw [hk] at hu
      cases hu
  | _ => cases h

/-- An alias is never replaced. -/
theorem Prefix.alias?_substitute (q : Prefix) : (q.substitute b).alias? = q.alias? := by
  cases q with
  | map key =>
    rw [substitute]
    split <;> rfl
  | _ => rfl

/-- None of the names is left in the abstraction itself, unless it was made of one that has
arguments. -/
structure Abstraction.Cleared (names : List String) (y x : Abstraction) : Prop where
  key : ∀ key, x.qualifier = some (.map key) → key ∉ names
  identifier : x.identifier ∈ names →
    x.arguments ≠ [] ∧ y.identifier = x.identifier ∧ y.alias? = x.alias? ∧
      y.arguments.length = x.arguments.length

namespace Abstraction

variable {x y u : Abstraction}

/-- None of the names is left in an argument. -/
theorem cleared_of_mem (hb : Bindings.Clears b names) {i : String} (hu : b.find? i = some u)
    (hx : x ∈ u.all) : Cleared names y x := by
  have hown : ∀ j ∈ x.ownNames, j ∉ names := fun j hj =>
    hb.clear i u hu j (List.mem_flatMap.2 ⟨x, hx, hj⟩)
  refine ⟨fun key hkey => hown key ?_, fun hi => absurd hi (hown _ ?_)⟩
  · simp [ownNames, hkey, Prefix.key?]
  · simp [ownNames]

/-- Nor is one left where an argument is put behind a prefix. -/
theorem cleared_prepend (hb : Bindings.Clears b names) {i : String} (hu : b.find? i = some u)
    (p : Prefix) : Cleared names y ((p.substitute b).prepend u) := by
  have hidentifier : ((p.substitute b).prepend u).identifier ∉ names ∧
      ((p.substitute b).prepend u).qualifier = some (p.substitute b) := by
    rw [Prefix.prepend]
    split
    · exact ⟨hb.clear i u hu _ u.identifier_mem_names, rfl⟩
    · exact ⟨hb.written i u hu, rfl⟩
  refine ⟨fun key hkey => Prefix.key_substitute hb (q := p) ?_, fun hi => absurd hi hidentifier.1⟩
  exact Option.some.inj (hidentifier.2.symm.trans hkey)

/-- Substitution clears an abstraction of the names.  One with arguments keeps its own. -/
theorem cleared_substitute (hb : Bindings.Clears b names) (y : Abstraction) :
    Cleared names y (y.substitute b) := by
  obtain ⟨q, i, as⟩ := y
  rcases substitute_cases b q i as with ⟨hfixed, heq⟩ | ⟨u, rfl, hbound, heq⟩
  · rw [heq]
    refine ⟨fun key hkey => ?_, fun hi => ?_⟩
    · obtain ⟨q, rfl, hq⟩ := Option.map_eq_some_iff.1 hkey
      exact Prefix.key_substitute hb hq
    · obtain ⟨u, hu⟩ := hb.bound i hi
      refine ⟨?_, rfl, ?_, (List.length_map ..).symm⟩
      · intro has
        rw [hfixed (List.map_eq_nil_iff.1 has)] at hu
        cases hu
      · cases q with
        | none => rfl
        | some q => exact (q.alias?_substitute).symm
  · rw [heq]
    cases q with
    | none => exact cleared_of_mem hb hbound u.mem_all_self
    | some q => exact cleared_prepend hb hbound q

end Abstraction

end

/-- The arguments of a claim rid an aspect of the names of its parameters, if none of them is used
in an argument.  A parameter that is no name must not be spelt like the text of an argument
either. -/
theorem Bindings.clears_ofLists {ps : List Parameter} {arguments : List Abstraction}
    (hlength : ps.length = arguments.length)
    (hnames : ∀ x ∈ arguments, ∀ i ∈ x.names, i ∉ ps.map (·.identifier))
    (hwritten : ∀ i ∈ ps.map (·.identifier),
      (Lexeme.name i).Whole ∨ ∀ x ∈ arguments, (x.layout 0).render ≠ i) :
    Clears (ofLists ps arguments) (ps.map (·.identifier)) where
  bound _ hi := exists_find? hlength hi
  clear _ u hu := hnames u (mem_of_find? hu)
  written i u hu hmem := by
    have hu := mem_of_find? hu
    rcases hwritten _ hmem with hwhole | hne
    · have hplain := Abstraction.eq_named_of_whole hwhole
      rw [hplain, Abstraction.render_named] at hmem
      exact hnames u hu _ u.identifier_mem_names hmem
    · exact hne u hu rfl

/-- None of the names is left in the method `m'`, which was made of `m`: not as the key of a map,
and not as a type of this package, unless `m` gives arguments to a type of this name. -/
structure Method.Cleared (names : List String) (m m' : Method) : Prop where
  key : ∀ x ∈ m'.uses, ∀ key, x.qualifier = some (.map key) → key ∉ names
  identifier : ∀ x ∈ m'.uses, x.alias? = none → x.identifier ∈ names →
    x.arguments ≠ [] ∧ ∃ y ∈ m.uses, y.alias? = none ∧ y.identifier = x.identifier ∧
      y.arguments.length = x.arguments.length

/-- Substitution clears a method of the names. -/
theorem Method.cleared_substitute {b : Bindings} {names : List String}
    (hb : Bindings.Clears b names) (m : Method) : Cleared names m (m.substitute b) := by
  have huses : ∀ x ∈ (m.substitute b).uses, ∃ y ∈ m.uses, Abstraction.Cleared names y x := by
    intro x hx
    rw [uses, abstractions_substitute] at hx
    obtain ⟨y, hy, rfl | ⟨u, hu, hxu⟩⟩ := Abstraction.mem_all_substituteList m.abstractions hx
    · exact ⟨y, hy, Abstraction.cleared_substitute hb y⟩
    · exact ⟨y, hy, Abstraction.cleared_of_mem hb hu hxu⟩
  refine ⟨fun x hx => ?_, fun x hx halias hi => ?_⟩
  · obtain ⟨y, -, h⟩ := huses x hx
    exact h.key
  · obtain ⟨y, hy, h⟩ := huses x hx
    obtain ⟨has, hidentifier, hy', hlength⟩ := h.identifier hi
    exact ⟨has, y, hy, hy'.trans halias, hidentifier, hlength⟩

/-- Specializing an aspect clears its methods of the names of its generic parameters, if none of
them is used in an argument. -/
theorem Aspect.specialize_cleared (a : Aspect) (claim : Abstraction) :
    let names := a.declaration.parameters.map (·.identifier)
    names.length = claim.arguments.length →
    (∀ x ∈ claim.arguments, ∀ i ∈ x.names, i ∉ names) →
    (∀ i ∈ names, (Lexeme.name i).Whole ∨ ∀ x ∈ claim.arguments, (x.layout 0).render ≠ i) →
    ∃ ms, a.specialize claim = .ok ms ∧ List.Forall₂ (Method.Cleared names) a.methods ms := by
  intro names hlength hnames hwritten
  rw [List.length_map] at hlength
  refine ⟨_, by rw [specialize, if_pos hlength], ?_⟩
  rw [List.forall₂_map_right_iff, List.forall₂_same]
  exact fun m _ => m.cleared_substitute (Bindings.clears_ofLists hlength hnames hwritten)

/-- A parameter is gone as the key of a map, behind a prefix and as an argument, but not where it
has an argument itself. -/
theorem Aspect.specialize_cleared_applied :
    let parameters : List Parameter := [⟨"K", .named "any"⟩, ⟨"V", .named "any"⟩]
    let m : Method := ⟨"Find", [⟨"index", .mk (some (.map "K")) "V" []⟩],
      some (.abstraction (.mk none "V" [.mk (some .array) "K" []]))⟩
    let a : Aspect := ⟨⟨"/*\n\n*/\n", "Associative", parameters⟩, [m]⟩
    let claim : Abstraction := .mk none "Associative" [.named "string", .mk (some .array) "int" []]
    (["K", "V"].length = claim.arguments.length ∧
      (∀ x ∈ claim.arguments, ∀ i ∈ x.names, i ∉ ["K", "V"]) ∧
      ∀ i ∈ ["K", "V"], (Lexeme.name i).Whole ∨ ∀ x ∈ claim.arguments, (x.layout 0).render ≠ i) ∧
    ∃ ms, a.specialize claim = .ok ms ∧ List.Forall₂ (Method.Cleared ["K", "V"]) a.methods ms ∧
      ms.map (fun m => (m.layout 0).render) = ["Find(index map[string][]int) V[[]string]"] := by
  intro parameters m a claim
  have hlength : ["K", "V"].length = claim.arguments.length := rfl
  have hnames : ∀ x ∈ claim.arguments, ∀ i ∈ x.names, i ∉ ["K", "V"] := by decide
  have hwritten : ∀ i ∈ ["K", "V"], (Lexeme.name i).Whole ∨
      ∀ x ∈ claim.arguments, (x.layout 0).render ≠ i := by
    exact fun i hi => .inl (by revert i; decide)
  obtain ⟨ms, hms, hcleared⟩ := specialize_cleared a claim hlength hnames hwritten
  refine ⟨⟨hlength, hnames, hwritten⟩, ms, hms, hcleared, ?_⟩
  cases hms
  decide

/-- A method in which none of the names is used, neither as the key of a map nor as a type of this
package. -/
def Method.Free (names : List String) (m : Method) : Prop :=
  ∀ x ∈ m.uses, (x.alias? = none → x.identifier ∉ names) ∧
    ∀ key, x.qualifier = some (.map key) → key ∉ names

/-- The methods are not free of the names of the parameters if a parameter has arguments, nor if a
parameter is no name but the text of an argument. -/
theorem Aspect.specialize_not_free :
    (let a : Aspect := ⟨⟨"/*\n\n*/\n", "Sequence", [⟨"V", .named "any"⟩]⟩,
        [⟨"Get", [], some (.abstraction (.mk none "V" [.named "int"]))⟩]⟩
      let claim : Abstraction := .mk none "Sequence" [.named "Widget"]
      a.declaration.parameters.length = claim.arguments.length ∧
        (∀ x ∈ claim.arguments, ∀ i ∈ x.names, i ∉ ["V"]) ∧
        ¬∃ ms, a.specialize claim = .ok ms ∧ ∀ m ∈ ms, m.Free ["V"]) ∧
    (let a : Aspect := ⟨⟨"/*\n\n*/\n", "Associative",
          [⟨"K", .named "any"⟩, ⟨"[]string", .named "any"⟩]⟩,
        [⟨"Keys", [], some (.abstraction (.mk (some .channel) "K" []))⟩]⟩
      let claim : Abstraction :=
        .mk none "Associative" [.mk (some .array) "string" [], .named "int"]
      a.declaration.parameters.length = claim.arguments.length ∧
        (∀ x ∈ claim.arguments, ∀ i ∈ x.names, i ∉ ["K", "[]string"]) ∧
        ¬∃ ms, a.specialize claim = .ok ms ∧ ∀ m ∈ ms, m.Free ["K", "[]string"]) := by
  refine ⟨⟨rfl, by decide, ?_⟩, rfl, by decide, ?_⟩
  · rintro ⟨ms, hms, hfree⟩
    cases hms
    have huse := hfree _ List.mem_cons_self (.mk none "V" [.named "int"]) List.mem_cons_self
    exact huse.1 rfl (by decide)
  · rintro ⟨ms, hms, hfree⟩
    cases hms
    have huse := hfree _ List.mem_cons_self (.mk (some .channel) "[]string" []) List.mem_cons_self
    exact huse.1 rfl (by decide)

end PackageModel
