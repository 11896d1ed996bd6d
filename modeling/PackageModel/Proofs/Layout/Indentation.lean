import PackageModel.Proofs.Layout.Formatter

/-!
# PackageModel.Proofs.Layout.Indentation

What the depth of a formatter is good for.  Every routine leaves it as it was, and in what a routine
writes for a part of a line it shows as tabs behind line ends and nowhere else.
-/

namespace PackageModel

/-- The text with tabs behind each line end. -/
def indented (tabs : Nat) (text : String) : String :=
  String.ofList (text.toList.flatMap fun c =>
    if c = '\n' then '\n' :: List.replicate tabs '\t' else [c])

/-- No text holds a line end. -/
abbrev Unbroken (ls : List Lexeme) : Prop := ∀ l ∈ ls, '\n' ∉ l.value.toList

section

variable {k : Nat} {s t : String}

/-- Texts are indented one behind the other. -/
theorem indented_append : indented k (s ++ t) = indented k s ++ indented k t := by
  rw [indented, String.toList_append, List.flatMap_append, String.ofList_append]
  rfl

/-- A text on one line stays as it is. -/
theorem indented_of_not_mem (h : '\n' ∉ s.toList) : indented k s = s := by
  have hchars : (s.toList.flatMap fun c =>
      if c = '\n' then '\n' :: List.replicate k '\t' else [c]) = s.toList.flatMap fun c => [c] :=
    List.flatMap_congr fun c hc => if_neg (ne_of_mem_of_not_mem hc h)
  rw [indented, hchars, List.flatMap_singleton', String.ofList_toList]

/-- The tabs stand beside those that are there. -/
theorem indented_line (depth : Nat) :
    indented k (Piece.line depth).render = (Piece.line (depth + k)).render := by
  have htabs : ((List.replicate depth '\t').flatMap fun c =>
      if c = '\n' then '\n' :: List.replicate k '\t' else [c]) = List.replicate depth '\t' := by
    rw [List.flatMap_congr fun c hc => if_neg (by rw [List.eq_of_mem_replicate hc]; decide),
      List.flatMap_singleton']
  rw [indented, Piece.render, Piece.render, String.toList_ofList, List.flatMap_cons, if_pos rfl,
    htabs, List.cons_append, List.replicate_append_replicate, Nat.add_comm]

end

namespace Layout

/-- The text of the first layout is that of the second with tabs behind each line end. -/
def IndentedBy (k : Nat) (m l : Layout) : Prop := m.render = indented k l.render

variable {k depth : Nat} {l l' m m' : Layout}

namespace IndentedBy

/-- Nothing can be indented. -/
theorem nil : IndentedBy k [] [] := rfl

/-- Layouts one behind the other are indented if each of them is. -/
theorem append (h : IndentedBy k m l) (h' : IndentedBy k m' l') :
    IndentedBy k (m ++ m') (l ++ l') := by
  rw [IndentedBy, render_append, h, h', render_append, indented_append]

/-- A line further in has more tabs at its start. -/
theorem line : IndentedBy k [.line (depth + k)] [.line depth] := by
  rw [IndentedBy, render_singleton, render_singleton, indented_line]

/-- What holds no line end is the same at every depth. -/
theorem of_not_mem (h : '\n' ∉ l.render.toList) : IndentedBy k l l := (indented_of_not_mem h).symm

/-- A space stays as it is. -/
theorem space : IndentedBy k [.space] [.space] := of_not_mem (by decide)

/-- A token stays as it is if its text is on one line. -/
theorem token {t : Lexeme} (h : '\n' ∉ t.value.toList) : IndentedBy k [.token t] [.token t] :=
  of_not_mem (by rwa [render_singleton])

/-- A name stays as it is if it is on one line. -/
theorem name {i : String} (h : '\n' ∉ (Lexeme.name i).value.toList) :
    IndentedBy k [.name i] [.name i] := token h

/-- A mark stays as it is if it is on one line. -/
theorem mark (m : String) (h : '\n' ∉ (Lexeme.mark m).value.toList) :
    IndentedBy k [.mark m] [.mark m] := token h

end IndentedBy

/-- Items stand as much further in as the list does. -/
theorem itemDepth_add (count : Nat) : itemDepth (depth + k) count = itemDepth depth count + k := by
  unfold itemDepth
  split <;> omega

section

variable {α : Type} {as : List α} {f g : α → Layout}

/-- Items in a row are indented, on one line or on several. -/
theorem sequence_indentedBy (h : ∀ a ∈ as, IndentedBy k (g a) (f a)) :
    IndentedBy k (sequence (depth + k) (as.map g)) (sequence depth (as.map f)) := by
  have hcomma : IndentedBy k [.mark ","] [.mark ","] := .mark "," (by decide)
  have hline : IndentedBy k [.line (depth + k + 1)] [.line (depth + 1)] := by
    rw [Nat.add_right_comm]
    exact .line
  unfold sequence
  rw [List.length_map, List.length_map]
  split
  · have hitems := intercalate_related .nil .append (hcomma.append hline) h
    exact (hline.append hitems).append (hcomma.append .line)
  · exact intercalate_related .nil .append (hcomma.append .space) h

/-- Items between brackets are indented, if there are any. -/
theorem bracketed_indentedBy (h : ∀ a ∈ as, IndentedBy k (g a) (f a)) :
    IndentedBy k (bracketed (depth + k) (as.map g)) (bracketed depth (as.map f)) := by
  have hsequence : IndentedBy k (sequence (depth + k) (as.map g)) (sequence depth (as.map f)) :=
    sequence_indentedBy h
  cases as with
  | nil => exact .nil
  | cons a as =>
    exact ((IndentedBy.mark "[" (by decide)).append hsequence).append (.mark "]" (by decide))

end

end Layout

open Layout

variable (k depth : Nat)

/-! ## Uses of types -/

/-- A prefix stays as it is. -/
theorem Prefix.layout_indentedBy {q : Prefix} (h : Unbroken q.texts) :
    IndentedBy k q.layout q.layout := by
  cases q with
  | array | channel => exact .of_not_mem (by decide)
  | aliased name =>
    have hname := h _ List.mem_cons_self
    exact (IndentedBy.name hname).append (.mark "." (by decide))
  | map key =>
    have hkey := h _ List.mem_cons_self
    have hmap : IndentedBy k [.keyword "map", .mark "["] [.keyword "map", .mark "["] :=
      .of_not_mem (by decide)
    exact (hmap.append (.name hkey)).append (.mark "]" (by decide))

mutual

/-- An abstraction is indented with all its arguments. -/
theorem Abstraction.layout_indentedBy (k depth : Nat) :
    (a : Abstraction) → Unbroken a.texts → IndentedBy k (a.layout (depth + k)) (a.layout depth)
  | .mk q i as, h => by
    simp only [texts, List.forall_mem_append, List.forall_mem_cons, List.forall_mem_flatMap,
      Option.mem_toList] at h
    obtain ⟨hq, hi, has⟩ := h
    have hqualifier : IndentedBy k ((q.map Prefix.layout).getD [])
        ((q.map Prefix.layout).getD []) :=
      optional_related .nil fun p hp => Prefix.layout_indentedBy k (hq p hp)
    have harguments := layouts_indentedBy k (itemDepth depth as.length) as has
    rw [layout, layout, layouts_eq_map, layouts_eq_map, itemDepth_add]
    exact hqualifier.append ((IndentedBy.name hi).append (bracketed_indentedBy harguments))

/-- The same holds for arguments, one by one. -/
theorem Abstraction.layouts_indentedBy (k depth : Nat) :
    (as : List Abstraction) → Unbroken (textsOfAll as) →
      ∀ a ∈ as, IndentedBy k (a.layout (depth + k)) (a.layout depth)
  | [], _ => nofun
  | a :: as, h => by
    rw [textsOfAll, Unbroken, List.forall_mem_append] at h
    exact List.forall_mem_cons.2
      ⟨layout_indentedBy k depth a h.1, layouts_indentedBy k depth as h.2⟩

end

/-- Arguments are indented. -/
theorem Abstraction.layoutList_indentedBy {as : List Abstraction}
    (h : Unbroken (as.flatMap texts)) :
    IndentedBy k (layoutList (depth + k) as) (layoutList depth as) := by
  rw [layoutList, layoutList, layouts_eq_map, layouts_eq_map, itemDepth_add]
  exact sequence_indentedBy (layouts_indentedBy k _ as (by rwa [textsOfAll_eq]))

/-- A parameter is indented. -/
theorem Parameter.layout_indentedBy {p : Parameter} (h : Unbroken p.texts) :
    IndentedBy k (p.layout (depth + k)) (p.layout depth) := by
  obtain ⟨hi, ha⟩ := List.forall_mem_cons.1 h
  exact ((IndentedBy.name hi).append .space).append (Abstraction.layout_indentedBy k depth _ ha)

/-- Parameters are indented. -/
theorem Parameter.layoutList_indentedBy {ps : List Parameter} (h : Unbroken (ps.flatMap texts)) :
    IndentedBy k (layoutList (depth + k) ps) (layoutList depth ps) := by
  rw [layoutList, layoutList, itemDepth_add]
  exact sequence_indentedBy fun p hp => layout_indentedBy k _ (List.forall_mem_flatMap.1 h p hp)

/-- The parameters behind a name are indented. -/
theorem Parameter.layoutCall_indentedBy {ps : List Parameter} (h : Unbroken (ps.flatMap texts)) :
    IndentedBy k (layoutCall (depth + k) ps) (layoutCall depth ps) :=
  ((IndentedBy.mark "(" (by decide)).append (layoutList_indentedBy k depth h)).append
    (.mark ")" (by decide))

/-- The names of parameters are indented. -/
theorem Parameter.layoutNames_indentedBy {ps : List Parameter}
    (h : Unbroken (ps.map fun p => .name p.identifier)) :
    IndentedBy k (layoutNames (depth + k) ps) (layoutNames depth ps) :=
  sequence_indentedBy fun _ hp => .name (List.forall_mem_map.1 h _ hp)

/-- A result is indented. -/
theorem Result.layout_indentedBy {r : Result} (h : Unbroken r.texts) :
    IndentedBy k (r.layout (depth + k)) (r.layout depth) := by
  cases r with
  | abstraction a => exact Abstraction.layout_indentedBy k depth a h
  | parameters ps => exact Parameter.layoutCall_indentedBy k depth h

/-! ## Members of interfaces -/

/-- A constant is indented. -/
theorem Constant.layout_indentedBy {c : Constant} (h : Unbroken c.texts) :
    IndentedBy k (c.layout (depth + k)) (c.layout depth) := by
  obtain ⟨hi, ha⟩ := List.forall_mem_cons.1 h
  have hcall : IndentedBy k [.mark "(", .mark ")", .space] [.mark "(", .mark ")", .space] :=
    .of_not_mem (by decide)
  exact ((IndentedBy.name hi).append hcall).append (Abstraction.layout_indentedBy k depth _ ha)

/-- A constructor is indented. -/
theorem Constructor.layout_indentedBy {c : Constructor} (h : Unbroken c.texts) :
    IndentedBy k (c.layout (depth + k)) (c.layout depth) := by
  simp only [texts, Unbroken, List.forall_mem_append, List.forall_mem_cons] at h
  obtain ⟨⟨hi, hps⟩, ha⟩ := h
  have hcall := (IndentedBy.name hi).append (Parameter.layoutCall_indentedBy k depth hps)
  exact hcall.append (IndentedBy.space.append (Abstraction.layout_indentedBy k depth _ ha))

/-- A function is indented. -/
theorem Function.layout_indentedBy {f : Function} (h : Unbroken f.texts) :
    IndentedBy k (f.layout (depth + k)) (f.layout depth) := by
  simp only [texts, Unbroken, List.forall_mem_append, List.forall_mem_cons] at h
  obtain ⟨⟨hi, hps⟩, hr⟩ := h
  have hcall := (IndentedBy.name hi).append (Parameter.layoutCall_indentedBy k depth hps)
  exact hcall.append (IndentedBy.space.append (Result.layout_indentedBy k depth hr))

/-- A method is indented. -/
theorem Method.layout_indentedBy {m : Method} (h : Unbroken m.texts) :
    IndentedBy k (m.layout (depth + k)) (m.layout depth) := by
  obtain ⟨i, ps, result⟩ := m
  simp only [texts, Unbroken, List.forall_mem_append, List.forall_mem_cons,
    List.forall_mem_flatMap, Option.mem_toList] at h
  obtain ⟨⟨hi, hps⟩, hr⟩ := h
  have hcall := (IndentedBy.name hi).append
    (Parameter.layoutCall_indentedBy k depth (List.forall_mem_flatMap.2 hps))
  cases result with
  | none => exact hcall.append .nil
  | some r =>
    exact hcall.append (IndentedBy.space.append (Result.layout_indentedBy k depth (hr r rfl)))

/-- An attribute is indented. -/
theorem Attribute.layout_indentedBy {a : Attribute} (h : Unbroken a.texts) :
    IndentedBy k (a.layout (depth + k)) (a.layout depth) := by
  obtain ⟨i, parameter, abstraction⟩ := a
  simp only [texts, Unbroken, List.forall_mem_append, List.forall_mem_cons,
    List.forall_mem_flatMap, Option.mem_toList] at h
  obtain ⟨⟨hi, hp⟩, ha⟩ := h
  have hname : IndentedBy k [.name i, .mark "("] [.name i, .mark "("] :=
    (IndentedBy.name hi).append (.mark "(" (by decide))
  have hparameter : IndentedBy k ((parameter.map (Parameter.layout (depth + k))).getD [])
      ((parameter.map (Parameter.layout depth)).getD []) :=
    optional_related .nil fun p hmem => Parameter.layout_indentedBy k depth (hp p hmem)
  have hclose : IndentedBy k [.mark ")"] [.mark ")"] := .mark ")" (by decide)
  cases abstraction with
  | none => exact hname.append (hparameter.append hclose)
  | some b =>
    have habstraction := Abstraction.layout_indentedBy k depth b (ha b rfl)
    exact hname.append (hparameter.append (hclose.append (IndentedBy.space.append habstraction)))

/-! ## Fragments and nodes -/

/-- The texts of a fragment. -/
def Fragment.texts : Fragment → List Lexeme
  | abstraction a => a.texts
  | arguments as => as.flatMap Abstraction.texts
  | parameter p => p.texts
  | parameters ps => ps.flatMap Parameter.texts
  | parameterNames ps => ps.map fun p => .name p.identifier
  | result r => r.texts
  | constant c => c.texts
  | constructor c => c.texts
  | function f => f.texts
  | method m => m.texts
  | attributeMethod a => a.texts

/-- Every fragment is indented. -/
theorem Fragment.layout_indentedBy {x : Fragment} (h : Unbroken x.texts) :
    IndentedBy k (x.layout (depth + k)) (x.layout depth) := by
  cases x with
  | abstraction a => exact Abstraction.layout_indentedBy k depth a h
  | arguments as => exact Abstraction.layoutList_indentedBy k depth h
  | parameter p => exact Parameter.layout_indentedBy k depth h
  | parameters ps => exact Parameter.layoutList_indentedBy k depth h
  | parameterNames ps => exact Parameter.layoutNames_indentedBy k depth h
  | result r => exact Result.layout_indentedBy k depth h
  | constant c => exact Constant.layout_indentedBy k depth h
  | constructor c => exact Constructor.layout_indentedBy k depth h
  | function f => exact Function.layout_indentedBy k depth h
  | method m => exact Method.layout_indentedBy k depth h
  | attributeMethod a => exact Attribute.layout_indentedBy k depth h

/-- Indents and dedents are balanced, and the indentation is uniform.  From any state a routine ends
at the depth at which it began, keeps the text that is there, and performs no dedent where the
depth is zero.  A fragment is written in its layout; at any depth, this is what is written at depth
zero with so many tabs behind each line end, unless there is a line end in one of its texts.  A
document is written as its canonical text, whatever the formatter has been used for. -/
theorem Formatter.indentation_balanced :
    (∀ (n : Node) (f : Formatter),
      f.run n.routine = ⟨f.depth, f.buffer ++ n.routine.written f.depth⟩ ∧
        ∀ before after, n.routine = before ++ .dedent :: after → 0 < (f.run before).depth) ∧
    (∀ (x : Fragment) (depth : Nat),
      x.routine.written depth = (x.layout depth).render ∧
        (Unbroken x.texts → x.routine.written depth = indented depth (x.routine.written 0))) ∧
    ∀ (d : Document) (f : Formatter), f.format d.routine = (d.canonicalText, new) := by
  refine ⟨fun n f => ⟨?_, ?_⟩, fun x depth => ⟨?_, fun h => ?_⟩, fun d f => ?_⟩
  · rw [run_eq, n.routine_balanced.depth_run]
  · exact fun before after hr => n.routine_balanced.depth_pos f hr
  · exact (x.routine_writes depth).written
  · have hlayout := Fragment.layout_indentedBy depth 0 h
    rw [Nat.zero_add] at hlayout
    rw [(x.routine_writes depth).written, (x.routine_writes 0).written]
    exact hlayout
  · have hdepth : (run new d.routine).depth = 0 := d.routine_writes.balanced.depth_run new
    have htext : (run new d.routine).buffer = d.canonicalText := d.routine_writes.written
    exact Prod.ext htext (congrArg (Formatter.mk · "") hdepth)

/-- Lists within lists, on lines of their own, and the last dedent. -/
theorem Formatter.indentation_balanced_nested :
    let array : Abstraction := .mk (some .array) "A" [.named "X", .named "Y", .named "Z"]
    let x : Fragment := .method ⟨"m", [⟨"a", array⟩, ⟨"b", .named "B"⟩, ⟨"c", .named "C"⟩], none⟩
    x.routine = x.routine.take 33 ++ .dedent :: x.routine.drop 34 ∧
      0 < (new.run (x.routine.take 33)).depth ∧
      Unbroken x.texts ∧
      x.routine.written 1 =
        "m(\n\t\ta []A[\n\t\t\tX,\n\t\t\tY,\n\t\t\tZ,\n\t\t],\n\t\tb B,\n\t\tc C,\n\t)" ∧
      x.routine.written 1 = indented 1 (x.routine.written 0) := by
  intro array x
  have hdedent : x.routine = x.routine.take 33 ++ .dedent :: x.routine.drop 34 := by decide
  have h : Unbroken x.texts := by decide
  exact ⟨hdedent, (indentation_balanced.1 (.fragment x) new).2 _ _ hdedent, h, by decide,
    (indentation_balanced.2.1 x 1).2 h⟩

end PackageModel
