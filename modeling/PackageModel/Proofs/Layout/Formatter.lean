import Mathlib.Data.List.Forall2
import PackageModel.Layout.Formatter
import PackageModel.Proofs.Layout.Renders

/-!
# PackageModel.Proofs.Layout.Formatter

What routines do to a formatter.  The indents and dedents of a routine are balanced, so that it ends
at the depth at which it began and lowers no depth that is zero; and what it writes on the way is
the text of the layout.
-/

namespace PackageModel

open Formatter

namespace Formatter

variable {f : Formatter} {a : Action} {r s : Routine}

@[simp] theorem run_nil : f.run [] = f := rfl

@[simp] theorem run_cons : f.run (a :: r) = (f.perform a).run r := rfl

@[simp] theorem depth_indent : (f.perform .indent).depth = f.depth + 1 := rfl

@[simp] theorem depth_dedent : (f.perform .dedent).depth = f.depth - 1 := rfl

@[simp] theorem run_append : f.run (r ++ s) = (f.run r).run s := List.foldl_append

/-- What a routine does depends on the depth only, and it adds to the text that is there. -/
theorem run_eq (f : Formatter) (r : Routine) :
    f.run r = ⟨(run ⟨f.depth, ""⟩ r).depth, f.buffer ++ r.written f.depth⟩ := by
  induction r generalizing f with
  | nil => simp [Routine.written]
  | cons a r ih =>
    have hwritten : Routine.written f.depth (a :: r) = (run (perform ⟨f.depth, ""⟩ a) r).buffer :=
      rfl
    rw [hwritten, run_cons, run_cons, ih, ih (perform ⟨f.depth, ""⟩ a)]
    cases a with
    | push _ | newline => simp [perform, String.append_assoc]
    | indent | dedent => simp [perform]

end Formatter

/-! ## Balanced routines -/

namespace Routine

/-- Every indent has a dedent behind it, and what stands between them is balanced as well. -/
inductive Balanced : Routine → Prop
  | nil : Balanced []
  | push {r} (text : String) (h : Balanced r) : Balanced (.push text :: r)
  | newline {r} (h : Balanced r) : Balanced (.newline :: r)
  | indented {r s} (h : Balanced r) (hs : Balanced s) :
      Balanced (.indent :: (r ++ .dedent :: s))

variable {r s : Routine} {depth : Nat}

/-- Balanced routines one behind the other are balanced. -/
theorem Balanced.append (h : Balanced r) (hs : Balanced s) : Balanced (r ++ s) := by
  induction h with
  | nil => exact hs
  | push text _ ih => exact .push text ih
  | newline _ ih => exact .newline ih
  | indented hr _ _ ih =>
    rw [List.cons_append, List.append_assoc, List.cons_append]
    exact .indented hr ih

/-- A balanced routine ends at the depth at which it began. -/
theorem Balanced.depth_run (h : Balanced r) (f : Formatter) : (f.run r).depth = f.depth := by
  induction h generalizing f with
  | nil => rfl
  | push _ _ ih | newline _ ih => exact ih _
  | indented _ _ ihr ihs => simp [ihr, ihs]

/-- A balanced routine lowers no depth that is zero. -/
theorem Balanced.depth_pos {before after : Routine} (h : Balanced r) (f : Formatter)
    (hr : r = before ++ .dedent :: after) : 0 < (f.run before).depth := by
  induction h generalizing f before after with
  | nil => simp at hr
  | push _ _ ih | newline _ ih =>
    cases before with
    | nil => cases hr
    | cons a before =>
      obtain ⟨rfl, htail⟩ := List.cons.inj hr
      simpa using ih _ htail
  | @indented r s hbalanced _ ihr ihs =>
    cases before with
    | nil => cases hr
    | cons a before =>
      obtain ⟨rfl, htail⟩ := List.cons.inj hr
      -- the dedent behind `before` is the one between `r` and `s`, or one of theirs
      have hmiddle : 0 < ((f.perform .indent).run r).depth := by simp [hbalanced.depth_run]
      rcases List.append_eq_append_iff.1 htail with ⟨t, rfl, ht⟩ | ⟨t, rfl, ht⟩
      · cases t with
        | nil => simpa using hmiddle
        | cons a t =>
          obtain ⟨rfl, hs⟩ := List.cons.inj ht
          simpa using ihs _ hs
      · cases t with
        | nil => simpa using hmiddle
        | cons a t =>
          obtain ⟨rfl, -⟩ := List.cons.inj ht
          simpa using ihr _ rfl

/-- A balanced routine ends where it began, so what stands behind it is written at the same
depth. -/
theorem written_append (h : Balanced r) :
    (r ++ s).written depth = r.written depth ++ s.written depth := by
  rw [written, run_append, run_eq, h.depth_run]
  rfl

/-! ## Routines and layouts -/

/-- At the given depth the balanced routine writes the text of the layout. -/
structure Writes (depth : Nat) (r : Routine) (l : Layout) : Prop where
  balanced : r.Balanced
  written : r.written depth = l.render

namespace Writes

variable {l m : Layout}

/-- Nothing is written for nothing. -/
theorem nil : Writes depth [] [] := ⟨.nil, rfl⟩

/-- A text that stands for several pieces. -/
theorem push {text : String} (l : Layout) (h : l.render = text) : Writes depth [.push text] l :=
  ⟨.push text .nil, (String.empty_append (s := text)).trans h.symm⟩

/-- A token is written as its text. -/
theorem token (l : Lexeme) : Writes depth [.push l.value] [.token l] :=
  push _ Layout.render_singleton

/-- A name is written as it is. -/
theorem name (i : String) : Writes depth [.push i] [.name i] := token (.name i)

/-- A mark is written as it is. -/
theorem mark (m : String) : Writes depth [.push m] [.mark m] := token (.mark m)

/-- A note is written as it is. -/
theorem note (n : String) : Writes depth [.push n] [.note n] := token ⟨.note, n⟩

/-- A space is written as it is. -/
theorem space : Writes depth [.push " "] [.space] := push _ Layout.render_singleton

/-- A new line starts with as many tabs as the depth is. -/
theorem newline : Writes depth [.newline] [.line depth] :=
  ⟨.newline .nil, String.empty_append.trans (Layout.render_singleton (p := .line depth)).symm⟩

/-- Routines one behind the other write layouts one behind the other. -/
theorem append (h : Writes depth r l) (hs : Writes depth s m) : Writes depth (r ++ s) (l ++ m) :=
  ⟨h.balanced.append hs.balanced, by
    rw [written_append h.balanced, h.written, hs.written, Layout.render_append]⟩

/-- What stands deeper is written in front of the dedent. -/
theorem indented (h : Writes (depth + 1) r l) : Writes depth (.indent :: (r ++ [.dedent])) l where
  balanced := .indented h.balanced .nil
  written := by
    have hindent : Routine.written depth (.indent :: (r ++ [.dedent])) =
        Routine.written (depth + 1) (r ++ [.dedent]) := rfl
    rw [hindent, written_append h.balanced, h.written]
    exact String.append_empty

end Writes

/-! ## Lists -/

section

variable {α : Type} {as : List α} {g : α → Routine} {f : α → Layout} {l : Layout}

/-- Routines for the items of a list write the layouts of the items. -/
theorem flatMap_writes (h : ∀ a ∈ as, Writes depth (g a) (f a)) :
    Writes depth (as.flatMap g) (as.flatMap f) := flatMap_related .nil .append h

/-- Routines for the items of a list, with a separator between them, write their layouts with
one. -/
theorem intercalate_writes (hs : Writes depth s l) (h : ∀ a ∈ as, Writes depth (g a) (f a)) :
    Writes depth (s.intercalate (as.map g)) (l.intercalate (as.map f)) :=
  intercalate_related .nil .append hs h

/-- A list with commas; its items stand deeper if they have lines of their own. -/
theorem sequence_writes (h : ∀ a ∈ as, Writes (Layout.itemDepth depth as.length) (g a) (f a)) :
    Writes depth (sequence (as.map g)) (Layout.sequence depth (as.map f)) := by
  unfold sequence Layout.sequence
  unfold Layout.itemDepth at h
  rw [List.length_map, List.length_map]
  split at h
  · next hlong =>
    have hitems := intercalate_writes ((Writes.mark ",").append .newline) h
    have hbody := ((Writes.newline.append hitems).append (.mark ",")).indented.append .newline
    simpa [hlong] using hbody
  · next hshort =>
    simpa [hshort] using intercalate_writes ((Writes.mark ",").append .space) h

/-- Brackets are written around items, and not if there are none. -/
theorem bracketed_writes (h : ∀ a ∈ as, Writes (Layout.itemDepth depth as.length) (g a) (f a)) :
    Writes depth (bracketed (as.map g)) (Layout.bracketed depth (as.map f)) := by
  have hbracketed := ((Writes.mark "[").append (sequence_writes h)).append (.mark "]")
  unfold bracketed Layout.bracketed
  cases as with
  | nil => exact .nil
  | cons a as => simpa using hbracketed

/-- A note on a line of its own. -/
theorem note_writes (note : String) :
    Writes depth [.newline, .push note, .newline] [.line depth, .note note, .line depth] :=
  (Writes.newline.append (.note note)).append .newline

/-- The note of a section and its items are written on lines of their own. -/
theorem titled_writes (note : String) (h : ∀ a ∈ as, Writes depth (g a) (f a)) :
    Writes depth (titled note (as.map g)) (Layout.titled depth note (as.map f)) := by
  have hitems := flatMap_writes fun a ha => Writes.newline.append (h a ha)
  have htitled := (Writes.newline.append (.note note)).append hitems
  simpa [titled, Layout.titled, List.flatMap_map] using htitled

/-- A block of declarations is written with blank lines between them, and not if there are none. -/
theorem block_writes (note : String) (h : ∀ a ∈ as, Writes 0 (g a) (f a)) :
    Writes 0 (block note (as.map g)) (Layout.declarationBlock note f as) := by
  have hitems := flatMap_writes fun a ha => (h a ha).append .newline
  have hblock := (note_writes note).append hitems
  unfold block Layout.declarationBlock
  rw [List.isEmpty_map]
  split
  · exact .nil
  · simpa [List.flatMap_map] using hblock

/-! ## Sections of interfaces -/

/-- The note and the items are those of the section. -/
structure WritesSection (part : String × List Routine) (l : Layout) : Prop where
  isEmpty : part.2.isEmpty = l.isEmpty
  writes : Writes 1 (if part.2.isEmpty then [] else titled part.1 part.2) l

/-- The members of an interface and the note above them are a section of it. -/
theorem memberSection_writes (note : String) {f : Nat → α → Layout}
    (h : ∀ a ∈ as, Writes 1 (g a) (f 1 a)) :
    WritesSection (note, as.map g) (Layout.memberSection note f as) := by
  have htitled := titled_writes note h
  unfold Layout.memberSection
  cases as with
  | nil => exact ⟨rfl, .nil⟩
  | cons a as => exact ⟨rfl, htitled⟩

variable {parts : List (String × List Routine)} {ls : List Layout}

/-- Behind other sections there is a blank line in front of each one. -/
theorem sections_behind_writes (h : List.Forall₂ WritesSection parts ls) :
    Writes 1 (sections true parts) ((ls.filter (!·.isEmpty)).flatMap (.line 0 :: ·)) := by
  have hblank : Writes 1 [.push "\n"] [.line 0] := .push _ rfl
  induction h with
  | nil => exact .nil
  | @cons part l parts ls hpart _ ih =>
    obtain ⟨hempty, hwrites⟩ := hpart
    rw [hempty] at hwrites
    rw [sections, hempty, Bool.true_or]
    cases l with
    | nil => simpa using ih
    | cons p l => simpa using (hblank.append hwrites).append ih

/-- The sections that are not empty are written with a blank line between them. -/
theorem sections_writes (h : List.Forall₂ WritesSection parts ls) :
    Writes 1 (sections false parts) (Layout.separated ls) := by
  induction h with
  | nil => exact .nil
  | @cons part l parts ls hpart hparts ih =>
    obtain ⟨hempty, hwrites⟩ := hpart
    have hbehind := sections_behind_writes hparts
    rw [hempty] at hwrites
    rw [sections, hempty, Bool.false_or]
    cases l with
    | nil => simpa [Layout.separated] using ih
    | cons p l => simpa [Layout.separated, intercalate_cons] using hwrites.append hbehind

end

end Routine

open Routine

variable (depth : Nat)

/-! ## Uses of types -/

/-- A prefix is written in its layout. -/
theorem Prefix.routine_writes (q : Prefix) : Writes depth q.routine q.layout := by
  cases q with
  | array => exact .push _ rfl
  | channel => exact .push _ rfl
  | aliased name => exact (Writes.name name).append (.mark ".")
  | map key =>
    have hmap : Writes depth [.push "map["] [.keyword "map", .mark "["] := .push _ rfl
    exact (hmap.append (.name key)).append (.mark "]")

/-- The routines for a list are those for its members. -/
theorem Abstraction.routines_eq_map (as : List Abstraction) : routines as = as.map routine := by
  induction as with
  | nil => rw [routines, List.map_nil]
  | cons a as ih => rw [routines, ih, List.map_cons]

mutual

/-- An abstraction is written in its layout, at any depth. -/
theorem Abstraction.routine_writes (depth : Nat) :
    (a : Abstraction) → Writes depth a.routine (a.layout depth)
  | .mk q i as => by
    have hqualifier : Writes depth ((q.map Prefix.routine).getD [])
        ((q.map Prefix.layout).getD []) :=
      optional_related .nil fun p _ => p.routine_writes depth
    have harguments := bracketed_writes (routines_write (Layout.itemDepth depth as.length) as)
    rw [routine, layout, routines_eq_map, layouts_eq_map]
    exact hqualifier.append ((Writes.name i).append harguments)

/-- The same holds for arguments, one by one. -/
theorem Abstraction.routines_write (depth : Nat) :
    (as : List Abstraction) → ∀ a ∈ as, Writes depth a.routine (a.layout depth)
  | [] => nofun
  | a :: as => List.forall_mem_cons.2 ⟨routine_writes depth a, routines_write depth as⟩

end

/-- Arguments are written in the layout of the list. -/
theorem Abstraction.routineList_writes (as : List Abstraction) :
    Writes depth (routineList as) (layoutList depth as) := by
  rw [routineList, layoutList, routines_eq_map, layouts_eq_map]
  exact sequence_writes fun a _ => routine_writes _ a

/-- A parameter is written in its layout. -/
theorem Parameter.routine_writes (p : Parameter) : Writes depth p.routine (p.layout depth) :=
  ((Writes.name p.identifier).append .space).append (Abstraction.routine_writes depth _)

/-- Parameters are written in the layout of the list. -/
theorem Parameter.routineList_writes (ps : List Parameter) :
    Writes depth (routineList ps) (layoutList depth ps) :=
  sequence_writes fun p _ => p.routine_writes _

/-- The names of parameters are written in the layout of their list. -/
theorem Parameter.routineNames_writes (ps : List Parameter) :
    Writes depth (routineNames ps) (layoutNames depth ps) :=
  sequence_writes fun p _ => .name p.identifier

/-- A result is written in its layout. -/
theorem Result.routine_writes (r : Result) : Writes depth r.routine (r.layout depth) := by
  cases r with
  | abstraction a => exact Abstraction.routine_writes depth a
  | parameters ps =>
    exact ((Writes.mark "(").append (Parameter.routineList_writes depth ps)).append (.mark ")")

/-! ## Members of interfaces -/

/-- A constant is written in its layout. -/
theorem Constant.routine_writes (c : Constant) : Writes depth c.routine (c.layout depth) := by
  have hcall : Writes depth [.push "() "] [.mark "(", .mark ")", .space] := .push _ rfl
  exact ((Writes.name c.identifier).append hcall).append (Abstraction.routine_writes depth _)

/-- A name and parameters in front of the closing parenthesis. -/
theorem call_writes (i : String) (ps : List Parameter) :
    Writes depth (.push i :: .push "(" :: Parameter.routineList ps)
      (.name i :: .mark "(" :: Parameter.layoutList depth ps) :=
  ((Writes.name i).append (.mark "(")).append (Parameter.routineList_writes depth ps)

/-- The closing parenthesis in front of a result. -/
theorem close_writes : Writes depth [.push ") "] [.mark ")", .space] := .push _ rfl

/-- A constructor is written in its layout. -/
theorem Constructor.routine_writes (c : Constructor) :
    Writes depth c.routine (c.layout depth) := by
  have hcall := call_writes depth c.identifier c.parameters
  have habstraction := Abstraction.routine_writes depth c.abstraction
  simpa [routine, layout, Parameter.layoutCall] using
    hcall.append ((close_writes depth).append habstraction)

/-- A function is written in its layout. -/
theorem Function.routine_writes (f : Function) : Writes depth f.routine (f.layout depth) := by
  have hcall := call_writes depth f.identifier f.parameters
  have hresult := f.result.routine_writes depth
  simpa [routine, layout, Parameter.layoutCall] using
    hcall.append ((close_writes depth).append hresult)

/-- A method is written in its layout. -/
theorem Method.routine_writes (m : Method) : Writes depth m.routine (m.layout depth) := by
  obtain ⟨i, ps, result⟩ := m
  have hcall := (call_writes depth i ps).append (.mark ")")
  cases result with
  | none => simpa [routine, layout, Parameter.layoutCall] using hcall
  | some r =>
    have hresult := Writes.space.append (r.routine_writes depth)
    simpa [routine, layout, Parameter.layoutCall] using hcall.append hresult

/-- An attribute is written in its layout. -/
theorem Attribute.routine_writes (a : Attribute) : Writes depth a.routine (a.layout depth) := by
  obtain ⟨i, parameter, abstraction⟩ := a
  have hparameter : Writes depth ((parameter.map Parameter.routine).getD [])
      ((parameter.map (Parameter.layout depth)).getD []) :=
    optional_related .nil fun p _ => p.routine_writes depth
  have hcall := (((Writes.name i).append (.mark "(")).append hparameter).append (.mark ")")
  cases abstraction with
  | none => simpa [routine, layout] using hcall
  | some b =>
    have habstraction := Writes.space.append (b.routine_writes depth)
    simpa [routine, layout] using hcall.append habstraction

/-! ## Declarations -/

/-- A declaration is written in its layout, always at depth zero. -/
theorem Declaration.routine_writes (d : Declaration) : Writes 0 d.routine d.layout := by
  have hcomment : Writes 0 [.push d.comment] [.comment d.comment] := .token ⟨.comment, d.comment⟩
  have htype : Writes 0 [.push "type "] [.keyword "type", .space] := .push _ rfl
  have hparameters : Writes 0 (bracketed (d.parameters.map Parameter.routine))
      (Layout.bracketed 0 (d.parameters.map
        (Parameter.layout (Layout.itemDepth 0 d.parameters.length)))) :=
    bracketed_writes fun p _ => p.routine_writes _
  exact (((Writes.newline.append hcomment).append htype).append (.name d.identifier)).append
    hparameters

/-- The values of an enumeration, each but the first on a line of its own. -/
def Values.layoutLines (depth : Nat) (v : Values) : Layout :=
  v.parameter.layout depth ++ [.space, .mark "=", .space, .keyword "iota"] ++
    v.identifiers.flatMap fun i => [.line depth, .name i]

/-- The values of an enumeration are written in their layout. -/
theorem Values.routine_writes (v : Values) : Writes depth v.routine (v.layoutLines depth) := by
  have hiota : Writes depth [.push " = iota"] [.space, .mark "=", .space, .keyword "iota"] :=
    .push _ rfl
  have hlines : Writes depth (v.identifiers.flatMap fun i => [.newline, .push i])
      (v.identifiers.flatMap fun i => [.line depth, .name i]) :=
    flatMap_writes fun i _ => Writes.newline.append (.name i)
  simpa [routine, layoutLines] using ((v.parameter.routine_writes depth).append hiota).append hlines

/-- An enumeration behind a blank line. -/
theorem Values.routineEnumeration_writes (v : Values) :
    Writes 0 (.newline :: v.routineEnumeration) v.layout := by
  have hconst : Writes 0 [.push "const ("] [.keyword "const", .space, .mark "("] := .push _ rfl
  have hvalues := (Writes.newline.append (v.routine_writes 1)).indented
  have hhead := (Writes.newline.append .newline).append hconst
  have hend : Writes 0 [.newline, .push ")"] [.line 0, .mark ")"] :=
    Writes.newline.append (.mark ")")
  simpa [routineEnumeration, layout, layoutLines] using (hhead.append hvalues).append hend

/-- A specialization is written in its layout; an enumeration comes back to the depth of its
declaration. -/
theorem Specialization.routine_writes (s : Specialization) : Writes 0 s.routine s.layout := by
  obtain ⟨d, a, enumeration⟩ := s
  have hhead := (d.routine_writes.append .space).append (Abstraction.routine_writes 0 a)
  cases enumeration with
  | none => simpa [routine, layout] using hhead
  | some v => simpa [routine, layout] using hhead.append v.routineEnumeration_writes

/-- A functional is written in its layout. -/
theorem Functional.routine_writes (f : Functional) : Writes 0 f.routine f.layout := by
  have hfunc : Writes 0 [.push " func("] [.space, .keyword "func", .mark "("] := .push _ rfl
  have hhead := (f.declaration.routine_writes.append hfunc).append
    (Parameter.routineList_writes 0 f.parameters)
  have hresult := (close_writes 0).append (f.result.routine_writes 0)
  simpa [routine, layout, Parameter.layoutCall] using hhead.append hresult

/-! ## Interfaces -/

/-- An interface is opened and closed at the same depth, whichever of its sections are empty. -/
theorem Declaration.routineInterface_writes (d : Declaration) {parts : List (String × List Routine)}
    {ls : List Layout} (h : List.Forall₂ WritesSection parts ls) :
    Writes 0 (d.routineInterface parts) (d.layoutInterface ls) := by
  have hopen : Writes 0 [.push " interface \x7b"]
      [.space, .keyword "interface", .space, .mark "\x7b"] := .push _ rfl
  have hbody := (sections_writes h).indented
  have hclose : Writes 0 [.newline, .push "\x7d"] [.line 0, .mark "\x7d"] :=
    Writes.newline.append (.mark "\x7d")
  simpa [routineInterface, routineOpen, close, layoutInterface] using
    ((d.routine_writes.append hopen).append hbody).append hclose

/-- An aspect is written in its layout. -/
theorem Aspect.routine_writes (a : Aspect) : Writes 0 a.routine a.layout := by
  have hmethods := memberSection_writes "// Methods" fun m (_ : m ∈ a.methods) => m.routine_writes 1
  exact a.declaration.routineInterface_writes (.cons hmethods .nil)

/-- A class is written in its layout. -/
theorem Class.routine_writes (c : Class) : Writes 0 c.routine c.layout := by
  have hconstants := memberSection_writes "// Constants" fun k (_ : k ∈ c.constants) =>
    k.routine_writes 1
  have hconstructors := memberSection_writes "// Constructors" fun k (_ : k ∈ c.constructors) =>
    k.routine_writes 1
  have hfunctions := memberSection_writes "// Functions" fun f (_ : f ∈ c.functions) =>
    f.routine_writes 1
  exact c.declaration.routineInterface_writes
    (.cons hconstants (.cons hconstructors (.cons hfunctions .nil)))

/-- An instance is written in its layout. -/
theorem Instance.routine_writes (i : Instance) : Writes 0 i.routine i.layout := by
  have hattributes := memberSection_writes "// Attributes" fun a (_ : a ∈ i.attributes) =>
    a.routine_writes 1
  have habstractions := memberSection_writes "// Abstractions" fun a (_ : a ∈ i.abstractions) =>
    Abstraction.routine_writes 1 a
  have hmethods := memberSection_writes "// Methods" fun m (_ : m ∈ i.methods) => m.routine_writes 1
  exact i.declaration.routineInterface_writes
    (.cons hattributes (.cons habstractions (.cons hmethods .nil)))

/-! ## Documents -/

/-- A module is written in its layout. -/
theorem Module.routine_writes (m : Module) : Writes depth m.routine m.layout :=
  ((Writes.name m.identifier).append .space).append (.token ⟨.text, m.text⟩)

/-- Imports are written in their layout. -/
theorem Module.routineImports_writes (ms : List Module) :
    Writes 0 (routineImports ms) (layoutImports ms) := by
  have hopen : Writes 0 [.push "import ("] [.keyword "import", .space, .mark "("] := .push _ rfl
  have hmodules : Writes 1 (ms.flatMap fun m => .newline :: m.routine)
      (ms.flatMap fun m => .line 1 :: m.layout) :=
    flatMap_writes fun m _ => Writes.newline.append (m.routine_writes 1)
  have hclose : Writes 0 [.push ")", .newline] [.mark ")", .line 0] :=
    (Writes.mark ")").append .newline
  unfold routineImports layoutImports
  split
  · simpa using (Writes.newline.append hopen).append hclose
  · have hbody := (hmodules.indented.append .newline).append hclose
    simpa using (Writes.newline.append hopen).append hbody

/-- Types are written in their layout. -/
theorem Types.routine_writes (t : Types) : Writes 0 t.routine t.layout := by
  have hspecializations := block_writes "// Specializations"
    fun s (_ : s ∈ t.specializations) => s.routine_writes
  have hfunctionals := block_writes "// Functionals"
    fun f (_ : f ∈ t.functionals) => f.routine_writes
  exact ((note_writes "// TYPES").append hspecializations).append hfunctionals

/-- Interfaces are written in their layout. -/
theorem Interfaces.routine_writes (i : Interfaces) : Writes 0 i.routine i.layout := by
  have haspects := block_writes "// Aspects" fun a (_ : a ∈ i.aspects) => a.routine_writes
  have hclasses := block_writes "// Classes" fun c (_ : c ∈ i.classes) => c.routine_writes
  have hinstances := block_writes "// Instances" fun j (_ : j ∈ i.instances) => j.routine_writes
  exact (((note_writes "// INTERFACES").append haspects).append hclasses).append hinstances

/-- A document is written in its layout. -/
theorem Document.routine_writes (d : Document) : Writes 0 d.routine d.layout := by
  have hnotice : Writes 0 [.push d.notice] [.comment d.notice] := .token ⟨.comment, d.notice⟩
  have hcomment : Writes 0 [.push d.header.comment] [.comment d.header.comment] :=
    .token ⟨.comment, d.header.comment⟩
  have hpackage : Writes 0 [.push "package "] [.keyword "package", .space] := .push _ rfl
  have hhead := (((hnotice.append hcomment).append hpackage).append
    (.name d.header.identifier)).append .newline
  have himports : Writes 0 ((d.imports.map Module.routineImports).getD [])
      ((d.imports.map Module.layoutImports).getD []) :=
    optional_related .nil fun ms _ => Module.routineImports_writes ms
  have htypes : Writes 0 ((d.types.map Types.routine).getD [])
      ((d.types.map Types.layout).getD []) :=
    optional_related .nil fun t _ => t.routine_writes
  have hinterfaces : Writes 0 ((d.interfaces.map Interfaces.routine).getD [])
      ((d.interfaces.map Interfaces.layout).getD []) :=
    optional_related .nil fun i _ => i.routine_writes
  exact ((hhead.append himports).append htypes).append hinterfaces

/-! ## Fragments and nodes -/

/-- Every fragment is written in its layout, at any depth. -/
theorem Fragment.routine_writes (x : Fragment) : Writes depth x.routine (x.layout depth) := by
  cases x with
  | abstraction a => exact Abstraction.routine_writes depth a
  | arguments as => exact Abstraction.routineList_writes depth as
  | parameter p => exact p.routine_writes depth
  | parameters ps => exact Parameter.routineList_writes depth ps
  | parameterNames ps => exact Parameter.routineNames_writes depth ps
  | result r => exact r.routine_writes depth
  | constant c => exact c.routine_writes depth
  | constructor c => exact c.routine_writes depth
  | function f => exact f.routine_writes depth
  | method m => exact m.routine_writes depth
  | attributeMethod a => exact a.routine_writes depth

/-- The routine for every node is balanced. -/
theorem Node.routine_balanced (n : Node) : n.routine.Balanced := by
  cases n with
  | fragment x => exact (x.routine_writes 0).balanced
  | qualifier q => exact (q.routine_writes 0).balanced
  | declaration d => exact d.routine_writes.balanced
  | values v => exact (v.routine_writes 0).balanced
  | enumeration v =>
    cases v.routineEnumeration_writes.balanced with
    | newline h => exact h
  | specialization s => exact s.routine_writes.balanced
  | functional f => exact f.routine_writes.balanced
  | aspect a => exact a.routine_writes.balanced
  | classInterface c => exact c.routine_writes.balanced
  | instanceInterface i => exact i.routine_writes.balanced
  | module m => exact (m.routine_writes 0).balanced
  | imports ms => exact (Module.routineImports_writes ms).balanced
  | types t => exact t.routine_writes.balanced
  | interfaces i => exact i.routine_writes.balanced
  | document d => exact d.routine_writes.balanced

end PackageModel
