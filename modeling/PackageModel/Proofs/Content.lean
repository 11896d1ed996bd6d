import Mathlib
import PackageModel.Proofs.Layout.Spells
import PackageModel.Proofs.RoundTrip

/-!
# PackageModel.Proofs.Content

Putting a text into canonical form keeps its content.  Each token of the source that is not a comma
is found again in the canonical text, as often as in the source, and there are no others.  This also
holds of a canonical text that cannot be read again.
-/

namespace PackageModel

open Layout

/-! ## Putting in order -/

section

variable {α : Type} [Ranked α] {note : String}

/-- Sorting does not empty a section. -/
theorem isEmpty_canonicalSort (as : List α) : (canonicalSort as).isEmpty = as.isEmpty :=
  (canonicalSort_perm as).isEmpty_eq

/-- Sorting the members of a section moves their lines. -/
theorem memberSection_perm {layout : Nat → α → Layout} (as : List α) :
    (memberSection note layout (canonicalSort as)).content.Perm
      (memberSection note layout as).content := by
  unfold memberSection
  rw [isEmpty_canonicalSort]
  split
  · exact .refl _
  · have hitems := (canonicalSort_perm as).flatMap_right fun a => (layout 1 a).content
    simpa [content, titled, List.flatMap_map] using hitems

/-- Declarations in another order, each of them perhaps changed in a way that keeps its tokens. -/
theorem declarationBlock_perm (note : String) {layout : α → Layout} {g : α → α}
    (h : ∀ a, (layout (g a)).content.Perm (layout a).content) (as : List α) :
    (declarationBlock note layout (canonicalSort (as.map g))).content.Perm
      (declarationBlock note layout as).content := by
  unfold declarationBlock
  rw [isEmpty_canonicalSort, List.isEmpty_map]
  split
  · exact .refl _
  · have hsort := (canonicalSort_perm (as.map g)).flatMap_right fun a => (layout a).content
    rw [List.flatMap_map] at hsort
    have hitems := hsort.trans (List.Perm.flatMap_left as fun a _ => h a)
    simpa [content] using hitems

end

/-- The sections of an interface are moved one by one. -/
theorem Declaration.layoutInterface_perm (d : Declaration) {ls ms : List Layout}
    (h : List.Forall₂ (fun l m => l.content.Perm m.content) ls ms) :
    (d.layoutInterface ls).content.Perm (d.layoutInterface ms).content := by
  have hsections : (ls.flatMap fun l => l.content).Perm (ms.flatMap fun l => l.content) := by
    induction h with
    | nil => exact .refl _
    | cons hl _ ih => exact hl.append ih
  rw [layoutInterface_content, layoutInterface_content]
  exact (((hsections.cons _).cons _).append_left _).append_right _

/-- The methods of an aspect are moved. -/
theorem Aspect.arranged_perm (a : Aspect) : a.arranged.layout.content.Perm a.layout.content :=
  a.declaration.layoutInterface_perm (.cons (memberSection_perm _) .nil)

/-- The constructors and the functions of a class are moved. -/
theorem Class.arranged_perm (c : Class) : c.arranged.layout.content.Perm c.layout.content :=
  c.declaration.layoutInterface_perm
    (.cons (.refl _) (.cons (memberSection_perm _) (.cons (memberSection_perm _) .nil)))

/-- The methods of an instance are moved. -/
theorem Instance.arranged_perm (i : Instance) :
    i.arranged.layout.content.Perm i.layout.content :=
  i.declaration.layoutInterface_perm
    (.cons (.refl _) (.cons (.refl _) (.cons (memberSection_perm _) .nil)))

/-- The modules of the imports are moved. -/
theorem Module.layoutImports_perm (ms : List Module) :
    (layoutImports (canonicalSort ms)).content.Perm (layoutImports ms).content := by
  unfold layoutImports
  rw [isEmpty_canonicalSort]
  split
  · exact .refl _
  · have hmodules := (canonicalSort_perm ms).flatMap_right fun m => m.layout.content
    simpa [content] using hmodules.append_right _

/-- The declarations of the types are moved. -/
theorem Types.arranged_perm (t : Types) : t.arranged.layout.content.Perm t.layout.content := by
  have hss := declarationBlock_perm "// Specializations" (g := id)
    (fun s => .refl s.layout.content) t.specializations
  have hfs := declarationBlock_perm "// Functionals" (g := id)
    (fun f => .refl f.layout.content) t.functionals
  rw [List.map_id] at hss hfs
  simpa [content, layout, arranged] using hss.append hfs

/-- The interfaces are moved, and what is in them. -/
theorem Interfaces.arranged_perm (i : Interfaces) :
    i.arranged.layout.content.Perm i.layout.content := by
  have has := declarationBlock_perm "// Aspects" Aspect.arranged_perm i.aspects
  have hcs := declarationBlock_perm "// Classes" Class.arranged_perm i.classes
  have his := declarationBlock_perm "// Instances" Instance.arranged_perm i.instances
  simpa [content, layout, arranged] using has.append (hcs.append his)

/-- A part that may be absent. -/
theorem Layout.optional_perm {α : Type} {layout : α → Layout} {g : α → α}
    (h : ∀ a, (layout (g a)).content.Perm (layout a).content) (o : Option α) :
    (((o.map g).map layout).getD []).content.Perm ((o.map layout).getD []).content := by
  cases o with
  | none => exact .refl _
  | some a => exact h a

/-- Putting a document in order moves its tokens. -/
theorem Document.arranged_perm (d : Document) :
    d.arranged.layout.content.Perm d.layout.content := by
  have hms := optional_perm Module.layoutImports_perm d.imports
  have hts := optional_perm Types.arranged_perm d.types
  have his := optional_perm Interfaces.arranged_perm d.interfaces
  simpa [content, layout, arranged] using hms.append (hts.append his)

/-! ## Formatting -/

/-- The tokens of a tidy layout are whole. -/
theorem Layout.Tidy.allWhole {l : Layout} (h : Tidy l) : AllWhole l.lexemes := by
  induction h with
  | nil => exact allWhole_nil
  | space _ ih | line _ ih => exact ih
  | token hl _ _ ih => exact allWhole_cons.2 ⟨hl, ih⟩

namespace Document

open Production (Plain)

variable {d : Document} {source : String}

/-- The canonical text of a document with whole texts is scanned without an error. -/
theorem kind_ne_error_of_canonicalText (h : AllWhole d.texts) :
    ∀ t ∈ tokenize d.canonicalText, t.kind ≠ .error := by
  intro t ht
  have hmem : t.toLexeme ∈ d.layout.lexemes ++ [.eof] := by
    rw [← tokenize_canonicalText h]
    exact List.mem_map_of_mem ht
  rcases List.mem_append.1 hmem with hl | hl
  · exact ((tidy_layout h).allWhole _ hl).kind_ne_error
  · rw [List.mem_singleton.1 hl]
    nofun

/-- Apart from commas, a text that can be derived has the tokens of the layout of its document. -/
theorem withoutCommas_source (h : Plain .source ((tokenize source).map (·.toLexeme)) [] d) :
    withoutCommas ((tokenize source).map (·.toLexeme)) = d.layout.content ++ [.eof] :=
  d.layout_spells (document_of_plain h)

/-- Formatting moves the tokens of the source, and adds or drops nothing but commas. -/
theorem tokenize_canonicalText_perm (h : parse source = .ok d) :
    (∀ t ∈ tokenize d.canonicalText, t.kind ≠ .error) ∧
      (withoutCommas ((tokenize d.canonicalText).map (·.toLexeme))).Perm
        (withoutCommas ((tokenize source).map (·.toLexeme))) := by
  obtain ⟨d₀, hplain, rfl⟩ := plain_of_parse h
  have htexts := allWhole_arranged (allWhole_of_plain hplain)
  refine ⟨kind_ne_error_of_canonicalText htexts, ?_⟩
  rw [withoutCommas_source hplain, tokenize_canonicalText htexts, withoutCommas_append]
  exact d₀.arranged_perm.append_right _

/-- Two methods that change places, so that the canonical text cannot be read again, and a list
that gets another comma. -/
theorem tokenize_canonicalText_perm_chan :
    let p (i : String) : Parameter := ⟨i, .named "a"⟩
    let d := ofMethods [⟨"bar", [], none⟩,
      ⟨"chan", [p "x", p "y", p "z"], some (.abstraction (.named "a"))⟩]
    let source := "/*\n\n*/\n/*\n\n*/\npackage p\n// INTERFACES\n// Aspects\n/*\n\n*/\n" ++
      "type A interface \x7b\n// Methods\nchan(x a, y a, z a) a\nbar()\n\x7d\n"
    parse source = .ok d ∧ (parse d.canonicalText).isOk = false ∧
      (∀ t ∈ tokenize d.canonicalText, t.kind ≠ .error) ∧
      (withoutCommas ((tokenize d.canonicalText).map (·.toLexeme))).Perm
        (withoutCommas ((tokenize source).map (·.toLexeme))) := by
  intro p d source
  have h : parse source = .ok d := by
    unfold source d p ofMethods
    cbv
  have htext : d.canonicalText = "/*\n\n*/\n/*\n\n*/\npackage p\n\n// INTERFACES\n\n" ++
      "// Aspects\n\n/*\n\n*/\ntype A interface \x7b\n\t// Methods\n\tbar()\n" ++
      "\tchan(\n\t\tx a,\n\t\ty a,\n\t\tz a,\n\t) a\n\x7d\n" := by
    decide +kernel
  have hfail : (parse d.canonicalText).isOk = false := by
    rw [htext]
    cbv
  exact ⟨h, hfail, tokenize_canonicalText_perm h⟩

end Document

end PackageModel
