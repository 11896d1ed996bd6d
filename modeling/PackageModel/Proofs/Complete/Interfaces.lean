import PackageModel.Proofs.Complete.Types
import PackageModel.Reading.Interfaces

/-!
# PackageModel.Proofs.Complete.Interfaces

What is derivable is read: interfaces.  A member that lacks a result or an abstraction ends in front
of the next one's name, unless that is a keyword which starts a prefix.
-/

namespace PackageModel

open Reading Stretch
open Production hiding some optional rule comment many identifier mark bracketed titled called
  interface commaList

variable {n : Nat} {w w₁ w₂ rest : List Lexeme}

/-! ## Members -/

/-- A called name of the grammar is read. -/
theorem called_eval {i : String} {ps : List Parameter} {rules : List Rule}
    (h : Called (OrEmpty (Plain .parameters)) i w rest ps) (hn : w.length < n) :
    (called rules n).eval w = some (some (i, ps), rest) := by
  cases h with
  | mk h =>
    simp only [List.length_cons] at hn
    have hparameters := Parameter.readOrEmpty_eval h (n := n) (by omega)
    simp [called, hparameters]

/-- A name with a parameter list is longer than what is left behind it. -/
theorem length_lt_of_called {i : String} {ps : List Parameter}
    (h : Called (OrEmpty (Plain .parameters)) i w rest ps) : rest.length < w.length := by
  cases h with
  | mk h =>
    have hle := Production.length_le_of_orEmpty (fun h => Nat.le_of_lt h.length_lt) h
    simp only [List.length_cons] at hle ⊢
    omega

/-- A constant of the grammar is read, unless what follows could belong to its abstraction. -/
theorem Constant.read_eval {c : Constant} (h : Plain .constant w rest c) (hrest : Follows rest)
    (hn : w.length < n) : (Constant.read n).eval w = some (some c, rest) := by
  obtain ⟨w₁, rfl, ha⟩ := Production.derives_constant.1 h
  simp only [List.length_cons] at hn
  have habstraction := Abstraction.read_eval ha hrest.dot hrest.opening (fun _ => hrest.bracket)
    (n := n) (by omega)
  simp [Constant.read, required, habstraction]

/-- A constructor of the grammar is read, unless what follows could belong to its abstraction. -/
theorem Constructor.read_eval {c : Constructor} (h : Plain .constructor w rest c)
    (hrest : Follows rest) (hn : w.length < n) :
    (Constructor.read n).eval w = some (some c, rest) := by
  obtain ⟨w₁, hc, ha⟩ := Production.derives_constructor.1 h
  have hlt := length_lt_of_called hc
  have habstraction := Abstraction.read_eval ha hrest.dot hrest.opening (fun _ => hrest.bracket)
    (n := n) (by omega)
  simp [Constructor.read, called_eval hc hn, required, habstraction]

/-- A function of the grammar is read, unless what follows could belong to its result. -/
theorem Function.read_eval {f : Function} (h : Plain .function w rest f) (hrest : Follows rest)
    (hn : w.length < n) : (Function.read n).eval w = some (some f, rest) := by
  obtain ⟨w₁, hc, hr⟩ := Production.derives_function.1 h
  have hlt := length_lt_of_called hc
  have hresult := Result.read_eval hr hrest (n := n) (by omega)
  simp [Function.read, called_eval hc hn, required, hresult]

/-- A program for a member without neighbours of its own finds nothing where a section ends. -/
theorem called_left {rules : List Rule} (h : Refuses .identifier w) :
    (called rules n).eval w = some (none, w) := by
  simp [called, identifier?_left h]

/-- Constants of the grammar are read one after the other. -/
theorem Constant.readsSection (n : Nat) :
    ReadsSection (Constant.read n) (Plain .constant) n id (fun _ => True) fun _ _ => True := by
  refine .of_gives (P := Follows) (fun h hrest hn => .of_eval (read_eval h hrest hn))
    (fun hrest => hrest.toFollows) (fun h => follows_of_derives h (by decide)) ?_
    Production.Derives.length_lt
  intro rest hrest
  simp [Constant.read, identifier?_left hrest.identifier]

/-- Constructors of the grammar are read one after the other. -/
theorem Constructor.readsSection (n : Nat) :
    ReadsSection (Constructor.read n) (Plain .constructor) n id (fun _ => True)
      fun _ _ => True := by
  refine .of_gives (P := Follows) (fun h hrest hn => .of_eval (read_eval h hrest hn))
    (fun hrest => hrest.toFollows) (fun h => follows_of_derives h (by decide)) ?_
    Production.Derives.length_lt
  intro rest hrest
  simp [Constructor.read, called_left hrest.identifier]

/-- Functions of the grammar are read one after the other. -/
theorem Function.readsSection (n : Nat) :
    ReadsSection (Function.read n) (Plain .function) n id (fun _ => True) fun _ _ => True := by
  refine .of_gives (P := Follows) (fun h hrest hn => .of_eval (read_eval h hrest hn))
    (fun hrest => hrest.toFollows) (fun h => follows_of_derives h (by decide)) ?_
    Production.Derives.length_lt
  intro rest hrest
  simp [Function.read, called_left hrest.identifier]

/-! ### Methods -/

/-- A method is read up to its result, which decides whether all of it is. -/
theorem Method.read_gives {m : Method} {G : Prop}
    (hc : Called (OrEmpty (Plain .parameters)) m.identifier w w₁ m.parameters)
    (hresult : (Result.read n).Gives w₁ G m.result rest) (hn : w.length < n) :
    (Method.read n).Gives w G (some m) rest :=
  Gives.bind_of_eval (called_eval hc hn) (hresult.bind_done rfl)

/-- A method starts with its name and an opening parenthesis. -/
theorem Method.head_eq {m : Method} (h : Plain .method w rest m) :
    ∃ u, w = .name m.identifier :: .mark "(" :: u := by
  obtain ⟨w₁, hc, -⟩ := Production.derives_method.1 h
  cases hc with
  | mk _ => exact ⟨_, rfl⟩

/-- Methods of the grammar are read one after the other exactly if neighbours are apart. -/
theorem Method.readsSection (n : Nat) :
    ReadsSection (Method.read n) (Plain .method) n id (fun _ => True) Apart := by
  constructor
  · intro w rest m h hrest hn
    obtain ⟨i, ps, r⟩ := m
    obtain ⟨w₁, hc, hr⟩ := Production.derives_method.1 h
    have hlt := length_lt_of_called hc
    refine read_gives hc (Gives.of_eval ?_) hn
    cases hr with
    | absent => exact Result.read_absent hrest
    | present hr => exact Result.read_eval hr hrest.toFollows (by omega)
  · intro w w₁ w₂ m b h hb hn
    obtain ⟨i, ps, r⟩ := m
    obtain ⟨w', hc, hr⟩ := Production.derives_method.1 h
    have hlt := length_lt_of_called hc
    refine read_gives hc ?_ hn
    simp only at hr ⊢
    cases hr with
    | absent =>
      obtain ⟨u, rfl⟩ := head_eq hb
      exact (Result.read_name b.identifier u (by omega)).congr (by simp [Apart])
    | present hr =>
      have hresult := Result.read_eval hr (follows_of_derives hb (by decide)) (n := n) (by omega)
      exact (Gives.of_eval hresult).congr (by simp [Apart])
  · intro rest hrest _
    simp [Method.read, called_left hrest.identifier]
  · exact Production.Derives.length_lt

/-! ### Attributes -/

/-- An attribute starts with its name and an opening parenthesis. -/
theorem Attribute.head_eq {a : Attribute} (h : Plain .attributeMethod w rest a) :
    ∃ u, w = .name a.identifier :: .mark "(" :: u := by
  obtain ⟨w₁, hc, -⟩ := Production.derives_attribute.1 h
  cases hc with
  | mk _ => exact ⟨_, rfl⟩

/-- An attribute is read up to its abstraction, which decides whether all of it is. -/
theorem Attribute.read_gives {a : Attribute} {G : Prop}
    (hc : Called (Maybe (Plain .parameter)) a.identifier w w₁ a.parameter)
    (habstraction : (Abstraction.read n).Gives w₁ G a.abstraction rest) (hn : w.length < n) :
    (Attribute.read n).Gives w G (some a) rest := by
  obtain ⟨i, p, o⟩ := a
  simp only at hc habstraction
  cases hc with
  | @mk u _ _ hp =>
    simp only [List.length_cons] at hn
    have hparameter : (Parameter.read n).eval u = some (p, .mark ")" :: w₁) := by
      cases hp with
      | absent => exact Parameter.read_left
      | present hp =>
        exact Parameter.read_eval hp (follows_of_mem_itemEnds (by simp [itemEnds])) (by omega)
    exact Gives.bind_of_eval identifier?_taken (Gives.bind_of_eval mark_taken
      (Gives.bind_of_eval hparameter (Gives.bind_of_eval mark_taken
        (habstraction.bind_done rfl))))

/-- A name called with one parameter or none is longer than what is left behind it. -/
theorem Attribute.length_lt_of_called {i : String} {p : Option Parameter}
    (h : Called (Maybe (Plain .parameter)) i w rest p) : rest.length < w.length := by
  cases h with
  | mk h =>
    have hle := Production.length_le_of_maybe h
    simp only [List.length_cons] at hle ⊢
    omega

/-- Attributes of the grammar are read one after the other exactly if neighbours are apart. -/
theorem Attribute.readsSection (n : Nat) :
    ReadsSection (Attribute.read n) (Plain .attributeMethod) n id (fun _ => True) Apart := by
  constructor
  · intro w rest a h hrest hn
    obtain ⟨i, p, o⟩ := a
    obtain ⟨w₁, hc, ha⟩ := Production.derives_attribute.1 h
    have hlt := length_lt_of_called hc
    refine read_gives hc (Gives.of_eval ?_) hn
    cases ha with
    | absent => exact Abstraction.read_absent hrest.bracket hrest.identifier
    | present ha =>
      exact Abstraction.read_eval ha hrest.dot hrest.opening (fun _ => hrest.bracket) (by omega)
  · intro w w₁ w₂ a b h hb hn
    obtain ⟨i, p, o⟩ := a
    obtain ⟨w', hc, ha⟩ := Production.derives_attribute.1 h
    have hlt := length_lt_of_called hc
    refine read_gives hc ?_ hn
    simp only at ha ⊢
    cases ha with
    | absent =>
      obtain ⟨u, rfl⟩ := head_eq hb
      exact (Abstraction.read_name b.identifier u (by omega)).congr (by simp [Apart])
    | present ha =>
      have hfollows := follows_of_derives hb (by decide)
      have habstraction := Abstraction.read_eval ha hfollows.dot hfollows.opening
        (fun _ => hfollows.bracket) (n := n) (by omega)
      exact (Gives.of_eval habstraction).congr (by simp [Apart])
  · intro rest hrest _
    simp [Attribute.read, identifier?_left hrest.identifier]
  · exact Production.Derives.length_lt

/-! ### Abstractions -/

/-- Abstractions of the grammar are read one after the other exactly if neighbours are apart. -/
theorem Abstraction.readsSection (n : Nat) :
    ReadsSection (Abstraction.read n) (Plain .abstraction) n id (fun _ => True) Apart := by
  constructor
  · intro w rest a h hrest hn
    exact .of_eval (read_eval h hrest.dot hrest.opening (fun _ => hrest.bracket) hn)
  · intro w w₁ w₂ a b h hb hn
    have hdot : Refuses (.delimiter ".") w₁ := hb.refuses (by decide)
    have hopening : Refuses (.delimiter "(") w₁ := hb.refuses (by decide)
    constructor
    · rintro ⟨-, hab⟩
      exact read_eval h hdot hopening (fun ha => refuses_of_not_array hb (hab ha)) hn
    · intro hab
      simp only [Apart, true_and, ne_eq, Classical.not_imp, not_not] at hab
      obtain ⟨u, rfl⟩ := brackets_of_array hb hab.2
      exact read_failed h hab.1 (by omega)
  · intro rest hrest _
    exact read_absent hrest.bracket hrest.identifier
  · exact Production.Derives.length_lt

/-! ## Interfaces -/

/-- An interface is read if its body is. -/
theorem interface_gives {α : Type} {body : Reading α} {d : Declaration} {b : α} {G : Prop}
    (hd : Plain .declaration w (.name "interface" :: .mark "\x7b" :: w₁) d)
    (hbody : body.Gives w₁ G b (.mark "\x7d" :: rest)) (rules : List Rule)
    (hn : w.length < n) : (interface rules body n).Gives w G (some (d, b)) rest := by
  have hdeclaration := Declaration.read_eval hd (by simp) hn
  refine Gives.bind_of_eval hdeclaration (Gives.bind_of_eval keyword_taken
    (Gives.bind_of_eval mark_taken ?_))
  refine (hbody.bind (Gives.of_eval ?_)).congr (by rw [and_true])
  simp

/-- There is no interface where no comment is. -/
theorem interface_left {α : Type} {body : Reading α} {rules : List Rule}
    (h : Refuses .comment w) : (interface rules body n).eval w = some (none, w) := by
  simp [interface, Declaration.read_absent h]

/-- A closing brace ends all sections. -/
theorem ends_brace (notes : List String) (w : List Lexeme) : Ends notes (.mark "\x7d" :: w) := by
  constructor
  · constructor
    · constructor <;> simp
    · simp
    · simp
  · simp

/-- The methods of an interface are read and put in order exactly if neighbours are apart. -/
theorem Method.readSection_gives {ms : List Method} (h : OrEmpty (Plain .methods) w rest ms)
    (hrest : Ends ["// Methods"] rest) (hn : w.length < n) :
    (readSection n).Gives w (ms.IsChain Apart) (canonicalSort ms) rest := by
  have hsection := sorted_gives (readsSection n) Production.derives_methods.1 h hrest hn
    "method" [.methods, .method]
  rw [List.map_id] at hsection
  exact hsection.congr (and_iff_right fun _ _ => trivial)

/-- An aspect of the grammar is read exactly if it is legible. -/
theorem Aspect.read_gives {a : Aspect} (h : Plain .aspect w rest a) (hn : w.length < n) :
    (Aspect.read n).Gives w a.Legible (some a.arranged) rest := by
  obtain ⟨w₁, hd, hms⟩ := Production.derives_aspect.1 h
  have hlt := hd.length_lt
  simp only [List.length_cons] at hlt
  have hmethods := Method.readSection_gives hms (ends_brace _ _) (n := n) (by omega)
  exact (interface_gives hd hmethods _ hn).bind_done rfl

/-- A class of the grammar is always read: whatever its members are, none takes part of the next
one. -/
theorem Class.read_eval {c : Class} (h : Plain .classInterface w rest c) (hn : w.length < n) :
    (Class.read n).eval w = some (some c.arranged, rest) := by
  obtain ⟨w₁, w₂, w₃, hd, hcs, hns, hfs⟩ := Production.derives_class.1 h
  have hlt := hd.length_lt
  simp only [List.length_cons] at hlt
  have hle₁ := Production.length_le_of_orEmpty (fun h => Nat.le_of_lt h.length_lt) hcs
  have hle₂ := Production.length_le_of_orEmpty (fun h => Nat.le_of_lt h.length_lt) hns
  have hends₃ : Ends ["// Constants", "// Constructors"] w₃ :=
    ends_of_orEmpty (r := .functions) hfs (fun h => ⟨_, h⟩) rfl
      (ends_brace ["// Constants", "// Constructors"] rest) (by simp)
  have hends₂ : Ends ["// Constants"] w₂ :=
    ends_of_orEmpty (r := .constructors) hns (fun h => ⟨_, h⟩) rfl hends₃ (by simp)
  have hconstants := section_gives (Constant.readsSection n) Production.derives_constants.1 hcs
    hends₂ (by omega) "constant" [.constants, .constant]
  have hconstructors := sorted_gives (Constructor.readsSection n)
    Production.derives_constructors.1 hns (hends₃.mono (by simp)) (by omega)
    "constructor" [.constructors, .constructor]
  have hfunctions := sorted_gives (Function.readsSection n)
    Production.derives_functions.1 hfs (ends_brace _ _) (by omega)
    "function" [.functions, .function]
  simp only [readable_iff, List.map_id] at hconstants hconstructors hfunctions
  have hbody : (readBody n).eval w₁ = some ((c.constants, canonicalSort c.constructors,
      canonicalSort c.functions), .mark "\x7d" :: rest) := by
    simp [readBody, hconstants.ok fun _ _ => trivial, hconstructors.ok fun _ _ => trivial,
      hfunctions.ok fun _ _ => trivial]
  have hread : (Class.read n).Gives w True (some c.arranged) rest :=
    (interface_gives hd (.of_eval hbody) _ hn).bind_done rfl
  exact hread.ok trivial

/-- An instance of the grammar is read exactly if it is legible. -/
theorem Instance.read_gives {i : Instance} (h : Plain .instanceInterface w rest i)
    (hn : w.length < n) : (Instance.read n).Gives w i.Legible (some i.arranged) rest := by
  obtain ⟨w₁, w₂, w₃, hd, hts, has, hms⟩ := Production.derives_instance.1 h
  have hlt := hd.length_lt
  simp only [List.length_cons] at hlt
  have hle₁ := Production.length_le_of_orEmpty (fun h => Nat.le_of_lt h.length_lt) hts
  have hle₂ := Production.length_le_of_orEmpty (fun h => Nat.le_of_lt h.length_lt) has
  have hends₃ : Ends ["// Attributes", "// Abstractions"] w₃ :=
    ends_of_orEmpty (r := .methods) hms (fun h => ⟨_, h⟩) rfl
      (ends_brace ["// Attributes", "// Abstractions"] rest) (by simp)
  have hends₂ : Ends ["// Attributes"] w₂ :=
    ends_of_orEmpty (r := .abstractions) has (fun h => ⟨_, h⟩) rfl hends₃ (by simp)
  have hattributes := section_gives (Attribute.readsSection n) Production.derives_attributes.1 hts
    hends₂ (by omega) "attribute" [.attributes, .attributeMethod]
  have habstractions := section_gives (Abstraction.readsSection n)
    Production.derives_abstractions.1 has (hends₃.mono (by simp)) (by omega)
    "abstraction" [.abstractions, .abstraction]
  have hmethods := Method.readSection_gives hms (ends_brace _ _) (n := n) (by omega)
  rw [List.map_id] at hattributes habstractions
  have hbody : (readBody n).Gives w₁ (Readable (fun _ => True) Attribute.Apart i.attributes ∧
      Readable (fun _ => True) Abstraction.Apart i.abstractions ∧
      i.methods.IsChain Method.Apart) (i.attributes, i.abstractions, canonicalSort i.methods)
      (.mark "\x7d" :: rest) :=
    hattributes.bind (habstractions.bind (hmethods.bind_done rfl))
  have hread : (Instance.read n).Gives w (Readable (fun _ => True) Attribute.Apart i.attributes ∧
      Readable (fun _ => True) Abstraction.Apart i.abstractions ∧
      i.methods.IsChain Method.Apart) (some i.arranged) rest :=
    (interface_gives hd hbody _ hn).bind_done rfl
  refine hread.congr ⟨fun h => ⟨h.1.2, h.2.1.2, h.2.2⟩, fun h => ?_⟩
  exact ⟨⟨fun _ _ => trivial, h.attributes⟩, ⟨fun _ _ => trivial, h.abstractions⟩, h.methods⟩

/-- Aspects of the grammar are read one after the other exactly if all are legible. -/
theorem Aspect.readsSection (n : Nat) :
    ReadsSection (Aspect.read n) (Plain .aspect) n arranged Legible fun _ _ => True := by
  refine .of_gives (P := fun _ => True) (fun h _ hn => read_gives h hn) (fun _ => trivial)
    (fun _ => trivial) ?_ Production.Derives.length_lt
  intro rest hrest
  simp [Aspect.read, interface_left hrest.comment]

/-- Classes of the grammar are read one after the other. -/
theorem Class.readsSection (n : Nat) :
    ReadsSection (Class.read n) (Plain .classInterface) n arranged (fun _ => True)
      fun _ _ => True := by
  refine .of_gives (P := fun _ => True) (fun h _ hn => .of_eval (read_eval h hn))
    (fun _ => trivial) (fun _ => trivial) ?_ Production.Derives.length_lt
  intro rest hrest
  simp [Class.read, interface_left hrest.comment]

/-- Instances of the grammar are read one after the other exactly if all are legible. -/
theorem Instance.readsSection (n : Nat) :
    ReadsSection (Instance.read n) (Plain .instanceInterface) n arranged Legible
      fun _ _ => True := by
  refine .of_gives (P := fun _ => True) (fun h _ hn => read_gives h hn) (fun _ => trivial)
    (fun _ => trivial) ?_ Production.Derives.length_lt
  intro rest hrest
  simp [Instance.read, interface_left hrest.comment]

/-- Interfaces of the grammar are read exactly if the aspects and instances in them are legible. -/
theorem Interfaces.read_gives {i : Interfaces} (h : Plain .interfaces w rest i)
    (hrest : Ends ["// Aspects", "// Classes", "// Instances"] rest) (hn : w.length < n) :
    (Interfaces.read n).Gives w
      ((∀ a ∈ i.aspects, a.Legible) ∧ ∀ j ∈ i.instances, j.Legible) (some i.arranged) rest := by
  obtain ⟨w₁, w₂, w₃, rfl, has, hcs, his⟩ := Production.derives_interfaces.1 h
  rw [List.length_cons] at hn
  have hle₁ := Production.length_le_of_orEmpty (fun h => Nat.le_of_lt h.length_lt) has
  have hle₂ := Production.length_le_of_orEmpty (fun h => Nat.le_of_lt h.length_lt) hcs
  have hends₃ : Ends ["// Aspects", "// Classes"] w₃ :=
    ends_of_orEmpty (r := .instances) his (fun h => ⟨_, h⟩) rfl hrest (by simp)
  have hends₂ : Ends ["// Aspects"] w₂ :=
    ends_of_orEmpty (r := .classes) hcs (fun h => ⟨_, h⟩) rfl hends₃ (by simp)
  have haspects := sorted_gives (Aspect.readsSection n) Production.derives_aspects.1 has
    hends₂ (by omega) "aspect" [.aspects, .aspect]
  have hclasses := sorted_gives (Class.readsSection n) Production.derives_classes.1 hcs
    (hends₃.mono (by simp)) (by omega) "class" [.classes, .classInterface]
  have hinstances := sorted_gives (Instance.readsSection n) Production.derives_instances.1 his
    (hrest.mono (by simp)) (by omega) "instance" [.instances, .instanceInterface]
  simp only [readable_iff] at haspects hclasses hinstances
  have hread : (Interfaces.read n).Gives (⟨.note, "// INTERFACES"⟩ :: w₁)
      ((∀ a ∈ i.aspects, a.Legible) ∧ (∀ c ∈ i.classes, True) ∧ ∀ j ∈ i.instances, j.Legible)
      (some i.arranged) rest :=
    Gives.bind_of_eval note?_taken (haspects.bind (hclasses.bind (hinstances.bind_done rfl)))
  exact hread.congr (and_congr_right fun _ => and_iff_right fun _ _ => trivial)

end PackageModel
