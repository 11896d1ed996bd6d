import PackageModel.Proofs.Complete.Abstraction
import PackageModel.Proofs.Document.Legible
import PackageModel.Reading.Types

/-!
# PackageModel.Proofs.Complete.Types

What is derivable is read: declarations of types.  A specialization is read if and only if it is
legible.
-/

namespace PackageModel

open Reading Stretch
open Production hiding some optional rule comment many identifier mark bracketed titled called
  interface commaList

variable {n : Nat} {w w₁ rest : List Lexeme}

/-! ## Declarations -/

/-- A declaration is read from its tokens.  One without parameters must not have a bracket behind
it. -/
theorem Declaration.read_eval {d : Declaration} (h : Plain .declaration w rest d)
    (hrest : d.parameters = [] → Refuses (.delimiter "[") rest) (hn : w.length < n) :
    (Declaration.read n).eval w = some (some d, rest) := by
  obtain ⟨w₁, rfl, hps⟩ := Production.derives_declaration.1 h
  simp only [List.length_cons] at hn
  have hparameters : (bracketed (Parameter.readList n) "parameters" rules).eval w₁ =
      some (d.parameters, rest) :=
    bracketed_eval (N := n) (fun hps hu => Parameter.readList_eval (by simp [listEnds]) hps hu)
      hps hrest (by omega) _ _
  simp [Declaration.read, hparameters]

/-- A bracket behind a declaration without parameters is taken for the bracket of its
parameters. -/
theorem Declaration.read_failed {d : Declaration}
    (h : Plain .declaration w (.mark "[" :: .mark "]" :: rest) d) (hd : d.parameters = []) :
    (Declaration.read n).eval w = none := by
  obtain ⟨w₁, rfl, hps⟩ := Production.derives_declaration.1 h
  rw [hd] at hps
  cases hps with
  | absent =>
    have hlist : (Parameter.readList n).eval (.mark "]" :: rest) = some (none, .mark "]" :: rest) :=
      Parameter.readList_left (by simp [listEnds])
    have hparameters := bracketed_failed hlist "parameters" rules
    simp [Declaration.read, hparameters]
  | present hps => cases Production.derives_parameters.1 hps

/-- There is no declaration without a comment. -/
theorem Declaration.read_absent (h : Refuses .comment w) :
    (Declaration.read n).eval w = some (none, w) := by
  simp [Declaration.read, text?_left h]

/-! ## Specializations -/

/-- Values are read up to the closing parenthesis. -/
theorem Values.read_eval {v : Values} (h : Plain .values w (.mark ")" :: rest) v)
    (hn : w.length < n) : (Values.read n).eval w = some (some v, .mark ")" :: rest) := by
  obtain ⟨w₁, hp, his⟩ := Production.derives_values.1 h
  have hlt := hp.length_lt
  simp only [List.length_cons] at hlt
  obtain ⟨u, rfl, ha⟩ := Production.derives_parameter.1 hp
  rw [List.length_cons] at hn hlt
  have habstraction := Abstraction.read_eval ha (by simp) (by simp) (by simp) (n := n) (by omega)
  have hend : identifier?.eval (.mark ")" :: rest) = some (none, .mark ")" :: rest) :=
    identifier?_left (by simp)
  have hnames : (many identifier? n).eval w₁ = some (v.identifiers, .mark ")" :: rest) :=
    many_eval (fun hi => by rw [hi, identifier?_taken]) (fun hi => by simp [hi]) hend his
      (by omega)
  simp [Values.read, required, habstraction, hnames]

/-- An enumeration is read, as it ends by itself. -/
theorem Values.readEnumeration_eval {v : Values} (h : Plain .enumeration w rest v)
    (hn : w.length < n) : (readEnumeration n).eval w = some (some v, rest) := by
  obtain ⟨w₁, rfl, hv⟩ := Production.derives_enumeration.1 h
  simp only [List.length_cons] at hn
  have hvalues := Values.read_eval hv (n := n) (by omega)
  simp [readEnumeration, required, hvalues]

/-- There is no enumeration where no name comes next. -/
theorem Values.readEnumeration_absent (h : Refuses .identifier w) :
    (readEnumeration n).eval w = some (none, w) := by
  simp [readEnumeration, keyword?_left (h.keyword _)]

/-- Only a sequence type starts with a bracket. -/
theorem brackets_of_array {a : Abstraction} (h : Plain .abstraction w rest a)
    (ha : a.qualifier = some .array) : ∃ u, w = .mark "[" :: .mark "]" :: u := by
  obtain ⟨w₁, hq, -, -⟩ := Production.derives_abstraction.1 h
  rw [ha] at hq
  cases hq with
  | present hq =>
    cases Production.derives_qualifier.1 hq with
    | array => exact ⟨_, rfl⟩

/-- Only the prefix of a sequence starts with a bracket. -/
theorem refuses_of_not_array {a : Abstraction} (h : Plain .abstraction w rest a)
    (ha : a.qualifier ≠ some .array) : Refuses (.delimiter "[") w := by
  obtain ⟨q, i, as⟩ := a
  obtain ⟨w₁, hq, -, -⟩ := Production.derives_abstraction.1 h
  simp only [Abstraction.qualifier_mk, Abstraction.identifier_mk] at ha hq
  cases hq with
  | absent => simp
  | present hq =>
    cases Production.derives_qualifier.1 hq with
    | array => exact absurd rfl ha
    | map => simp
    | channel => simp
    | aliased _ => simp

/-- A specialization is read if it is legible.  If it is not, the bracket of its sequence type is
taken for that of parameters, and reading fails. -/
theorem Specialization.read_gives {s : Specialization} (h : Plain .specialization w rest s)
    (hrest : Follows rest) (hname : Refuses .identifier rest) (hn : w.length < n) :
    (Specialization.read n).Gives w s.Legible (some s) rest := by
  obtain ⟨d, a, e⟩ := s
  obtain ⟨w₁, w₂, hd, ha, he⟩ := Production.derives_specialization.1 h
  have hlt := hd.length_lt
  have hlt' := ha.length_lt
  have hdeclaration : (Declaration.read n).Gives w (Legible ⟨d, a, e⟩) (some d) w₁ := by
    constructor
    · intro hs
      exact Declaration.read_eval hd (fun hps => refuses_of_not_array ha (hs hps)) hn
    · intro hs
      simp only [Legible, ne_eq, Classical.not_imp, not_not] at hs
      obtain ⟨u, rfl⟩ := brackets_of_array ha hs.2
      exact Declaration.read_failed hd hs.1
  have hfollows : Follows w₂ ∧ (Values.readEnumeration n).eval w₂ = some (e, rest) := by
    cases he with
    | absent => exact ⟨hrest, Values.readEnumeration_absent hname⟩
    | present he =>
      obtain ⟨u, rfl, -⟩ := Production.derives_enumeration.1 he
      exact ⟨⟨by simp, by simp, by simp⟩, Values.readEnumeration_eval he (by omega)⟩
  obtain ⟨hfollows, henumeration⟩ := hfollows
  have habstraction := Abstraction.read_eval ha hfollows.dot hfollows.opening
    (fun _ => hfollows.bracket) (n := n) (by omega)
  refine (hdeclaration.bind (Gives.of_eval ?_)).congr (by rw [and_true])
  simp [required, habstraction, henumeration]

/-! ## Functionals -/

/-- A functional is read if the tokens behind it do not continue its result. -/
theorem Functional.read_eval {f : Functional} (h : Plain .functional w rest f)
    (hrest : Follows rest) (hn : w.length < n) :
    (Functional.read n).eval w = some (some f, rest) := by
  obtain ⟨w₁, w₂, hd, hps, hr⟩ := Production.derives_functional.1 h
  have hlt := hd.length_lt
  simp only [List.length_cons] at hlt
  have hle := Production.length_le_of_orEmpty (fun h => Nat.le_of_lt h.length_lt) hps
  rw [List.length_cons] at hle
  have hdeclaration := Declaration.read_eval hd (by simp) hn
  have hparameters := Parameter.readOrEmpty_eval hps (n := n) (by omega)
  have hresult := Result.read_eval hr hrest (n := n) (by omega)
  simp [Functional.read, hdeclaration, hparameters, required, hresult]

/-! ## Sections -/

/-- The tokens that a rule derives continue nothing if it starts with a name or a comment. -/
theorem follows_of_derives {r : Rule} {a : r.Node} (h : Plain r w w₁ a)
    (hr : ∀ t ∈ r.starts, t = .identifier ∨ t = .comment) : Follows w := by
  have hexcludes (m : String) : ∀ t ∈ r.starts, (Terminal.delimiter m).excludes t = true := by
    intro t ht
    rcases hr t ht with rfl | rfl <;> rfl
  exact ⟨h.refuses (hexcludes _), h.refuses (hexcludes _), h.refuses (hexcludes _)⟩

/-- The tokens cannot continue a section, and none of the notes comes next. -/
structure Ends (notes : List String) (w : List Lexeme) : Prop extends Closes w where
  note : ∀ n ∈ notes, Refuses (.note n) w

/-- What may follow many sections may follow some of them. -/
theorem Ends.mono {notes notes' : List String} (h : Ends notes' w)
    (hnotes : ∀ n ∈ notes, n ∈ notes') : Ends notes w :=
  { h with note := fun n hn => h.note n (hnotes n hn) }

/-- A section with a note of its own ends the one in front of it. -/
theorem ends_of_orEmpty {r : Rule} {own : String} {notes notes' : List String} {α : Type}
    {R : Stretch (List α)} {as : List α} (h : OrEmpty R w rest as)
    (hR : ∀ {w w' as}, R w w' as → ∃ a, Plain r w w' a) (hr : r.starts = [.note own])
    (hrest : Ends notes' rest) (hnotes : ∀ n ∈ notes, n ∈ notes' ∧ n ≠ own) : Ends notes w := by
  have hmove (t : Terminal) (ht : t.excludes (.note own) = true) (htrest : Refuses t rest) :
      Refuses t w := by
    cases h with
    | absent => exact htrest
    | present h =>
      obtain ⟨a, ha⟩ := hR h
      exact ha.refuses (by simpa [hr] using ht)
  constructor
  · constructor
    · exact ⟨hmove _ rfl hrest.dot, hmove _ rfl hrest.opening, hmove _ rfl hrest.bracket⟩
    · exact hmove _ rfl hrest.comment
    · exact hmove _ rfl hrest.identifier
  · intro n hn
    obtain ⟨hmem, hne⟩ := hnotes n hn
    exact hmove _ (by simpa [Terminal.excludes, Terminal.note] using hne) (hrest.note n hmem)

section

variable {α : Type} {item : Reading (Option α)} {R : Stretch α} {G : α → Prop}
  {Q : α → α → Prop} {S : Stretch (List α)} {as : List α} {note : String}

/-- A section is read as it stands. -/
theorem section_gives {f : α → α} (hitem : ReadsSection item R n f G Q)
    (hS : ∀ {w w' as}, S w w' as → Titled note R w w' as) (h : OrEmpty S w rest as)
    (hrest : Ends [note] rest) (hn : w.length < n) (expected : String) (rules : List Rule) :
    (orEmpty (titled note item expected rules n)).Gives w (Readable G Q as) (as.map f) rest := by
  have h' : OrEmpty (Titled note R) w rest as := by
    cases h with
    | absent => exact .absent
    | present h => exact .present (hS h)
  exact hitem.section h' hrest.toCloses (hrest.note note (by simp)) hn expected rules

/-- A section is read and put in order. -/
theorem sorted_gives [Ranked α] {f : α → α} (hitem : ReadsSection item R n f G Q)
    (hS : ∀ {w w' as}, S w w' as → Titled note R w w' as) (h : OrEmpty S w rest as)
    (hrest : Ends [note] rest) (hn : w.length < n) (expected : String) (rules : List Rule) :
    (sorted note item expected rules n).Gives w (Readable G Q as)
      (canonicalSort (as.map f)) rest :=
  (section_gives hitem hS h hrest hn expected rules).bind_done rfl

end

/-- Specializations stand in a section, where each of them has to be legible. -/
theorem Specialization.readsSection (n : Nat) :
    ReadsSection (Specialization.read n) (Plain .specialization) n id Legible fun _ _ => True := by
  refine .of_gives (P := fun w => Follows w ∧ Refuses .identifier w) ?_ ?_ ?_ ?_ ?_
  · intro w rest s h hrest hn
    exact read_gives h hrest.1 hrest.2 hn
  · intro rest hrest
    exact ⟨hrest.toFollows, hrest.identifier⟩
  · intro w w₁ s h
    exact ⟨follows_of_derives h (by decide), h.refuses (by decide)⟩
  · intro rest hrest
    simp [Specialization.read, Declaration.read_absent hrest.comment]
  · exact Production.Derives.length_lt

/-- Functionals stand in a section, where nothing more is asked of them. -/
theorem Functional.readsSection (n : Nat) :
    ReadsSection (Functional.read n) (Plain .functional) n id (fun _ => True)
      fun _ _ => True := by
  refine .of_gives (P := Follows) ?_ (fun hrest => hrest.toFollows)
    (fun h => follows_of_derives h (by decide)) ?_ Production.Derives.length_lt
  · intro w rest f h hrest hn
    exact .of_eval (read_eval h hrest hn)
  · intro rest hrest
    simp [Functional.read, Declaration.read_absent hrest.comment]

/-- The types are read if all the specializations are legible, and they are in canonical order
then. -/
theorem Types.read_gives {t : Types} (h : Plain .types w rest t)
    (hrest : Ends ["// Specializations", "// Functionals"] rest) (hn : w.length < n) :
    (Types.read n).Gives w (∀ s ∈ t.specializations, s.Legible) (some t.arranged) rest := by
  obtain ⟨w₁, w₂, rfl, hss, hfs⟩ := Production.derives_types.1 h
  rw [List.length_cons] at hn
  have hle := Production.length_le_of_orEmpty (fun h => Nat.le_of_lt h.length_lt) hss
  have hends : Ends ["// Specializations"] w₂ :=
    ends_of_orEmpty (r := .functionals) hfs (fun h => ⟨_, h⟩) rfl hrest (by simp)
  have hspecializations := sorted_gives (Specialization.readsSection n)
    Production.derives_specializations.1 hss hends (by omega)
    "specialization" [.specializations, .specialization]
  have hfunctionals := sorted_gives (Functional.readsSection n)
    Production.derives_functionals.1 hfs (hrest.mono (by simp)) (by omega)
    "functional" [.functionals, .functional]
  simp only [readable_iff, List.map_id] at hspecializations hfunctionals
  have hread : (Types.read n).Gives (⟨.note, "// TYPES"⟩ :: w₁)
      ((∀ s ∈ t.specializations, s.Legible) ∧ ∀ f ∈ t.functionals, True)
      (some t.arranged) rest :=
    Gives.bind_of_eval note?_taken (hspecializations.bind (hfunctionals.bind_done rfl))
  exact hread.congr (and_iff_left fun _ _ => trivial)

end PackageModel
