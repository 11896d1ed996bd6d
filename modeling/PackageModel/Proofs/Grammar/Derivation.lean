import PackageModel.Document.Basic
import PackageModel.Grammar.Table

/-!
# PackageModel.Proofs.Grammar.Derivation

The grammar table read as a grammar.  `Production.Derives` says which tokens a right-hand side
stands for, and at the same time which tree they have: a terminal stands for the text of its token,
a rule for the node that `Rule.build` makes of what is on its right-hand side.  Nothing is sorted
here, so a node of a derivation lists its items in the order of the tokens.

A derivation may be asked to meet a `Condition` wherever it uses a rule.
-/

namespace PackageModel

/-- The nodes that the rule stands for. -/
def Rule.Node : Rule → Type
  | abstraction => Abstraction
  | abstractions | arguments => List Abstraction
  | aspect => Aspect
  | aspects => List Aspect
  | attributeMethod => Attribute
  | attributes => List Attribute
  | classInterface => Class
  | classes => List Class
  | constant => Constant
  | constants => List Constant
  | constructor => Constructor
  | constructors => List Constructor
  | declaration => Declaration
  | document | source => Document
  | enumeration | values => Values
  | function => Function
  | functional => Functional
  | functionals => List Functional
  | functions => List Function
  | header => Header
  | imports | modules => List Module
  | instanceInterface => Instance
  | instances => List Instance
  | interfaces => Interfaces
  | method => Method
  | methods => List Method
  | module => Module
  | notice => String
  | parameter => Parameter
  | parameters => List Parameter
  | qualifier => Prefix
  | result => Result
  | specialization => Specialization
  | specializations => List Specialization
  | types => Types

/-- What a right-hand side stands for: a terminal for the text of its token. -/
def Production.Value : Production → Type
  | terminal _ => String
  | rule r => r.Node
  | optional p => Option p.Value
  | many p | some p => List p.Value
  | sequence p q => p.Value × q.Value
  | choice p q => p.Value ⊕ q.Value

namespace Production

/-- The items of a list with commas. -/
def commaValues {r : Rule} : (commaList r).Value → List r.Node
  | ((a, as), _) => a :: as.map (·.2)

/-- The items of a list in square brackets; there are none if there is no list. -/
def bracketValues {r : Rule} {α : Type} (items : r.Node → List α) :
    (bracketed r).Value → List α
  | .some ((_, a), _) => items a
  | .none => []

end Production

/-- The node that the rule makes of its right-hand side. -/
def Rule.build : (r : Rule) → r.production.Value → r.Node
  | .abstraction, ((q, i), as) =>
    .mk q i (Production.bracketValues (r := .arguments) id as)
  | .abstractions, (_, as) => as
  | .arguments, as => Production.commaValues (r := .abstraction) as
  | .aspect, ((((d, _), _), ms), _) => ⟨d, ms.getD []⟩
  | .aspects, (_, as) => as
  | .attributeMethod, ((((i, _), p), _), a) => ⟨i, p, a⟩
  | .attributes, (_, as) => as
  | .classInterface, ((((d, _), _), ((cs, ns), fs)), _) =>
    ⟨d, cs.getD [], ns.getD [], fs.getD []⟩
  | .classes, (_, cs) => cs
  | .constant, (((i, _), _), a) => ⟨i, a⟩
  | .constants, (_, cs) => cs
  | .constructor, ((((i, _), ps), _), a) => ⟨i, ps.getD [], a⟩
  | .constructors, (_, cs) => cs
  | .declaration, (((c, _), i), ps) =>
    ⟨c, i, Production.bracketValues (r := .parameters) id ps⟩
  | .document, ((((n, h), ms), ts), is) => ⟨n, h, ms, ts, is⟩
  | .enumeration, (((_, _), vs), _) => vs
  | .function, ((((i, _), ps), _), r) => ⟨i, ps.getD [], r⟩
  | .functional, (((((d, _), _), ps), _), r) => ⟨d, ps.getD [], r⟩
  | .functionals, (_, fs) => fs
  | .functions, (_, fs) => fs
  | .header, ((c, _), i) => ⟨c, i⟩
  | .imports, (((_, _), ms), _) => ms.getD []
  | .instanceInterface, ((((d, _), _), ((ts, as), ms)), _) =>
    ⟨d, ts.getD [], as.getD [], ms.getD []⟩
  | .instances, (_, is) => is
  | .interfaces, (((_, as), cs), is) => ⟨as.getD [], cs.getD [], is.getD []⟩
  | .method, ((((i, _), ps), _), r) => ⟨i, ps.getD [], r⟩
  | .methods, (_, ms) => ms
  | .module, (i, t) => ⟨i, t⟩
  | .modules, ms => ms
  | .notice, c => c
  | .parameter, (i, a) => ⟨i, a⟩
  | .parameters, ps => Production.commaValues (r := .parameter) ps
  | .qualifier, .inl _ => .array
  | .qualifier, .inr (.inl (((_, _), k), _)) => .map k
  | .qualifier, .inr (.inr (.inl _)) => .channel
  | .qualifier, .inr (.inr (.inr (i, _))) => .aliased i
  | .result, .inl a => .abstraction a
  | .result, .inr ((_, ps), _) => .parameters ps
  | .source, (d, _) => d
  | .specialization, ((d, a), e) => ⟨d, a, e⟩
  | .specializations, (_, ss) => ss
  | .types, ((_, ss), fs) => ⟨ss.getD [], fs.getD []⟩
  | .values, (((p, _), _), is) => ⟨p, is⟩

/-- A condition on the uses of the rules in a derivation. -/
abbrev Condition := (r : Rule) → r.production.Value → Prop

/-- The condition that every derivation meets. -/
def Condition.any : Condition := fun _ _ => True

namespace Production

/-- The tokens `w` up to `rest` are derivable from the right-hand side, with the given tree; every
use of a rule meets the condition. -/
inductive Derives (C : Condition) :
    (p : Production) → (w rest : List Lexeme) → p.Value → Prop where
  | terminal {t : Terminal} {l : Lexeme} {w : List Lexeme} (h : t.accepts l) :
      Derives C (.terminal t) (l :: w) w l.value
  | rule {r : Rule} {w w' : List Lexeme} {v : r.production.Value}
      (h : Derives C r.production w w' v) (hv : C r v) : Derives C (.rule r) w w' (r.build v)
  | absent {p : Production} {w : List Lexeme} : Derives C (.optional p) w w none
  | present {p : Production} {w w' : List Lexeme} {v : p.Value} (h : Derives C p w w' v) :
      Derives C (.optional p) w w' (Option.some v)
  | nil {p : Production} {w : List Lexeme} : Derives C (.many p) w w []
  | cons {p : Production} {w w₁ w' : List Lexeme} {v : p.Value} {vs : List p.Value}
      (h : Derives C p w w₁ v) (hs : Derives C (.many p) w₁ w' vs) :
      Derives C (.many p) w w' (v :: vs)
  | some {p : Production} {w w₁ w' : List Lexeme} {v : p.Value} {vs : List p.Value}
      (h : Derives C p w w₁ v) (hs : Derives C (.many p) w₁ w' vs) :
      Derives C (.some p) w w' (v :: vs)
  | sequence {p q : Production} {w w₁ w' : List Lexeme} {v₁ : p.Value} {v₂ : q.Value}
      (h₁ : Derives C p w w₁ v₁) (h₂ : Derives C q w₁ w' v₂) :
      Derives C (.sequence p q) w w' (v₁, v₂)
  | left {p q : Production} {w w' : List Lexeme} {v : p.Value} (h : Derives C p w w' v) :
      Derives C (.choice p q) w w' (Sum.inl v)
  | right {p q : Production} {w w' : List Lexeme} {v : q.Value} (h : Derives C q w w' v) :
      Derives C (.choice p q) w w' (Sum.inr v)

namespace Derives

variable {C : Condition} {p q : Production} {w w' : List Lexeme}

/-- A derivation that meets a condition meets every weaker one. -/
theorem mono {D : Condition} {v : p.Value} (hCD : ∀ r u, C r u → D r u)
    (h : Derives C p w w' v) : Derives D p w w' v := by
  induction h with
  | terminal h => exact .terminal h
  | rule _ hv ih => exact .rule ih (hCD _ _ hv)
  | absent => exact .absent
  | present _ ih => exact .present ih
  | nil => exact .nil
  | cons _ _ ih ihs => exact .cons ih ihs
  | some _ _ ih ihs => exact .some ih ihs
  | sequence _ _ ih₁ ih₂ => exact .sequence ih₁ ih₂
  | left _ ih => exact .left ih
  | right _ ih => exact .right ih

/-- The tokens that are left are the last ones. -/
theorem suffix {v : p.Value} (h : Derives C p w w' v) : w' <:+ w := by
  induction h with
  | terminal _ => exact List.suffix_cons _ _
  | rule _ _ ih => exact ih
  | absent => exact List.suffix_rfl
  | present _ ih => exact ih
  | nil => exact List.suffix_rfl
  | cons _ _ ih ihs => exact ihs.trans ih
  | some _ _ ih ihs => exact ihs.trans ih
  | sequence _ _ ih₁ ih₂ => exact ih₂.trans ih₁
  | left _ ih => exact ih
  | right _ ih => exact ih

/-! ## Inversion -/

/-- A rule derives what its right-hand side does. -/
theorem of_rule {r : Rule} {a : r.Node} (h : Derives C (.rule r) w w' a) :
    ∃ v, a = r.build v ∧ Derives C r.production w w' v ∧ C r v := by
  cases h with
  | rule h hv => exact ⟨_, rfl, h, hv⟩

/-- A sequence derives its parts one behind the other. -/
theorem of_sequence {v : (Production.sequence p q).Value}
    (h : Derives C (.sequence p q) w w' v) :
    ∃ w₁ v₁ v₂, v = (v₁, v₂) ∧ Derives C p w w₁ v₁ ∧ Derives C q w₁ w' v₂ := by
  cases h with
  | sequence h₁ h₂ => exact ⟨_, _, _, rfl, h₁, h₂⟩

/-- A choice derives what one of its sides does. -/
theorem of_choice {v : (Production.choice p q).Value} (h : Derives C (.choice p q) w w' v) :
    (∃ u, v = Sum.inl u ∧ Derives C p w w' u) ∨ ∃ u, v = Sum.inr u ∧ Derives C q w w' u := by
  cases h with
  | left h => exact .inl ⟨_, rfl, h⟩
  | right h => exact .inr ⟨_, rfl, h⟩

end Derives

/-- A terminal with a fixed value derives the one token with this value. -/
theorem derives_fixed {C : Condition} {k : Kind} {s : String} {w w' : List Lexeme} {v : String} :
    Derives C (.terminal ⟨k, Option.some s⟩) w w' v ↔ w = ⟨k, s⟩ :: w' ∧ v = s := by
  constructor
  · intro h
    cases h with
    | @terminal _ l _ h =>
      obtain ⟨kind, value⟩ := l
      simp_all [Terminal.accepts]
  · rintro ⟨rfl, rfl⟩
    exact .terminal (l := ⟨k, v⟩) (by simp [Terminal.accepts])

/-- A terminal without a value derives any token of its kind. -/
theorem derives_kind {C : Condition} {k : Kind} {w w' : List Lexeme} {v : String} :
    Derives C (.terminal ⟨k, none⟩) w w' v ↔ w = ⟨k, v⟩ :: w' := by
  constructor
  · intro h
    cases h with
    | @terminal _ l _ h =>
      obtain ⟨kind, value⟩ := l
      simp_all [Terminal.accepts]
  · rintro rfl
    exact .terminal (l := ⟨k, v⟩) (by simp [Terminal.accepts])

end Production

end PackageModel
