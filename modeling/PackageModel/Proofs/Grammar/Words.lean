import Mathlib.Computability.Language
import PackageModel.Proofs.Document.Legible
import PackageModel.Proofs.Grammar.Texts
import PackageModel.Proofs.Siblings

/-!
# PackageModel.Proofs.Grammar.Words

The languages of the rules.  The words of a rule are the tokens of its plain derivations, and they
do not depend on what comes next; those of a right-hand side are put together from the words of its
rules.  Only nodes that are legible count.
-/

namespace PackageModel

open Computability

/-- No part of the node needs more than one token of lookahead. -/
def Rule.Legible : (r : Rule) → r.Node → Prop
  | .abstractions, as => List.IsChain Abstraction.Apart as
  | .aspect, a => Aspect.Legible a
  | .aspects, (as : List Aspect) => ∀ a ∈ as, a.Legible
  | .attributes, as => List.IsChain Attribute.Apart as
  | .document, d | .source, d => Document.Legible d
  | .instanceInterface, i => Instance.Legible i
  | .instances, (is : List Instance) => ∀ i ∈ is, i.Legible
  | .interfaces, (i : Interfaces) => (∀ a ∈ i.aspects, a.Legible) ∧ ∀ x ∈ i.instances, x.Legible
  | .methods, ms => List.IsChain Method.Apart ms
  | .specialization, s => Specialization.Legible s
  | .specializations, (ss : List Specialization) => ∀ s ∈ ss, s.Legible
  | .types, (t : Types) => ∀ s ∈ t.specializations, s.Legible
  | _, _ => True

/-- The tokens that the terminal accepts. -/
def Terminal.words (t : Terminal) : Language Lexeme := {u | ∃ l, t.accepts l = true ∧ u = [l]}

/-- The tokens that stand for a legible node of the rule, whatever comes next. -/
def Rule.words (r : Rule) : Language Lexeme :=
  {u | ∃ a, (∀ rest, Production.Plain r (u ++ rest) rest a) ∧ r.Legible a}

namespace Production

/-- The tokens that stand for a right-hand side. -/
def words : Production → Language Lexeme
  | terminal t => t.words
  | rule r => r.words
  | optional p => 1 + p.words
  | many p => p.words∗
  | some p => p.words * p.words∗
  | sequence p q => p.words * q.words
  | choice p q => p.words + q.words

/-- The words of a sequence are those of its parts, one behind the other. -/
theorem words_append (p q : Production) : (p ++ q).words = p.words * q.words := rfl

/-- The tokens of a derivation do not depend on what comes next. -/
theorem exists_of_derives {C : Condition} {p : Production} {w w' : List Lexeme} {v : p.Value}
    (h : Derives C p w w' v) : ∃ u, w = u ++ w' ∧ ∀ rest, Derives C p (u ++ rest) rest v := by
  obtain ⟨u, hw, hu⟩ := Shuffles.of_derives h
  exact ⟨u, hw, hu.derives⟩

/-- Words have derivations in which all nodes are legible. -/
theorem exists_derives_of_mem {p : Production} {u : List Lexeme} (hu : u ∈ p.words) :
    ∃ v, (∀ rest, Derives .plain p (u ++ rest) rest v) ∧
      p.Each (fun _ _ => True) Rule.Legible v := by
  -- repeated words, one derivation behind the other; both `many` and `some` need it
  have hmany {p : Production} (ih : ∀ {u}, u ∈ p.words → ∃ v,
      (∀ rest, Derives .plain p (u ++ rest) rest v) ∧ p.Each (fun _ _ => True) Rule.Legible v)
      (us : List (List Lexeme)) (hus : ∀ u ∈ us, u ∈ p.words) : ∃ vs : List p.Value,
      (∀ rest, Derives .plain (.many p) (us.flatten ++ rest) rest vs) ∧
        (many p).Each (fun _ _ => True) Rule.Legible vs := by
    induction us with
    | nil => exact ⟨[], fun _ => .nil, nofun⟩
    | cons u us ihs =>
      obtain ⟨hu, hus⟩ := List.forall_mem_cons.1 hus
      obtain ⟨v, hv, hl⟩ := ih hu
      obtain ⟨vs, hvs, hls⟩ := ihs hus
      refine ⟨v :: vs, fun rest => ?_, List.forall_mem_cons.2 ⟨hl, hls⟩⟩
      rw [List.flatten_cons, List.append_assoc]
      exact .cons (hv _) (hvs rest)
  induction p generalizing u with
  | terminal t =>
    obtain ⟨l, hl, rfl⟩ := hu
    exact ⟨l.value, fun _ => .terminal hl, trivial⟩
  | rule r =>
    obtain ⟨a, ha, hl⟩ := hu
    exact ⟨a, ha, hl⟩
  | optional p ih =>
    rcases hu with rfl | hu
    · exact ⟨none, fun _ => .absent, nofun⟩
    · obtain ⟨v, hv, hl⟩ := ih hu
      exact ⟨Option.some v, fun rest => .present (hv rest), by rintro _ ⟨⟩; exact hl⟩
  | many p ih =>
    obtain ⟨us, rfl, hus⟩ := hu
    exact hmany ih us hus
  | some p ih =>
    obtain ⟨u, hu, _, ⟨us, rfl, hus⟩, rfl⟩ := hu
    obtain ⟨v, hv, hl⟩ := ih hu
    obtain ⟨vs, hvs, hls⟩ := hmany ih us hus
    refine ⟨v :: vs, fun rest => ?_, List.forall_mem_cons.2 ⟨hl, hls⟩⟩
    rw [List.append_assoc]
    exact .some (hv _) (hvs rest)
  | sequence p q ihp ihq =>
    obtain ⟨u, hu, u', hu', rfl⟩ := hu
    obtain ⟨v, hv, hl⟩ := ihp hu
    obtain ⟨v', hv', hl'⟩ := ihq hu'
    refine ⟨(v, v'), fun rest => ?_, hl, hl'⟩
    rw [List.append_assoc]
    exact .sequence (hv _) (hv' rest)
  | choice p q ihp ihq =>
    rcases hu with hu | hu
    · obtain ⟨v, hv, hl⟩ := ihp hu
      exact ⟨.inl v, fun rest => .left (hv rest), by rintro _ ⟨⟩; exact hl, nofun⟩
    · obtain ⟨v, hv, hl⟩ := ihq hu
      exact ⟨.inr v, fun rest => .right (hv rest), nofun, by rintro _ ⟨⟩; exact hl⟩

end Production

/-! ## The end of the source -/

namespace Production

/-- Nothing on the right-hand side marks the end of the source. -/
def inner : Production → Bool
  | terminal t => t.kind ≠ .eof
  | rule r => r ≠ .source
  | optional p | many p | some p => p.inner
  | sequence p q | choice p q => p.inner && q.inner

/-- Only the rule of a source has the end of the file on its right-hand side. -/
theorem inner_production {r : Rule} (hr : r ≠ .source) : r.production.inner = true := by
  revert hr
  cases r <;> decide

/-- Only a source has an end-of-file token. -/
theorem Derives.kind_ne_eof {C : Condition} {p : Production} {w w' : List Lexeme} {v : p.Value}
    (h : Derives C p w w' v) (hp : p.inner = true) : ∀ l ∈ w, l ∈ w' ∨ l.kind ≠ .eof := by
  have htrans {w w₁ w' : List Lexeme} (h₁ : ∀ l ∈ w, l ∈ w₁ ∨ l.kind ≠ .eof)
      (h₂ : ∀ l ∈ w₁, l ∈ w' ∨ l.kind ≠ .eof) : ∀ l ∈ w, l ∈ w' ∨ l.kind ≠ .eof := fun l hl =>
    (h₁ l hl).elim (h₂ l) .inr
  induction h with
  | @terminal t l w h =>
    refine List.forall_mem_cons.2 ⟨.inr ?_, fun _ => .inl⟩
    rw [(Terminal.accepts_iff.1 h).1]
    simpa [inner] using hp
  | @rule r _ _ _ _ _ ih => exact ih (inner_production (by simpa [inner] using hp))
  | absent | nil => exact fun _ => .inl
  | present _ ih => exact ih hp
  | cons _ _ ih ihs | some _ _ ih ihs => exact htrans (ih hp) (ihs hp)
  | sequence _ _ ih₁ ih₂ =>
    obtain ⟨hp, hq⟩ := Bool.and_eq_true_iff.1 hp
    exact htrans (ih₁ hp) (ih₂ hq)
  | left _ ih => exact ih (Bool.and_eq_true_iff.1 hp).1
  | right _ ih => exact ih (Bool.and_eq_true_iff.1 hp).2

end Production

/-- No word of another rule has the end of the file in it. -/
theorem Rule.kind_ne_eof_of_mem {r : Rule} {u : List Lexeme} (hr : r ≠ .source)
    (hu : u ∈ r.words) : ∀ l ∈ u, l.kind ≠ .eof := by
  obtain ⟨a, ha, -⟩ := hu
  intro l hl
  refine ((ha []).kind_ne_eof (by simpa [Production.inner] using hr) l ?_).resolve_left nofun
  rwa [List.append_nil]

/-! ## From right-hand sides to rules -/

namespace Rule

variable {r : Rule}

/-- Every node that the rule makes of legible parts is legible and plain. -/
def composes : Rule → Bool
  | .abstraction | .abstractions | .attributes | .methods | .qualifier | .specialization => false
  | _ => true

/-- A rule that composes puts no condition on its nodes. -/
theorem plain_of_composes (h : r.composes = true) (v : r.production.Value) :
    Condition.plain r v := by
  cases r with
  | abstraction | qualifier => cases h
  | _ => trivial

/-- A node of a rule that composes is legible if its parts are. -/
theorem legible_of_composes (h : r.composes = true) (v : r.production.Value)
    (hv : r.production.Each (fun _ _ => True) Legible v) : r.Legible (r.build v) := by
  cases r with
  | abstractions | attributes | methods | specialization => cases h
  | aspects | instances | specializations => exact hv.2
  | source => exact hv.1
  | aspect =>
    obtain ⟨⟨⟨⟨d, _⟩, _⟩, ms⟩, _⟩ := v
    obtain ⟨⟨-, hms⟩, -⟩ := hv
    cases ms with
    | none => exact .nil
    | some ms => exact hms ms rfl
  | instanceInterface =>
    obtain ⟨⟨⟨⟨d, _⟩, _⟩, ⟨⟨ts, as⟩, ms⟩⟩, _⟩ := v
    obtain ⟨⟨-, ⟨hts, has⟩, hms⟩, -⟩ := hv
    constructor
    · cases ts with
      | none => exact .nil
      | some ts => exact hts ts rfl
    · cases as with
      | none => exact .nil
      | some as => exact has as rfl
    · cases ms with
      | none => exact .nil
      | some ms => exact hms ms rfl
  | interfaces =>
    obtain ⟨⟨⟨_, as⟩, cs⟩, is⟩ := v
    obtain ⟨⟨⟨-, has⟩, -⟩, his⟩ := hv
    constructor
    · cases as with
      | none => exact nofun
      | some as => exact has as rfl
    · cases is with
      | none => exact nofun
      | some is => exact his is rfl
  | types =>
    obtain ⟨⟨_, ss⟩, fs⟩ := v
    obtain ⟨⟨-, hss⟩, -⟩ := hv
    cases ss with
    | none => exact nofun
    | some ss => exact hss ss rfl
  | document =>
    obtain ⟨⟨⟨⟨n, d⟩, ms⟩, ts⟩, is⟩ := v
    obtain ⟨⟨-, hts⟩, his⟩ := hv
    have htypes : ∀ s ∈ (ts.map (·.specializations)).getD [], s.Legible := by
      cases ts with
      | none => exact nofun
      | some t => exact hts t rfl
    have hinterfaces : (∀ a ∈ (is.map (·.aspects)).getD [], a.Legible) ∧
        ∀ i ∈ (is.map (·.instances)).getD [], i.Legible := by
      cases is with
      | none => exact ⟨nofun, nofun⟩
      | some i => exact his i rfl
    exact ⟨htypes, hinterfaces.1, hinterfaces.2⟩
  | _ => trivial

/-- What stands for the right-hand side of a rule stands for the rule. -/
theorem le_words {L : Language Lexeme} (h : r.composes = true) (hL : L = r.production.words) :
    L ≤ r.words := by
  intro u hu
  obtain ⟨v, hv, hlegible⟩ := Production.exists_derives_of_mem (hL ▸ hu)
  exact ⟨r.build v, fun rest => .rule (hv rest) (plain_of_composes h v),
    legible_of_composes h v hlegible⟩

end Rule

end PackageModel
