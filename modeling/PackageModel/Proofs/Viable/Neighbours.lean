import PackageModel.Proofs.Viable.Abstraction
import PackageModel.Reading.Interfaces

/-!
# PackageModel.Proofs.Viable.Neighbours

The beginnings of sections in which neighbours matter.  An item that could have been continued by
the next token has not been, so the next token is none that continues it; and if the next item is
completed, it still starts with the same token.
-/

namespace PackageModel

open Reading Stretch Computability
open Production hiding some optional rule comment many identifier mark bracketed titled called
  interface commaList

variable {n : Nat} {w w' rest : List Lexeme}

/-! ## What comes next -/

namespace Reading

/-- Behind a list that is left out there is no bracket. -/
theorem head?_of_bracketed {α : Type} {R : Stretch α} {item : Reading (Option α)}
    {expected : String} {rules : List Rule} (hitem : item.Reads (Maybe R))
    (h : (bracketed (commaList item n) expected rules).eval w = some ([], w')) :
    w'.head? ≠ some (.mark "[") := by
  obtain ⟨b, w₁, hb, h₁⟩ := of_bind h
  cases mark?_reads _ hb with
  | absent hw =>
    obtain ⟨-, rfl⟩ := of_done h₁
    exact hw
  | present =>
    obtain ⟨as, w₂, has, h₂⟩ := of_bind h₁
    obtain ⟨_, w₃, -, h₃⟩ := of_bind h₂
    obtain ⟨rfl, -⟩ := of_done h₃
    exact absurd rfl (required_reads (commaList_reads hitem n) _ _ has).stands.1

end Reading

/-- Behind an abstraction without arguments there is no bracket. -/
theorem Abstraction.read_next (n : Nat) : (Abstraction.read n).Reads (Maybe fun w w' a =>
    Plain .abstraction w w' a ∧ (a.arguments = [] → w'.head? ≠ some (.mark "["))) := by
  intro w w' o h
  have hplain := Abstraction.read_reads n h
  cases n with
  | zero =>
    obtain ⟨rfl, rfl⟩ := of_done h
    exact .absent
  | succ n =>
    obtain ⟨q, w₁, -, h₁⟩ := of_bind h
    obtain ⟨i, w₂, -, h₂⟩ := of_bind h₁
    cases i with
    | none =>
      obtain ⟨rfl, rfl⟩ := of_done h₂
      cases hplain with
      | absent => exact .absent
    | some i =>
      obtain ⟨as, w₃, has, h₃⟩ := of_bind h₂
      obtain ⟨rfl, rfl⟩ := of_done h₃
      cases hplain with
      | present ha =>
        refine .present ⟨ha, ?_⟩
        rintro rfl
        exact head?_of_bracketed (read_reads n) has

/-- Behind a declaration without parameters there is no bracket. -/
theorem Declaration.read_next (n : Nat) : (Declaration.read n).Reads (Maybe fun w w' d =>
    Plain .declaration w w' d ∧ (d.parameters = [] → w'.head? ≠ some (.mark "["))) := by
  intro w w' o h
  have hplain := Declaration.read_reads n h
  obtain ⟨c, w₁, -, h₁⟩ := of_bind h
  cases c with
  | none =>
    obtain ⟨rfl, rfl⟩ := of_done h₁
    cases hplain with
    | absent => exact .absent
  | some c =>
    obtain ⟨_, w₂, -, h₂⟩ := of_bind h₁
    obtain ⟨i, w₃, -, h₃⟩ := of_bind h₂
    obtain ⟨ps, w₄, hps, h₄⟩ := of_bind h₃
    obtain ⟨rfl, rfl⟩ := of_done h₄
    cases hplain with
    | present hd =>
      refine .present ⟨hd, ?_⟩
      rintro rfl
      exact head?_of_bracketed (Parameter.read_reads n) hps

/-- Where no abstraction is read, the next token is none of the keywords that start a prefix. -/
theorem Abstraction.read_none (hn : 0 < n) (h : (Abstraction.read n).eval w = some (none, w')) :
    ∀ i, w'.head? = some (.name i) → i ∉ Prefix.words := by
  cases n with
  | zero => omega
  | succ n =>
    obtain ⟨q, w₁, hq, h₁⟩ := of_bind h
    obtain ⟨i, w₂, hi, h₂⟩ := of_bind h₁
    obtain ⟨hmaybe, hnone⟩ := readName_reads q hi
    cases hmaybe with
    | present _ =>
      obtain ⟨_, _, -, h₃⟩ := of_bind h₂
      exact absurd (of_done h₃).1 nofun
    | absent =>
      obtain ⟨-, rfl⟩ := of_done h₂
      obtain ⟨hqualifier, hword⟩ := Prefix.read_reads hq
      obtain rfl := hnone rfl
      cases hqualifier with
      | absent => exact hword rfl

/-- Where no result is found, the name that comes next starts no prefix. -/
theorem Result.read_none (hn : 0 < n) (h : (Result.read n).eval w = some (none, w')) :
    ∀ i, w'.head? = some (.name i) → i ∉ Prefix.words := by
  obtain ⟨a, w₁, ha, h₁⟩ := of_bind h
  cases a with
  | some a => exact absurd (of_done h₁).1 nofun
  | none =>
    obtain ⟨b, w₂, hb, h₂⟩ := of_bind h₁
    cases mark?_reads _ hb with
    | absent =>
      obtain ⟨-, rfl⟩ := of_done h₂
      exact Abstraction.read_none hn ha
    | present =>
      obtain ⟨_, _, -, h₃⟩ := of_bind h₂
      obtain ⟨_, _, -, h₄⟩ := of_bind h₃
      exact absurd (of_done h₄).1 nofun

/-- Behind a method without a result there is none of the keywords that start a prefix. -/
theorem Method.read_next (hn : 0 < n) : (Method.read n).Reads (Maybe fun w w' m =>
    Plain .method w w' m ∧
      (m.result = none → ∀ i, w'.head? = some (.name i) → i ∉ Prefix.words)) := by
  intro w w' o h
  have hplain := Method.read_reads n h
  obtain ⟨c, w₁, -, h₁⟩ := of_bind h
  rcases c with _ | ⟨i, ps⟩
  · obtain ⟨rfl, rfl⟩ := of_done h₁
    cases hplain with
    | absent => exact .absent
  · obtain ⟨r, w₂, hr, h₂⟩ := of_bind h₁
    obtain ⟨rfl, rfl⟩ := of_done h₂
    cases hplain with
    | present hm =>
      refine .present ⟨hm, ?_⟩
      rintro rfl
      exact Result.read_none hn hr

/-- Behind an attribute without an abstraction there is none of the keywords that start a prefix. -/
theorem Attribute.read_next (hn : 0 < n) : (Attribute.read n).Reads (Maybe fun w w' a =>
    Plain .attributeMethod w w' a ∧
      (a.abstraction = none → ∀ i, w'.head? = some (.name i) → i ∉ Prefix.words)) := by
  intro w w' o h
  have hplain := Attribute.read_reads n h
  obtain ⟨i, w₁, -, h₁⟩ := of_bind h
  cases i with
  | none =>
    obtain ⟨rfl, rfl⟩ := of_done h₁
    cases hplain with
    | absent => exact .absent
  | some i =>
    obtain ⟨_, w₂, -, h₂⟩ := of_bind h₁
    obtain ⟨p, w₃, -, h₃⟩ := of_bind h₂
    obtain ⟨_, w₄, -, h₄⟩ := of_bind h₃
    obtain ⟨a, w₅, ha, h₅⟩ := of_bind h₄
    obtain ⟨rfl, rfl⟩ := of_done h₅
    cases hplain with
    | present ht =>
      refine .present ⟨ht, ?_⟩
      rintro rfl
      exact Abstraction.read_none hn ha

/-! ## Sections -/

/-- Items behind items are items. -/
theorem Stretch.Items.append {α : Type} {R : Stretch α} {w₁ : List Lexeme} {as bs : List α}
    (h : Items R w w₁ as) (h' : Items R w₁ w' bs) : Items R w w' (as ++ bs) := by
  induction h with
  | nil => exact h'
  | cons ha _ ih => exact .cons ha (ih h')

/-- A program for items gets stuck behind some of them. -/
theorem Reading.of_many_stuck {α : Type} {R : Stretch α} {item : Reading (Option α)}
    (hitem : item.Reads (Maybe R)) (h : (many item n).stuck? w = some rest) :
    ∃ as w₁, Items R w w₁ as ∧ item.stuck? w₁ = some rest := by
  induction n generalizing w with
  | zero => cases h
  | succ n ih =>
    rcases of_stuck_bind h with h₁ | ⟨o, w₁, ho, h₁⟩
    · exact ⟨[], w, .nil, h₁⟩
    · cases hitem ho with
      | absent => cases h₁
      | present ha =>
        rcases of_stuck_bind h₁ with h₂ | ⟨_, _, -, h₂⟩
        · obtain ⟨as, w₂, has, hstuck⟩ := ih h₂
          exact ⟨_, w₂, .cons ha has, hstuck⟩
        · cases h₂

/-- A section that is made of a note and at least one item. -/
theorem Stretch.Items.titled {α : Type} {R : Stretch α} {note : String} {as : List α}
    (h : Items R w w' as) (hne : as ≠ []) : Titled note R (⟨.note, note⟩ :: w) w' as := by
  cases h with
  | nil => exact absurd rfl hne
  | cons ha hs => exact .mk (.mk ha hs)

/-- Items one behind the other, at least one, in which all neighbours are apart. -/
def Rule.chainWords (r : Rule) (Apart : r.Node → r.Node → Prop) : Language Lexeme :=
  {u | ∃ as, as ≠ [] ∧ (∀ rest, Items (Plain r) (u ++ rest) rest as) ∧ as.IsChain Apart}

/-- The token behind an item keeps it apart from the next one. -/
structure ReadsApart {r : Rule} (item : Reading (Option r.Node))
    (Next : r.Node → Option Lexeme → Prop) (Apart : r.Node → r.Node → Prop) : Prop where
  reads : item.Reads (Maybe fun w w' a => Plain r w w' a ∧ Next a w'.head?)
  takes : item.MayTake r.words
  apart {w w' : List Lexeme} {a b : r.Node} (ha : Next a w.head?) (hb : Plain r w w' b) :
    Apart a b

namespace ReadsApart

variable {r : Rule} {item : Reading (Option r.Node)} {Next : r.Node → Option Lexeme → Prop}
  {Apart : r.Node → r.Node → Prop} {as : List r.Node}

/-- Items that have been read are apart, and what comes next keeps the last one apart as well. -/
theorem of_items (h : ReadsApart item Next Apart)
    (has : Items (fun w w' a => Plain r w w' a ∧ Next a w'.head?) w w' as) :
    ∃ u, w = u ++ w' ∧ (∀ rest, Items (Plain r) (u ++ rest) rest as) ∧ as.IsChain Apart ∧
      ∀ a ∈ as.getLast?, Next a w'.head? := by
  induction has with
  | nil => exact ⟨[], rfl, fun _ => .nil, .nil, nofun⟩
  | cons ha hs ih =>
    obtain ⟨u, hw, hitems, hchain, hlast⟩ := ih
    obtain ⟨x, rfl, hx⟩ := exists_of_derives ha.1
    refine ⟨x ++ u, by rw [hw, List.append_assoc], fun rest => ?_, ?_⟩
    · rw [List.append_assoc]
      exact .cons (hx _) (hitems rest)
    · cases hs with
      | nil =>
        refine ⟨.singleton _, ?_⟩
        rintro _ ⟨⟩
        exact ha.2
      | cons hb _ => exact ⟨hchain.cons_cons (h.apart ha.2 hb.1), hlast⟩

/-- Where an item behind others gets stuck, it can be completed without touching them. -/
theorem stuck_items (h : ReadsApart item Next Apart)
    (has : Items (fun w w' a => Plain r w w' a ∧ Next a w'.head?) w w' as)
    (hstuck : item.stuck? w' = some rest) :
    ∃ u v, u ++ v ∈ r.chainWords Apart ∧ w = u ++ rest := by
  obtain ⟨x, rfl, hitems, hchain, hlast⟩ := h.of_items has
  obtain ⟨u, v, ⟨b, hb, -⟩, rfl⟩ := h.takes.stuck hstuck
  by_cases hne : as = []
  · subst hne
    obtain rfl : x = [] := by
      cases x with
      | nil => rfl
      | cons l x => cases hitems []
    exact ⟨u, v, ⟨[b], nofun, fun rest => .cons (hb rest) .nil, .singleton b⟩, rfl⟩
  · cases u with
    | nil => exact ⟨x, [], ⟨as, hne, by simpa using hitems, hchain⟩, rfl⟩
    | cons l u =>
      -- the next item starts with the token that has been seen behind the last one
      have hnext : ∀ a ∈ as.getLast?, Apart a b := fun a ha =>
        h.apart (w := l :: u ++ v ++ []) (hlast a ha) (hb [])
      refine ⟨x ++ l :: u, v, ⟨as ++ [b], by simp, fun rest => ?_, ?_⟩, by simp⟩
      · rw [List.append_assoc x, List.append_assoc x]
        exact (hitems _).append (.cons (hb rest) .nil)
      · refine hchain.append (.singleton b) fun a ha b' hb' => ?_
        obtain rfl := Option.some.inj hb'
        exact hnext a ha

/-- A section takes items that are apart. -/
theorem titled (h : ReadsApart item Next Apart) (note expected : String) (rules : List Rule)
    (n : Nat) : (Reading.titled note item expected rules n).MayTake
      ((Terminal.note note).words * r.chainWords Apart) := by
  have hfirst : ∃ b : r.Node, ∃ y, ∀ rest, Plain r (y ++ rest) rest b := by
    obtain ⟨y, b, hb, -⟩ := h.takes.nonempty
    exact ⟨b, y, hb⟩
  have hitems : Takes ((Reading.required item expected rules).bind fun a =>
      (Reading.many item n).bind fun as => done (some (a :: as))) (r.chainWords Apart) := by
    refine ⟨?_, fun _ hn => absurd trivial hn, ?_, ?_⟩
    · intro w w' o hw _
      obtain ⟨a, w₁, ha, h₁⟩ := of_bind hw
      obtain ⟨as, w₂, has, h₂⟩ := of_bind h₁
      obtain ⟨-, rfl⟩ := of_done h₂
      obtain ⟨u, hu, hplain, hchain, -⟩ := h.of_items
        (.cons (required_reads h.reads _ _ ha) (many_reads h.reads n has))
      exact ⟨u, ⟨a :: as, nofun, hplain, hchain⟩, hu⟩
    · intro w rest hw
      rcases of_stuck_bind hw with h₁ | ⟨a, w₁, ha, h₁⟩
      · rcases of_stuck_bind h₁ with h₂ | ⟨o, w₂, ho, h₂⟩
        · exact h.stuck_items .nil h₂
        · cases h.reads ho with
          | absent =>
            cases h₂
            obtain ⟨b, y, hb⟩ := hfirst
            exact ⟨[], y, ⟨[b], nofun, fun rest => .cons (hb rest) .nil, .singleton b⟩, rfl⟩
          | present _ => cases h₂
      · rcases of_stuck_bind h₁ with h₂ | ⟨_, _, -, h₂⟩
        · obtain ⟨as, w₂, has, hstuck⟩ := of_many_stuck h.reads h₂
          exact h.stuck_items (.cons (required_reads h.reads _ _ ha) has) hstuck
        · cases h₂
    · obtain ⟨b, y, hb⟩ := hfirst
      exact ⟨y, [b], nofun, fun rest => .cons (hb rest) .nil, .singleton b⟩
  exact (flag_takes (.note note)).bind_true hitems rfl (titled_reads h.reads note expected rules n)

/-- A section takes what stands for lists of items that are apart. -/
theorem section_mayTake {L : Language Lexeme} (h : ReadsApart item Next Apart) {note : String}
    (hL : ∀ {u as}, (∀ rest, Titled note (Plain r) (u ++ rest) rest as) → as.IsChain Apart → u ∈ L)
    (expected : String) (rules : List Rule) (n : Nat) :
    (Reading.titled note item expected rules n).MayTake L := by
  refine (h.titled note expected rules n).mono fun u hu => ?_
  obtain ⟨_, ⟨l, hl, rfl⟩, u, ⟨as, hne, has, hchain⟩, rfl⟩ := hu
  rw [accepts_fixed hl]
  exact hL (fun rest => (has rest).titled hne) hchain

end ReadsApart

end PackageModel
