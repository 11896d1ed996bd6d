import PackageModel.Proofs.Reading.Sound
import PackageModel.Proofs.Viable.Takes

/-!
# PackageModel.Proofs.Viable.Abstraction

The beginnings of abstractions.  A prefix or a name is taken only where it can be completed; the
three places with two tokens of lookahead are looked at one by one.
-/

namespace PackageModel

open Reading Stretch
open Production hiding some optional rule comment many identifier mark bracketed titled called
  interface commaList

variable {n : Nat} {w w' rest u : List Lexeme}

/-! ## Lookahead -/

namespace Reading

/-- A lookahead gets stuck if there is no second token, and only behind a first one as wanted. -/
theorem of_taken_stuck {t v : Terminal} (h : (take t (.taken v) done).stuck? w = some rest) :
    rest = [] ∧ (w = [] ∨ ∃ l, w = [l] ∧ t.accepts l = true) := by
  rcases w with _ | ⟨l, _ | ⟨m, w⟩⟩
  · cases h
    exact ⟨rfl, .inl rfl⟩
  · by_cases hl : t.accepts l = true <;> simp [stuck?, takeLexeme, hl] at h
    exact ⟨h, .inr ⟨l, rfl, hl⟩⟩
  · by_cases hl : t.accepts l = true <;> by_cases hm : v.accepts m = true <;>
      simp [stuck?, takeLexeme, hl, hm] at h

/-- The same for a second token that must not be there. -/
theorem of_not_stuck {t v : Terminal} (h : (take t (.not v) done).stuck? w = some rest) :
    rest = [] ∧ (w = [] ∨ ∃ l, w = [l] ∧ t.accepts l = true) := by
  rcases w with _ | ⟨l, _ | ⟨m, w⟩⟩
  · cases h
    exact ⟨rfl, .inl rfl⟩
  · by_cases hl : t.accepts l = true <;> simp [stuck?, takeLexeme, hl] at h
    exact ⟨h, .inr ⟨l, rfl, hl⟩⟩
  · by_cases hl : t.accepts l = true <;> by_cases hm : v.accepts m = true <;>
      simp [stuck?, takeLexeme, hl, hm] at h

end Reading

/-! ## Prefixes -/

namespace Prefix

/-- A qualifier in front of anything is a word of the rule. -/
theorem mem_words_of_prefixed {q : Prefix} (h : ∀ rest, Prefixed (u ++ rest) rest q) :
    u ∈ Rule.qualifier.words :=
  ⟨q, fun rest => Production.derives_qualifier.2 (h rest), trivial⟩

/-- The prefix of a sequence. -/
theorem array_mem : [Lexeme.mark "[", .mark "]"] ∈ Rule.qualifier.words :=
  mem_words_of_prefixed fun _ => .array

/-- The prefix of a mapping, for each name of its keys. -/
theorem map_mem (k : String) :
    [Lexeme.name "map", .mark "[", .name k, .mark "]"] ∈ Rule.qualifier.words :=
  mem_words_of_prefixed fun _ => .map

/-- The prefix of an imported type. -/
theorem aliased_mem {i : String} (hi : i ∉ Prefix.words) :
    [Lexeme.name i, .mark "."] ∈ Rule.qualifier.words :=
  mem_words_of_prefixed fun _ => .aliased hi

/-- A program for a prefix gets stuck behind the beginning of one. -/
theorem read_stuck (h : Prefix.read.stuck? w = some rest) :
    ∃ u v, u ++ v ∈ Rule.qualifier.words ∧ w = u ++ rest := by
  -- the program looks for `[` `]` first, then for `map`, for `chan`, and for a name with a dot
  rcases of_stuck_bind h with h₁ | ⟨o₁, w₁, ho₁, h₁⟩
  · obtain ⟨rfl, rfl | ⟨l, rfl, hl⟩⟩ := of_taken_stuck h₁
    · exact ⟨[], _, array_mem, rfl⟩
    · rw [accepts_fixed hl]
      exact ⟨[.mark "["], [.mark "]"], array_mem, rfl⟩
  rcases taken_reads _ _ ho₁ with ⟨l, m, rfl, -, -, rfl⟩ | ⟨rfl, rfl⟩
  · cases h₁
  rcases of_stuck_bind h₁ with h₂ | ⟨b, w₂, hb, h₂⟩
  · obtain ⟨u, v, ⟨l, hl, huv⟩, rfl⟩ := (flag_takes (.keyword "map")).stuck h₂
    rw [accepts_fixed hl] at huv
    refine ⟨u, v ++ [.mark "[", .name "a", .mark "]"], ?_, rfl⟩
    rw [← List.append_assoc, huv]
    exact map_mem "a"
  cases keyword?_reads _ hb with
  | present =>
    have hkey := (mark_takes "[" [.qualifier]).bind fun _ =>
      (identifier_takes [.qualifier]).bind fun k =>
        (mark_takes "]" [.qualifier]).bind_done fun _ => ⟨some (Prefix.map k), rfl⟩
    obtain ⟨u, v, ⟨_, ⟨l, hl, rfl⟩, _, ⟨_, ⟨k, hk, rfl⟩, _, ⟨r, hr, rfl⟩, rfl⟩, huv⟩, rfl⟩ :=
      hkey.stuck h₂
    refine ⟨.name "map" :: u, v, ?_, rfl⟩
    rw [List.cons_append, ← huv, accepts_fixed hl, accepts_kind hk, accepts_fixed hr]
    exact map_mem k.value
  | absent hmap =>
    rcases of_stuck_bind h₂ with h₃ | ⟨c, w₃, hc, h₃⟩
    · obtain ⟨u, v, ⟨l, hl, huv⟩, rfl⟩ := (flag_takes (.keyword "chan")).stuck h₃
      rw [accepts_fixed hl] at huv
      exact ⟨u, v, by rw [huv]; exact mem_words_of_prefixed fun _ => .channel, rfl⟩
    cases keyword?_reads _ hc with
    | present => cases h₃
    | absent hchan =>
      rcases of_stuck_bind h₃ with h₄ | ⟨o₂, w₄, ho₂, h₄⟩
      · obtain ⟨rfl, rfl | ⟨l, rfl, hl⟩⟩ := of_taken_stuck h₄
        · exact ⟨[], _, array_mem, rfl⟩
        · refine ⟨[l], [.mark "."], ?_, rfl⟩
          rw [accepts_kind hl] at hmap hchan ⊢
          exact aliased_mem (by simpa [words, Lexeme.name] using And.intro hmap hchan)
      · cases h₄

end Prefix

/-! ## Abstractions -/

namespace Abstraction

/-- The tokens in front of the name of an abstraction: a prefix, or none if the name is no keyword
that starts one. -/
def Heads (i : String) (p : List Lexeme) : Prop :=
  (p = [] ∧ i ∉ Prefix.words) ∨ p ∈ Rule.qualifier.words

/-- An abstraction from its parts. -/
theorem mem_words {i : String} {p as : List Lexeme} (hp : Heads i p)
    (has : as ∈ (Production.bracketed .arguments).words) :
    p ++ .name i :: as ∈ Rule.abstraction.words := by
  obtain ⟨v, hv, -⟩ := exists_derives_of_mem has
  rcases hp with ⟨rfl, hi⟩ | ⟨q, hq, -⟩
  · refine ⟨_, fun rest => .rule (r := .abstraction) (v := ((none, i), v))
      (.sequence (.sequence .absent .name) (hv rest)) fun _ => hi, trivial⟩
  · refine ⟨_, fun rest => .rule (r := .abstraction) (v := ((some q, i), v)) ?_ nofun, trivial⟩
    rw [List.append_assoc]
    exact .sequence (.sequence (.present (hq _)) .name) (hv rest)

/-- A name that starts no prefix is an abstraction. -/
theorem name_mem {i : String} (hi : i ∉ Prefix.words) : [.name i] ∈ Rule.abstraction.words :=
  @mem_words i [] [] (.inl ⟨rfl, hi⟩) (.inl rfl)

/-- What stands in front of a name: nothing, and then the next token starts no prefix, or a
prefix. -/
def InFront (q : Option Prefix) (p w : List Lexeme) : Prop :=
  (q = none ∧ p = [] ∧ ∀ i, w.head? = some (.name i) → i ∉ Prefix.words) ∨
    (q ≠ none ∧ p ∈ Rule.qualifier.words)

/-- What stands in front of a name does not take it for its own. -/
theorem InFront.heads {q : Option Prefix} {p : List Lexeme} {i : String}
    (h : InFront q p (.name i :: w)) : Heads i p :=
  h.imp (fun h => ⟨h.2.1, h.2.2 i rfl⟩) And.right

/-- Whatever the reading of a prefix takes stands in front of a name. -/
theorem inFront_of_read {q : Option Prefix} (h : Prefix.read.eval w = some (q, w')) :
    ∃ p, w = p ++ w' ∧ InFront q p w' := by
  obtain ⟨hq, hword⟩ := Prefix.read_reads h
  cases hq with
  | absent => exact ⟨[], rfl, .inl ⟨rfl, rfl, hword rfl⟩⟩
  | present hq =>
    obtain ⟨p, rfl, hp⟩ := exists_of_derives hq
    exact ⟨p, rfl, .inr ⟨nofun, _, hp, trivial⟩⟩

/-- A name gets stuck if it is missing, or if no second token can be looked at. -/
theorem readName_stuck {q : Option Prefix} {p : List Lexeme} (hp : InFront q p w)
    (h : (readName q).stuck? w = some rest) :
    ∃ u v, p ++ (u ++ v) ∈ Rule.abstraction.words ∧ w = u ++ rest := by
  have ha : "a" ∉ Prefix.words := by decide
  rcases hp with ⟨rfl, rfl, hword⟩ | ⟨hq, hp⟩
  · obtain ⟨rfl, rfl | ⟨l, rfl, hl⟩⟩ := of_not_stuck h
    · exact ⟨[], [.name "a"], name_mem ha, rfl⟩
    · rw [accepts_kind hl] at hword ⊢
      exact ⟨[.name l.value], [], name_mem (hword _ rfl), rfl⟩
  · obtain ⟨q, rfl⟩ := Option.ne_none_iff_exists'.1 hq
    rcases of_stuck_bind h with h₁ | ⟨i, w₁, -, h₁⟩
    · obtain ⟨u, v, ⟨l, hl, huv⟩, rfl⟩ := (identifier_takes rules).stuck h₁
      refine ⟨u, v, ?_, rfl⟩
      rw [huv, accepts_kind hl]
      exact mem_words (.inr hp) (.inl rfl)
    · cases h₁

/-- An abstraction gets stuck in its prefix, at its name or in its arguments. -/
theorem read_stuck (harguments : (bracketed (commaList (read n) n) "arguments" rules).Takes
      (Production.bracketed .arguments).words) (h : (read (n + 1)).stuck? w = some rest) :
    ∃ u v, u ++ v ∈ Rule.abstraction.words ∧ w = u ++ rest := by
  rcases of_stuck_bind h with h₁ | ⟨q, w₁, hq, h₁⟩
  · obtain ⟨u, v, huv, rfl⟩ := Prefix.read_stuck h₁
    refine ⟨u, v ++ [.name "a"], ?_, rfl⟩
    rw [← List.append_assoc]
    exact mem_words (.inr huv) (.inl rfl)
  obtain ⟨p, rfl, hp⟩ := inFront_of_read hq
  rcases of_stuck_bind h₁ with h₂ | ⟨o, w₂, ho, h₂⟩
  · obtain ⟨u, v, huv, rfl⟩ := readName_stuck hp h₂
    exact ⟨p ++ u, v, by rwa [List.append_assoc], by rw [List.append_assoc]⟩
  obtain ⟨hname, -⟩ := readName_reads q ho
  cases hname with
  | absent => cases h₂
  | @present _ _ i hi =>
    subst hi
    rcases of_stuck_bind h₂ with h₃ | ⟨as, w₃, -, h₃⟩
    · obtain ⟨u, v, huv, rfl⟩ := harguments.stuck h₃
      refine ⟨p ++ .name i :: u, v, ?_, by simp⟩
      rw [List.append_assoc]
      exact mem_words hp.heads huv
    · cases h₃

/-- A run that gets stuck does so in the prefix, at the name or in the arguments. -/
theorem read_mayTake (n : Nat) : (Abstraction.read n).MayTake Rule.abstraction.words := by
  have hnonempty : ∃ u, u ∈ Rule.abstraction.words := ⟨_, name_mem (i := "a") (by decide)⟩
  induction n with
  | zero => exact ⟨nofun, left_of_reads (read_reads 0), nofun, hnonempty⟩
  | succ n ih =>
    have harguments := ((ih.commaList (read_reads n) n).rule (x := .arguments) rfl
      (mul_assoc _ _ _).symm).bracketed "arguments" rules
    refine ⟨?_, left_of_reads (read_reads (n + 1)), read_stuck harguments, hnonempty⟩
    rintro w w' (_ | a) h ho
    · cases ho
    · cases read_reads (n + 1) h with
      | present h =>
        obtain ⟨u, hw, hu⟩ := exists_of_derives h
        exact ⟨u, ⟨_, hu, trivial⟩, hw⟩

end Abstraction

end PackageModel
