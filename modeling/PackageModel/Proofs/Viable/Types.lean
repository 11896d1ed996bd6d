import PackageModel.Proofs.Complete.Types
import PackageModel.Proofs.Viable.Neighbours

/-!
# PackageModel.Proofs.Viable.Types

The beginnings of parameters, results and declared types.  The programs are put together like the
right-hand sides of their rules; only the two parts of a specialization have to go together.
-/

namespace PackageModel

open Reading Stretch Computability
open Production hiding some optional rule comment many identifier mark bracketed titled called
  interface commaList

variable {n : Nat} {w w' rest : List Lexeme}

instance : Nonempty Result := ⟨.abstraction default⟩

instance : Nonempty Functional := ⟨default, [], Classical.ofNonempty⟩

instance : Nonempty Function := ⟨"", [], Classical.ofNonempty⟩

/-- A section whose items are put in canonical order. -/
theorem Reading.TakesWhen.sorted {α : Type} [Ranked α] {L : Language Lexeme}
    {item : Reading (Option α)} {note expected : String} {rules : List Rule}
    (h : (Reading.titled note item expected rules n).MayTake L) :
    (Reading.sorted note item expected rules n).Takes (1 + L) :=
  h.orEmpty.bind_done fun as => ⟨canonicalSort as, rfl⟩

/-! ## Parameters and results -/

/-- A parameter is a name and an abstraction. -/
theorem Parameter.read_mayTake (n : Nat) : (Parameter.read n).MayTake Rule.parameter.words :=
  TakesWhen.rule ((text?_mayTake .identifier).bind_some
    (fun i => ((Abstraction.read_mayTake n).required _ _).bind_done fun a => ⟨some ⟨i, a⟩, rfl⟩)
    rfl (read_reads n)) rfl rfl

/-- Parameters stand with commas between them. -/
theorem Parameter.readList_mayTake (n : Nat) :
    (Parameter.readList n).MayTake Rule.parameters.words :=
  ((read_mayTake n).commaList (read_reads n) n).rule rfl (mul_assoc _ _ _).symm

/-- A result is an abstraction, or parameters between parentheses. -/
theorem Result.read_mayTake (n : Nat) : (Result.read n).MayTake Rule.result.words := by
  refine TakesWhen.rule ((Abstraction.read_mayTake n).or_else (fun a => ⟨.abstraction a, rfl⟩)
    (M := (Production.mark "(").words * (Rule.parameters.words * (Production.mark ")").words)) ?_)
    rfl (by rw [← mul_assoc]; rfl)
  refine (flag_takes (.delimiter "(")).bind_true (S := fun _ _ _ => True) ?_ rfl ?_
  · exact ((Parameter.readList_mayTake n).required "parameters" rules).bind fun ps =>
      (mark_takes ")" rules).bind_done fun _ => ⟨some (.parameters ps), rfl⟩
  · intro w w' o h
    obtain ⟨b, w₁, hb, h₁⟩ := of_bind h
    cases mark?_reads _ hb with
    | absent =>
      obtain ⟨rfl, rfl⟩ := of_done h₁
      exact .absent
    | present =>
      obtain ⟨ps, w₂, -, h₂⟩ := of_bind h₁
      obtain ⟨_, w₃, -, h₃⟩ := of_bind h₂
      obtain ⟨rfl, -⟩ := of_done h₃
      exact .present trivial

/-! ## Types -/

/-- A declaration starts with a comment, behind which everything but the parameters is required. -/
theorem Declaration.read_mayTake (n : Nat) :
    (Declaration.read n).MayTake Rule.declaration.words := by
  have h : (Declaration.read n).MayTake _ := (text?_mayTake .comment).bind_some
    (fun c => (keyword_takes "type" rules).bind fun _ => (identifier_takes rules).bind fun i =>
      ((Parameter.readList_mayTake n).bracketed "parameters" rules).bind_done fun ps =>
        ⟨some ⟨c, i, ps⟩, rfl⟩) rfl (read_reads n)
  exact h.rule rfl (by simp only [Rule.production, words_append, mul_assoc]; rfl)

namespace Values

/-- The values start with a parameter, which is read piece by piece here. -/
theorem read_mayTake (n : Nat) : (read n).MayTake Rule.values.words := by
  have hparameter : Production.identifier.words * Rule.abstraction.words ≤ Rule.parameter.words :=
    Rule.le_words rfl rfl
  have h : (read n).MayTake _ := (text?_mayTake .identifier).bind_some
    (fun i => ((Abstraction.read_mayTake n).required "abstraction" rules).bind fun a =>
      (mark_takes "=" rules).bind fun _ => (keyword_takes "iota" rules).bind fun _ =>
        ((text?_mayTake .identifier).many n).bind_done fun is => ⟨some ⟨⟨i, a⟩, is⟩, rfl⟩)
    rfl (read_reads n)
  have hvalues : Rule.parameter.words * ((Production.mark "=").words *
      ((word "iota").words * Production.identifier.words∗)) ≤ Rule.values.words :=
    Rule.le_words rfl (by simp only [Rule.production, words_append, mul_assoc]; rfl)
  refine h.mono (le_trans ?_ hvalues)
  rw [← mul_assoc]
  exact mul_le_mul_left hparameter _

/-- An enumeration has its values between parentheses. -/
theorem readEnumeration_mayTake (n : Nat) :
    (readEnumeration n).MayTake Rule.enumeration.words := by
  have h : (readEnumeration n).MayTake _ := (flag_takes (.keyword "const")).bind_true
    ((mark_takes "(" enumerationRules).bind fun _ =>
      ((read_mayTake n).required "values" enumerationRules).bind fun v =>
        (mark_takes ")" enumerationRules).bind_done fun _ => ⟨some v, rfl⟩)
    rfl (readEnumeration_reads n)
  exact h.rule rfl (by simp only [Rule.production, words_append, mul_assoc]; rfl)

end Values

/-- A functional is a declaration with parameters and a result behind it. -/
theorem Functional.read_mayTake (n : Nat) :
    (Functional.read n).MayTake Rule.functional.words := by
  have h : (Functional.read n).MayTake _ := (Declaration.read_mayTake n).bind_some
    (fun d => (keyword_takes "func" rules).bind fun _ => (mark_takes "(" rules).bind fun _ =>
      (Parameter.readList_mayTake n).orEmpty.bind fun ps => (mark_takes ")" rules).bind fun _ =>
        ((Result.read_mayTake n).required "result" rules).bind_done fun r =>
          ⟨some ⟨d, ps, r⟩, rfl⟩) rfl (read_reads n)
  exact h.rule rfl (by simp only [Rule.production, words_append, mul_assoc]; rfl)

/-! ### Specializations -/

namespace Specialization

/-- A specialization from its parts. -/
theorem mem_words {d : Declaration} {a : Abstraction} {x y z : List Lexeme}
    (hd : ∀ rest, Plain .declaration (x ++ rest) rest d)
    (ha : ∀ rest, Plain .abstraction (y ++ rest) rest a)
    (hz : z ∈ 1 + Rule.enumeration.words)
    (h : d.parameters = [] → a.qualifier ≠ some .array) :
    x ++ (y ++ z) ∈ Rule.specialization.words := by
  rcases hz with rfl | ⟨v, hv, -⟩
  · refine ⟨⟨d, a, none⟩, fun rest => derives_specialization.2 ⟨_, _, ?_, ha rest, .absent⟩, h⟩
    simpa using hd (y ++ rest)
  · refine ⟨⟨d, a, some v⟩, fun rest => ?_, h⟩
    simp only [List.append_assoc]
    exact derives_specialization.2 ⟨_, _, hd _, ha _, .present (hv rest)⟩

/-- The shortest abstraction, which can stand behind every declaration. -/
def shortest : Abstraction := Abstraction.mk none "a" []

/-- A name by itself, in front of anything. -/
theorem shortest_plain (rest : List Lexeme) :
    Plain .abstraction ([.name "a"] ++ rest) rest shortest :=
  derives_abstraction.2 ⟨rest, .absent, fun _ => (by decide : "a" ∉ Prefix.words), .absent⟩

/-- A bracket that does not come next starts no sequence type. -/
theorem not_array_of_next {d : Declaration} {a : Abstraction}
    (hd : d.parameters = [] → w.head? ≠ some (.mark "[")) (ha : Plain .abstraction w w' a) :
    d.parameters = [] → a.qualifier ≠ some .array := by
  intro hps hq
  obtain ⟨u, rfl⟩ := brackets_of_array ha hq
  exact hd hps rfl

/-- A specialization gets stuck in its declaration, in its abstraction or in its enumeration. -/
theorem read_stuck (h : (read n).stuck? w = some rest) :
    ∃ u v, u ++ v ∈ Rule.specialization.words ∧ w = u ++ rest := by
  rcases of_stuck_bind h with h₁ | ⟨d, w₁, ho, h₁⟩
  · obtain ⟨u, v, ⟨d, hd, -⟩, rfl⟩ := (Declaration.read_mayTake n).stuck h₁
    refine ⟨u, v ++ [.name "a"], ?_, rfl⟩
    rw [← List.append_assoc]
    exact mem_words hd shortest_plain (.inl rfl) nofun
  cases Declaration.read_next n ho with
  | absent => cases h₁
  | present hd =>
    obtain ⟨x, rfl, hx⟩ := exists_of_derives hd.1
    rcases of_stuck_bind h₁ with h₂ | ⟨a, w₂, ha, h₂⟩
    · obtain ⟨u, v, ⟨a, ha, -⟩, rfl⟩ := ((Abstraction.read_mayTake n).required _ _).stuck h₂
      cases u with
      | nil => exact ⟨x, [.name "a"], mem_words hx shortest_plain (.inl rfl) nofun, rfl⟩
      | cons l u =>
        -- the abstraction starts with the token that has been seen behind the declaration
        refine ⟨x ++ l :: u, v, ?_, by simp⟩
        have harray := not_array_of_next (w := l :: u ++ v ++ []) hd.2 (ha [])
        simpa using mem_words hx ha (.inl rfl) harray
    · replace ha := required_reads (Abstraction.read_reads n) _ _ ha
      have harray := not_array_of_next hd.2 ha
      obtain ⟨y, rfl, hy⟩ := exists_of_derives ha
      rcases of_stuck_bind h₂ with h₃ | ⟨_, _, -, h₃⟩
      · obtain ⟨u, v, huv, rfl⟩ := (Values.readEnumeration_mayTake n).optional.stuck h₃
        exact ⟨x ++ (y ++ u), v, by simpa using mem_words hx hy huv harray, by simp⟩
      · cases h₃

/-- A declaration and an abstraction, which have to go together, and perhaps an enumeration. -/
theorem read_mayTake (n : Nat) : (read n).MayTake Rule.specialization.words := by
  refine ⟨?_, left_of_reads (read_reads n), read_stuck, ?_⟩
  · rintro w w' (_ | s) h hs
    · cases hs
    obtain ⟨d, w₁, ho, h₁⟩ := of_bind h
    cases Declaration.read_next n ho with
    | absent => exact absurd (of_done h₁).1 nofun
    | present hd =>
      obtain ⟨a, w₂, ha, h₂⟩ := of_bind h₁
      obtain ⟨e, w₃, he, h₃⟩ := of_bind h₂
      obtain ⟨-, rfl⟩ := of_done h₃
      replace ha := required_reads (Abstraction.read_reads n) _ _ ha
      have harray := not_array_of_next hd.2 ha
      obtain ⟨x, rfl, hx⟩ := exists_of_derives hd.1
      obtain ⟨y, rfl, hy⟩ := exists_of_derives ha
      obtain ⟨z, hz, rfl⟩ := (Values.readEnumeration_mayTake n).optional.taken he trivial
      exact ⟨_, mem_words hx hy hz harray, by simp⟩
  · obtain ⟨x, d, hd, -⟩ := (Declaration.read_mayTake n).nonempty
    exact ⟨_, mem_words hd shortest_plain (.inl rfl) nofun⟩

end Specialization

/-- The types are a heading and two sections, each of which may be missing. -/
theorem Types.read_mayTake (n : Nat) : (Types.read n).MayTake Rule.types.words := by
  have hspecializations := ((Specialization.read_mayTake n).titled (Specialization.read_reads n)
    "// Specializations" "specialization" [.specializations, .specialization] n).rule
    (x := .specializations) rfl rfl
  have hfunctionals := ((Functional.read_mayTake n).titled (Functional.read_reads n)
    "// Functionals" "functional" [.functionals, .functional] n).rule (x := .functionals) rfl rfl
  have h : (Types.read n).MayTake _ := (flag_takes (.note "// TYPES")).bind_true
    (hspecializations.sorted.bind fun ss => hfunctionals.sorted.bind_done fun fs =>
      ⟨some ⟨ss, fs⟩, rfl⟩) rfl (read_reads n)
  exact h.rule rfl (by simp only [Rule.production, words_append, mul_assoc]; rfl)

end PackageModel
