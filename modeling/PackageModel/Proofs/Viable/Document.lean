import PackageModel.Proofs.Complete.Document
import PackageModel.Proofs.Viable.Interfaces

/-!
# PackageModel.Proofs.Viable.Document

The beginnings of documents.
-/

namespace PackageModel

open Reading Stretch Computability
open Production hiding some optional rule comment many identifier mark bracketed titled called
  interface commaList

variable {n : Nat}

/-- A header is a comment and the name of the package. -/
theorem Header.read_mayTake : Header.read.MayTake Rule.header.words := by
  have h : Header.read.MayTake _ := (text?_mayTake .comment).bind_some
    (fun c => (keyword_takes "package" _).bind fun _ => (identifier_takes _).bind_done fun i =>
      ⟨some ⟨c, i⟩, rfl⟩) rfl read_reads
  exact h.rule rfl (by simp only [Rule.production, words_append, mul_assoc]; rfl)

/-- A module is an alias and a locator. -/
theorem Module.read_mayTake : Module.read.MayTake Rule.module.words :=
  TakesWhen.rule ((text?_mayTake .identifier).bind_some
    (fun i => (text_takes .text _).bind_done fun t => ⟨some ⟨i, t⟩, rfl⟩) rfl read_reads) rfl rfl

/-- The imports are the word `import` and modules between parentheses. -/
theorem Module.readImports_mayTake (n : Nat) :
    (Module.readImports n).MayTake Rule.imports.words := by
  have hmodules := (read_mayTake.oneOrMore read_reads n).rule (x := .modules) rfl rfl
  have h : (Module.readImports n).MayTake _ := (flag_takes (.keyword "import")).bind_true
    ((mark_takes "(" _).bind fun _ => hmodules.orEmpty.bind fun ms =>
      (mark_takes ")" _).bind_done fun _ => ⟨some (canonicalSort ms), rfl⟩) rfl
    (readImports_reads n)
  exact h.rule rfl (by simp only [Rule.production, words_append, mul_assoc]; rfl)

namespace Document

/-- A document is read from its notice to the end of its interfaces. -/
theorem read_mayTake (hn : 0 < n) : (read n).MayTake Rule.document.words := by
  have hnotice : Production.comment.words ≤ Rule.notice.words := Rule.le_words rfl rfl
  have h : (read n).MayTake _ := TakesWhen.bind_some ((text?_mayTake .comment).mono hnotice)
    (fun c => (Header.read_mayTake.required "header" _).bind fun h =>
      (Module.readImports_mayTake n).optional.bind fun ms =>
        (Types.read_mayTake n).optional.bind fun ts =>
          (Interfaces.read_mayTake hn).optional.bind_done fun is => ⟨some ⟨c, h, ms, ts, is⟩, rfl⟩)
    rfl (read_reads n)
  exact h.rule rfl (by simp only [Rule.production, words_append, mul_assoc]; rfl)

/-- A source gets stuck behind the beginning of a document; the end-of-file token is not taken
before. -/
theorem readSource_stuck (hn : 0 < n) {w rest : List Lexeme}
    (h : (readSource n).stuck? w = some rest) :
    ∃ u v, u ++ v ∈ Rule.document.words ∧ w = u ++ rest := by
  have hdocument := (read_mayTake hn).required "document" [.source, .document]
  rcases of_stuck_bind h with h₁ | ⟨d, w₁, hd, h₁⟩
  · exact hdocument.stuck h₁
  · obtain ⟨u, hu, rfl⟩ := hdocument.taken hd trivial
    rcases of_stuck_bind h₁ with h₂ | ⟨_, _, -, h₂⟩
    · exact ⟨u, [], by rwa [List.append_nil], by rw [of_text_stuck h₂]⟩
    · cases h₂

end Document

end PackageModel
