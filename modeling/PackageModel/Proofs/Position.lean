import Mathlib.Data.List.DropRight
import PackageModel.Excerpt

/-!
# PackageModel.Proofs.Position

Places and lines.  A place counts the line ends in front of it and the characters since the last
one.  So it finds its line among those of the text, and its column divides this line into what is
in front of the place and what is behind it.
-/

namespace PackageModel

open Excerpt (lines)

/-! ## Cutting a text into lines -/

/-- A line end begins a new line, any other character stands at the front of the first one. -/
theorem lines_cons_eq_if (c : Char) (cs : List Char) :
    lines (c :: cs) = if c = '\n' then [] :: lines cs else (lines cs).modifyHead (c :: ·) := by
  simpa [lines] using List.splitOn_cons_eq_if_modifyHead c cs

/-- A line end keeps the lines on both sides apart. -/
theorem lines_append_newline (cs ds : List Char) :
    lines (cs ++ '\n' :: ds) = lines cs ++ lines ds := List.splitOn_append_cons_self cs ds

/-- A line end ends the first line. -/
theorem lines_line {line : List Char} (h : '\n' ∉ line) (cs : List Char) :
    lines (line ++ '\n' :: cs) = line :: lines cs := List.splitOn_append_cons_self_of_not_mem h cs

/-- There is one line more than line ends. -/
theorem length_lines (cs : List Char) : (lines cs).length = cs.count '\n' + 1 := by
  induction cs with
  | nil => rfl
  | cons c cs ih =>
    rw [lines_cons_eq_if]
    by_cases hc : c = '\n' <;> simp [hc, ih]

/-- No line has a line end in it. -/
theorem not_mem_of_mem_lines {cs line : List Char} (h : line ∈ lines cs) : '\n' ∉ line := by
  induction cs generalizing line with
  | nil => simp_all [lines]
  | cons c cs ih =>
    rw [lines_cons_eq_if] at h
    by_cases hc : c = '\n'
    · rw [if_pos hc, List.mem_cons] at h
      rcases h with rfl | h
      · exact List.not_mem_nil
      · exact ih h
    · obtain ⟨first, rest, hcs⟩ := List.exists_cons_of_ne_nil (List.splitOn_ne_nil '\n' cs)
      rw [← lines] at hcs
      have hfirst : '\n' ∉ first := ih (by simp [hcs])
      have hrest : ∀ l ∈ rest, '\n' ∉ l := fun l hl => ih (by simp [hcs, hl])
      rw [if_neg hc, hcs, List.modifyHead_cons, List.mem_cons] at h
      rcases h with rfl | h
      · simp [hfirst, Ne.symm hc]
      · exact hrest line h

/-! ## The parts of a line -/

/-- What stands in front of a place in its line, if this is the text in front of the place. -/
def lineBefore (cs : List Char) : List Char := cs.rtakeWhile (· ≠ '\n')

/-- What stands behind a place in its line, if this is the text behind the place. -/
def lineBehind (cs : List Char) : List Char := cs.takeWhile (· ≠ '\n')

/-- A text starts with the line in front of its first line end. -/
theorem head?_lines (cs : List Char) : (lines cs).head? = some (lineBehind cs) := by
  induction cs with
  | nil => rfl
  | cons c cs ih =>
    rw [lines_cons_eq_if, lineBehind]
    by_cases hc : c = '\n'
    · simp [hc]
    · simp [hc, ih, lineBehind]

/-- The line of a place: as many lines are above it as there are line ends in front of the place. -/
theorem getElem?_lines (pre post : List Char) :
    (lines (pre ++ post))[pre.count '\n']? = some (lineBefore pre ++ lineBehind post) := by
  induction pre using List.reverseRecOn generalizing post with
  | nil =>
    rw [List.nil_append, List.count_nil, ← List.head?_eq_getElem?, head?_lines]
    rfl
  | append_singleton pre c ih =>
    by_cases hc : c = '\n'
    · have hlength : (pre ++ [c]).count '\n' = (lines pre).length := by
        simp [hc, length_lines]
      rw [List.append_assoc, List.singleton_append, hlength, hc, lines_append_newline,
        List.getElem?_append_right (Nat.le_refl _), Nat.sub_self, ← List.head?_eq_getElem?,
        head?_lines]
      simp [lineBefore]
    · have hline := ih (c :: post)
      simpa [hc, lineBefore, lineBehind, List.rtakeWhile_concat] using hline

/-- A text without line ends is one line. -/
theorem lineBefore_of_not_mem {cs : List Char} (h : '\n' ∉ cs) : lineBefore cs = cs := by
  rw [lineBefore, List.rtakeWhile_eq_self_iff]
  intro c hc
  exact decide_eq_true fun heq => h (heq ▸ hc)

/-! ## Places -/

namespace Position

/-- Each line end is one line more. -/
theorem line_advance (p : Position) (cs : List Char) :
    (p.advance cs).line = p.line + cs.count '\n' := by
  induction cs using List.reverseRecOn with
  | nil => rfl
  | append_singleton cs c ih =>
    rw [advance_append, advance_cons, advance_nil, next]
    by_cases hc : c = '\n' <;> simp [hc, ih, Nat.add_assoc]

/-- The column counts on to the end of the text, or anew from its last line end. -/
theorem column_advance (p : Position) (cs : List Char) :
    (p.advance cs).column =
      if '\n' ∈ cs then (lineBefore cs).length + 1 else p.column + cs.length := by
  induction cs using List.reverseRecOn with
  | nil => rfl
  | append_singleton cs c ih =>
    rw [advance_append, advance_cons, advance_nil, next, lineBefore, List.rtakeWhile_concat]
    by_cases hc : c = '\n'
    · simp [hc]
    · simp [hc, ih, Ne.symm hc, lineBefore]
      split <;> omega

/-- Lines are counted from one. -/
theorem line_advance_start (cs : List Char) :
    (advance .start cs).line = cs.count '\n' + 1 := by
  rw [line_advance, start, Nat.add_comm]

/-- The column counts the characters in front of the place in its line. -/
theorem column_advance_start (cs : List Char) :
    (advance .start cs).column = (lineBefore cs).length + 1 := by
  rw [column_advance]
  split
  · rfl
  · next h => rw [lineBefore_of_not_mem h, start, Nat.add_comm]

end Position

end PackageModel
