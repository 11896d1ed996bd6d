import PackageModel.Proofs.Layout.Renders

/-!
# PackageModel.Proofs.Generic.Word

The text of a method with marks on what may be replaced: the names of abstractions without arguments
and the keys of maps.  All other tokens are fixed.
-/

namespace PackageModel

/-- A part of a text. -/
inductive Word where
  /-- A token that stays what it is. -/
  | token (l : Lexeme)
  /-- The use of a name that may stand for something else. -/
  | use (identifier : String)
deriving Repr, DecidableEq

namespace Word

/-- A name that is not the use of a type. -/
def name (identifier : String) : Word := token (.name identifier)

/-- A delimiter. -/
def mark (delimiter : String) : Word := token (.mark delimiter)

/-- The tokens of a text in which every use of a name has been replaced, all at once. -/
def fill (f : String → List Lexeme) (ws : List Word) : List Lexeme :=
  ws.flatMap fun
    | token l => [l]
    | use i => f i

section

variable {f : String → List Lexeme} {ws : List Word} {s : String}

@[simp] theorem fill_nil : fill f [] = [] := rfl

@[simp] theorem fill_name : fill f (name s :: ws) = .name s :: fill f ws := rfl

@[simp] theorem fill_mark : fill f (mark s :: ws) = .mark s :: fill f ws := rfl

/-- A use is replaced by its text. -/
@[simp] theorem fill_use : fill f (use s :: ws) = f s ++ fill f ws := rfl

/-- Parts of a text are filled one by one. -/
@[simp] theorem fill_append {us : List Word} : fill f (us ++ ws) = fill f us ++ fill f ws :=
  List.flatMap_append ..

/-- The commas of a list do not depend on what its items are filled with. -/
@[simp] theorem fill_commaed {items : List (List Word)} :
    fill f (commaed (mark ",") items) = commaed (.mark ",") (items.map (fill f)) := by
  have hintercalate : fill f ([mark ","].intercalate items) =
      [Lexeme.mark ","].intercalate (items.map (fill f)) := by
    cases items with
    | nil => rfl
    | cons ws items =>
      have hitems : fill f (items.flatMap ([mark ","] ++ ·)) =
          items.flatMap fun ws => .mark "," :: fill f ws := List.flatMap_assoc
      rw [intercalate_cons, fill_append, hitems, List.map_cons, intercalate_cons, List.flatMap_map]
      rfl
  unfold commaed
  rw [fill_append, hintercalate, List.length_map]
  split <;> rfl

end

end Word

/-! ## The words of methods -/

/-- The words of a prefix.  An alias and the word `map` stay, the key of a map is a use. -/
def Prefix.marked : Prefix → List Word
  | array => [.mark "[", .mark "]"]
  | channel => [.name "chan"]
  | aliased name => [.name name, .mark "."]
  | map key => [.name "map", .mark "[", .use key, .mark "]"]

mutual

/-- The words of an abstraction.  With arguments its name stays, without arguments it is a use. -/
def Abstraction.marked : Abstraction → List Word
  | .mk qualifier identifier arguments =>
    (qualifier.map Prefix.marked).getD [] ++
      if arguments.isEmpty then [.use identifier]
      else .name identifier :: .mark "[" :: commaed (.mark ",") (Abstraction.markedAll arguments) ++
        [.mark "]"]

/-- The words of several abstractions. -/
def Abstraction.markedAll : List Abstraction → List (List Word)
  | [] => []
  | a :: as => a.marked :: Abstraction.markedAll as

end

/-- The words of several abstractions, one by one. -/
theorem Abstraction.markedAll_eq_map (as : List Abstraction) : markedAll as = as.map marked := by
  induction as with
  | nil => rw [markedAll, List.map_nil]
  | cons a as ih => rw [markedAll, ih, List.map_cons]

/-- The words of a parameter, whose name stays. -/
def Parameter.marked (p : Parameter) : List Word := .name p.identifier :: p.abstraction.marked

/-- The words of a parameter list in parentheses. -/
def Parameter.markedCall (parameters : List Parameter) : List Word :=
  .mark "(" :: commaed (.mark ",") (parameters.map marked) ++ [.mark ")"]

/-- The words of a result. -/
def Result.marked : Result → List Word
  | abstraction value => value.marked
  | parameters values => Parameter.markedCall values

/-- The words of a method. -/
def Method.marked (m : Method) : List Word :=
  .name m.identifier :: Parameter.markedCall m.parameters ++ (m.result.map Result.marked).getD []

/-! ## Their tokens -/

section

open Layout Word

variable (depth : Nat)

/-- Every use as it is written. -/
abbrev Word.asWritten : String → List Lexeme := fun i => [.name i]

/-- If the tokens of each item are its words, so are those of the list. -/
theorem Layout.lexemes_sequence_map {α : Type} {as : List α} {g : α → Layout}
    {k : α → List Word} (h : ∀ a ∈ as, (g a).lexemes = fill asWritten (k a)) :
    (sequence depth (as.map g)).lexemes = fill asWritten (commaed (.mark ",") (as.map k)) := by
  rw [lexemes_sequence, fill_commaed, List.map_map, List.map_map]
  exact congrArg _ (List.map_congr_left h)

/-- The words of a prefix are the tokens of its layout. -/
theorem Prefix.lexemes_layout (q : Option Prefix) :
    lexemes ((q.map layout).getD []) = fill asWritten ((q.map marked).getD []) := by
  cases q with
  | none => rfl
  | some q => cases q <;> rfl

mutual

/-- By recursion on the abstraction, whose arguments may stand at another depth. -/
theorem Abstraction.lexemes_layout (depth : Nat) :
    (a : Abstraction) → (a.layout depth).lexemes = fill asWritten a.marked
  | .mk q i as => by
    rw [layout, marked, lexemes_append, fill_append, Prefix.lexemes_layout, layouts_eq_map,
      markedAll_eq_map]
    have hsequence := Layout.lexemes_sequence_map depth
      (lexemes_layouts (itemDepth depth as.length) as)
    cases as with
    | nil => rfl
    | cons a as => simpa [bracketed_cons] using hsequence

/-- The arguments of an abstraction. -/
theorem Abstraction.lexemes_layouts (depth : Nat) : (as : List Abstraction) →
    ∀ a ∈ as, (a.layout depth).lexemes = fill asWritten a.marked
  | [] => nofun
  | a :: as => List.forall_mem_cons.2 ⟨lexemes_layout depth a, lexemes_layouts depth as⟩

end

/-- The words of a parameter are the tokens of its layout. -/
theorem Parameter.lexemes_layout (p : Parameter) :
    (p.layout depth).lexemes = fill asWritten p.marked := by
  simp [layout, marked, Abstraction.lexemes_layout]

/-- The words of a parameter list are the tokens of its layout. -/
theorem Parameter.lexemes_layoutCall (ps : List Parameter) :
    (layoutCall depth ps).lexemes = fill asWritten (markedCall ps) := by
  have hitems : ∀ p ∈ ps, (p.layout (itemDepth depth ps.length)).lexemes =
      fill asWritten p.marked := fun p _ => p.lexemes_layout _
  have hsequence := Layout.lexemes_sequence_map depth hitems
  simp only [layoutCall, layoutList, markedCall, List.cons_append, lexemes_mark, lexemes_append,
    fill_mark, fill_append, hsequence]
  rfl

/-- The words of a result are the tokens of its layout. -/
theorem Result.lexemes_layout (r : Result) :
    (r.layout depth).lexemes = fill asWritten r.marked := by
  cases r with
  | abstraction a => exact a.lexemes_layout depth
  | parameters ps => exact Parameter.lexemes_layoutCall depth ps

/-- The words of a method are the tokens of its layout. -/
theorem Method.lexemes_layout (m : Method) :
    (m.layout depth).lexemes = fill asWritten m.marked := by
  obtain ⟨i, ps, result⟩ := m
  cases result with
  | none => simp [layout, marked, Parameter.lexemes_layoutCall]
  | some r => simp [layout, marked, Parameter.lexemes_layoutCall, Result.lexemes_layout]

end

end PackageModel
