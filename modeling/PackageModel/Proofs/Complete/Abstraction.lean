import PackageModel.Proofs.Grammar.Equations
import PackageModel.Proofs.Reading.Gives
import PackageModel.Reading.Abstraction

/-!
# PackageModel.Proofs.Complete.Abstraction

What is derivable is read: uses of types.  An abstraction is read from the tokens of its plain
derivation if the tokens behind it do not continue it.  Where they do, reading fails; the ways in
which that can happen are stated as well.
-/

namespace PackageModel

open Reading Stretch
open Production hiding some optional rule comment many identifier mark bracketed titled called
  interface commaList

variable {n : Nat} {w w₁ rest : List Lexeme}

/-! ## Prefixes -/

/-- The words with which a prefix starts. -/
theorem Prefix.mem_words {i : String} : i ∈ Prefix.words ↔ i = "map" ∨ i = "chan" := by
  simp [words]

/-- A prefix is read from its tokens, whatever stands behind them. -/
theorem Prefix.read_eval {q : Prefix} (h : Prefixed w w₁ q) :
    Prefix.read.eval w = some (some q, w₁) := by
  cases h with
  | array =>
    simp [Prefix.read, taken_taken]
  | @map w k =>
    have hleft : Refuses (.delimiter "[")
        (.name "map" :: .mark "[" :: .name k :: .mark "]" :: w₁) := by
      simp
    simp [Prefix.read, taken_left hleft]
  | channel =>
    have hleft : Refuses (.delimiter "[") (.name "chan" :: w₁) := by simp
    have hmap : Refuses (.keyword "map") (.name "chan" :: w₁) := by simp
    simp [Prefix.read, taken_left hleft, keyword?_left hmap]
  | @aliased _ i hi =>
    rw [mem_words, not_or] at hi
    have hleft : Refuses (.delimiter "[") (.name i :: .mark "." :: w₁) := by simp
    have hmap : Refuses (.keyword "map") (.name i :: .mark "." :: w₁) := by simp [hi.1]
    have hchan : Refuses (.keyword "chan") (.name i :: .mark "." :: w₁) := by simp [hi.2]
    simp [Prefix.read, taken_left hleft, keyword?_left hmap, keyword?_left hchan, taken_taken]

/-- A name is no prefix if no dot follows and it is none of the keywords. -/
theorem Prefix.read_name {i : String} (hi : i ∉ Prefix.words) (h : Refuses (.delimiter ".") w) :
    Prefix.read.eval (.name i :: w) = some (none, .name i :: w) := by
  rw [mem_words, not_or] at hi
  have hleft : Refuses (.delimiter "[") (.name i :: w) := by simp
  have hmap : Refuses (.keyword "map") (.name i :: w) := by simp [hi.1]
  have hchan : Refuses (.keyword "chan") (.name i :: w) := by simp [hi.2]
  simp [Prefix.read, taken_left hleft, keyword?_left hmap, keyword?_left hchan,
    taken_left_second h]

/-- There is no prefix where neither a bracket nor a name comes next. -/
theorem Prefix.read_absent (hbracket : Refuses (.delimiter "[") w)
    (hname : Refuses .identifier w) : Prefix.read.eval w = some (none, w) := by
  simp [Prefix.read, taken_left hbracket, keyword?_left (hname.keyword _), taken_left hname]

/-! ## Abstractions -/

/-- What stands behind the name of an abstraction does not continue the name. -/
theorem refuses_bracketed {R : Stretch (List Abstraction)} {as : List Abstraction} {m : String}
    (hm : m ≠ "[") (h : Bracketed R w rest as) (hrest : Refuses (.delimiter m) rest) :
    Refuses (.delimiter m) w := by
  cases h with
  | absent => exact hrest
  | present _ => simpa using hm.symm

/-- What ends an item does not continue it. -/
theorem follows_of_mem_itemEnds {m : String} (hm : m ∈ itemEnds) : Follows (.mark m :: w) := by
  simp only [itemEnds, List.mem_cons, List.not_mem_nil, or_false] at hm
  rcases hm with rfl | rfl | rfl <;> constructor <;> simp

namespace Abstraction

/-- Up to its arguments, an abstraction is read from what it starts with. -/
theorem read_head {q : Option Prefix} {i : String}
    (hq : Maybe (Plain .qualifier) w (.name i :: w₁) q) (hi : q = none → i ∉ Prefix.words)
    (hdot : Refuses (.delimiter ".") w₁) (hopening : Refuses (.delimiter "(") w₁) :
    (read (n + 1)).eval w = ((bracketed (commaList (read n) n) "arguments" rules).bind
      fun as => done (some (mk q i as))).eval w₁ := by
  cases hq with
  | absent =>
    have hname : (readName none).eval (.name i :: w₁) = some (some i, w₁) :=
      not_taken (Terminal.accepts_identifier_name i) hopening
    simp [read, Prefix.read_name (hi rfl) hdot, hname]
  | present hq =>
    have hprefix := Prefix.read_eval (Production.derives_qualifier.1 hq)
    simp [read, hprefix, readName]

/-- There is no abstraction in front of a closing mark. -/
theorem read_absent (hbracket : Refuses (.delimiter "[") w) (hname : Refuses .identifier w) :
    (read n).eval w = some (none, w) := by
  cases n with
  | zero => rfl
  | succ n =>
    have hnone : (readName none).eval w = some (none, w) := not_left hname
    simp [read, Prefix.read_absent hbracket hname, hnone]

/-- There is no abstraction in front of the end of a list. -/
theorem read_left {m : String} (hm : m ∈ listEnds) :
    (read n).eval (.mark m :: w) = some (none, .mark m :: w) := by
  simp only [listEnds, List.mem_cons, List.not_mem_nil, or_false] at hm
  rcases hm with rfl | rfl <;> exact read_absent (by simp) (by simp)

/-- An abstraction is read if the tokens behind it do not continue it.  Only one without arguments
can be continued by a bracket. -/
theorem read_eval {a : Abstraction} (h : Plain .abstraction w rest a)
    (hdot : Refuses (.delimiter ".") rest) (hopening : Refuses (.delimiter "(") rest)
    (hbracket : a.arguments = [] → Refuses (.delimiter "[") rest) (hn : w.length < n) :
    (read n).eval w = some (some a, rest) := by
  induction n generalizing w rest a with
  | zero => omega
  | succ n ih =>
    obtain ⟨w₁, hq, hi, has⟩ := Production.derives_abstraction.1 h
    have hitems : ReadsItems (read n) (Plain .abstraction) n :=
      { taken := fun h hm hw =>
          have hfollows := follows_of_mem_itemEnds hm
          ih h hfollows.dot hfollows.opening (fun _ => hfollows.bracket) hw
        left := read_left
        shrinks := Production.Derives.length_lt }
    have hlength : w₁.length < w.length := Production.length_le_of_maybe hq
    have harguments : (bracketed (commaList (read n) n) "arguments" rules).eval w₁ =
        some (a.arguments, rest) := by
      refine bracketed_eval (N := n) ?_ has hbracket (by omega) _ _
      intro u as has hu
      exact hitems.commaList (Production.derives_arguments.1 has) (by simp [listEnds]) hu hu
    rw [read_head hq hi (refuses_bracketed (by decide) has hdot)
      (refuses_bracketed (by decide) has hopening), eval_bind, harguments]
    cases a
    rfl

/-- A bracket behind an abstraction without arguments is taken for the bracket of its arguments. -/
theorem read_failed {a : Abstraction} (h : Plain .abstraction w (.mark "[" :: .mark "]" :: rest) a)
    (ha : a.arguments = []) (hn : 0 < n) : (read n).eval w = none := by
  cases n with
  | zero => omega
  | succ n =>
    obtain ⟨w₁, hq, hi, has⟩ := Production.derives_abstraction.1 h
    rw [ha] at has
    have habsent : (commaList (read n) n).eval (.mark "]" :: rest) =
        some (none, .mark "]" :: rest) := by
      have hleft := read_left (n := n) (w := rest) (m := "]") (by simp [listEnds])
      simp [commaList, hleft]
    cases has with
    | absent =>
      rw [read_head hq hi (by simp) (by simp), eval_bind, bracketed_failed habsent]
      rfl
    | present has => cases Production.derives_arguments.1 has

/-- The name of a member is not taken for an abstraction, unless it is a keyword: behind that the
rest of a prefix is missing. -/
theorem read_name (i : String) (w : List Lexeme) (hn : 0 < n) :
    (read n).Gives (.name i :: .mark "(" :: w) (i ∉ Prefix.words) none
      (.name i :: .mark "(" :: w) := by
  cases n with
  | zero => omega
  | succ n =>
    have hleft : Refuses (.delimiter "[") (.name i :: .mark "(" :: w) := by simp
    have hopening : Refuses (.delimiter "[") (.mark "(" :: w) := by simp
    constructor
    · intro hi
      have hdot : Refuses (.delimiter ".") (.mark "(" :: w) := by simp
      have hname : (readName none).eval (.name i :: .mark "(" :: w) =
          some (none, .name i :: .mark "(" :: w) :=
        not_left_second (by simp)
      simp [read, Prefix.read_name hi hdot, hname]
    · intro hi
      rw [not_not, Prefix.mem_words] at hi
      rcases hi with rfl | rfl
      · simp [read, Prefix.read, taken_left hleft, mark_failed hopening]
      · have hmap : Refuses (.keyword "map") (.name "chan" :: .mark "(" :: w) := by simp
        have hname : Refuses .identifier (.mark "(" :: w) := by simp
        simp [read, Prefix.read, taken_left hleft, keyword?_left hmap, readName,
          identifier_failed hname]

end Abstraction

/-! ## Parameters and results -/

/-- A parameter is read if the tokens behind it do not continue its abstraction. -/
theorem Parameter.read_eval {p : Parameter} (h : Plain .parameter w rest p) (hrest : Follows rest)
    (hn : w.length < n) : (Parameter.read n).eval w = some (some p, rest) := by
  obtain ⟨w₁, rfl, ha⟩ := Production.derives_parameter.1 h
  rw [List.length_cons] at hn
  have habstraction := Abstraction.read_eval ha hrest.dot hrest.opening (fun _ => hrest.bracket)
    (n := n) (by omega)
  simp [Parameter.read, required, habstraction]

/-- There is no parameter in front of a delimiter. -/
theorem Parameter.read_left {m : String} :
    (Parameter.read n).eval (.mark m :: w) = some (none, .mark m :: w) := by
  have hname : Refuses .identifier (.mark m :: w) := by simp
  simp [Parameter.read, identifier?_left hname]

/-- Parameters are items of a list with commas. -/
theorem Parameter.readsItems (n : Nat) :
    ReadsItems (Parameter.read n) (Plain .parameter) n :=
  { taken := fun h hm hw => read_eval h (follows_of_mem_itemEnds hm) hw
    left := fun _ => read_left
    shrinks := Production.Derives.length_lt }

/-- A parameter list is read up to what ends it. -/
theorem Parameter.readList_eval {m : String} {ps : List Parameter} (hm : m ∈ listEnds)
    (h : Plain .parameters w (.mark m :: rest) ps) (hn : w.length < n) :
    (Parameter.readList n).eval w = some (some ps, .mark m :: rest) :=
  (readsItems n).commaList (Production.derives_parameters.1 h) hm hn hn

/-- There is no parameter list in front of the end of one. -/
theorem Parameter.readList_left {m : String} (hm : m ∈ listEnds) :
    (Parameter.readList n).eval (.mark m :: w) = some (none, .mark m :: w) :=
  (readsItems n).commaList_absent hm

/-- A parameter list between parentheses may be left out. -/
theorem Parameter.readOrEmpty_eval {ps : List Parameter}
    (h : OrEmpty (Plain .parameters) w (.mark ")" :: rest) ps) (hn : w.length < n) :
    (orEmpty (Parameter.readList n)).eval w = some (ps, .mark ")" :: rest) := by
  cases h with
  | absent => exact orEmpty_absent (readList_left (by simp [listEnds]))
  | present h =>
    have hlist := readList_eval (by simp [listEnds]) h hn
    simp [orEmpty, hlist]

/-- A result is read if the tokens behind it do not continue an abstraction. -/
theorem Result.read_eval {r : Result} (h : Plain .result w rest r) (hrest : Follows rest)
    (hn : w.length < n) : (Result.read n).eval w = some (some r, rest) := by
  cases Production.derives_result.1 h with
  | abstraction ha =>
    have habstraction := Abstraction.read_eval ha hrest.dot hrest.opening
      (fun _ => hrest.bracket) hn
    simp [Result.read, habstraction]
  | @parameters w _ ps hps =>
    have habstraction : (Abstraction.read n).eval (.mark "(" :: w) =
        some (none, .mark "(" :: w) :=
      Abstraction.read_absent (by simp) (by simp)
    rw [List.length_cons] at hn
    have hlist := Parameter.readList_eval (by simp [listEnds]) hps (n := n) (by omega)
    simp [Result.read, habstraction, required, hlist]

/-- There is no result where a section closes. -/
theorem Result.read_absent (h : Closes w) : (Result.read n).eval w = some (none, w) := by
  have habstraction := Abstraction.read_absent (n := n) h.bracket h.identifier
  simp [Result.read, habstraction, mark?_left h.opening]

/-- Behind a method without a result, the name of the next one is looked at.  Reading goes on if it
is none of the words of a prefix, and fails otherwise. -/
theorem Result.read_name (i : String) (w : List Lexeme) (hn : 0 < n) :
    (Result.read n).Gives (.name i :: .mark "(" :: w) (i ∉ Prefix.words) none
      (.name i :: .mark "(" :: w) := by
  have hopening : Refuses (.delimiter "(") (.name i :: .mark "(" :: w) := by simp
  have hrest : ((mark? "(").bind fun b => if b = true then
      (required (Parameter.readList n) "parameters" Result.rules).bind fun values =>
        (mark ")" Result.rules).bind fun _ => done (some (Result.parameters values))
      else done none).eval (.name i :: .mark "(" :: w) =
      some (none, .name i :: .mark "(" :: w) := by
    simp [mark?_left hopening]
  exact ((Abstraction.read_name i w hn).bind (Gives.of_eval hrest)).congr (by rw [and_true])

end PackageModel
