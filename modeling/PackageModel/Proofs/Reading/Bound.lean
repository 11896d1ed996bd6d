import PackageModel.Proofs.Reading.Reads
import PackageModel.Reading.Document

/-!
# PackageModel.Proofs.Reading.Bound

The bounds of programs.  A program whose bound is larger than the number of tokens ahead does what
it does with any larger bound: an abstraction takes a token before it reads its arguments, and every
item of a list takes at least one token.
-/

namespace PackageModel

namespace Reading

variable {α β : Type}

/-! ## What runs leave -/

/-- Programs run one behind the other on what the first one leaves. -/
theorem run_bind (r : Reading α) (f : α → Reading β) (s : TokenStream) :
    (r.bind f).run s =
      match r.run s with
      | (.ok a, s') => (f a).run s'
      | (.error e, s') => (.error e, s') := by
  induction r generalizing s with
  | done a => rfl
  | fail expected rules =>
    simp only [bind, run, TokenStream.unexpected]
    rcases s.peek with ⟨e | t, s'⟩ <;> rfl
  | take wanted behind next ih =>
    simp only [bind, run]
    rcases s.takeBefore wanted behind with ⟨e | t, s'⟩
    · rfl
    · exact ih _ s'

/-- What a successful run leaves is the end of what was ahead. -/
theorem ahead_suffix_of_run {r : Reading α} {s s' : TokenStream} {a : α}
    (h : r.run s = (.ok a, s')) : s'.ahead <:+ s.ahead := by
  induction r generalizing s with
  | done b =>
    cases h
    exact List.suffix_rfl
  | fail expected rules =>
    simp only [run, TokenStream.unexpected] at h
    split at h <;> cases h
  | take wanted behind next ih =>
    cases agrees s wanted behind with
    | ok o s₁ htake hsuf hw =>
      simp only [run, htake] at h
      exact (ih _ h).trans hsuf
    | error e s₁ htake hw =>
      simp only [run, htake] at h
      cases h

/-- A run of two programs behind each other that succeeds is a run of both. -/
theorem of_run_bind {r : Reading α} {f : α → Reading β} {s s' : TokenStream} {b : β}
    (h : (r.bind f).run s = (.ok b, s')) :
    ∃ a s₁, r.run s = (.ok a, s₁) ∧ (f a).run s₁ = (.ok b, s') := by
  rw [run_bind] at h
  rcases hr : r.run s with ⟨e | a, s₁⟩ <;> rw [hr] at h
  · cases h
  · exact ⟨a, s₁, rfl, h⟩

/-- Results of which `P` holds take at least one token. -/
def TakesIf (P : α → Prop) (r : Reading α) : Prop :=
  ∀ ⦃s s' a⦄, r.run s = (.ok a, s') → P a → s'.ahead.length < s.ahead.length

namespace TakesIf

variable {P : α → Prop} {Q : β → Prop} {r : Reading α} {f : α → Reading β}

/-- A program that does nothing takes a token if its result needs none. -/
theorem done {a : α} (h : ¬ P a) : (done a).TakesIf P := by
  rintro s s' b ⟨⟩ hb
  exact absurd hb h

/-- One of two programs behind each other takes a token. -/
theorem bind (hr : r.TakesIf P) (hf : ∀ a, ¬ P a → (f a).TakesIf Q) : (r.bind f).TakesIf Q := by
  intro s s' b h hb
  obtain ⟨a, s₁, hra, hfa⟩ := of_run_bind h
  have hle₁ := (ahead_suffix_of_run hra).length_le
  have hle := (ahead_suffix_of_run hfa).length_le
  by_cases ha : P a
  · exact Nat.lt_of_le_of_lt hle (hr hra ha)
  · exact Nat.lt_of_lt_of_le (hf a ha hfa hb) hle₁

/-- A rule without result where its first part has none takes a token if the first part does. -/
theorem bind_some {r : Reading (Option α)} {f : Option α → Reading (Option β)}
    (hr : r.TakesIf (· ≠ none)) (hf : f none = .done none) : (r.bind f).TakesIf (· ≠ none) := by
  refine hr.bind fun o ho => ?_
  obtain rfl : o = none := by simpa using ho
  rw [hf]
  exact done (by simp)

/-- A program takes a token if what comes last in it does. -/
theorem bind_right (hf : ∀ a, (f a).TakesIf Q) : (r.bind f).TakesIf Q :=
  bind (P := fun _ => False) (fun _ _ _ _ => False.elim) fun a _ => hf a

/-- What stands in fewer lexemes than there are has taken some. -/
theorem of_reads {R : Stretch α} (hr : r.Reads R)
    (hR : ∀ ⦃w w' a⦄, R w w' a → P a → w'.length < w.length) : r.TakesIf P := by
  intro s s' a h ha
  simpa [TokenStream.lexemes] using hR (hr (eval_of_run h)) ha

/-- A text that is read is taken from a token. -/
theorem text? (t : Terminal) : (text? t).TakesIf (· ≠ none) := by
  refine of_reads (text?_reads t) ?_
  rintro w w' o (⟨l, rfl, -⟩ | ⟨-, -, rfl⟩) ho
  · simp
  · exact absurd rfl ho

/-- A text that is required is taken from a token or not at all. -/
theorem text (t : Terminal) (rules : List Rule) : (text t rules).TakesIf fun _ => True := by
  refine of_reads (text_reads t rules) ?_
  rintro w w' v ⟨l, rfl, -⟩ -
  simp

/-- A token that is taken, unless another one follows, is taken. -/
theorem notBefore (t u : Terminal) : (take t (.not u) Reading.done).TakesIf (· ≠ none) := by
  refine of_reads (not_reads t u) ?_
  rintro w w' o (⟨l, rfl, -⟩ | ⟨-, rfl⟩) ho
  · simp
  · exact absurd rfl ho

/-- A name that is read is taken from a token. -/
theorem identifier? : identifier?.TakesIf (· ≠ none) := text? _

/-- A mark that is found is taken. -/
theorem mark? (m : String) : (mark? m).TakesIf (· = true) :=
  (text? _).bind fun o ho => done (by simpa using ho)

end TakesIf

/-! ## Programs with different bounds -/

/-- The programs do the same with fewer than `N` tokens ahead. -/
def SameBelow (N : Nat) (r r' : Reading α) : Prop :=
  ∀ ⦃s : TokenStream⦄, s.ahead.length < N → r.run s = r'.run s

namespace SameBelow

variable {N n m : Nat} {r r' : Reading α} {f f' : α → Reading β} {item item' : Reading (Option α)}

/-- Every program does the same as itself. -/
protected theorem rfl : SameBelow N r r := fun _ _ => Eq.refl _

/-- Programs that do the same on many tokens do the same on few. -/
theorem mono {M : Nat} (h : SameBelow N r r') (hM : M ≤ N) : SameBelow M r r' :=
  fun _ hs => h (Nat.lt_of_lt_of_le hs hM)

/-- Programs one behind the other do the same if each of them does: the second one never has more
tokens ahead than the first. -/
theorem bind (hr : SameBelow N r r') (hf : ∀ a, SameBelow N (f a) (f' a)) :
    SameBelow N (r.bind f) (r'.bind f') := by
  intro s hs
  rw [run_bind, run_bind, ← hr hs]
  rcases hra : r.run s with ⟨e | a, s₁⟩
  · rfl
  · exact hf a (Nat.lt_of_le_of_lt (ahead_suffix_of_run hra).length_le hs)

/-- Behind a token that was taken there are fewer tokens ahead. -/
theorem bind_takes {P : α → Prop} (hP : r.TakesIf P) (hr : SameBelow (N + 1) r r')
    (htakes : ∀ a, P a → SameBelow N (f a) (f' a))
    (hleaves : ∀ a, ¬ P a → SameBelow (N + 1) (f a) (f' a)) :
    SameBelow (N + 1) (r.bind f) (r'.bind f') := by
  intro s hs
  rw [run_bind, run_bind, ← hr hs]
  rcases hra : r.run s with ⟨e | a, s₁⟩
  · rfl
  by_cases ha : P a
  · exact htakes a ha (Nat.lt_of_lt_of_le (hP hra ha) (Nat.le_of_lt_succ hs))
  · exact hleaves a ha (Nat.lt_of_le_of_lt (ahead_suffix_of_run hra).length_le hs)

/-- A required item is read as an optional one is. -/
theorem required (h : SameBelow N item item') {expected : String} {rules : List Rule} :
    SameBelow N (required item expected rules) (required item' expected rules) :=
  h.bind fun _ => .rfl

/-- A list that can be missing is read as one that is given back or not. -/
theorem orEmpty {list list' : Reading (Option (List α))} (h : SameBelow N list list') :
    SameBelow N (orEmpty list) (orEmpty list') :=
  h.bind fun _ => .rfl

/-- The bound of a repetition has no effect: each item takes a token. -/
theorem many (h : SameBelow N item item') (hitem : item.TakesIf (· ≠ none)) (hn : N ≤ n)
    (hm : N ≤ m) : SameBelow N (many item n) (many item' m) := by
  induction N generalizing n m with
  | zero => exact fun s hs => absurd hs (Nat.not_lt_zero _)
  | succ N ih =>
    obtain ⟨n, rfl⟩ := Nat.exists_eq_succ_of_ne_zero (by omega : n ≠ 0)
    obtain ⟨m, rfl⟩ := Nat.exists_eq_succ_of_ne_zero (by omega : m ≠ 0)
    -- an item leaves fewer than `N` tokens for the other items
    refine bind_takes hitem h ?_ ?_
    · rintro (_ | a) ha
      · exact absurd (Eq.refl _) ha
      · exact (ih (h.mono N.le_succ) (by omega) (by omega)).bind fun _ => .rfl
    · rintro (_ | a) ha
      · exact .rfl
      · exact absurd (by simp) ha

/-- Lists with one item at least are read the same if the items are: each of them takes a token, so
there are no more rounds than tokens. -/
theorem oneOrMore (h : SameBelow N item item') (hitem : item.TakesIf (· ≠ none)) (hn : N ≤ n)
    (hm : N ≤ m) : SameBelow N (oneOrMore item n) (oneOrMore item' m) :=
  h.bind fun
    | some _ => (many h hitem hn hm).bind fun _ => .rfl
    | none => .rfl

/-- The bound of a list with commas has no effect: each comma is a token. -/
theorem commaItems (h : SameBelow N item item') (hn : N ≤ n) (hm : N ≤ m) :
    SameBelow N (commaItems item n) (commaItems item' m) := by
  induction N generalizing n m with
  | zero => exact fun s hs => absurd hs (Nat.not_lt_zero _)
  | succ N ih =>
    obtain ⟨n, rfl⟩ := Nat.exists_eq_succ_of_ne_zero (by omega : n ≠ 0)
    obtain ⟨m, rfl⟩ := Nat.exists_eq_succ_of_ne_zero (by omega : m ≠ 0)
    have hN := h.mono N.le_succ
    refine bind_takes (.mark? ",") .rfl ?_ ?_
    · rintro _ rfl
      exact hN.bind fun
        | some _ => (ih hN (by omega) (by omega)).bind fun _ => .rfl
        | none => .rfl
    · rintro (_ | _) hb
      · exact .rfl
      · exact absurd (Eq.refl _) hb

/-- Lists with commas are read the same if their items are. -/
theorem commaList (h : SameBelow N item item') (hn : N ≤ n) (hm : N ≤ m) :
    SameBelow N (commaList item n) (commaList item' m) :=
  h.bind fun
    | some _ => (commaItems h hn hm).bind fun _ => .rfl
    | none => .rfl

/-- A list between brackets can have a bound that is smaller by one: the bracket takes a token. -/
theorem bracketed {list list' : Reading (Option (List α))} (h : SameBelow N list list')
    {expected : String} {rules : List Rule} :
    SameBelow (N + 1) (bracketed list expected rules) (bracketed list' expected rules) := by
  refine bind_takes (.mark? "[") .rfl ?_ ?_
  · rintro _ rfl
    exact h.required.bind fun _ => .rfl
  · rintro (_ | _) hb
    · exact .rfl
    · exact absurd (Eq.refl _) hb

/-- Items behind a note are read the same if they are read the same by themselves. -/
theorem titled (h : SameBelow N item item') (hitem : item.TakesIf (· ≠ none)) (hn : N ≤ n)
    (hm : N ≤ m) {note expected : String} {rules : List Rule} :
    SameBelow N (titled note item expected rules n) (titled note item' expected rules m) :=
  bind .rfl fun
    | true => h.required.bind fun _ => (many h hitem hn hm).bind fun _ => .rfl
    | false => .rfl

/-- Sorting makes no difference. -/
theorem sorted [Ranked α] (h : SameBelow N item item') (hitem : item.TakesIf (· ≠ none))
    (hn : N ≤ n) (hm : N ≤ m) {note expected : String} {rules : List Rule} :
    SameBelow N (sorted note item expected rules n) (sorted note item' expected rules m) :=
  (h.titled hitem hn hm).orEmpty.bind fun _ => .rfl

end SameBelow

end Reading

open Reading

variable {N n m : Nat} (hn : N ≤ n) (hm : N ≤ m)

/-! ## Uses of types -/

/-- The name of an abstraction is taken. -/
theorem Abstraction.takesIf_readName : ∀ q, (readName q).TakesIf (· ≠ none)
  | some _ => (TakesIf.text _ _).bind fun _ h => absurd trivial h
  | none => TakesIf.notBefore _ _

/-- An abstraction that is read takes a token. -/
theorem Abstraction.takesIf_read : ∀ n, (read n).TakesIf (· ≠ none)
  | 0 => .done (by simp)
  | _ + 1 => .bind_right fun q => (takesIf_readName q).bind_some rfl

/-- A declaration that is read takes a token. -/
theorem Declaration.takesIf_read : (read n).TakesIf (· ≠ none) := (TakesIf.text? _).bind_some rfl

include hn hm

/-- The arguments stand behind a bracket, and there the bound may be smaller. -/
theorem Abstraction.sameBelow_read : SameBelow N (read n) (read m) := by
  induction N generalizing n m with
  | zero => exact fun s hs => absurd hs (Nat.not_lt_zero _)
  | succ N ih =>
    obtain ⟨n, rfl⟩ := Nat.exists_eq_succ_of_ne_zero (by omega : n ≠ 0)
    obtain ⟨m, rfl⟩ := Nat.exists_eq_succ_of_ne_zero (by omega : m ≠ 0)
    have hlist : SameBelow N (commaList (read n) n) (commaList (read m) m) :=
      (ih (by omega) (by omega)).commaList (by omega) (by omega)
    exact .bind .rfl fun _ => .bind .rfl fun
      | some _ => hlist.bracketed.bind fun _ => .rfl
      | none => .rfl

/-- Parameters are read with any two bounds the same. -/
theorem Parameter.sameBelow_read : SameBelow N (read n) (read m) :=
  .bind .rfl fun
    | some _ => (Abstraction.sameBelow_read hn hm).required.bind fun _ => .rfl
    | none => .rfl

/-- Lists of parameters are read with any two bounds the same. -/
theorem Parameter.sameBelow_readList : SameBelow N (readList n) (readList m) :=
  (sameBelow_read hn hm).commaList hn hm

/-- Results are read with any two bounds the same. -/
theorem Result.sameBelow_read : SameBelow N (read n) (read m) :=
  (Abstraction.sameBelow_read hn hm).bind fun
    | some _ => .rfl
    | none => .bind .rfl fun
      | true => (Parameter.sameBelow_readList hn hm).required.bind fun _ => .rfl
      | false => .rfl

/-! ## Declarations of types -/

/-- Declarations are read with any two bounds the same. -/
theorem Declaration.sameBelow_read : SameBelow N (read n) (read m) :=
  .bind .rfl fun
    | some _ => .bind .rfl fun _ => .bind .rfl fun _ =>
      .bind ((Parameter.sameBelow_readList hn hm).bracketed.mono N.le_succ) fun _ => .rfl
    | none => .rfl

/-- Values are read with any two bounds the same. -/
theorem Values.sameBelow_read : SameBelow N (read n) (read m) :=
  .bind .rfl fun
    | some _ =>
      (Abstraction.sameBelow_read hn hm).required.bind fun _ => .bind .rfl fun _ =>
        .bind .rfl fun _ => (SameBelow.rfl.many .identifier? hn hm).bind fun _ => .rfl
    | none => .rfl

/-- Enumerations are read with any two bounds the same. -/
theorem Values.sameBelow_readEnumeration :
    SameBelow N (readEnumeration n) (readEnumeration m) :=
  .bind .rfl fun
    | true => .bind .rfl fun _ => (sameBelow_read hn hm).required.bind fun _ => .rfl
    | false => .rfl

/-- Specializations are read with any two bounds the same. -/
theorem Specialization.sameBelow_read : SameBelow N (read n) (read m) :=
  (Declaration.sameBelow_read hn hm).bind fun
    | some _ => (Abstraction.sameBelow_read hn hm).required.bind fun _ =>
      (Values.sameBelow_readEnumeration hn hm).bind fun _ => .rfl
    | none => .rfl

/-- Functionals are read with any two bounds the same. -/
theorem Functional.sameBelow_read : SameBelow N (read n) (read m) :=
  (Declaration.sameBelow_read hn hm).bind fun
    | some _ => .bind .rfl fun _ => .bind .rfl fun _ =>
      (Parameter.sameBelow_readList hn hm).orEmpty.bind fun _ => .bind .rfl fun _ =>
        (Result.sameBelow_read hn hm).required.bind fun _ => .rfl
    | none => .rfl

/-- Types are read with any two bounds the same. -/
theorem Types.sameBelow_read : SameBelow N (read n) (read m) :=
  .bind .rfl fun
    | true =>
      ((Specialization.sameBelow_read hn hm).sorted
        (Declaration.takesIf_read.bind_some rfl) hn hm).bind fun _ =>
      ((Functional.sameBelow_read hn hm).sorted
        (Declaration.takesIf_read.bind_some rfl) hn hm).bind fun _ => .rfl
    | false => .rfl

/-! ## Interfaces -/

omit hn hm in
/-- A called name takes a token. -/
theorem Reading.takesIf_called {rules : List Rule} : (called rules n).TakesIf (· ≠ none) :=
  TakesIf.identifier?.bind_some rfl

/-- Called names are read with any two bounds the same. -/
theorem Reading.sameBelow_called {rules : List Rule} :
    SameBelow N (called rules n) (called rules m) :=
  .bind .rfl fun
    | some _ => .bind .rfl fun _ => (Parameter.sameBelow_readList hn hm).orEmpty.bind fun _ => .rfl
    | none => .rfl

/-- Constants are read with any two bounds the same. -/
theorem Constant.sameBelow_read : SameBelow N (read n) (read m) :=
  .bind .rfl fun
    | some _ => .bind .rfl fun _ => .bind .rfl fun _ =>
      (Abstraction.sameBelow_read hn hm).required.bind fun _ => .rfl
    | none => .rfl

/-- Constructors are read with any two bounds the same. -/
theorem Constructor.sameBelow_read : SameBelow N (read n) (read m) :=
  (sameBelow_called hn hm).bind fun
    | some _ => (Abstraction.sameBelow_read hn hm).required.bind fun _ => .rfl
    | none => .rfl

/-- Functions are read with any two bounds the same. -/
theorem Function.sameBelow_read : SameBelow N (read n) (read m) :=
  (sameBelow_called hn hm).bind fun
    | some _ => (Result.sameBelow_read hn hm).required.bind fun _ => .rfl
    | none => .rfl

/-- Methods are read with any two bounds the same. -/
theorem Method.sameBelow_read : SameBelow N (read n) (read m) :=
  (sameBelow_called hn hm).bind fun
    | some _ => (Result.sameBelow_read hn hm).bind fun _ => .rfl
    | none => .rfl

/-- Attributes are read with any two bounds the same. -/
theorem Attribute.sameBelow_read : SameBelow N (read n) (read m) :=
  .bind .rfl fun
    | some _ => .bind .rfl fun _ => (Parameter.sameBelow_read hn hm).bind fun _ =>
      .bind .rfl fun _ => (Abstraction.sameBelow_read hn hm).bind fun _ => .rfl
    | none => .rfl

omit hn hm in
/-- An interface that is read takes a token, the comment of its declaration. -/
theorem Reading.takesIf_interface {α : Type} {rules : List Rule} {body : Reading α} :
    (interface rules body n).TakesIf (· ≠ none) :=
  Declaration.takesIf_read.bind_some rfl

/-- Interfaces are read with any two bounds the same if their bodies are. -/
theorem Reading.sameBelow_interface {α : Type} {rules : List Rule} {body body' : Reading α}
    (h : SameBelow N body body') :
    SameBelow N (interface rules body n) (interface rules body' m) :=
  (Declaration.sameBelow_read hn hm).bind fun
    | some _ => .bind .rfl fun _ => .bind .rfl fun _ => h.bind fun _ => .rfl
    | none => .rfl

/-- Sections of methods are read with any two bounds the same. -/
theorem Method.sameBelow_readSection : SameBelow N (readSection n) (readSection m) :=
  (sameBelow_read hn hm).sorted (takesIf_called.bind_some rfl) hn hm

/-- Aspects are read with any two bounds the same. -/
theorem Aspect.sameBelow_read : SameBelow N (read n) (read m) :=
  (sameBelow_interface hn hm (Method.sameBelow_readSection hn hm)).bind fun _ => .rfl

/-- Bodies of classes are read with any two bounds the same. -/
theorem Class.sameBelow_readBody : SameBelow N (readBody n) (readBody m) :=
  ((Constant.sameBelow_read hn hm).titled (TakesIf.identifier?.bind_some rfl) hn hm).orEmpty.bind
    fun _ =>
  ((Constructor.sameBelow_read hn hm).sorted (takesIf_called.bind_some rfl) hn hm).bind fun _ =>
  ((Function.sameBelow_read hn hm).sorted (takesIf_called.bind_some rfl) hn hm).bind fun _ => .rfl

/-- Classes are read with any two bounds the same. -/
theorem Class.sameBelow_read : SameBelow N (read n) (read m) :=
  (sameBelow_interface hn hm (sameBelow_readBody hn hm)).bind fun _ => .rfl

/-- Bodies of instances are read with any two bounds the same. -/
theorem Instance.sameBelow_readBody : SameBelow N (readBody n) (readBody m) :=
  ((Attribute.sameBelow_read hn hm).titled (TakesIf.identifier?.bind_some rfl) hn hm).orEmpty.bind
    fun _ =>
  ((Abstraction.sameBelow_read hn hm).titled (Abstraction.takesIf_read n) hn hm).orEmpty.bind
    fun _ =>
  (Method.sameBelow_readSection hn hm).bind fun _ => .rfl

/-- Instances are read with any two bounds the same. -/
theorem Instance.sameBelow_read : SameBelow N (read n) (read m) :=
  (sameBelow_interface hn hm (sameBelow_readBody hn hm)).bind fun _ => .rfl

/-- Interfaces are read with any two bounds the same. -/
theorem Interfaces.sameBelow_read : SameBelow N (read n) (read m) :=
  .bind .rfl fun
    | true =>
      ((Aspect.sameBelow_read hn hm).sorted (takesIf_interface.bind_some rfl) hn hm).bind fun _ =>
      ((Class.sameBelow_read hn hm).sorted (takesIf_interface.bind_some rfl) hn hm).bind fun _ =>
      ((Instance.sameBelow_read hn hm).sorted (takesIf_interface.bind_some rfl) hn hm).bind
        fun _ => .rfl
    | false => .rfl

/-! ## Documents -/

omit hn hm in
/-- A module that is read takes a token. -/
theorem Module.takesIf_read : Module.read.TakesIf (· ≠ none) := TakesIf.identifier?.bind_some rfl

/-- Imports are read with any two bounds the same. -/
theorem Module.sameBelow_readImports : SameBelow N (readImports n) (readImports m) :=
  .bind .rfl fun
    | true => .bind .rfl fun _ =>
      (SameBelow.rfl.oneOrMore takesIf_read hn hm).orEmpty.bind fun _ => .rfl
    | false => .rfl

/-- Documents are read with any two bounds the same. -/
theorem Document.sameBelow_read : SameBelow N (read n) (read m) :=
  .bind .rfl fun
    | some _ => .bind .rfl fun _ => (Module.sameBelow_readImports hn hm).bind fun _ =>
      (Types.sameBelow_read hn hm).bind fun _ =>
        (Interfaces.sameBelow_read hn hm).bind fun _ => .rfl
    | none => .rfl

/-- Sources are read with any two bounds the same. -/
theorem Document.sameBelow_readSource : SameBelow N (readSource n) (readSource m) :=
  (sameBelow_read hn hm).required.bind fun _ => .rfl

omit hn hm

/-- Any bound larger than the number of tokens ahead gives the same run. -/
theorem Document.run_readSource {s : TokenStream} (h : s.ahead.length < n) :
    (readSource n).run s = ofStream s :=
  sameBelow_readSource h (Nat.lt_succ_self _) (Nat.lt_succ_self _)

end PackageModel
