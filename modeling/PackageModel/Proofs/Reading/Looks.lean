import PackageModel.Proofs.Reading.Holds
import PackageModel.Proofs.Reading.Refinement

/-!
# PackageModel.Proofs.Reading.Looks

Looking at tokens.  What the tokens ahead come to when they are read is the `view` of a stream.
Streams with the same view answer all operations in the same way, however many of their tokens are
back.  An operation that only looks at the next token leaves the view as it is, unless it meets a
fresh error token: this one is reported once and cannot be read again.
-/

namespace PackageModel

namespace TokenStream

variable {α β : Type}

/-! ## Views -/

/-- What the tokens ahead come to when they are read, one after the other. -/
def view (s : TokenStream) : List (Except ParseError Token) :=
  s.handedBack.map .ok ++
    s.fresh.map fun t => if t.kind = .error then .error (.lexical t) else .ok t

section

variable {s s' : TokenStream}

/-- A token that was handed back is seen as it is. -/
theorem view_unread (s : TokenStream) (t : Token) : (s.unread t).view = .ok t :: s.view := rfl

/-- Each token ahead is seen as one result. -/
theorem length_view (s : TokenStream) : s.view.length = s.ahead.length := by
  rw [← handedBack_append_fresh, view]
  simp only [List.length_append, List.length_map]

/-- Reading gives the first of what is in view and leaves the rest. -/
theorem next_view (s : TokenStream) :
    s.next.1 = s.view.headD (.error .closed) ∧ s.next.2.view = s.view.tail := by
  obtain ⟨_ | ⟨t, ts⟩, n, hn⟩ := s
  · obtain rfl : n = 0 := Nat.le_zero.1 hn
    exact ⟨rfl, rfl⟩
  · cases n with
    | succ n => exact ⟨rfl, rfl⟩
    | zero =>
      refine ⟨?_, rfl⟩
      by_cases ht : t.kind = .error <;> simp [next, view, handedBack, fresh, ht]

end

/-! ## Streams with the same view -/

/-- The results are the same, and the streams that are left have the same view. -/
structure Agree (r r' : Except ParseError β × TokenStream) : Prop where
  result : r.1 = r'.1
  view : r.2.view = r'.2.view

namespace Agree

/-- Making the answer of the result keeps the agreement. -/
theorem answer {r r' : Except ParseError β × TokenStream} (h : Agree r r') (f : β → Answer α) :
    Agree (Operation.answer f r) (Operation.answer f r') :=
  ⟨congrArg (Except.map f) h.result, h.view⟩

variable {s s' : TokenStream} (h : s.view = s'.view)

include h

/-- Streams of one view read on alike. -/
theorem next : Agree s.next s'.next where
  result := by rw [s.next_view.1, s'.next_view.1, h]
  view := by rw [s.next_view.2, s'.next_view.2, h]

/-- The same token comes in front of both views. -/
theorem unread (t : Token) : (s.unread t).view = (s'.unread t).view := by
  rw [view_unread, view_unread, h]

/-- Whatever reads a token first and then keeps to the view keeps to the view. -/
theorem reading {go : Token → TokenStream → Except ParseError β × TokenStream}
    (hgo : ∀ t {s s' : TokenStream}, s.view = s'.view → Agree (go t s) (go t s')) :
    Agree (s.reading go) (s'.reading go) := by
  obtain ⟨hresult, hview⟩ := next h
  rcases hnext : s.next with ⟨x, s₁⟩
  rcases hnext' : s'.next with ⟨x', s₁'⟩
  rw [hnext, hnext'] at hresult hview
  obtain rfl : x = x' := hresult
  rw [TokenStream.reading, TokenStream.reading, hnext, hnext']
  cases x with
  | ok t => exact hgo t hview
  | error e => exact ⟨rfl, hview⟩

/-- A look gives the same in streams of one view. -/
theorem peek : Agree s.peek s'.peek := by
  rw [peek_eq, peek_eq]
  exact reading h fun t _ _ hview => ⟨rfl, unread hview t⟩

/-- So does an optional token. -/
theorem take (wanted : Terminal) : Agree (s.take wanted) (s'.take wanted) := by
  rw [take_eq, take_eq]
  refine reading h fun t _ _ hview => ?_
  split
  · exact ⟨rfl, hview⟩
  · exact ⟨rfl, unread hview t⟩

/-- A failure names the same token. -/
theorem unexpected (expected : String) (rules : List Rule) :
    Agree (s.unexpected expected rules) (s'.unexpected (α := β) expected rules) := by
  rw [unexpected_eq, unexpected_eq]
  exact reading h fun t _ _ hview => ⟨rfl, unread hview t⟩

/-- A required token is there in both streams or in neither. -/
theorem expect (wanted : Terminal) (expected : String) (rules : List Rule) :
    Agree (s.expect wanted expected rules) (s'.expect wanted expected rules) := by
  rw [expect_eq, expect_eq]
  refine reading h fun t _ _ hview => ?_
  split
  · exact ⟨rfl, hview⟩
  · exact ⟨rfl, unread hview t⟩

/-- A required node is looked for in neither stream. -/
theorem require (node : Option β) (expected : String) (rules : List Rule) :
    Agree (s.require node expected rules) (s'.require node expected rules) := by
  cases node with
  | some b => exact ⟨rfl, h⟩
  | none => exact unexpected h expected rules

/-- The same calls are made. -/
theorem calls (c : Calls β) : Agree (c.run s) (c.run s') := by
  induction c generalizing s s' with
  | done r => exact ⟨rfl, h⟩
  | next go ih =>
    rw [run_next, run_next]
    exact reading h fun t _ _ => ih t
  | unread t rest ih => exact ih (unread h t)

/-- A document is read by calls, each of which keeps to the view. -/
theorem ofStream : Agree (Document.ofStream s) (Document.ofStream s') := by
  have hlength : s.ahead.length = s'.ahead.length := by rw [← length_view, ← length_view, h]
  rw [Document.ofStream, Document.ofStream, hlength, ← Reading.run_calls, ← Reading.run_calls]
  exact calls h _

/-- No operation sees more of a stream than its view. -/
theorem run (op : Operation α) : Agree (op.run s) (op.run s') := by
  cases op with
  | next => exact (next h).answer _
  | unread t => exact ⟨rfl, unread h t⟩
  | peek => exact (peek h).answer _
  | take | takeIdentifier | takeKeyword | takeDelimiter | takeNote => exact (take h _).answer _
  | expect | expectIdentifier | expectKeyword | expectDelimiter => exact (expect h _ _ _).answer _
  | require node expected rules => exact (require h node expected rules).answer _
  | unexpected expected rules => exact unexpected h expected rules
  | readSource => exact (ofStream h).answer _

end Agree

/-- The first answer, and those of the operations behind it. -/
theorem answers_cons (s : TokenStream) (op : Operation α) (ops : List (Operation α)) :
    s.answers (op :: ops) = (op.run s).1 :: (op.run s).2.answers ops := rfl

/-- Streams with the same view answer all operations in the same way. -/
theorem answers_of_view {s s' : TokenStream} (h : s.view = s'.view) (ops : List (Operation α)) :
    s.answers ops = s'.answers ops := by
  induction ops generalizing s s' with
  | nil => rfl
  | cons op ops ih =>
    obtain ⟨hresult, hview⟩ := Agree.run h op
    rw [answers_cons, answers_cons, hresult, ih hview]

/-! ## Looking -/

/-- The next token, if there is one, is not as wanted. -/
def Misses (s : TokenStream) (wanted : Terminal) : Prop :=
  ∀ t, s.next.1 = .ok t → wanted.accepts t.toLexeme = false

/-- The operation looks at the next token and does not take it. -/
def Looks (s : TokenStream) : Operation α → Prop
  | .peek | .unexpected _ _ => True
  | .take wanted => s.Misses wanted
  | .takeIdentifier => s.Misses .identifier
  | .takeKeyword word => s.Misses (.keyword word)
  | .takeDelimiter mark => s.Misses (.delimiter mark)
  | .takeNote line => s.Misses (.note line)
  | _ => False

/-- Each of the operations only looks at what is then the next token. -/
def Looking (s : TokenStream) : List (Operation α) → Prop
  | [] => True
  | op :: ops => s.Looks op ∧ (op.run s).2.Looking ops

/-- Whether a look leaves everything in view, or uses up a fresh error token and reports it. -/
inductive Seen (s : TokenStream) : Except ParseError β × TokenStream → Prop
  | all {r : Except ParseError β} {s' : TokenStream}
      (hnext : ∀ t, s.next.1 ≠ .error (.lexical t)) (h : s'.view = s.view) : Seen s (r, s')
  | lexical {t : Token} {s' : TokenStream} (hnext : s.next.1 = .error (.lexical t))
      (h : s.view = .error (.lexical t) :: s'.view) : Seen s (.error (.lexical t), s')

section

variable {s s' : TokenStream} {t : Token}

/-- Unless there are no more tokens, the next one has been in view. -/
theorem view_of_next {r : Except ParseError Token} (h : s.next = (r, s'))
    (hr : r ≠ .error .closed) : s.view = r :: s'.view := by
  obtain ⟨hresult, hview⟩ := s.next_view
  rw [h] at hresult hview
  cases hs : s.view with
  | nil =>
    rw [hs] at hresult
    exact absurd hresult hr
  | cons x v =>
    rw [hs] at hresult hview
    obtain rfl : r = x := hresult
    obtain rfl : s'.view = v := hview
    rfl

/-- Reading the next token and handing it back leaves everything in view. -/
theorem next_glance (s : TokenStream) :
    (∃ t s', s.next = (.ok t, s') ∧ (s'.unread t).view = s.view) ∨
    (∃ t s', s.next = (.error (.lexical t), s') ∧ s.view = .error (.lexical t) :: s'.view) ∨
      s.next = (.error .closed, s) ∧ s.view = [] := by
  rcases hnext : s.next with ⟨r, s'⟩
  cases of_next hnext with
  | again | fresh => exact .inl ⟨_, s', rfl, (view_of_next hnext (by simp)).symm⟩
  | lexical => exact .inr (.inl ⟨_, s', rfl, view_of_next hnext (by simp)⟩)
  | closed hahead =>
    refine .inr (.inr ⟨rfl, List.eq_nil_of_length_eq_zero ?_⟩)
    rw [length_view, hahead]
    rfl

/-- Whoever keeps the token that was read in view has only looked at it. -/
theorem seen_reading {go : Token → TokenStream → Except ParseError β × TokenStream}
    (hgo : ∀ t s', s.next = (.ok t, s') → (go t s').2.view = (s'.unread t).view) :
    Seen s (s.reading go) := by
  rcases s.next_glance with ⟨t, s', hnext, hview⟩ | ⟨t, s', hnext, hview⟩ | ⟨hnext, -⟩
  · rw [reading, hnext]
    exact .all (by simp [hnext]) ((hgo t s' hnext).trans hview)
  · rw [reading, hnext]
    exact .lexical (by rw [hnext]) hview
  · rw [reading, hnext]
    exact .all (by simp [hnext]) rfl

/-- A look leaves the first token seen. -/
theorem seen_peek (s : TokenStream) : Seen s s.peek := by
  rw [peek_eq]
  exact seen_reading fun _ _ _ => rfl

/-- A failure leaves the first token seen. -/
theorem seen_unexpected (s : TokenStream) (expected : String) (rules : List Rule) :
    Seen s (s.unexpected (α := β) expected rules) := by
  rw [unexpected_eq]
  exact seen_reading fun _ _ _ => rfl

/-- An optional token that is missing leaves the first token seen. -/
theorem seen_take {wanted : Terminal} (h : s.Misses wanted) : Seen s (s.take wanted) := by
  rw [take_eq]
  refine seen_reading fun t s' hnext => ?_
  rw [h t (by rw [hnext])]
  rfl

/-- What was seen does not depend on the answer. -/
theorem Seen.answer {r : Except ParseError β × TokenStream} (h : Seen s r) (f : β → Answer α) :
    Seen s (Operation.answer f r) := by
  cases h with
  | all hnext hview => exact .all hnext hview
  | lexical hnext hview => exact .lexical hnext hview

/-- A look leaves everything in view or uses up a fresh error token. -/
theorem Looks.seen {op : Operation α} (h : s.Looks op) : Seen s (op.run s) := by
  cases op with
  | peek => exact s.seen_peek.answer _
  | unexpected expected rules => exact s.seen_unexpected expected rules
  | take | takeIdentifier | takeKeyword | takeDelimiter | takeNote =>
    exact (seen_take h).answer _
  | next | unread | expect | expectIdentifier | expectKeyword | expectDelimiter | require
  | readSource => exact h.elim

/-- Where no fresh error token comes next, everything stays in view. -/
theorem Looking.view_after {looks : List (Operation α)} (h : s.Looking looks)
    (hnext : ∀ t, s.next.1 ≠ .error (.lexical t)) : (s.after looks).view = s.view := by
  induction looks generalizing s with
  | nil => rfl
  | cons op looks ih =>
    obtain ⟨hop, hlooks⟩ := h
    have hseen := hop.seen
    rw [after]
    generalize op.run s = r at hseen hlooks ⊢
    cases hseen with
    | all _ hview =>
      rw [ih hlooks (by rw [(Agree.next hview).result]; exact hnext), hview]
    | lexical hlexical _ => exact absurd hlexical (hnext _)

/-- Looks never put tokens into view. -/
theorem Looking.length_view_le {looks : List (Operation α)} (h : s.Looking looks) :
    (s.after looks).view.length ≤ s.view.length := by
  induction looks generalizing s with
  | nil => exact Nat.le_refl _
  | cons op looks ih =>
    obtain ⟨hop, hlooks⟩ := h
    have hseen := hop.seen
    rw [after]
    generalize op.run s = r at hseen hlooks ⊢
    cases hseen with
    | all _ hview => exact hview ▸ ih hlooks
    | lexical _ hview =>
      rw [hview]
      exact Nat.le_succ_of_le (ih hlooks)

/-- A fresh error token is no longer in view behind the first look. -/
theorem Looking.length_view_lt {op : Operation α} {looks : List (Operation α)}
    (h : s.Looking (op :: looks)) (hnext : s.next.1 = .error (.lexical t)) :
    (s.after (op :: looks)).view.length < s.view.length := by
  obtain ⟨hop, hlooks⟩ := h
  have hseen := hop.seen
  rw [after]
  generalize op.run s = r at hseen hlooks ⊢
  cases hseen with
  | all hall _ => exact absurd hnext (hall t)
  | lexical _ hview =>
    rw [hview]
    exact Nat.lt_succ_of_le hlooks.length_view_le

/-- Reading on and on tells how many tokens are in view. -/
theorem closed_mem_answers {n : Nat} :
    .error .closed ∈ s.answers (List.replicate n (.next : Operation α)) ↔ s.view.length < n := by
  induction n generalizing s with
  | zero => simp [answers, log]
  | succ n ih =>
    rw [List.replicate_succ, answers_cons, List.mem_cons]
    rcases s.next_glance with ⟨t, s', hnext, hview⟩ | ⟨t, s', hnext, hview⟩ | ⟨hnext, hview⟩
    · have hrun : (Operation.next : Operation α).run s = (.ok (.token t), s') :=
        congrArg (Operation.answer .token) hnext
      rw [hrun, ih, ← hview, view_unread, List.length_cons, Nat.add_lt_add_iff_right]
      exact or_iff_right (by simp)
    · have hrun : (Operation.next : Operation α).run s = (.error (.lexical t), s') :=
        congrArg (Operation.answer .token) hnext
      rw [hrun, ih, hview, List.length_cons, Nat.add_lt_add_iff_right]
      exact or_iff_right (by simp)
    · have hrun : (Operation.next : Operation α).run s = (.error .closed, s) :=
        congrArg (Operation.answer .token) hnext
      rw [hrun, hview]
      exact iff_of_true (.inl rfl) (Nat.succ_pos n)

end

/-- Looks make no difference to what any operations answer after them, just if no fresh error token
comes next.  The first look at such a token uses it up. -/
theorem answers_after_looking {s : TokenStream} {looks : List (Operation α)}
    (h : s.Looking looks) :
    (∀ ops : List (Operation α), (s.after looks).answers ops = s.answers ops) ↔
      looks = [] ∨ ∀ t, s.next.1 ≠ .error (.lexical t) := by
  constructor
  · intro hsame
    cases looks with
    | nil => exact .inl rfl
    | cons op looks =>
      refine .inr fun t hnext => ?_
      -- reading as many tokens as are in view now would come to the end
      have hclosed : .error .closed ∈ (s.after (op :: looks)).answers
          (List.replicate s.view.length (.next : Operation α)) :=
        closed_mem_answers.2 (h.length_view_lt hnext)
      rw [hsame, closed_mem_answers] at hclosed
      exact Nat.lt_irrefl _ hclosed
  · rintro (rfl | hnext) ops
    · rfl
    · exact answers_of_view (h.view_after hnext) ops

/-- Looking for `func` where `type` comes next, in several ways. -/
theorem answers_after_looking_type :
    let s := ofList (tokenize "type X")
    let looks : List (Operation Unit) :=
      [.takeKeyword "func", .peek, .unexpected "\"func\"" [.functional], .take .comment]
    s.Looking looks ∧ (∀ t, s.next.1 ≠ .error (.lexical t)) ∧
      ∀ ops : List (Operation Unit), (s.after looks).answers ops = s.answers ops := by
  intro s looks
  have hnext : s.next.1 = .ok ⟨⟨.identifier, "type"⟩, .start⟩ := rfl
  have hlast : (s.after looks.dropLast).next.1 = .ok ⟨⟨.identifier, "type"⟩, .start⟩ := rfl
  have hlooking : s.Looking looks := by
    refine ⟨fun t ht => ?_, trivial, trivial, fun t ht => ?_, trivial⟩
    · rw [hnext] at ht
      cases ht
      decide
    · obtain rfl := Except.ok.inj (hlast.symm.trans ht)
      decide
  have hplain : ∀ t, s.next.1 ≠ .error (.lexical t) := by simp [hnext]
  exact ⟨hlooking, hplain, (answers_after_looking hlooking).2 (.inr hplain)⟩

/-- After looking at a fresh error token the next token is the one behind it. -/
theorem answers_after_peek_error :
    let s := ofList (tokenize "?")
    s.answers [(.next : Operation Unit)] =
        [.error (.lexical ⟨⟨.error, "?"⟩, .start⟩)] ∧
      (s.after [(.peek : Operation Unit)]).answers [(.next : Operation Unit)] =
        [.ok (.token ⟨⟨.eof, ""⟩, ⟨1, 2, 1⟩⟩)] :=
  ⟨rfl, rfl⟩

end TokenStream

end PackageModel
