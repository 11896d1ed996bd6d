import PackageModel.Proofs.Reading.Bound
import PackageModel.Reading.Calls
import PackageModel.Reading.Operation

/-!
# PackageModel.Proofs.Reading.Refinement

A stream of tokens against two plain lists: the tokens that were handed back and those that still
wait in a queue.  A `Behaviour` says what an operation does with the lists; `Reads` is that of
reading a token, and the others are put together from it.  A stream, which keeps all its tokens in
one list, answers any sequence of operations as the two lists do and in no other way.
-/

namespace PackageModel

/-- The tokens that were handed back and those in the queue, the next one first. -/
structure TokenLists where
  handedBack : List Token
  queued : List Token

namespace TokenLists

variable {α β ρ : Type}

/-- What an operation does: the lists before it, its result, and the lists behind it. -/
abbrev Behaviour (ρ : Type) := TokenLists → ρ → TokenLists → Prop

/-! ## Reading and handing back -/

/-- Tokens that were handed back are read before those in the queue.  Only an error token from the
queue is reported, and it is gone then. -/
inductive Reads : Behaviour (Except ParseError Token)
  | handedBack {t : Token} {back queue : List Token} :
      Reads ⟨t :: back, queue⟩ (.ok t) ⟨back, queue⟩
  | queued {t : Token} {queue : List Token} (ht : t.kind ≠ .error) :
      Reads ⟨[], t :: queue⟩ (.ok t) ⟨[], queue⟩
  | lexical {t : Token} {queue : List Token} (ht : t.kind = .error) :
      Reads ⟨[], t :: queue⟩ (.error (.lexical t)) ⟨[], queue⟩
  | closed : Reads ⟨[], []⟩ (.error .closed) ⟨[], []⟩

/-- A token that is handed back comes in front of the others. -/
def handBack (m : TokenLists) (t : Token) : TokenLists := { m with handedBack := t :: m.handedBack }

namespace Behaviour

/-- Gives the result and leaves the lists alone. -/
def giving (r : ρ) : Behaviour ρ := fun m r' m' => r' = r ∧ m' = m

/-- Hands the token back and goes on. -/
def handingBack (t : Token) (b : Behaviour ρ) : Behaviour ρ := fun m => b (m.handBack t)

/-- Reads the next token and goes on with it.  Where none can be read, that is the failure. -/
inductive reading (go : Token → Behaviour (Except ParseError β)) : Behaviour (Except ParseError β)
  | token {m m₁ m₂ : TokenLists} {t : Token} {r : Except ParseError β} (h : Reads m (.ok t) m₁)
      (hgo : go t m₁ r m₂) : reading go m r m₂
  | error {m m' : TokenLists} {e : ParseError} (h : Reads m (.error e) m') :
      reading go m (.error e) m'

/-- The same, with an answer in the place of the result. -/
def answering (b : Behaviour (Except ParseError β)) (f : β → TokenStream.Answer α) :
    Behaviour (Except ParseError (TokenStream.Answer α)) :=
  fun m r m' => ∃ r₀, b m r₀ m' ∧ r = r₀.map f

end Behaviour

/-! ## Operations -/

open Behaviour

/-- A token that is looked at is handed back. -/
def Peeks : Behaviour (Except ParseError Token) := reading fun t => handingBack t (giving (.ok t))

/-- A token that is not as wanted is handed back. -/
def Takes (wanted : Terminal) : Behaviour (Except ParseError (Option Token)) := reading fun t =>
  if wanted.accepts t.toLexeme then giving (.ok (some t)) else handingBack t (giving (.ok none))

/-- A failure names the next token, and hands it back. -/
def Fails (expected : String) (rules : List Rule) : Behaviour (Except ParseError β) :=
  reading fun t => handingBack t (giving (.error (.unexpected t expected rules)))

/-- A token that is not as wanted is a failure and is handed back. -/
def Expects (wanted : Terminal) (expected : String) (rules : List Rule) :
    Behaviour (Except ParseError Token) := reading fun t =>
  if wanted.accepts t.toLexeme then giving (.ok t)
  else handingBack t (giving (.error (.unexpected t expected rules)))

/-- A node that is there is given back; without one there is a failure. -/
def Requires (expected : String) (rules : List Rule) : Option β → Behaviour (Except ParseError β)
  | some b => giving (.ok b)
  | none => Fails expected rules

/-- The calls of a program are made one after the other. -/
def Performs : Calls β → Behaviour (Except ParseError β)
  | .done r => giving r
  | .next go => reading fun t => Performs (go t)
  | .unread t rest => handingBack t (Performs rest)

/-- A document is read by a program for more tokens than there are. -/
def ReadsSource : Behaviour (Except ParseError Document) := fun m r m' =>
  ∃ n, m.handedBack.length + m.queued.length < n ∧ Performs (Document.readSource n).calls m r m'

open TokenStream (Operation Answer)

/-- What each of the operations does. -/
def behaviour : Operation α → Behaviour (Except ParseError (Answer α))
  | .next => answering Reads .token
  | .unread t => handingBack t (giving (.ok .done))
  | .peek => answering Peeks .token
  | .take wanted => answering (Takes wanted) .token?
  | .takeIdentifier => answering (Takes .identifier) fun t => .text? (t.map (·.value))
  | .takeKeyword word => answering (Takes (.keyword word)) fun t => .found t.isSome
  | .takeDelimiter mark => answering (Takes (.delimiter mark)) fun t => .found t.isSome
  | .takeNote line => answering (Takes (.note line)) fun t => .found t.isSome
  | .expect wanted expected rules => answering (Expects wanted expected rules) .token
  | .expectIdentifier rules =>
    answering (Expects .identifier "IDENTIFIER" rules) fun t => .text t.value
  | .expectKeyword word rules =>
    answering (Expects (.keyword word) ("\"" ++ word ++ "\"") rules) fun _ => .done
  | .expectDelimiter mark rules =>
    answering (Expects (.delimiter mark) mark rules) fun _ => .done
  | .require node expected rules => answering (Requires expected rules node) .node
  | .unexpected expected rules => Fails expected rules
  | .readSource => answering ReadsSource .document

/-- Operations are done one after the other, also behind one that has failed.  Each answer stands
with the number of tokens that are back then. -/
inductive Logs : TokenLists → List (Operation α) → List (Except ParseError (Answer α) × Nat) → Prop
  | nil {m : TokenLists} : Logs m [] []
  | cons {m m' : TokenLists} {op : Operation α} {ops : List (Operation α)}
      {r : Except ParseError (Answer α)} {log : List (Except ParseError (Answer α) × Nat)}
      (h : behaviour op m r m') (hlog : Logs m' ops log) :
      Logs m (op :: ops) ((r, m'.handedBack.length) :: log)

/-- There is one way to read on. -/
theorem Reads.unique {m m₁ m₂ : TokenLists} {r₁ r₂ : Except ParseError Token}
    (h₁ : Reads m r₁ m₁) (h₂ : Reads m r₂ m₂) : r₁ = r₂ ∧ m₁ = m₂ := by
  cases h₁ <;> cases h₂ <;> first | exact ⟨rfl, rfl⟩ | contradiction

end TokenLists

/-! ## Streams -/

namespace TokenStream

open TokenLists

variable {α β ρ : Type}

/-- The two lists of a stream. -/
def lists (s : TokenStream) : TokenLists := ⟨s.handedBack, s.fresh⟩

/-- At first every token waits in the queue. -/
theorem lists_ofList (tokens : List Token) : (ofList tokens).lists = ⟨[], tokens⟩ := rfl

/-- The counter of a stream is the length of the first list. -/
theorem returned_eq (s : TokenStream) : s.returned = s.lists.handedBack.length :=
  s.length_handedBack.symm

/-- The two lists together hold the tokens ahead. -/
theorem length_lists (s : TokenStream) :
    s.lists.handedBack.length + s.lists.queued.length = s.ahead.length := by
  rw [← List.length_append]
  exact congrArg List.length s.handedBack_append_fresh

/-- What a function does with a stream is what the behaviour allows with its two lists. -/
def Implements (f : TokenStream → ρ × TokenStream) (b : Behaviour ρ) : Prop :=
  ∀ s r m, b s.lists r m ↔ ∃ s', f s = (r, s') ∧ s'.lists = m

/-- Reads the next token and goes on with it. -/
def reading (s : TokenStream) (go : Token → TokenStream → Except ParseError β × TokenStream) :
    Except ParseError β × TokenStream :=
  match s.next with
  | (.ok t, s') => go t s'
  | (.error e, s') => (.error e, s')

/-- A stream reads on as its two lists do. -/
theorem reads_next (s : TokenStream) : Reads s.lists s.next.1 s.next.2.lists := by
  obtain ⟨_ | ⟨t, ts⟩, n, hn⟩ := s
  · obtain rfl : n = 0 := Nat.le_zero.1 hn
    exact .closed
  cases n with
  | succ n => exact .handedBack
  | zero =>
    by_cases ht : t.kind = .error
    · rw [next, if_pos ⟨rfl, ht⟩]
      exact .lexical ht
    · rw [next, if_neg (fun h => ht h.2)]
      exact .queued ht

/-- As there is one way to read on, the stream takes that one. -/
theorem next_implements : Implements next Reads := by
  intro s r m
  constructor
  · intro h
    obtain ⟨rfl, rfl⟩ := h.unique s.reads_next
    exact ⟨s.next.2, rfl, rfl⟩
  · rintro ⟨s', h, rfl⟩
    have hreads := s.reads_next
    rwa [h] at hreads

namespace Implements

/-- A result without a call leaves the stream as it is. -/
theorem giving (r : ρ) : Implements (fun s => (r, s)) (.giving r) := by
  intro s r' m
  constructor
  · rintro ⟨rfl, rfl⟩
    exact ⟨s, rfl, rfl⟩
  · rintro ⟨s', h, rfl⟩
    cases h
    exact ⟨rfl, rfl⟩

/-- A token that is handed back stands in front of the first list. -/
theorem handingBack {f : TokenStream → ρ × TokenStream} {b : Behaviour ρ} (h : Implements f b)
    (t : Token) : Implements (fun s => f (s.unread t)) (b.handingBack t) :=
  fun s => h (s.unread t)

/-- A read with what follows it, where each follow-up does what its behaviour says. -/
theorem reading {f : Token → TokenStream → Except ParseError β × TokenStream}
    {go : Token → Behaviour (Except ParseError β)} (h : ∀ t, Implements (f t) (go t)) :
    Implements (fun s => s.reading f) (.reading go) := by
  intro s r m
  constructor
  · rintro (⟨hread, hgo⟩ | hread)
    · obtain ⟨s₁, hnext, rfl⟩ := (next_implements _ _ _).1 hread
      obtain ⟨s', hf, rfl⟩ := (h _ _ _ _).1 hgo
      exact ⟨s', by simp only [TokenStream.reading, hnext, hf], rfl⟩
    · obtain ⟨s', hnext, rfl⟩ := (next_implements _ _ _).1 hread
      exact ⟨s', by simp only [TokenStream.reading, hnext], rfl⟩
  · rintro ⟨s', hf, rfl⟩
    rcases hnext : s.next with ⟨e | t, s₁⟩ <;> simp only [TokenStream.reading, hnext] at hf
    · cases hf
      exact .error ((next_implements _ _ _).2 ⟨_, hnext, rfl⟩)
    · exact .token ((next_implements _ _ _).2 ⟨_, hnext, rfl⟩) ((h t _ _ _).2 ⟨s', hf, rfl⟩)

/-- A test that does not look at the stream chooses on both sides. -/
theorem ite {c : Prop} [Decidable c] {f g : TokenStream → ρ × TokenStream} {b b' : Behaviour ρ}
    (hf : Implements f b) (hg : Implements g b') :
    Implements (fun s => if c then f s else g s) (if c then b else b') := by
  split
  · exact hf
  · exact hg

/-- The answer is made of the result on both sides. -/
theorem answering {f : TokenStream → Except ParseError β × TokenStream}
    {b : Behaviour (Except ParseError β)} (h : Implements f b) (g : β → Answer α) :
    Implements (fun s => Operation.answer g (f s)) (b.answering g) := by
  intro s r m
  constructor
  · rintro ⟨r₀, hb, rfl⟩
    obtain ⟨s', hf, rfl⟩ := (h s r₀ m).1 hb
    exact ⟨s', congrArg (Operation.answer g) hf, rfl⟩
  · rintro ⟨s', hf, rfl⟩
    obtain ⟨rfl, rfl⟩ := Prod.mk.inj hf
    exact ⟨(f s).1, (h s _ _).2 ⟨_, rfl, rfl⟩, rfl⟩

end Implements

/-! ## Each operation reads the next token first -/

/-- A peek is a read whose token goes back. -/
theorem peek_eq (s : TokenStream) :
    s.peek = s.reading fun t s' => (.ok t, s'.unread t) := rfl

/-- The stream looks as its two lists do. -/
theorem peek_implements : Implements peek Peeks := by
  rw [funext peek_eq]
  exact .reading fun t => (Implements.giving (Except.ok t)).handingBack t

/-- What is taken is read, and goes back where it is not wanted. -/
theorem take_eq (s : TokenStream) (wanted : Terminal) :
    s.take wanted = s.reading fun t s' =>
      if wanted.accepts t.toLexeme then (.ok (some t), s') else (.ok none, s'.unread t) := rfl

/-- The stream takes a token as its two lists do. -/
theorem take_implements (wanted : Terminal) : Implements (take · wanted) (Takes wanted) := by
  simp only [take_eq]
  exact .reading fun t =>
    (Implements.giving (Except.ok (some t))).ite ((Implements.giving _).handingBack t)

/-- A failure looks at the next token, which goes back. -/
theorem unexpected_eq (s : TokenStream) (expected : String) (rules : List Rule) :
    s.unexpected (α := β) expected rules = s.reading fun t s' =>
      (.error (.unexpected t expected rules), s'.unread t) := by
  rcases hnext : s.next with ⟨e | t, s'⟩ <;> simp only [unexpected, peek, reading, hnext]

/-- The stream fails as its two lists do. -/
theorem unexpected_implements (expected : String) (rules : List Rule) :
    Implements (unexpected (α := β) · expected rules) (Fails expected rules) := by
  simp only [unexpected_eq]
  exact .reading fun t => (Implements.giving (Except.error _)).handingBack t

/-- Only a missing node touches the stream. -/
theorem require_implements (expected : String) (rules : List Rule) (node : Option β) :
    Implements (require · node expected rules) (Requires expected rules node) := by
  cases node with
  | some b => exact .giving (Except.ok b)
  | none => exact unexpected_implements expected rules

/-- A token that was handed back is the next one, also where it is an error token. -/
theorem next_unread (s : TokenStream) (t : Token) : (s.unread t).next = (.ok t, s) := by
  simp [next, unread]

/-- A failed `expect` looks at the token a second time. -/
theorem expect_eq (s : TokenStream) (wanted : Terminal) (expected : String) (rules : List Rule) :
    s.expect wanted expected rules = s.reading fun t s' =>
      if wanted.accepts t.toLexeme then (.ok t, s')
      else (.error (.unexpected t expected rules), s'.unread t) := by
  rcases hnext : s.next with ⟨e | t, s'⟩
  · simp only [expect, take, reading, hnext]
  · by_cases ht : wanted.accepts t.toLexeme = true
    · simp only [expect, take, reading, hnext, ht, if_true]
    · simp only [expect, take, reading, hnext, ht, Bool.false_eq_true, if_false, unexpected_eq,
        next_unread]

/-- The stream asks for a token as its two lists do. -/
theorem expect_implements (wanted : Terminal) (expected : String) (rules : List Rule) :
    Implements (expect · wanted expected rules) (Expects wanted expected rules) := by
  simp only [expect_eq]
  exact .reading fun t =>
    (Implements.giving (Except.ok t)).ite ((Implements.giving _).handingBack t)

/-- A program that asks for a token reads it first. -/
theorem run_next (go : Token → Calls β) (s : TokenStream) :
    (Calls.next go).run s = s.reading fun t => (go t).run := by
  rcases hnext : s.next with ⟨e | t, s'⟩ <;> simp only [Calls.run, reading, hnext]

/-- By induction on the calls of a program. -/
theorem run_implements (c : Calls β) : Implements c.run (Performs c) := by
  induction c with
  | done r => exact .giving r
  | next go ih =>
    rw [funext (run_next go)]
    exact .reading ih
  | unread t rest ih => exact ih.handingBack t

/-- The number of tokens that `ofStream` computes with is one of those `ReadsSource` allows, and all
of them give the same result. -/
theorem ofStream_implements : Implements Document.ofStream ReadsSource := by
  intro s r m
  have hrun {n : Nat} (hn : s.lists.handedBack.length + s.lists.queued.length < n) :
      (Document.readSource n).calls.run s = Document.ofStream s := by
    rw [Reading.run_calls, Document.run_readSource (s.length_lists ▸ hn)]
  constructor
  · rintro ⟨n, hn, h⟩
    rw [← hrun hn]
    exact (run_implements _ _ _ _).1 h
  · intro h
    have hn := Nat.lt_succ_self (s.lists.handedBack.length + s.lists.queued.length)
    refine ⟨_, hn, (run_implements _ _ _ _).2 ?_⟩
    rwa [hrun hn]

/-- `expectIdentifier` writes the name of the kind out, `expected` makes it of the kind. -/
theorem expected_identifier : Terminal.identifier.expected = "IDENTIFIER" := by
  have h : "Identifier".toUpper.toList = "IDENTIFIER".toList := by
    rw [String.toUpper, String.toList_map]
    decide
  exact String.toList_inj.1 h

/-- A stream does each of the operations as is said of the two lists. -/
theorem operation_implements (op : Operation α) : Implements op.run (behaviour op) := by
  cases op with
  | next => exact next_implements.answering _
  | unread t => exact (Implements.giving _).handingBack t
  | peek => exact peek_implements.answering _
  | take wanted => exact (take_implements wanted).answering _
  | takeIdentifier => exact (take_implements .identifier).answering _
  | takeKeyword word => exact (take_implements (.keyword word)).answering _
  | takeDelimiter mark => exact (take_implements (.delimiter mark)).answering _
  | takeNote line => exact (take_implements (.note line)).answering _
  | expect wanted expected rules => exact (expect_implements wanted expected rules).answering _
  | expectIdentifier rules =>
    rw [behaviour, ← expected_identifier]
    exact (expect_implements _ _ rules).answering _
  | expectKeyword word rules => exact (expect_implements _ _ rules).answering _
  | expectDelimiter mark rules => exact (expect_implements _ _ rules).answering _
  | require node expected rules => exact (require_implements expected rules node).answering _
  | unexpected expected rules => exact unexpected_implements expected rules
  | readSource => exact ofStream_implements.answering _

/-- By induction on the operations: each one leaves the two lists as the behaviour says, and the
count beside its answer is the length of the first of them. -/
theorem logs_iff {s : TokenStream} {ops : List (Operation α)}
    {log : List (Except ParseError (Answer α) × Nat)} :
    Logs s.lists ops log ↔ s.log ops = log := by
  induction ops generalizing s log with
  | nil =>
    constructor
    · rintro ⟨⟩
      rfl
    · rintro rfl
      exact .nil
  | cons op ops ih =>
    constructor
    · rintro (_ | ⟨h, hlog⟩)
      obtain ⟨s', hrun, rfl⟩ := (operation_implements op _ _ _).1 h
      rw [TokenStream.log, hrun, ih.1 hlog, returned_eq]
    · rintro rfl
      rw [TokenStream.log, returned_eq]
      exact .cons ((operation_implements op _ _ _).2 ⟨_, rfl, rfl⟩) (ih.2 rfl)

/-- A stream of fresh tokens answers operations, and counts the tokens that are back, as two lists
do, and in no other way. -/
theorem logs_ofList_iff (tokens : List Token) (ops : List (Operation α))
    (log : List (Except ParseError (Answer α) × Nat)) :
    Logs ⟨[], tokens⟩ ops log ↔ (ofList tokens).log ops = log := by
  rw [← lists_ofList, logs_iff]

end TokenStream

end PackageModel
