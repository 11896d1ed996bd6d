import PackageModel.ParseError

/-!
# PackageModel.Reading.Stream

The tokens that are still to be read.  A token may be handed back, to be read again; the stream
counts how many tokens at its front have been handed back and not been read since.  Only an
error token that has not been read before stops the reader.

Each operation gives back its result together with the stream that it leaves, also when it
fails.
-/

namespace PackageModel

/-- The tokens that are still to be read. -/
structure TokenStream where
  /-- The tokens, the next one first. -/
  ahead : List Token
  /-- How many of them, at the front, have been handed back. -/
  returned : Nat
  /-- Only tokens of the stream have been handed back. -/
  returned_le : returned ≤ ahead.length := by simp
deriving Repr, DecidableEq

namespace TokenStream

/-- A stream of fresh tokens. -/
def ofList (tokens : List Token) : TokenStream := { ahead := tokens, returned := 0 }

/-- The tokens that have been handed back, the next one first. -/
def handedBack (s : TokenStream) : List Token := s.ahead.take s.returned

/-- The tokens that have not been read yet. -/
def fresh (s : TokenStream) : List Token := s.ahead.drop s.returned

/-- The first tokens ahead were handed back, the others are fresh. -/
theorem handedBack_append_fresh (s : TokenStream) : s.handedBack ++ s.fresh = s.ahead :=
  List.take_append_drop ..

@[simp] theorem length_handedBack (s : TokenStream) : s.handedBack.length = s.returned := by
  simp [handedBack, s.returned_le]

/-- Reads the next token.  A fresh error token is used up and reported. -/
def next (s : TokenStream) : Except ParseError Token × TokenStream :=
  match s with
  | ⟨[], _, _⟩ => (.error .closed, s)
  | ⟨t :: ts, n, h⟩ =>
    (if n = 0 ∧ t.kind = .error then .error (.lexical t) else .ok t,
      { ahead := ts, returned := n - 1, returned_le := by simp at h; omega })

/-- Hands a token back, to be read again. -/
def unread (s : TokenStream) (t : Token) : TokenStream :=
  { ahead := t :: s.ahead, returned := s.returned + 1, returned_le := by simp [s.returned_le] }

/-- Looks at the next token. -/
def peek (s : TokenStream) : Except ParseError Token × TokenStream :=
  match s.next with
  | (.ok t, s') => (.ok t, s'.unread t)
  | (.error e, s') => (.error e, s')

/-- Reads the next token if it is as wanted, else leaves it. -/
def take (s : TokenStream) (wanted : Terminal) : Except ParseError (Option Token) × TokenStream :=
  match s.next with
  | (.ok t, s') => if wanted.accepts t.toLexeme then (.ok (some t), s') else (.ok none, s'.unread t)
  | (.error e, s') => (.error e, s')

/-- Fails at the next token.  A failure to read it takes precedence. -/
def unexpected {α : Type} (s : TokenStream) (expected : String) (rules : List Rule) :
    Except ParseError α × TokenStream :=
  match s.peek with
  | (.ok t, s') => (.error (.unexpected t expected rules), s')
  | (.error e, s') => (.error e, s')

/-- Reads the next token, which has to be as wanted. -/
def expect (s : TokenStream) (wanted : Terminal) (expected : String) (rules : List Rule) :
    Except ParseError Token × TokenStream :=
  match s.take wanted with
  | (.ok (some t), s') => (.ok t, s')
  | (.ok none, s') => s'.unexpected expected rules
  | (.error e, s') => (.error e, s')

/-- The value, which has to be there. -/
def require {α : Type} (s : TokenStream) (a : Option α) (expected : String) (rules : List Rule) :
    Except ParseError α × TokenStream :=
  match a with
  | some a => (.ok a, s)
  | none => s.unexpected expected rules

/-- Reads two tokens if they are as wanted, else leaves both; gives back the first. -/
def takeBoth (s : TokenStream) (wanted second : Terminal) :
    Except ParseError (Option Token) × TokenStream :=
  match s.take wanted with
  | (.ok (some t), s') =>
    match s'.take second with
    | (.ok (some _), s'') => (.ok (some t), s'')
    | (.ok none, s'') => (.ok none, s''.unread t)
    | (.error e, s'') => (.error e, s'')
  | r => r

/-- Reads the next token if it is as wanted and the one behind it is not the excluded one. -/
def takeUnless (s : TokenStream) (wanted excluded : Terminal) :
    Except ParseError (Option Token) × TokenStream :=
  match s.take wanted with
  | (.ok (some t), s') =>
    match s'.take excluded with
    | (.ok (some u), s'') => (.ok none, (s''.unread u).unread t)
    | (.ok none, s'') => (.ok (some t), s'')
    | (.error e, s'') => (.error e, s'')
  | r => r

end TokenStream

end PackageModel
