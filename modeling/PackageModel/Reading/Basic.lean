import PackageModel.Reading.Stream

/-!
# PackageModel.Reading.Basic

Programs that read tokens.  A program takes tokens one after the other and sees of each only its
text, never its place; where the grammar needs to know more than the next token, it asks for the
one behind it in the same step.  `Reading.run` runs a program on a stream of tokens.

A rule of the grammar is a program with an optional result.  It has no result when the tokens
ahead do not start the rule, and then it has taken none.
-/

namespace PackageModel

/-- What has to hold of the token behind the one that is taken. -/
inductive Behind where
  /-- Nothing. -/
  | anything
  /-- It is as wanted, and is taken as well. -/
  | taken (t : Terminal)
  /-- It is another one. -/
  | not (t : Terminal)
deriving Repr, DecidableEq

/-- Takes the next token from a stream, if it and the one behind it are as wanted. -/
def TokenStream.takeBefore (s : TokenStream) (wanted : Terminal) :
    Behind → Except ParseError (Option Token) × TokenStream
  | .anything => s.take wanted
  | .taken t => s.takeBoth wanted t
  | .not t => s.takeUnless wanted t

/-- A program that reads tokens and gives back a value of type `α`. -/
inductive Reading (α : Type) where
  /-- The program is done. -/
  | done (a : α)
  /-- Takes the next token, if it is as wanted, and goes on with its text. -/
  | take (wanted : Terminal) (behind : Behind) (next : Option String → Reading α)
  /-- Fails at the next token. -/
  | fail (expected : String) (rules : List Rule)

namespace Reading

variable {α β : Type}

/-- Runs a program, and another one on its result. -/
def bind : Reading α → (α → Reading β) → Reading β
  | done a, f => f a
  | take wanted behind next, f => take wanted behind fun v => (next v).bind f
  | fail expected rules, _ => fail expected rules

/-- Readings one after the other. -/
instance : Monad Reading where
  pure := done
  bind := bind

@[simp] theorem pure_eq_done (a : α) : (pure a : Reading α) = done a := rfl

@[simp] theorem bind_eq_bind (r : Reading α) (f : α → Reading β) : (r >>= f) = r.bind f := rfl

/-- Runs a program on a stream. -/
def run : Reading α → TokenStream → Except ParseError α × TokenStream
  | done a, s => (.ok a, s)
  | fail expected rules, s => s.unexpected expected rules
  | take wanted behind next, s =>
    match s.takeBefore wanted behind with
    | (.ok t, s') => (next (t.map (·.value))).run s'
    | (.error e, s') => (.error e, s')

/-! ## Single tokens -/

/-- Takes the next token, if it is as wanted. -/
def text? (wanted : Terminal) : Reading (Option String) := take wanted .anything done

/-- Takes the next token, which has to be as wanted. -/
def text (wanted : Terminal) (rules : List Rule) : Reading String :=
  take wanted .anything fun
    | some v => done v
    | none => fail wanted.expected rules

/-- Takes an identifier, if one comes next. -/
def identifier? : Reading (Option String) := text? .identifier

/-- Takes an identifier. -/
def identifier (rules : List Rule) : Reading String := text .identifier rules

/-- Takes the keyword, if it comes next. -/
def keyword? (word : String) : Reading Bool := return (← text? (.keyword word)).isSome

/-- Takes the keyword. -/
def keyword (word : String) (rules : List Rule) : Reading Unit := do
  let _ ← text (.keyword word) rules

/-- Takes the delimiter, if it comes next. -/
def mark? (mark : String) : Reading Bool := return (← text? (.delimiter mark)).isSome

/-- Takes the delimiter. -/
def mark (mark : String) (rules : List Rule) : Reading Unit := do
  let _ ← text (.delimiter mark) rules

/-- Takes the note, if it comes next. -/
def note? (line : String) : Reading Bool := return (← text? (.note line)).isSome

/-! ## Combinations -/

/-- Runs a rule, which has to have a result. -/
def required (rule : Reading (Option α)) (expected : String) (rules : List Rule) : Reading α := do
  match ← rule with
  | some a => done a
  | none => fail expected rules

/-- Runs a rule for the items of a list, which is empty if the rule has no result. -/
def orEmpty (rule : Reading (Option (List α))) : Reading (List α) := return (← rule).getD []

/-- Runs a rule until it has no result; `n` is larger than the number of its results. -/
def many (item : Reading (Option α)) : Nat → Reading (List α)
  | 0 => done []
  | n + 1 => do
    match ← item with
    | some a => return a :: (← many item n)
    | none => return []

/-- Runs a rule at least once, until it has no result. -/
def oneOrMore (item : Reading (Option α)) (n : Nat) : Reading (Option (List α)) := do
  match ← item with
  | some a => return some (a :: (← many item n))
  | none => return none

/-- Reads what follows the first item of a list: a comma and perhaps an item, as long as there
are both.  A comma without an item behind it ends the list. -/
def commaItems (item : Reading (Option α)) : Nat → Reading (List α)
  | 0 => done []
  | n + 1 => do
    if ← mark? "," then
      match ← item with
      | some a => return a :: (← commaItems item n)
      | none => return []
    else return []

/-- Reads items with commas between them and perhaps one behind the last. -/
def commaList (item : Reading (Option α)) (n : Nat) : Reading (Option (List α)) := do
  match ← item with
  | some a => return some (a :: (← commaItems item n))
  | none => return none

/-- Reads a list in square brackets; it is empty if there is no bracket. -/
def bracketed (list : Reading (Option (List α))) (expected : String) (rules : List Rule) :
    Reading (List α) := do
  if ← mark? "[" then
    let items ← required list expected rules
    mark "]" rules
    return items
  else return []

/-- Reads a note and at least one item below it. -/
def titled (note : String) (item : Reading (Option α)) (expected : String) (rules : List Rule)
    (n : Nat) : Reading (Option (List α)) := do
  if ← note? note then
    let first ← required item expected rules
    return some (first :: (← many item n))
  else return none

end Reading

end PackageModel
