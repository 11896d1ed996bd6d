import PackageModel.Reading.Calls
import PackageModel.Token.Scan

/-!
# PackageModel.Reading.Pipeline

Scanning and reading side by side.  A sender scans the source and puts each token into a queue of
limited length; a receiver makes the calls of a program, and takes tokens from the queue when it
has none that were handed back.  `Pipeline.step` is one step of either side, `Pipeline.run` any
number of them in a given order.

The sender waits while the queue is full, the receiver while it is empty and more may come.  Once
the receiver has its result it receives no more, and the sender ends at the next token that it has
to send.
-/

namespace PackageModel

/-- What the scanning side does next. -/
inductive Sender where
  /-- Scans for a token. -/
  | scanning (s : Scanner)
  /-- Puts the token into the queue. -/
  | sending (t : Token) (s : Scanner)
  /-- Nothing. -/
  | ended

/-- What the reading side does next. -/
inductive Receiver (α : Type) where
  /-- Makes these calls; the tokens that were handed back to it come first. -/
  | running (calls : Calls α) (handedBack : List Token)
  /-- Nothing, and it receives no more. -/
  | ended (result : Except ParseError α)

/-- Both sides and the queue between them. -/
structure Pipeline (α : Type) where
  /-- How many tokens the queue holds. -/
  capacity : Nat
  sender : Sender
  /-- The tokens that are sent and not yet received, the next one first. -/
  queue : List Token
  receiver : Receiver α
  /-- All tokens that have been received, in the order in which they were. -/
  received : List Token

/-- The sides of a pipeline. -/
inductive Side where
  | sender
  | receiver
deriving Repr, DecidableEq

namespace Pipeline

variable {α : Type}

/-- Nothing is scanned or received yet.  The queue has room for at least one token. -/
def start (source : String) (capacity : Nat) (calls : Calls α) : Pipeline α where
  capacity := max capacity 1
  sender := .scanning (.ofString source)
  queue := []
  receiver := .running calls []
  received := []

/-- A step of the sender, if it can take one. -/
def send (p : Pipeline α) : Option (Pipeline α) :=
  match p.sender with
  | .scanning s =>
    match s.next? with
    | (some t, s') => some { p with sender := .sending t s' }
    | (none, _) => some { p with sender := .ended }
  | .sending t s =>
    match p.receiver with
    | .running _ _ =>
      if p.queue.length < p.capacity then
        some { p with sender := .scanning s, queue := p.queue ++ [t] }
      else none
    | .ended _ => some { p with sender := .ended }
  | .ended => none

/-- The receiver asks for a token.  One that was handed back comes first, and only an error token
from the queue stops it; an empty queue stops it if the sender has ended. -/
def receive (p : Pipeline α) (go : Token → Calls α) (handedBack : List Token) :
    Option (Pipeline α) :=
  match handedBack, p.queue with
  | t :: handedBack, _ => some { p with receiver := .running (go t) handedBack }
  | [], t :: queue =>
    let calls := if t.kind = .error then .done (.error (.lexical t)) else go t
    some { p with queue, receiver := .running calls [], received := p.received ++ [t] }
  | [], [] =>
    match p.sender with
    | .ended => some { p with receiver := .running (.done (.error .closed)) [] }
    | _ => none

/-- A step of the receiver, if it can take one. -/
def call (p : Pipeline α) : Option (Pipeline α) :=
  match p.receiver with
  | .running (.done result) _ => some { p with receiver := .ended result }
  | .running (.next go) handedBack => p.receive go handedBack
  | .running (.unread t rest) handedBack =>
    some { p with receiver := .running rest (t :: handedBack) }
  | .ended _ => none

/-- A step of one side, if it can take one. -/
def step (p : Pipeline α) : Side → Option (Pipeline α)
  | .sender => p.send
  | .receiver => p.call

/-- Steps in a given order, if all of them can be taken. -/
def run : List Side → Pipeline α → Option (Pipeline α)
  | [], p => some p
  | side :: sides, p => (p.step side).bind (run sides)

/-- Both sides have ended. -/
def Ended (p : Pipeline α) : Prop := p.sender = .ended ∧ ∃ result, p.receiver = .ended result

end Pipeline

end PackageModel
