import PackageModel.Reading.Document

/-!
# PackageModel.Reading.Operation

The operations on a stream of tokens as data, so that a stream can be asked a number of things in
any order.  `TokenStream.log` lists what it answers, each time with the number of tokens that are
back; a failed operation does not stop the ones behind it.
-/

namespace PackageModel

namespace TokenStream

/-- What a stream can be asked to do.  Nodes of type `α` come from elsewhere. -/
inductive Operation (α : Type) where
  | next
  | unread (t : Token)
  | peek
  | take (wanted : Terminal)
  | takeIdentifier
  | takeKeyword (word : String)
  | takeDelimiter (mark : String)
  | takeNote (line : String)
  | expect (wanted : Terminal) (expected : String) (rules : List Rule)
  | expectIdentifier (rules : List Rule)
  | expectKeyword (word : String) (rules : List Rule)
  | expectDelimiter (mark : String) (rules : List Rule)
  | require (node : Option α) (expected : String) (rules : List Rule)
  | unexpected (expected : String) (rules : List Rule)
  | readSource

/-- What comes back from an operation that does not fail. -/
inductive Answer (α : Type) where
  | token (t : Token)
  | token? (t : Option Token)
  | text (value : String)
  | text? (value : Option String)
  | found (b : Bool)
  | done
  | node (a : α)
  | document (d : Document)

namespace Operation

variable {α β : Type}

/-- The result of an operation as an answer. -/
def answer (f : β → Answer α) (r : Except ParseError β × TokenStream) :
    Except ParseError (Answer α) × TokenStream := (r.1.map f, r.2)

/-- Performs an operation. -/
def run : Operation α → TokenStream → Except ParseError (Answer α) × TokenStream
  | next, s => answer .token s.next
  | unread t, s => (.ok .done, s.unread t)
  | peek, s => answer .token s.peek
  | take wanted, s => answer .token? (s.take wanted)
  | takeIdentifier, s => answer (fun t => .text? (t.map (·.value))) (s.take .identifier)
  | takeKeyword word, s => answer (fun t => .found t.isSome) (s.take (.keyword word))
  | takeDelimiter mark, s => answer (fun t => .found t.isSome) (s.take (.delimiter mark))
  | takeNote line, s => answer (fun t => .found t.isSome) (s.take (.note line))
  | expect wanted expected rules, s => answer .token (s.expect wanted expected rules)
  | expectIdentifier rules, s =>
    answer (fun t => .text t.value) (s.expect .identifier Terminal.identifier.expected rules)
  | expectKeyword word rules, s =>
    answer (fun _ => .done) (s.expect (.keyword word) (Terminal.keyword word).expected rules)
  | expectDelimiter mark rules, s =>
    answer (fun _ => .done) (s.expect (.delimiter mark) (Terminal.delimiter mark).expected rules)
  | require node expected rules, s => answer .node (s.require node expected rules)
  | unexpected expected rules, s => s.unexpected expected rules
  | readSource, s => answer .document (Document.ofStream s)

end Operation

variable {α : Type}

/-- Performs operations one after the other.  Each answer stands with the number of tokens that are
back behind it. -/
def log (s : TokenStream) : List (Operation α) → List (Except ParseError (Answer α) × Nat)
  | [] => []
  | op :: ops => ((op.run s).1, (op.run s).2.returned) :: log (op.run s).2 ops

/-- The stream that operations leave. -/
def after (s : TokenStream) : List (Operation α) → TokenStream
  | [] => s
  | op :: ops => after (op.run s).2 ops

/-- The answers alone. -/
def answers (s : TokenStream) (ops : List (Operation α)) : List (Except ParseError (Answer α)) :=
  (s.log ops).map (·.1)

end TokenStream

end PackageModel
