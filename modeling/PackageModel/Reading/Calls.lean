import PackageModel.Reading.Basic

/-!
# PackageModel.Reading.Calls

The calls that a program makes.  Whatever a program does with tokens comes down to two calls: it
asks for the next token, or it hands a token back.  It fails as soon as it is not given the token
that it asks for.
-/

namespace PackageModel

/-- A program as the calls that it makes. -/
inductive Calls (α : Type) where
  /-- The program has its result. -/
  | done (result : Except ParseError α)
  /-- Asks for the next token and goes on with it. -/
  | next (go : Token → Calls α)
  /-- Hands a token back and goes on. -/
  | unread (t : Token) (rest : Calls α)

namespace Calls

variable {α : Type}

/-- Asks for the next token, and hands it back if it is not as wanted. -/
def take (wanted : Terminal) (hit : Token → Calls α) (miss : Calls α) : Calls α :=
  next fun t => if wanted.accepts t.toLexeme then hit t else unread t miss

/-- Makes the calls on a stream. -/
def run : Calls α → TokenStream → Except ParseError α × TokenStream
  | done result, s => (result, s)
  | next go, s =>
    match s.next with
    | (.ok t, s') => (go t).run s'
    | (.error e, s') => (.error e, s')
  | unread t rest, s => rest.run (s.unread t)

/-- An optional token, with what is done in either case. -/
theorem run_take (wanted : Terminal) (hit : Token → Calls α) (miss : Calls α) (s : TokenStream) :
    (take wanted hit miss).run s =
      match s.take wanted with
      | (.ok (some t), s') => (hit t).run s'
      | (.ok none, s') => miss.run s'
      | (.error e, s') => (.error e, s') := by
  unfold take TokenStream.take
  rw [run]
  rcases s.next with ⟨e | t, s'⟩
  · rfl
  · dsimp only
    split <;> rfl

end Calls

/-- The calls of a program.  A token that was taken for the sake of the one behind it is handed back
after that one, so that it comes first again. -/
def Reading.calls {α : Type} : Reading α → Calls α
  | done a => .done (.ok a)
  | fail expected rules => .next fun t => .unread t (.done (.error (.unexpected t expected rules)))
  | take wanted behind next =>
    match behind with
    | .anything => .take wanted (fun t => (next (some t.value)).calls) (next none).calls
    | .taken u =>
      .take wanted
        (fun t => .take u (fun _ => (next (some t.value)).calls) (.unread t (next none).calls))
        (next none).calls
    | .not u =>
      .take wanted
        (fun t => .take u (fun v => .unread v (.unread t (next none).calls))
          (next (some t.value)).calls)
        (next none).calls

/-- The calls of a program do what the program does. -/
theorem Reading.run_calls {α : Type} (r : Reading α) (s : TokenStream) :
    r.calls.run s = r.run s := by
  induction r generalizing s with
  | done a => rfl
  | fail expected rules =>
    rw [calls, Calls.run, run, TokenStream.unexpected, TokenStream.peek]
    rcases s.next with ⟨e | t, s'⟩ <;> rfl
  | take wanted behind next ih =>
    rw [run]
    cases behind with
    | anything =>
      rw [calls, Calls.run_take, TokenStream.takeBefore]
      rcases s.take wanted with ⟨e | _ | t, s'⟩
      · rfl
      · exact ih none s'
      · exact ih (some t.value) s'
    | taken u =>
      rw [calls, Calls.run_take, TokenStream.takeBefore, TokenStream.takeBoth]
      rcases s.take wanted with ⟨e | _ | t, s'⟩
      · rfl
      · exact ih none s'
      · dsimp only
        rw [Calls.run_take]
        rcases s'.take u with ⟨e | _ | v, s''⟩
        · rfl
        · exact ih none _
        · exact ih (some t.value) s''
    | not u =>
      rw [calls, Calls.run_take, TokenStream.takeBefore, TokenStream.takeUnless]
      rcases s.take wanted with ⟨e | _ | t, s'⟩
      · rfl
      · exact ih none s'
      · dsimp only
        rw [Calls.run_take]
        rcases s'.take u with ⟨e | _ | v, s''⟩
        · rfl
        · exact ih (some t.value) s''
        · exact ih none _

end PackageModel
