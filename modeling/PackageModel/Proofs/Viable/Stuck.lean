import PackageModel.Proofs.Reading.Eval
import PackageModel.Proofs.Reading.Holds

/-!
# PackageModel.Proofs.Viable.Stuck

Where programs get stuck.  `Reading.stuck?` gives the lexemes that are left where a program fails,
and none if it runs out of them.  What an error tells can be said in these terms: the unexpected
token is the first of those that are left, and a stream is found closed if none are.
-/

namespace PackageModel

/-! ## Streams -/

namespace TokenStream

/-- No error token has been handed back, so the next one that is met is reported. -/
def Clean (s : TokenStream) : Prop := ∀ t ∈ s.handedBack, t.kind ≠ .error

/-- At first nothing has been handed back. -/
theorem clean_ofList (tokens : List Token) : (ofList tokens).Clean := nofun

variable {s s' : TokenStream} {t : Token} {e : ParseError}

/-- The next token of a clean stream that can be read is no error token. -/
theorem Clean.of_next (hs : s.Clean) (h : s.next = (.ok t, s')) : t.kind ≠ .error ∧ s'.Clean := by
  obtain ⟨_ | ⟨u, ts⟩, n, hn⟩ := s
  · cases h
  simp only [next] at h
  split at h
  · cases h
  · next hu =>
    cases h
    cases n with
    | zero => exact ⟨fun hk => hu ⟨rfl, hk⟩, by simp [Clean, handedBack]⟩
    | succ n =>
      obtain ⟨ht, hts⟩ :=
        List.forall_mem_cons.1 (show ∀ v ∈ t :: ts.take n, v.kind ≠ .error from hs)
      exact ⟨ht, hts⟩

/-- A token that was read goes back, and it is no error token. -/
theorem Clean.unread (hs : s.Clean) (ht : t.kind ≠ .error) : (s.unread t).Clean := by
  intro u hu
  rcases List.mem_cons.1 (show u ∈ t :: s.handedBack from hu) with rfl | hu
  · exact ht
  · exact hs u hu

/-- A clean stream stays clean. -/
theorem Clean.of_take (hs : s.Clean) {wanted : Terminal} {o : Option Token}
    (h : s.take wanted = (.ok o, s')) : (∀ t ∈ o, t.kind ≠ .error) ∧ s'.Clean := by
  simp only [take] at h
  rcases hnext : s.next with ⟨e | t, s₁⟩ <;> rw [hnext] at h
  · cases h
  obtain ⟨ht, hs₁⟩ := hs.of_next hnext
  dsimp only at h
  split at h <;> cases h
  · exact ⟨by simpa using ht, hs₁⟩
  · exact ⟨by simp, hs₁.unread ht⟩

/-- A lookahead keeps a stream clean, as it hands back what it has read. -/
theorem Clean.of_takeBefore (hs : s.Clean) {wanted : Terminal} {behind : Behind}
    {o : Option Token} (h : s.takeBefore wanted behind = (.ok o, s')) : s'.Clean := by
  cases behind with
  | anything => exact (hs.of_take h).2
  | taken u =>
    simp only [takeBefore, takeBoth] at h
    rcases htake : s.take wanted with ⟨e | _ | t, s₁⟩ <;> rw [htake] at h
    · cases h
    · cases h
      exact (hs.of_take htake).2
    obtain ⟨ht, hs₁⟩ := hs.of_take htake
    dsimp only at h
    rcases htake' : s₁.take u with ⟨e | _ | v, s₂⟩ <;> rw [htake'] at h
    · cases h
    · cases h
      exact (hs₁.of_take htake').2.unread (ht t rfl)
    · cases h
      exact (hs₁.of_take htake').2
  | not u =>
    simp only [takeBefore, takeUnless] at h
    rcases htake : s.take wanted with ⟨e | _ | t, s₁⟩ <;> rw [htake] at h
    · cases h
    · cases h
      exact (hs.of_take htake).2
    obtain ⟨ht, hs₁⟩ := hs.of_take htake
    dsimp only at h
    rcases htake' : s₁.take u with ⟨e | _ | v, s₂⟩ <;> rw [htake'] at h
    · cases h
    · cases h
      exact (hs₁.of_take htake').2
    · cases h
      obtain ⟨hv, hs₂⟩ := hs₁.of_take htake'
      exact (hs₂.unread (hv v rfl)).unread (ht t rfl)

/-- Reading fails right behind an error token, or if there is nothing left to read. -/
theorem of_next_error (h : s.next = (.error e, s')) :
    (e = .closed ∧ s.ahead = []) ∨
      ∃ t, e = .lexical t ∧ t.kind = .error ∧ t :: s'.ahead <:+ s.ahead := by
  cases of_next h with
  | lexical hfresh _ ht => exact .inr ⟨_, rfl, ht, hfresh ▸ s.fresh_suffix_ahead⟩
  | closed hahead => exact .inl ⟨rfl, hahead⟩

/-- A token cannot be taken at the end or where an error token comes next. -/
theorem of_take_error {wanted : Terminal} (h : s.take wanted = (.error e, s')) :
    (e = .closed ∧ s.ahead = []) ∨
      ∃ t, e = .lexical t ∧ t.kind = .error ∧ t :: s'.ahead <:+ s.ahead := by
  simp only [take] at h
  rcases hnext : s.next with ⟨e' | t, s₁⟩ <;> rw [hnext] at h
  · cases h
    exact of_next_error hnext
  · dsimp only at h
    split at h <;> cases h

/-- Looking one token further ahead adds no other way to fail. -/
theorem of_takeBefore_error {wanted : Terminal} {behind : Behind}
    (h : s.takeBefore wanted behind = (.error e, s')) :
    (e = .closed ∧ Reading.takeLexeme wanted behind s.lexemes = none) ∨
      ∃ t, e = .lexical t ∧ t.kind = .error ∧ t :: s'.ahead <:+ s.ahead := by
  -- the error of the first token, or of the second one if the first one is taken
  have hfirst (htake : s.take wanted = (.error e, s')) :
      (e = .closed ∧ Reading.takeLexeme wanted behind s.lexemes = none) ∨
        ∃ t, e = .lexical t ∧ t.kind = .error ∧ t :: s'.ahead <:+ s.ahead := by
    refine (of_take_error htake).imp_left fun ⟨he, hs⟩ => ⟨he, ?_⟩
    rw [lexemes, hs, List.map_nil, Reading.takeLexeme]
  have hsecond {t : Token} {s₁ : TokenStream} {u : Terminal}
      (htake : s.take wanted = (.ok (some t), s₁)) (htake' : s₁.take u = (.error e, s'))
      (hbehind : behind = .taken u ∨ behind = .not u) :
      (e = .closed ∧ Reading.takeLexeme wanted behind s.lexemes = none) ∨
        ∃ t, e = .lexical t ∧ t.kind = .error ∧ t :: s'.ahead <:+ s.ahead := by
    rcases hs : s.ahead with _ | ⟨t', ts⟩
    · rw [Reading.take_nil hs] at htake
      cases htake
    rcases Reading.take_cons hs wanted with ⟨_, _, herror, -⟩ | ⟨s₁', hs₁, hok⟩
    · rw [herror] at htake
      cases htake
    rw [hok] at htake
    by_cases ha : wanted.accepts t'.toLexeme = true
    · rw [if_pos ha] at htake hs₁
      cases htake
      rcases of_take_error htake' with ⟨he, hnil⟩ | ⟨v, he, hk, hsuf⟩
      · refine .inl ⟨he, ?_⟩
        rw [hs₁] at hnil
        rcases hbehind with rfl | rfl <;> simp [lexemes, hs, hnil, Reading.takeLexeme, ha]
      · exact .inr ⟨v, he, hk, (hs₁ ▸ hsuf).trans (List.suffix_cons _ _)⟩
    · rw [if_neg ha] at htake
      cases htake
  -- each lookahead fails where one of the two tokens fails, as the code takes them in turn
  cases behind with
  | anything => exact hfirst h
  | taken u =>
    simp only [takeBefore, takeBoth] at h
    rcases htake : s.take wanted with ⟨e' | _ | t, s₁⟩ <;> rw [htake] at h
    · cases h
      exact hfirst htake
    · cases h
    · dsimp only at h
      rcases htake' : s₁.take u with ⟨e' | _ | v, s₂⟩ <;> rw [htake'] at h <;> cases h
      exact hsecond htake htake' (.inl rfl)
  | not u =>
    simp only [takeBefore, takeUnless] at h
    rcases htake : s.take wanted with ⟨e' | _ | t, s₁⟩ <;> rw [htake] at h
    · cases h
      exact hfirst htake
    · cases h
    · dsimp only at h
      rcases htake' : s₁.take u with ⟨e' | _ | v, s₂⟩ <;> rw [htake'] at h <;> cases h
      exact hsecond htake htake' (.inr rfl)

end TokenStream

/-! ## Programs -/

namespace Reading

variable {α β : Type}

/-- The lexemes that are left where the program fails; none are left where it needs more of them
than there are. -/
def stuck? : Reading α → List Lexeme → Option (List Lexeme)
  | done _, _ => none
  | fail _ _, w => some w
  | take wanted behind next, w =>
    match takeLexeme wanted behind w with
    | some (v, w') => (next v).stuck? w'
    | none => some []

variable {w rest : List Lexeme}

/-- Programs behind each other get stuck in the first one or in the second one. -/
theorem of_stuck_bind {r : Reading α} {f : α → Reading β}
    (h : (r.bind f).stuck? w = some rest) :
    r.stuck? w = some rest ∨
      ∃ a w₁, r.eval w = some (a, w₁) ∧ (f a).stuck? w₁ = some rest := by
  induction r generalizing w with
  | done a => exact .inr ⟨a, w, rfl, h⟩
  | fail expected rules => exact .inl h
  | take wanted behind next ih =>
    simp only [Reading.bind, stuck?, eval] at h ⊢
    cases htake : takeLexeme wanted behind w with
    | none =>
      rw [htake] at h
      exact .inl h
    | some o =>
      rw [htake] at h
      exact ih _ h

/-- What an error tells about the program and the stream that it was run on. -/
inductive Stops (r : Reading α) (s : TokenStream) : ParseError → TokenStream → Prop
  | lexical {t s'} (hk : t.kind = .error) (hs : t :: s'.ahead <:+ s.ahead) :
      Stops r s (.lexical t) s'
  | unexpected {t s' ts expected rules} (hs' : s'.ahead = t :: ts) (hs : s'.ahead <:+ s.ahead)
      (hk : t.kind ≠ .error) (hstuck : r.stuck? s.lexemes = some s'.lexemes) :
      Stops r s (.unexpected t expected rules) s'
  | closed {s'} (hstuck : r.stuck? s.lexemes = some []) : Stops r s .closed s'

/-- A failed run on a clean stream has met an error token, or the program is stuck. -/
theorem stops_of_run {r : Reading α} {s s' : TokenStream} {e : ParseError} (hs : s.Clean)
    (h : r.run s = (.error e, s')) : r.Stops s e s' := by
  induction r generalizing s with
  | done a => cases h
  | fail expected rules =>
    simp only [run, TokenStream.unexpected, TokenStream.peek] at h
    rcases hnext : s.next with ⟨e' | t, s₁⟩ <;> rw [hnext] at h <;> cases h
    · rcases TokenStream.of_next_error hnext with ⟨rfl, hnil⟩ | ⟨t, rfl, hk, hsuf⟩
      · exact .closed (by rw [stuck?, TokenStream.lexemes, hnil, List.map_nil])
      · exact .lexical hk hsuf
    · have hahead : (s₁.unread t).ahead = s.ahead := (TokenStream.of_next hnext).ahead_eq.symm
      refine .unexpected rfl (hahead ▸ List.suffix_rfl) (hs.of_next hnext).1 ?_
      rw [stuck?, TokenStream.lexemes, TokenStream.lexemes, hahead]
  | take wanted behind next ih =>
    -- if the first step goes well, the rest of the program is stuck or has met the error token
    cases agrees s wanted behind with
    | ok o s₁ htake hsuf hw =>
      simp only [run, htake] at h
      have hstuck : (take wanted behind next).stuck? s.lexemes =
          (next (o.map (·.value))).stuck? s₁.lexemes := by simp only [stuck?, hw]
      cases ih _ (hs.of_takeBefore htake) h with
      | lexical hk hs' => exact .lexical hk (hs'.trans hsuf)
      | unexpected hs' hs₁ hk h' => exact .unexpected hs' (hs₁.trans hsuf) hk (hstuck.trans h')
      | closed h' => exact .closed (hstuck.trans h')
    | error e' s₁ htake hw =>
      simp only [run, htake] at h
      cases h
      rcases TokenStream.of_takeBefore_error htake with ⟨rfl, hnone⟩ | ⟨t, rfl, hk, hsuf⟩
      · exact .closed (by simp only [stuck?, hnone])
      · exact .lexical hk hsuf

end Reading

end PackageModel
