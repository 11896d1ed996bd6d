import PackageModel.Proofs.Grammar.First
import PackageModel.Reading.Basic

/-!
# PackageModel.Proofs.Reading.Eval

Programs on plain lists of lexemes.  A program sees of a stream neither the places of the tokens
nor which of them were handed back, so `Reading.eval` needs neither: it gives back the result and
the lexemes that are left, or nothing if the program fails.  A successful run is always an
evaluation, and on streams without error tokens an evaluation is always a run.
-/

namespace PackageModel

/-- The tokens ahead, without their places. -/
def TokenStream.lexemes (s : TokenStream) : List Lexeme := s.ahead.map (·.toLexeme)

namespace Reading

variable {α β : Type}

/-- Takes the next lexeme, if it and the one behind it are as wanted. -/
def takeLexeme (wanted : Terminal) (behind : Behind) :
    List Lexeme → Option (Option String × List Lexeme)
  | [] => none
  | l :: w =>
    if wanted.accepts l then
      match behind, w with
      | .anything, _ => some (some l.value, w)
      | .taken t, m :: w' => if t.accepts m then some (some l.value, w') else some (none, l :: w)
      | .not t, m :: _ => if t.accepts m then some (none, l :: w) else some (some l.value, w)
      | _, [] => none
    else some (none, l :: w)

/-- Runs a program on lexemes. -/
def eval : Reading α → List Lexeme → Option (α × List Lexeme)
  | done a, w => some (a, w)
  | fail _ _, _ => none
  | take wanted behind next, w =>
    match takeLexeme wanted behind w with
    | some (v, w') => (next v).eval w'
    | none => none

/-! ## Runs and evaluations -/

/-- Nothing can be taken from an empty stream. -/
theorem take_nil {s : TokenStream} (h : s.ahead = []) (wanted : Terminal) :
    s.take wanted = (.error .closed, s) := by
  obtain ⟨ahead, n, hn⟩ := s
  obtain rfl : ahead = [] := h
  rfl

/-- Only an error token keeps a token from being taken or left as it is wanted or not. -/
theorem take_cons {s : TokenStream} {t : Token} {ts : List Token} (h : s.ahead = t :: ts)
    (wanted : Terminal) :
    (∃ e s', s.take wanted = (.error e, s') ∧ t.kind = .error) ∨
      ∃ s', s'.ahead = (if wanted.accepts t.toLexeme then ts else t :: ts) ∧
        s.take wanted = (.ok (if wanted.accepts t.toLexeme then some t else none), s') := by
  obtain ⟨ahead, n, hn⟩ := s
  obtain rfl : ahead = t :: ts := h
  have hle : n - 1 ≤ ts.length := by simp at hn; omega
  by_cases he : n = 0 ∧ t.kind = .error
  · refine .inl ⟨.lexical t, ⟨ts, n - 1, hle⟩, ?_, he.2⟩
    simp only [TokenStream.take, TokenStream.next, if_pos he]
  · right
    by_cases ha : wanted.accepts t.toLexeme = true
    · refine ⟨⟨ts, n - 1, hle⟩, by rw [if_pos ha], ?_⟩
      simp only [TokenStream.take, TokenStream.next, if_neg he, if_pos ha]
    · refine ⟨TokenStream.unread ⟨ts, n - 1, hle⟩ t, by rw [if_neg ha]; rfl, ?_⟩
      simp only [TokenStream.take, TokenStream.next, if_neg he, if_neg ha]

/-- Taking from a stream is taking from its lexemes: the outcome is the same, unless an error
token is met. -/
inductive Agrees (s : TokenStream) (wanted : Terminal) (behind : Behind) : Prop
  | ok (o : Option Token) (s' : TokenStream) (h : s.takeBefore wanted behind = (.ok o, s'))
      (hs : s'.ahead <:+ s.ahead)
      (hw : takeLexeme wanted behind s.lexemes = some (o.map (·.value), s'.lexemes))
  | error (e : ParseError) (s' : TokenStream) (h : s.takeBefore wanted behind = (.error e, s'))
      (hw : takeLexeme wanted behind s.lexemes = none ∨ ∃ t ∈ s.ahead, t.kind = .error)

section

variable {s s₁ : TokenStream} {t : Token} {ts : List Token} {wanted : Terminal}
  (hs : s.ahead = t :: ts) (hs₁ : s₁.ahead = ts) (htake : s.take wanted = (.ok (some t), s₁))
  (ha : wanted.accepts t.toLexeme = true)

include hs hs₁ htake ha

/-- A token that needs a second one behind it: both are taken, or both go back. -/
theorem agrees_taken (u : Terminal) : Agrees s wanted (.taken u) := by
  cases ts with
  | nil =>
    refine .error .closed s₁ ?_ (.inl ?_)
    · simp only [TokenStream.takeBefore, TokenStream.takeBoth, htake, take_nil hs₁]
    · simp [TokenStream.lexemes, hs, takeLexeme, ha]
  | cons t' ts =>
    rcases take_cons hs₁ u with ⟨e, s₂, htake', ht⟩ | ⟨s₂, hs₂, htake'⟩
    · refine .error e s₂ ?_ (.inr ⟨t', by simp [hs], ht⟩)
      simp only [TokenStream.takeBefore, TokenStream.takeBoth, htake, htake']
    by_cases ha' : u.accepts t'.toLexeme = true
    · rw [if_pos ha'] at hs₂ htake'
      refine .ok (some t) s₂ ?_ ⟨[t, t'], by simp [hs, hs₂]⟩ ?_
      · simp only [TokenStream.takeBefore, TokenStream.takeBoth, htake, htake']
      · simp [TokenStream.lexemes, hs, hs₂, takeLexeme, ha, ha']
    · rw [if_neg ha'] at hs₂ htake'
      refine .ok none (s₂.unread t) ?_ ⟨[], by simp [TokenStream.unread, hs, hs₂]⟩ ?_
      · simp only [TokenStream.takeBefore, TokenStream.takeBoth, htake, htake']
      · simp [TokenStream.lexemes, TokenStream.unread, hs, hs₂, takeLexeme, ha, ha']

/-- A token that must not have a second one behind it: the second one goes back either way. -/
theorem agrees_not (u : Terminal) : Agrees s wanted (.not u) := by
  cases ts with
  | nil =>
    refine .error .closed s₁ ?_ (.inl ?_)
    · simp only [TokenStream.takeBefore, TokenStream.takeUnless, htake, take_nil hs₁]
    · simp [TokenStream.lexemes, hs, takeLexeme, ha]
  | cons t' ts =>
    rcases take_cons hs₁ u with ⟨e, s₂, htake', ht⟩ | ⟨s₂, hs₂, htake'⟩
    · refine .error e s₂ ?_ (.inr ⟨t', by simp [hs], ht⟩)
      simp only [TokenStream.takeBefore, TokenStream.takeUnless, htake, htake']
    by_cases ha' : u.accepts t'.toLexeme = true
    · rw [if_pos ha'] at hs₂ htake'
      refine .ok none ((s₂.unread t').unread t) ?_
        ⟨[], by simp [TokenStream.unread, hs, hs₂]⟩ ?_
      · simp only [TokenStream.takeBefore, TokenStream.takeUnless, htake, htake']
      · simp [TokenStream.lexemes, TokenStream.unread, hs, hs₂, takeLexeme, ha, ha']
    · rw [if_neg ha'] at hs₂ htake'
      refine .ok (some t) s₂ ?_ ⟨[t], by simp [hs, hs₂]⟩ ?_
      · simp only [TokenStream.takeBefore, TokenStream.takeUnless, htake, htake']
      · simp [TokenStream.lexemes, hs, hs₂, takeLexeme, ha, ha']

end

/-- One case for each thing that may be asked of the token behind. -/
theorem agrees (s : TokenStream) (wanted : Terminal) (behind : Behind) :
    Agrees s wanted behind := by
  rcases hs : s.ahead with _ | ⟨t, ts⟩
  · have hw : takeLexeme wanted behind s.lexemes = none := by
      simp [TokenStream.lexemes, hs, takeLexeme]
    have htake := take_nil hs wanted
    cases behind with
    | anything => exact .error _ _ htake (.inl hw)
    | taken u =>
      exact .error .closed s (by simp only [TokenStream.takeBefore, TokenStream.takeBoth, htake])
        (.inl hw)
    | not u =>
      exact .error .closed s (by simp only [TokenStream.takeBefore, TokenStream.takeUnless, htake])
        (.inl hw)
  rcases take_cons hs wanted with ⟨e, s₁, htake, ht⟩ | ⟨s₁, hs₁, htake⟩
  · have he : ∃ t ∈ s.ahead, t.kind = .error := ⟨t, by simp [hs], ht⟩
    cases behind with
    | anything => exact .error _ _ htake (.inr he)
    | taken u =>
      exact .error e s₁ (by simp only [TokenStream.takeBefore, TokenStream.takeBoth, htake])
        (.inr he)
    | not u =>
      exact .error e s₁ (by simp only [TokenStream.takeBefore, TokenStream.takeUnless, htake])
        (.inr he)
  by_cases ha : wanted.accepts t.toLexeme = true
  · rw [if_pos ha] at hs₁ htake
    cases behind with
    | anything =>
      refine .ok _ _ htake (by rw [hs, hs₁]; exact List.suffix_cons _ _) ?_
      simp [TokenStream.lexemes, hs, hs₁, takeLexeme, ha]
    | taken u => exact agrees_taken hs hs₁ htake ha u
    | not u => exact agrees_not hs hs₁ htake ha u
  · rw [if_neg ha] at hs₁ htake
    have hw : takeLexeme wanted behind s.lexemes = some (none, s₁.lexemes) := by
      simp [TokenStream.lexemes, hs, hs₁, takeLexeme, ha]
    have hsuf : s₁.ahead <:+ s.ahead := by simp only [hs, hs₁, List.suffix_rfl]
    cases behind with
    | anything => exact .ok _ _ htake hsuf hw
    | taken u =>
      exact .ok none s₁ (by simp only [TokenStream.takeBefore, TokenStream.takeBoth, htake])
        hsuf hw
    | not u =>
      exact .ok none s₁ (by simp only [TokenStream.takeBefore, TokenStream.takeUnless, htake])
        hsuf hw

/-- A successful run is an evaluation. -/
theorem eval_of_run {r : Reading α} {s s' : TokenStream} {a : α} (h : r.run s = (.ok a, s')) :
    r.eval s.lexemes = some (a, s'.lexemes) := by
  induction r generalizing s with
  | done b =>
    cases h
    rfl
  | fail expected rules =>
    simp only [run, TokenStream.unexpected] at h
    split at h <;> cases h
  | take wanted behind next ih =>
    cases agrees s wanted behind with
    | ok o s₁ htake hsuf hw =>
      simp only [run, htake] at h
      simp only [eval, hw]
      exact ih _ h
    | error e s₁ htake hw =>
      simp only [run, htake] at h
      cases h

/-- Without error tokens ahead, an evaluation is a successful run. -/
theorem run_of_eval {r : Reading α} {s : TokenStream} {a : α} {w : List Lexeme}
    (hs : ∀ t ∈ s.ahead, t.kind ≠ .error) (h : r.eval s.lexemes = some (a, w)) :
    ∃ s', r.run s = (.ok a, s') := by
  induction r generalizing s with
  | done b =>
    obtain ⟨rfl, -⟩ : b = a ∧ _ := by simpa [eval] using h
    exact ⟨s, rfl⟩
  | fail expected rules => simp [eval] at h
  | take wanted behind next ih =>
    cases agrees s wanted behind with
    | ok o s₁ htake hsuf hw =>
      simp only [eval, hw] at h
      simp only [run, htake]
      exact ih _ (fun t ht => hs t (hsuf.subset ht)) h
    | error e s₁ htake hw =>
      rcases hw with hw | ⟨t, ht, hk⟩
      · simp [eval, hw] at h
      · exact absurd hk (hs t ht)

/-! ## Evaluation of single tokens and combinations -/

@[simp] theorem eval_done {a : α} {w : List Lexeme} : (done a).eval w = some (a, w) := rfl

@[simp] theorem eval_fail {expected : String} {rules : List Rule} {w : List Lexeme} :
    (fail expected rules : Reading α).eval w = none := rfl

/-- Programs run one behind the other on what the first one leaves. -/
@[simp] theorem eval_bind {r : Reading α} {f : α → Reading β} {w : List Lexeme} :
    (r.bind f).eval w = (r.eval w).bind fun (a, w') => (f a).eval w' := by
  induction r generalizing w with
  | done a => rfl
  | fail expected rules => rfl
  | take wanted behind next ih =>
    simp only [Reading.bind, eval]
    cases takeLexeme wanted behind w with
    | none => rfl
    | some o => exact ih _

end Reading

end PackageModel
