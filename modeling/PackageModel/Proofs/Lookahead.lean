import PackageModel.Proofs.Reading.Bound
import PackageModel.Proofs.Reading.Holds
import PackageModel.Proofs.Reading.Places

/-!
# PackageModel.Proofs.Lookahead

How far ahead programs look.  A program never has more than two tokens back, and all but the last
two of those that it has received are never read again.  So when it fails at a token, it has seen
this token and the one behind it at most, and any other tokens may follow.
-/

namespace PackageModel

/-! ## Streams with more tokens -/

namespace TokenStream

/-- The tokens ahead are those that were handed back and the fresh ones. -/
theorem length_ahead (s : TokenStream) : s.ahead.length = s.returned + s.fresh.length := by
  rw [← s.handedBack_append_fresh, List.length_append, length_handedBack]

/-- The stream with more tokens behind those that it has. -/
def extend (s : TokenStream) (more : List Token) : TokenStream where
  ahead := s.ahead ++ more
  returned := s.returned
  returned_le := by
    have hle := s.returned_le
    rw [List.length_append]
    omega

variable {s s' : TokenStream} {t : Token}

/-- No tokens are added. -/
theorem extend_nil (s : TokenStream) : s.extend [] = s := by
  simp [extend]

/-- Behind an empty stream only the added tokens are ahead. -/
theorem extend_of_ahead_nil (h : s.ahead = []) (more : List Token) :
    s.extend more = ofList more := by
  have hreturned := s.length_ahead
  simp only [h, List.length_nil] at hreturned
  simp only [extend, ofList, h, List.nil_append]
  congr 1
  omega

/-- An empty stream is closed, and stays it. -/
theorem next_of_ahead_nil (h : s.ahead = []) : s.next = (.error .closed, s) := by
  obtain ⟨ahead, n, hn⟩ := s
  obtain rfl : ahead = [] := h
  rfl

/-- The first of fresh tokens is read, whatever comes of it. -/
theorem next_ofList (t : Token) (ts : List Token) :
    ∃ r, (ofList (t :: ts)).next = (r, ofList ts) := ⟨_, rfl⟩

/-- Tokens that are added to fresh ones are fresh. -/
theorem extend_ofList (tokens more : List Token) :
    (ofList tokens).extend more = ofList (tokens ++ more) := rfl

/-- As long as there are tokens ahead, more of them make no difference to the next one. -/
theorem next_extend (h : s.ahead ≠ []) (more : List Token) :
    (s.extend more).next = (s.next.1, s.next.2.extend more) := by
  obtain ⟨_ | ⟨t, ts⟩, n, hn⟩ := s
  · exact absurd rfl h
  · rfl

end TokenStream

open TokenStream (ofList)

/-! ## The streams of a run -/

namespace Calls

variable {α : Type} {c : Calls α} {hand : List Token} {s s' : TokenStream}

/-- The streams that the calls are made on, and the last one. -/
def states : Calls α → TokenStream → List TokenStream
  | done _, s => [s]
  | next go, s =>
    s :: match s.next with
      | (.ok t, s') => (go t).states s'
      | (.error _, s') => [s']
  | unread t rest, s => s :: rest.states (s.unread t)

/-- A run ends in one of its streams. -/
theorem run_mem_states (c : Calls α) (s : TokenStream) : (c.run s).2 ∈ c.states s := by
  induction c generalizing s with
  | done result => exact List.mem_cons_self
  | next go ih =>
    rw [run, states]
    rcases s.next with ⟨e | t, s'⟩
    · exact List.mem_cons_of_mem _ List.mem_cons_self
    · exact List.mem_cons_of_mem _ (ih t s')
  | unread t rest ih => exact List.mem_cons_of_mem _ (ih _)

/-- The tokens in the hand and ahead are the last ones of those that were there, `before`, and those
in the hand or handed back are two at most. -/
structure Within (before hand : List Token) (s : TokenStream) : Prop where
  suffix : hand.reverse ++ s.ahead <:+ before
  length_le : hand.length + s.returned ≤ 2

namespace Within

variable {before : List Token} {t : Token}

/-- At first all the tokens are ahead, and none is in the hand. -/
theorem ofList (tokens : List Token) : Within tokens [] (ofList tokens) :=
  ⟨List.suffix_rfl, by simp [TokenStream.ofList]⟩

/-- What is ahead was there before. -/
theorem ahead_suffix (h : Within before hand s) : s.ahead <:+ before :=
  (List.suffix_append _ _).trans h.suffix

/-- No more than two tokens are handed back. -/
theorem returned_le (h : Within before hand s) : s.returned ≤ 2 :=
  Nat.le_trans (Nat.le_add_left _ _) h.length_le

/-- A token that is read is in the hand; there is room for it. -/
theorem next (h : Within before hand s) (hhand : hand.length < 2) (hnext : s.next = (.ok t, s')) :
    Within before (t :: hand) s' := by
  obtain ⟨hsuffix, hlength⟩ := h
  have hle := (TokenStream.of_next hnext).returned_le
  refine ⟨?_, ?_⟩
  · rwa [List.reverse_cons, List.append_assoc, List.singleton_append,
      ← (TokenStream.of_next hnext).ahead_eq]
  · rw [List.length_cons]
    omega

/-- A failed read leaves the hand behind. -/
theorem of_next_error (h : Within before hand s) {e : ParseError}
    (hnext : s.next = (.error e, s')) : Within before [] s' := by
  have hle := (TokenStream.of_next hnext).returned_le
  have hreturned := h.returned_le
  refine ⟨(TokenStream.of_next hnext).ahead_suffix.trans h.ahead_suffix, ?_⟩
  rw [List.length_nil]
  omega

/-- The last token in the hand goes back. -/
theorem unread (h : Within before (t :: hand) s) : Within before hand (s.unread t) := by
  obtain ⟨hsuffix, hlength⟩ := h
  rw [List.reverse_cons, List.append_assoc] at hsuffix
  rw [List.length_cons] at hlength
  exact ⟨hsuffix, by simp only [TokenStream.unread]; omega⟩

/-- What is in the hand may be kept for good. -/
theorem keep (h : Within before hand s) : Within before [] s := by
  refine ⟨h.ahead_suffix, ?_⟩
  rw [List.length_nil, Nat.zero_add]
  exact h.returned_le

end Within

/-- At no call there are more than two tokens in the hand or handed back. -/
theorem Holds.within (h : Holds hand c) {before : List Token} (hs : Within before hand s)
    (hs' : s' ∈ c.states s) : ∃ hand', Within before hand' s' := by
  induction h generalizing s with
  | done a =>
    obtain rfl := List.mem_singleton.1 hs'
    exact ⟨_, hs⟩
  | fail t expected rules =>
    simp only [states, List.mem_cons, List.not_mem_nil, or_false] at hs'
    rcases hs' with rfl | rfl
    · exact ⟨_, hs⟩
    · exact ⟨_, hs.unread⟩
  | next hhand hgo ih =>
    rw [states] at hs'
    rcases List.mem_cons.1 hs' with rfl | hs'
    · exact ⟨_, hs⟩
    rcases hnext : s.next with ⟨e | t, s₁⟩ <;> rw [hnext] at hs'
    · obtain rfl := List.mem_singleton.1 hs'
      exact ⟨_, hs.of_next_error hnext⟩
    · exact ih t (hs.next hhand hnext) hs'
  | unread hrest ih =>
    rw [states] at hs'
    rcases List.mem_cons.1 hs' with rfl | hs'
    · exact ⟨_, hs⟩
    · exact ih hs.unread hs'
  | keep hc ih => exact ih hs.keep hs'

/-- Of the tokens that have been received at the first call, all but two are never read again. -/
theorem Holds.length_ahead_le (h : Holds hand c) {before : List Token} (hs : Within before hand s)
    (hs' : s' ∈ c.states s) : s'.ahead.length ≤ s.fresh.length + 2 := by
  obtain ⟨_, hwithin⟩ := h.within ⟨List.suffix_rfl, hs.length_le⟩ hs'
  have hle := hwithin.ahead_suffix.length_le
  rw [List.length_append, List.length_reverse, s.length_ahead] at hle
  have htwo := hs.length_le
  omega

/-- This holds of every call and all those behind it. -/
theorem Holds.pairwise_states (h : Holds hand c) {before : List Token} (hs : Within before hand s) :
    (c.states s).Pairwise fun s s' => s'.ahead.length ≤ s.fresh.length + 2 := by
  induction h generalizing s with
  | done a => exact List.pairwise_singleton _ _
  | fail t expected rules =>
    refine List.pairwise_cons.2 ⟨fun s' hs' => ?_, List.pairwise_singleton _ _⟩
    exact (Holds.fail t expected rules).length_ahead_le hs (List.mem_cons_of_mem _ hs')
  | @next hand go hhand hgo ih =>
    have hlater (s' : TokenStream) (hs' : s' ∈ (Calls.next go).states s) :
        s'.ahead.length ≤ s.fresh.length + 2 := (Holds.next hhand hgo).length_ahead_le hs hs'
    rw [states] at hlater ⊢
    refine List.pairwise_cons.2 ⟨fun s' hs' => hlater s' (List.mem_cons_of_mem _ hs'), ?_⟩
    rcases hnext : s.next with ⟨e | t, s₁⟩
    · exact List.pairwise_singleton _ _
    · exact ih t (hs.next hhand hnext)
  | unread hrest ih =>
    refine List.pairwise_cons.2 ⟨fun s' hs' => ?_, ih hs.unread⟩
    exact (Holds.unread hrest).length_ahead_le hs (List.mem_cons_of_mem _ hs')
  | keep hc ih => exact ih hs.keep

/-! ## Runs with other tokens behind -/

/-- A run never brings back a token that had been read before it. -/
theorem fresh_run_suffix (c : Calls α) (s : TokenStream) : (c.run s).2.fresh <:+ s.fresh := by
  induction c generalizing s with
  | done result => exact List.suffix_rfl
  | next go ih =>
    rw [run]
    rcases hnext : s.next with ⟨e | t, s'⟩
    · exact (TokenStream.of_next hnext).fresh_suffix
    · exact (ih t s').trans (TokenStream.of_next hnext).fresh_suffix
  | unread t rest ih => exact ih (s.unread t)

/-- With more tokens behind, a run comes to the same and leaves them all, unless it came to the end
of the tokens without them; then it reads at least one of them. -/
theorem run_extend (c : Calls α) (s : TokenStream) (more : List Token) :
    c.run (s.extend more) = ((c.run s).1, (c.run s).2.extend more) ∨
      (c.run s).1 = .error .closed ∧ (c.run (s.extend more)).2.fresh.length < more.length := by
  induction c generalizing s with
  | done result => exact .inl rfl
  | unread t rest ih => exact ih (s.unread t)
  | next go ih =>
    by_cases hahead : s.ahead = []
    · cases more with
      | nil => exact .inl (by rw [TokenStream.extend_nil, TokenStream.extend_nil])
      | cons t ts =>
        obtain ⟨r, hr⟩ := TokenStream.next_ofList t ts
        rw [run, run, TokenStream.next_of_ahead_nil hahead,
          TokenStream.extend_of_ahead_nil hahead, hr]
        refine .inr ⟨rfl, Nat.lt_succ_of_le ?_⟩
        cases r with
        | error e => exact Nat.le_refl _
        | ok u => exact (fresh_run_suffix (go u) (ofList ts)).length_le
    · rw [run, run, TokenStream.next_extend hahead]
      rcases s.next with ⟨e | t, s'⟩
      · exact .inl rfl
      · exact ih t s'

end Calls

/-! ## Programs -/

namespace Reading

variable {α : Type} {r : Reading α} {tokens others : List Token} {t : Token} {expected : String}
  {rules : List Rule} {s : TokenStream} {k : Nat}

/-- A reading starts with an empty hand and leaves no more than two tokens in it or handed back. -/
theorem within_run (r : Reading α) (tokens : List Token) :
    ∃ hand, Calls.Within tokens hand (r.run (ofList tokens)).2 := by
  rw [← r.run_calls]
  exact r.calls_holds.within (.ofList tokens) (r.calls.run_mem_states (ofList tokens))

/-- A run leaves some of the tokens. -/
theorem exists_length_add {result : Except ParseError α}
    (h : r.run (ofList tokens) = (result, s)) : ∃ k, s.ahead.length + k = tokens.length := by
  obtain ⟨_, hwithin⟩ := r.within_run tokens
  rw [h] at hwithin
  exact (Nat.exists_eq_add_of_le hwithin.ahead_suffix.length_le).imp fun _ => Eq.symm

/-- The token at which a program fails is the next one. -/
theorem getElem?_of_unexpected
    (h : r.run (ofList tokens) = (.error (.unexpected t expected rules), s))
    (hk : s.ahead.length + k = tokens.length) : tokens[k]? = some t ∧ s.ahead = tokens.drop k := by
  have houtcome := r.outcome (ofList tokens)
  rw [h] at houtcome
  cases houtcome with
  | unexpected hs ht =>
    have hdrop : s.ahead = tokens.drop k := by
      rw [List.suffix_iff_eq_drop.1 hs]
      congr 1
      simp only [ofList]
      omega
    rw [← List.head?_drop, ← hdrop, ht]
    exact ⟨rfl, rfl⟩

/-- A program that fails at a token fails there without the tokens behind the next one. -/
theorem run_take_of_unexpected
    (h : r.run (ofList tokens) = (.error (.unexpected t expected rules), s))
    (hk : s.ahead.length + k = tokens.length) :
    ∃ s₁, r.run (ofList (tokens.take (k + 2))) = (.error (.unexpected t expected rules), s₁) ∧
      s = s₁.extend (tokens.drop (k + 2)) := by
  have hextend := r.calls.run_extend (ofList (tokens.take (k + 2))) (tokens.drop (k + 2))
  rw [TokenStream.extend_ofList, List.take_append_drop, r.run_calls, r.run_calls, h] at hextend
  rcases hextend with hrun | ⟨-, hlt⟩
  · obtain ⟨hresult, hs⟩ := Prod.mk.inj hrun
    exact ⟨_, Prod.ext hresult.symm rfl, hs⟩
  · -- more than two tokens would be back
    obtain ⟨_, hwithin⟩ := r.within_run tokens
    rw [h] at hwithin
    have hreturned : s.returned ≤ 2 := hwithin.returned_le
    have hlength := s.length_ahead
    simp only [List.length_drop] at hlt
    omega

/-- A program that fails at a token fails there whatever comes behind the tokens. -/
theorem run_append_of_unexpected
    (h : r.run (ofList tokens) = (.error (.unexpected t expected rules), s)) :
    r.run (ofList (tokens ++ others)) =
      (.error (.unexpected t expected rules), s.extend others) := by
  have hextend := r.calls.run_extend (ofList tokens) others
  rw [TokenStream.extend_ofList, r.run_calls, r.run_calls, h] at hextend
  rcases hextend with hrun | ⟨hclosed, -⟩
  · exact hrun
  · cases hclosed

/-- A program that fails at a token fails there wherever the tokens stand. -/
theorem run_of_alike_of_unexpected
    (h : r.run (ofList tokens) = (.error (.unexpected t expected rules), s))
    (hlexemes : tokens.map (·.toLexeme) = others.map (·.toLexeme)) :
    ∃ u s', r.run (ofList others) = (.error (.unexpected u expected rules), s') ∧
      s'.ahead.length = s.ahead.length := by
  have hstreams : (ofList tokens).Alike (ofList others) := ⟨hlexemes, rfl⟩
  have halike := r.calls_alike.run hstreams
  rw [r.run_calls, r.run_calls, h] at halike
  obtain ⟨u, hresult, -⟩ := halike.1.of_unexpected
  have hlength := congrArg List.length halike.2.lexemes
  exact ⟨u, _, Prod.ext hresult rfl, by simpa [TokenStream.lexemes] using hlength.symm⟩

/-- A program that fails at a token fails there whatever comes behind the next one. -/
theorem run_of_prefix_of_unexpected
    (h : r.run (ofList tokens) = (.error (.unexpected t expected rules), s))
    (hk : s.ahead.length + k = tokens.length)
    (hothers : (tokens.map (·.toLexeme)).take (k + 2) <+: others.map (·.toLexeme)) :
    ∃ u s', r.run (ofList others) = (.error (.unexpected u expected rules), s') ∧
      s'.ahead.length + k = others.length := by
  obtain ⟨hget, -⟩ := getElem?_of_unexpected h hk
  obtain ⟨hlt, -⟩ := List.getElem?_eq_some_iff.1 hget
  obtain ⟨s₁, hrun, rfl⟩ := run_take_of_unexpected h hk
  obtain ⟨front, rest, rfl, hfront⟩ : ∃ front rest, others = front ++ rest ∧
      (tokens.take (k + 2)).map (·.toLexeme) = front.map (·.toLexeme) := by
    rw [← List.map_take] at hothers
    obtain ⟨more, hmore⟩ := hothers
    obtain ⟨front, rest, hsplit, hfront, -⟩ := List.map_eq_append_iff.1 hmore.symm
    exact ⟨front, rest, hsplit, hfront.symm⟩
  obtain ⟨u, s₁', hrun', hlength⟩ := run_of_alike_of_unexpected hrun hfront
  refine ⟨u, _, run_append_of_unexpected hrun', ?_⟩
  have hfront' := congrArg List.length hfront
  simp only [List.length_map, List.length_take] at hfront'
  simp only [TokenStream.extend, List.length_append, List.length_drop] at hk ⊢
  omega

end Reading

/-! ## Parsing -/

namespace Document

/-- Reading a document never has more than two tokens back, and of those that it has received at any
time all but the last two are never read again.  If it fails at a token, it fails in the same way
on all lists of tokens with the same lexemes up to the one behind this token. -/
theorem lookahead (tokens : List Token) :
    let states := (readSource (tokens.length + 1)).calls.states (ofList tokens)
    (∀ s ∈ states, s.ahead <:+ tokens ∧ s.returned ≤ 2) ∧
    states.Pairwise (fun s s' => s'.ahead.length ≤ s.fresh.length + 2) ∧
    ∀ t expected rules s,
      ofStream (ofList tokens) = (.error (.unexpected t expected rules), s) →
      ∃ k, tokens[k]? = some t ∧ s.ahead = tokens.drop k ∧
        ∀ others, (tokens.map (·.toLexeme)).take (k + 2) <+: others.map (·.toLexeme) →
          ∃ u s', others[k]? = some u ∧
            ofStream (ofList others) = (.error (.unexpected u expected rules), s') ∧
            s'.ahead = others.drop k := by
  intro states
  have hholds := (readSource (tokens.length + 1)).calls_holds
  refine ⟨fun s hs => ?_, hholds.pairwise_states (.ofList tokens), fun t expected rules s h => ?_⟩
  · obtain ⟨_, hwithin⟩ := hholds.within (.ofList tokens) hs
    exact ⟨hwithin.ahead_suffix, hwithin.returned_le⟩
  obtain ⟨k, hk⟩ := Reading.exists_length_add h
  obtain ⟨hget, hdrop⟩ := Reading.getElem?_of_unexpected h hk
  refine ⟨k, hget, hdrop, fun others hothers => ?_⟩
  -- the same program reads both lists
  obtain ⟨n, hn⟩ : ∃ n, n = max tokens.length others.length + 1 := ⟨_, rfl⟩
  rw [← run_readSource (n := n) (by simp [ofList]; omega)] at h
  obtain ⟨u, s', hrun, hk'⟩ := Reading.run_of_prefix_of_unexpected h hk hothers
  obtain ⟨hget', hdrop'⟩ := Reading.getElem?_of_unexpected hrun hk'
  rw [run_readSource (by simp [ofList]; omega)] at hrun
  exact ⟨u, s', hget', hrun, hdrop'⟩

/-- A name behind the notice starts no header, whatever comes behind the next token. -/
theorem lookahead_header :
    let tokens := tokenize "/*\nN\n*/\na b c"
    let rules := [.document, .notice, .header, .imports, .types, .interfaces]
    (∃ t s, ofStream (ofList tokens) = (.error (.unexpected t "header" rules), s)) ∧
      ∀ more, ∃ u s', (tokens.take 3 ++ more)[1]? = some u ∧
        ofStream (ofList (tokens.take 3 ++ more)) = (.error (.unexpected u "header" rules), s') ∧
        s'.ahead = (tokens.take 3 ++ more).drop 1 := by
  intro tokens rules
  obtain ⟨t, s, h⟩ :
      ∃ t s, ofStream (ofList tokens) = (.error (.unexpected t "header" rules), s) := ⟨_, _, rfl⟩
  refine ⟨⟨t, s, h⟩, fun more => ?_⟩
  obtain ⟨k, -, hdrop, hothers⟩ := (lookahead tokens).2.2 t _ _ s h
  obtain rfl : k = 1 := by
    have hlength : (ofStream (ofList tokens)).2.ahead.length = 4 := by decide
    have htokens : tokens.length = 5 := by decide
    rw [h, hdrop, List.length_drop, htokens] at hlength
    omega
  refine hothers _ ?_
  rw [← List.map_take, List.map_append]
  exact List.prefix_append _ _

end Document

end PackageModel
