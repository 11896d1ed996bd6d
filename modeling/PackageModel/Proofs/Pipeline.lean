import PackageModel.Proofs.Reading.Bound
import PackageModel.Proofs.Token.Tokenize
import PackageModel.Reading.Pipeline

/-!
# PackageModel.Proofs.Pipeline

Scanning and reading side by side gives what reading after scanning gives.  Whatever order the two
sides take their steps in, and however short the queue is, the receiver gets the tokens of the
source in their order, and its result is that of a run on all of them.  A pipeline never gets stuck,
and it cannot go on for ever.
-/

namespace PackageModel

/-! ## What is still to be scanned -/

namespace Scanner

/-- There is always a step left to count. -/
theorem steps_pos (s : Scanner) : 0 < s.steps := by
  unfold steps
  split <;> omega

/-- The number of calls makes no difference to the tokens, if there are enough of them. -/
theorem tokens_eq {n m : Nat} {s : Scanner} (hn : s.steps ≤ n) (hm : s.steps ≤ m) :
    s.tokens n = s.tokens m := by
  have hpos := s.steps_pos
  induction n generalizing s m with
  | zero => omega
  | succ n ih =>
    cases hs : s.finished with
    | true => rw [tokens_of_finished hs, tokens_of_finished hs]
    | false =>
      obtain ⟨m, rfl⟩ := Nat.exists_eq_succ_of_ne_zero (by omega : m ≠ 0)
      rcases (step_next? s).cases hs with ⟨e, hnext, -, hfin⟩ | ⟨t, hnext, -, hsteps, -⟩
      · rw [tokens_succ hnext, tokens_succ hnext, tokens_of_finished hfin, tokens_of_finished hfin]
      · have hrest : s.next?.2.tokens n = s.next?.2.tokens m :=
          ih (by omega) (by omega) (steps_pos _)
        rw [tokens_succ hnext, tokens_succ hnext, hrest]

/-- The tokens that are still to be scanned. -/
def remaining (s : Scanner) : List Token := s.tokens s.steps

/-- At the start all the tokens of the source are to be scanned. -/
theorem remaining_ofString (source : String) : (ofString source).remaining = tokenize source := by
  refine tokens_eq (Nat.le_refl _) ?_
  simp [steps, ofString, ofList, String.length_toList]

/-- A scanner has finished where it has no next token. -/
theorem finished_eq {s : Scanner} : s.finished = s.next?.1.isNone := by
  cases hs : s.finished <;> simp [next?, hs]

/-- A call takes the first of the tokens that are still to be scanned. -/
theorem remaining_cons {s s' : Scanner} {t : Token} (h : s.next? = (some t, s')) :
    s.remaining = t :: s'.remaining := by
  have hs : s.finished = false := by rw [finished_eq, h, Option.isNone_some]
  obtain rfl : s.next?.2 = s' := by rw [h]
  obtain ⟨n, hn⟩ := Nat.exists_eq_succ_of_ne_zero (Nat.ne_of_gt s.steps_pos)
  rw [remaining, hn, tokens_succ (by rw [h])]
  rcases (step_next? s).cases hs with ⟨e, hnext, -, hfin⟩ | ⟨u, hnext, -, hsteps, -⟩
  · rw [remaining, tokens_of_finished hfin, tokens_of_finished hfin]
  · rw [remaining, tokens_eq (by omega) (Nat.le_refl _)]

/-- A scanner that ends has nothing left to scan. -/
theorem remaining_nil {s s' : Scanner} (h : s.next? = (none, s')) : s.remaining = [] :=
  tokens_of_finished (by rw [finished_eq, h, Option.isNone_none])

end Scanner

namespace Sender

/-- The tokens that are still to be sent. -/
def unsent : Sender → List Token
  | scanning s => s.remaining
  | sending t s => t :: s.remaining
  | ended => []

/-- A bound on the steps that the sender may still take. -/
def stepsLeft : Sender → Nat
  | scanning s => 2 * s.remaining.length + 1
  | sending _ s => 2 * s.remaining.length + 2
  | ended => 0

end Sender

/-! ## Runs of calls -/

namespace TokenStream

/-- The stream with these tokens handed back and these not read yet. -/
def ofHandedBack (handedBack fresh : List Token) : TokenStream where
  ahead := handedBack ++ fresh
  returned := handedBack.length

variable {t : Token} {handedBack fresh : List Token}

/-- A token that is handed back comes first. -/
theorem unread_ofHandedBack :
    (ofHandedBack handedBack fresh).unread t = ofHandedBack (t :: handedBack) fresh := rfl

/-- What was handed back is read without a look at its kind. -/
theorem next_handedBack :
    (ofHandedBack (t :: handedBack) fresh).next = (.ok t, ofHandedBack handedBack fresh) := by
  simp [ofHandedBack, next]

/-- An error token that was not read before is reported. -/
theorem next_fresh : (ofHandedBack [] (t :: fresh)).next =
    (if t.kind = .error then .error (.lexical t) else .ok t, ofHandedBack [] fresh) := by
  simp [ofHandedBack, next]

/-- Behind the last token the stream is closed. -/
theorem next_nil : (ofHandedBack [] []).next = (.error .closed, ofHandedBack [] []) := rfl

end TokenStream

open TokenStream (ofHandedBack)

namespace Calls

variable {α : Type}

/-- The number of steps that the calls take, up to and including the end. -/
def steps : Calls α → TokenStream → Nat
  | done _, _ => 1
  | next go, s =>
    match s.next with
    | (.ok t, s') => (go t).steps s' + 1
    | (.error _, _) => 2
  | unread t rest, s => rest.steps (s.unread t) + 1

end Calls

/-! ## Steps of the two sides -/

namespace Pipeline

variable {α : Type} {p p' : Pipeline α}

/-- What a running receiver has ahead, wherever it is: handed back, in the queue or to be sent. -/
def ahead (p : Pipeline α) (handedBack : List Token) : TokenStream :=
  ofHandedBack handedBack (p.queue ++ p.sender.unsent)

/-- The steps of the sender: it scans a token, or finds that there is none; it sends the token that
it has, or ends because nobody receives it. -/
inductive Sends (p : Pipeline α) : Pipeline α → Prop
  | scan {s s' : Scanner} {t : Token} (hsender : p.sender = .scanning s)
      (hnext : s.next? = (some t, s')) : Sends p { p with sender := .sending t s' }
  | finish {s s' : Scanner} (hsender : p.sender = .scanning s) (hnext : s.next? = (none, s')) :
      Sends p { p with sender := .ended }
  | send {s : Scanner} {t : Token} {calls : Calls α} {handedBack : List Token}
      (hsender : p.sender = .sending t s) (hreceiver : p.receiver = .running calls handedBack)
      (hroom : p.queue.length < p.capacity) :
      Sends p { p with sender := .scanning s, queue := p.queue ++ [t] }
  | drop {s : Scanner} {t : Token} {result : Except ParseError α}
      (hsender : p.sender = .sending t s) (hreceiver : p.receiver = .ended result) :
      Sends p { p with sender := .ended }

/-- Whatever the sender does is one of these steps. -/
theorem sends_of_send (h : p.send = some p') : Sends p p' := by
  unfold send at h
  split at h
  · next s hsender =>
    split at h <;> cases h
    · next t s' hnext => exact .scan hsender hnext
    · next s' hnext => exact .finish hsender hnext
  · next t s hsender =>
    split at h
    · next calls handedBack hreceiver =>
      split at h <;> cases h
      next hroom => exact .send hsender hreceiver hroom
    · next result hreceiver =>
      cases h
      exact .drop hsender hreceiver
  · cases h

/-- The steps of the receiver: it makes one call, or ends with its result. -/
inductive Receives (p : Pipeline α) : Pipeline α → Prop
  | finish {result : Except ParseError α} {handedBack : List Token}
      (hreceiver : p.receiver = .running (.done result) handedBack) :
      Receives p { p with receiver := .ended result }
  | unread {t : Token} {rest : Calls α} {handedBack : List Token}
      (hreceiver : p.receiver = .running (.unread t rest) handedBack) :
      Receives p { p with receiver := .running rest (t :: handedBack) }
  | again {t : Token} {go : Token → Calls α} {handedBack : List Token}
      (hreceiver : p.receiver = .running (.next go) (t :: handedBack)) :
      Receives p { p with receiver := .running (go t) handedBack }
  | take {t : Token} {go : Token → Calls α} {queue : List Token}
      (hreceiver : p.receiver = .running (.next go) []) (hqueue : p.queue = t :: queue)
      (hkind : t.kind ≠ .error) :
      Receives p { p with queue, receiver := .running (go t) [], received := p.received ++ [t] }
  | takeError {t : Token} {go : Token → Calls α} {queue : List Token}
      (hreceiver : p.receiver = .running (.next go) []) (hqueue : p.queue = t :: queue)
      (hkind : t.kind = .error) :
      Receives p { p with
        queue
        receiver := .running (.done (.error (.lexical t))) []
        received := p.received ++ [t] }
  | closed {go : Token → Calls α} (hreceiver : p.receiver = .running (.next go) [])
      (hqueue : p.queue = []) (hsender : p.sender = .ended) :
      Receives p { p with receiver := .running (.done (.error .closed)) [] }

/-- Whatever the receiver does is one of these steps. -/
theorem receives_of_call (h : p.call = some p') : Receives p p' := by
  unfold call at h
  split at h
  · next result handedBack hreceiver =>
    cases h
    exact .finish hreceiver
  · next go handedBack hreceiver =>
    unfold receive at h
    split at h
    · cases h
      exact .again hreceiver
    · next t queue hqueue =>
      cases h
      by_cases hkind : t.kind = .error
      · rw [if_pos hkind]
        exact .takeError hreceiver hqueue hkind
      · rw [if_neg hkind]
        exact .take hreceiver hqueue hkind
    · next hqueue =>
      split at h <;> cases h
      next hsender => exact .closed hreceiver hqueue hsender
  · next t rest handedBack hreceiver =>
    cases h
    exact .unread hreceiver
  · cases h

/-! ## What holds at every time -/

/-- A step of the sender leaves what a running receiver has ahead. -/
theorem Sends.unsent (h : Sends p p') {calls : Calls α} {handedBack : List Token}
    (hrunning : p.receiver = .running calls handedBack) :
    p'.queue ++ p'.sender.unsent = p.queue ++ p.sender.unsent := by
  cases h with
  | scan hsender hnext => rw [hsender, Sender.unsent, Sender.unsent, Scanner.remaining_cons hnext]
  | finish hsender hnext => rw [hsender, Sender.unsent, Sender.unsent, Scanner.remaining_nil hnext]
  | send hsender _ _ => rw [hsender, Sender.unsent, Sender.unsent, List.append_assoc]; rfl
  | drop _ hended => rw [hrunning] at hended; cases hended

/-- The sender leaves the receiver alone. -/
theorem Sends.receiver (h : Sends p p') : p'.receiver = p.receiver := by cases h <;> rfl

/-- The sender receives nothing. -/
theorem Sends.received (h : Sends p p') : p'.received = p.received := by cases h <;> rfl

/-- The sender leaves the capacity of the queue as it is. -/
theorem Sends.capacity (h : Sends p p') : p'.capacity = p.capacity := by cases h <;> rfl

/-- Each step of the sender is one less to take, as every token is scanned and sent once. -/
theorem Sends.stepsLeft (h : Sends p p') : p'.sender.stepsLeft < p.sender.stepsLeft := by
  cases h with
  | scan hsender hnext =>
    rw [hsender, Sender.stepsLeft, Sender.stepsLeft, Scanner.remaining_cons hnext, List.length_cons]
    omega
  | finish hsender _ => simp [hsender, Sender.stepsLeft]
  | send hsender _ _ => simp [hsender, Sender.stepsLeft]
  | drop hsender _ => simp [hsender, Sender.stepsLeft]

/-- The receiver leaves the sender alone. -/
theorem Receives.sender (h : Receives p p') : p'.sender = p.sender := by cases h <;> rfl

/-- The receiver leaves the capacity of the queue as it is. -/
theorem Receives.capacity (h : Receives p p') : p'.capacity = p.capacity := by cases h <;> rfl

/-- What is received comes from the queue. -/
theorem Receives.received (h : Receives p p') :
    p'.received ++ p'.queue = p.received ++ p.queue := by
  cases h with
  | take _ hqueue _ | takeError _ hqueue _ => simp [hqueue]
  | _ => rfl

/-- Only a running receiver takes steps. -/
theorem Receives.exists_running (h : Receives p p') :
    ∃ calls handedBack, p.receiver = .running calls handedBack := by
  cases h <;> exact ⟨_, _, ‹_›⟩

/-- A receiver ends with the result that it has. -/
theorem Receives.exists_done (h : Receives p p') {r : Except ParseError α}
    (hp' : p'.receiver = .ended r) : ∃ handedBack, p.receiver = .running (.done r) handedBack := by
  cases h with
  | finish hreceiver =>
    cases hp'
    exact ⟨_, hreceiver⟩
  | _ => cases hp'

/-- A receiver that goes on gets the result that it would have got, in fewer steps. -/
theorem Receives.run (h : Receives p p') {calls calls' : Calls α} {back back' : List Token}
    (hp : p.receiver = .running calls back) (hp' : p'.receiver = .running calls' back') :
    (calls'.run (p'.ahead back')).1 = (calls.run (p.ahead back)).1 ∧
      calls'.steps (p'.ahead back') < calls.steps (p.ahead back) := by
  cases h with
  | finish _ => cases hp'
  | unread hreceiver =>
    cases hp'
    cases hreceiver.symm.trans hp
    simp [Calls.run, Calls.steps, ahead, TokenStream.unread_ofHandedBack]
  | again hreceiver =>
    cases hp'
    cases hreceiver.symm.trans hp
    simp [Calls.run, Calls.steps, ahead, TokenStream.next_handedBack]
  | take hreceiver hqueue hkind =>
    cases hp'
    cases hreceiver.symm.trans hp
    simp [Calls.run, Calls.steps, ahead, hqueue, TokenStream.next_fresh, hkind]
  | takeError hreceiver hqueue hkind =>
    cases hp'
    cases hreceiver.symm.trans hp
    simp [Calls.run, Calls.steps, ahead, hqueue, TokenStream.next_fresh, hkind]
  | closed hreceiver hqueue hsender =>
    cases hp'
    cases hreceiver.symm.trans hp
    simp [Calls.run, Calls.steps, ahead, hqueue, hsender, Sender.unsent, TokenStream.next_nil]

/-- A pipeline in the middle of a run: the queue holds up to `capacity` tokens, `tokens` are those
of the source and `result` is what the receiver should find. -/
structure Sound (capacity : Nat) (tokens : List Token) (result : Except ParseError α)
    (p : Pipeline α) : Prop where
  capacity_eq : p.capacity = capacity
  queue_le : p.queue.length ≤ capacity
  /-- What has left the sender is the beginning of the tokens. -/
  sent : p.received ++ p.queue <+: tokens
  /-- While there is a receiver no token gets lost. -/
  running : ∀ calls handedBack, p.receiver = .running calls handedBack →
    p.received ++ p.queue ++ p.sender.unsent = tokens ∧
      (calls.run (p.ahead handedBack)).1 = result
  ended : ∀ r, p.receiver = .ended r → r = result

variable {capacity : Nat} {tokens : List Token} {result : Except ParseError α}

/-- A pipeline is sound at its start. -/
theorem sound_start (source : String) (capacity : Nat) (calls : Calls α) :
    Sound (max capacity 1) (tokenize source) (calls.run (.ofList (tokenize source))).1
      (start source capacity calls) where
  capacity_eq := rfl
  queue_le := Nat.zero_le _
  sent := List.nil_prefix
  running := by
    rintro _ _ ⟨⟩
    exact ⟨Scanner.remaining_ofString source, by
      simp only [ahead, start, Sender.unsent, Scanner.remaining_ofString]; rfl⟩
  ended := nofun

/-- A step of the sender keeps a pipeline sound. -/
theorem Sound.sends (hp : Sound capacity tokens result p) (h : Sends p p') :
    Sound capacity tokens result p' where
  capacity_eq := h.capacity.trans hp.capacity_eq
  queue_le := by
    cases h with
    | send _ _ hroom =>
      rw [List.length_append, ← hp.capacity_eq]
      exact hroom
    | _ => exact hp.queue_le
  sent := by
    cases h with
    | @send s _ _ _ hsender hreceiver _ =>
      have htokens := (hp.running _ _ hreceiver).1
      rw [hsender, Sender.unsent] at htokens
      exact ⟨s.remaining, by simpa using htokens⟩
    | _ => exact hp.sent
  running calls handedBack hreceiver := by
    rw [h.receiver] at hreceiver
    obtain ⟨htokens, hrun⟩ := hp.running _ _ hreceiver
    rw [ahead, List.append_assoc, h.received, h.unsent hreceiver, ← List.append_assoc]
    exact ⟨htokens, hrun⟩
  ended r hr := hp.ended r (h.receiver ▸ hr)

/-- A step of the receiver keeps a pipeline sound. -/
theorem Sound.receives (hp : Sound capacity tokens result p) (h : Receives p p') :
    Sound capacity tokens result p' where
  capacity_eq := h.capacity.trans hp.capacity_eq
  queue_le := by
    have hle := hp.queue_le
    cases h with
    | take _ hqueue _ | takeError _ hqueue _ =>
      rw [hqueue, List.length_cons] at hle
      exact Nat.le_of_succ_le hle
    | _ => exact hle
  sent := h.received ▸ hp.sent
  running calls' back' hreceiver' := by
    obtain ⟨calls, back, hreceiver⟩ := h.exists_running
    obtain ⟨htokens, hrun⟩ := hp.running _ _ hreceiver
    rw [h.received, h.sender, (h.run hreceiver hreceiver').1]
    exact ⟨htokens, hrun⟩
  ended r hr := by
    obtain ⟨handedBack, hreceiver⟩ := h.exists_done hr
    exact (hp.running _ _ hreceiver).2

/-- Every step keeps what holds. -/
theorem Sound.step (hp : Sound capacity tokens result p) {side : Side} (h : p.step side = some p') :
    Sound capacity tokens result p' := by
  cases side with
  | sender => exact hp.sends (sends_of_send h)
  | receiver => exact hp.receives (receives_of_call h)

/-- So does every run. -/
theorem Sound.run (hp : Sound capacity tokens result p) {sides : List Side}
    (h : run sides p = some p') :
    Sound capacity tokens result p' := by
  induction sides generalizing p with
  | nil =>
    cases h
    exact hp
  | cons side sides ih =>
    obtain ⟨q, hq, hrun⟩ := Option.bind_eq_some_iff.1 h
    exact ih (hp.step hq) hrun

/-! ## Progress -/

/-- A sender that is left has a step, unless the queue is full and there is a receiver. -/
theorem send_ne_none (hsender : p.sender ≠ .ended)
    (hroom : ∀ calls handedBack, p.receiver = .running calls handedBack →
      p.queue.length < p.capacity) : p.send ≠ none := by
  unfold send
  split
  · split <;> simp
  · split
    · next calls handedBack hreceiver => simp [hroom _ _ hreceiver]
    · simp
  · next h => exact absurd h hsender

/-- A receiver that is left has a step, unless the queue is empty and there is a sender. -/
theorem call_ne_none {calls : Calls α} {handedBack : List Token}
    (hreceiver : p.receiver = .running calls handedBack)
    (htoken : p.queue = [] → p.sender = .ended) : p.call ≠ none := by
  unfold call
  rw [hreceiver]
  cases calls with
  | done r => simp
  | unread t rest => simp
  | next go =>
    unfold receive
    rcases handedBack with _ | ⟨t, handedBack⟩
    · rcases hqueue : p.queue with _ | ⟨t, queue⟩
      · simp [htoken hqueue]
      · simp
    · simp

/-- A pipeline that cannot take a step has ended: the queue is not both full and empty. -/
theorem Sound.ended_of_stuck (hp : Sound capacity tokens result p) (hcapacity : 0 < capacity)
    (h : ∀ side, p.step side = none) : p.Ended := by
  have hsend : p.send = none := h .sender
  have hcall : p.call = none := h .receiver
  cases hreceiver : p.receiver with
  | ended r =>
    refine ⟨Classical.byContradiction fun hsender => ?_, r, hreceiver⟩
    exact send_ne_none hsender (by simp [hreceiver]) hsend
  | running calls handedBack =>
    -- the receiver waits for a token, so the queue is empty; the sender waits, so it is full
    exfalso
    refine call_ne_none hreceiver (fun hqueue => Classical.byContradiction fun hsender => ?_) hcall
    refine send_ne_none hsender (fun _ _ _ => ?_) hsend
    rw [hqueue, hp.capacity_eq]
    exact hcapacity

/-- A bound on the steps that a pipeline may still take. -/
def stepsLeft (p : Pipeline α) : Nat :=
  p.sender.stepsLeft +
    match p.receiver with
    | .running calls handedBack => calls.steps (p.ahead handedBack)
    | .ended _ => 0

/-- Each step of either side is one less to take. -/
theorem stepsLeft_lt {side : Side} (h : p.step side = some p') : p'.stepsLeft < p.stepsLeft := by
  unfold stepsLeft
  cases side with
  | sender =>
    have hs := sends_of_send h
    have hlt := hs.stepsLeft
    rw [hs.receiver]
    cases hreceiver : p.receiver with
    | running calls handedBack =>
      -- what is ahead of the receiver is the same, and so are the steps that it has left
      simp only [ahead, hs.unsent hreceiver]
      omega
    | ended r => exact hlt
  | receiver =>
    have hr := receives_of_call h
    obtain ⟨calls, back, hreceiver⟩ := hr.exists_running
    rw [hr.sender, hreceiver]
    refine Nat.add_lt_add_left ?_ _
    cases hreceiver' : p'.receiver with
    | running calls' back' => exact (hr.run hreceiver hreceiver').2
    | ended r =>
      obtain ⟨handedBack, hdone⟩ := hr.exists_done hreceiver'
      cases hdone.symm.trans hreceiver
      exact Nat.one_pos

/-- No run is longer than the bound. -/
theorem length_le_stepsLeft {sides : List Side} (h : run sides p = some p') :
    sides.length ≤ p.stepsLeft := by
  induction sides generalizing p with
  | nil => exact Nat.zero_le _
  | cons side sides ih =>
    obtain ⟨q, hq, hrun⟩ := Option.bind_eq_some_iff.1 h
    exact Nat.lt_of_le_of_lt (ih hrun) (stepsLeft_lt hq)

/-- Every run can be completed: as long as one side is left there is a step, and there are only so
many of them. -/
theorem exists_run_ended (hp : Sound capacity tokens result p) (hcapacity : 0 < capacity) :
    ∃ sides p', run sides p = some p' ∧ p'.Ended := by
  induction hn : p.stepsLeft using Nat.strongRecOn generalizing p with
  | ind n ih =>
    subst hn
    by_cases hstuck : ∀ side, p.step side = none
    · exact ⟨[], p, rfl, hp.ended_of_stuck hcapacity hstuck⟩
    obtain ⟨side, hside⟩ := Classical.not_forall.1 hstuck
    obtain ⟨q, hq⟩ := Option.ne_none_iff_exists'.1 hside
    obtain ⟨sides, p', hrun, hended⟩ := ih _ (stepsLeft_lt hq) (hp.step hq) rfl
    refine ⟨side :: sides, p', ?_, hended⟩
    rw [run, hq]
    exact hrun

/-! ## Parsing -/

/-- Parsing does not depend on the queue or on the order of the steps.  At every time the receiver
has got the first tokens of the source, and as long as it is running the rest is in the queue or
still to be sent.  If it has a result, that is the result of parsing the list of all tokens.  If
neither side can take a step, both have ended. -/
theorem parse_of_run {source : String} {capacity n : Nat} {sides : List Side}
    {p : Pipeline Document} (hn : (tokenize source).length < n)
    (h : run sides (start source capacity (Document.readSource n).calls) = some p) :
    p.queue.length ≤ max capacity 1 ∧
      p.received ++ p.queue <+: tokenize source ∧
      (∀ calls handedBack, p.receiver = .running calls handedBack →
        p.received ++ p.queue ++ p.sender.unsent = tokenize source) ∧
      (∀ result, p.receiver = .ended result → result = Document.parse source) ∧
      ((∀ side, p.step side = none) → p.Ended) := by
  have hresult : ((Document.readSource n).calls.run (.ofList (tokenize source))).1 =
      Document.parse source := by
    rw [Reading.run_calls, Document.run_readSource hn]
    rfl
  have hp := (sound_start source capacity (Document.readSource n).calls).run h
  rw [hresult] at hp
  exact ⟨hp.queue_le, hp.sent, fun _ _ hr => (hp.running _ _ hr).1, hp.ended,
    hp.ended_of_stuck (by omega)⟩

/-- This source is given up at its first token, while the sender still has the others. -/
theorem parse_of_run_twoNames :
    ∃ p : Pipeline Document,
      (tokenize "a b").length < 4 ∧
      run
          [.sender, .sender, .receiver, .receiver, .receiver, .receiver, .receiver, .sender, .sender]
          (start "a b" 0 (Document.readSource 4).calls) = some p ∧
      p.Ended ∧ p.received.length = 1 ∧
      ∀ result, p.receiver = .ended result → result = Document.parse "a b" := by
  let first : Token := ⟨⟨.identifier, "a"⟩, .start⟩
  let p : Pipeline Document :=
    { capacity := 1
      sender := .ended
      queue := []
      receiver := .ended (.error (.unexpected first "document" [.source, .document]))
      received := [first] }
  have hn : (tokenize "a b").length < 4 := by decide
  have h : run
      [.sender, .sender, .receiver, .receiver, .receiver, .receiver, .receiver, .sender, .sender]
      (start "a b" 0 (Document.readSource 4).calls) = some p := by rfl
  exact ⟨p, hn, h, ⟨rfl, _, rfl⟩, rfl, (parse_of_run hn h).2.2.2.1⟩

end Pipeline

end PackageModel
