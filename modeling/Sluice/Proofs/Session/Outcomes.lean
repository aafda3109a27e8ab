import Sluice.Proofs.Session.Runs
/-!
# One outcome for every message

What a session counts adds up. Every message it has read was too long, had no records, or was
submitted; every group it has submitted was delivered, was not delivered, or waits; and every
message that was skipped has been reported, once.

`Balanced` is what the counters say about a session. It is kept by every move, for a new group never
has a number that a message waits for.

* `balanced_move`, `balanced_outside`: the counters stay in balance.
* `outcomes_balance`: they are in balance in every run, and so are the slots.
-/
namespace Sluice.Session

variable {n k : Nat} {rules : Rules} {s s' : Session} {b b' : Books}

/-- The counters agree with each other, with the errors shown and with the messages that wait. -/
structure Balanced (s : Session) (b : Books) : Prop where
  received : b.metrics.received =
    b.metrics.oversize + b.metrics.parseFailures + b.metrics.submitted
  submitted : b.metrics.submitted =
    b.metrics.delivered + b.metrics.undelivered + s.pending.length
  reported : b.sink.errors.items.length = b.metrics.oversize + b.metrics.parseFailures
  old : ∀ e ∈ s.pending, e.1 < b.sink.nextId
  distinct : s.pending.Distinct

theorem balanced_ofCapacity (n : Nat) : Balanced (ofCapacity n) .empty :=
  ⟨rfl, rfl, rfl, by simp [ofCapacity], List.nodup_nil⟩

/-! ## What keeps the balance -/

/-- The balance depends on the messages that wait, the counters, the errors and the last number. -/
theorem Balanced.of_same (h : s.Balanced b) (hp : s'.pending = s.pending)
    (hm : b'.metrics = b.metrics) (he : b'.sink.errors = b.sink.errors)
    (hi : b'.sink.nextId = b.sink.nextId) : s'.Balanced b' :=
  ⟨by rw [hm]; exact h.received, by rw [hm, hp]; exact h.submitted,
    by rw [hm, he]; exact h.reported, by rw [hp, hi]; exact h.old, by rw [hp]; exact h.distinct⟩

/-- A message that is too long is counted and reported. -/
theorem balanced_oversize (h : s.Balanced b) (r : Rules) (k i : Nat) (m : Message) :
    s.Balanced (bookOversize r k i m b) := by
  have hr := h.received
  have he := h.reported
  refine ⟨?_, h.submitted, ?_, h.old, h.distinct⟩
  · show b.metrics.received + 1 =
      b.metrics.oversize + 1 + b.metrics.parseFailures + b.metrics.submitted
    omega
  · show (b.sink.errors.items ++ [_]).length = b.metrics.oversize + 1 + b.metrics.parseFailures
    rw [List.length_append, List.length_singleton]
    omega

/-- A message without records is counted and reported. -/
theorem balanced_unparsed (h : s.Balanced b) (k i : Nat) (m : Message) (e : RelayError) :
    s.Balanced (bookUnparsed k i m e b) := by
  have hr := h.received
  have he := h.reported
  refine ⟨?_, h.submitted, ?_, h.old, h.distinct⟩
  · show b.metrics.received + 1 =
      b.metrics.oversize + (b.metrics.parseFailures + 1) + b.metrics.submitted
    omega
  · show (b.sink.errors.items ++ [_]).length = b.metrics.oversize + (b.metrics.parseFailures + 1)
    rw [List.length_append, List.length_singleton]
    omega

/-- The number of a new group is one that no message waits for. -/
theorem Balanced.get?_nextId (h : s.Balanced b) : s.pending.get? b.sink.nextId = none := by
  rw [Pending.get?_eq_none_iff]
  intro hm
  obtain ⟨e, he, hid⟩ := List.mem_map.mp hm
  exact absurd (h.old e he) (by omega)

/-- A message whose records are submitted is counted, and waits. -/
theorem balanced_submit (h : s.Balanced b) (k i : Nat) (m : Message) (records : List Record) :
    (s.hold b.sink.nextId m).Balanced (bookSubmitted k i m records b) := by
  have hn := h.get?_nextId
  have hr := h.received
  have hs := h.submitted
  refine ⟨?_, ?_, ?_, ?_, ?_⟩
  · show b.metrics.received + 1 =
      b.metrics.oversize + b.metrics.parseFailures + (b.metrics.submitted + 1)
    omega
  · show b.metrics.submitted + 1 =
      b.metrics.delivered + b.metrics.undelivered + (s.hold b.sink.nextId m).pending.length
    rw [pending_hold, Pending.length_store_new hn]
    omega
  · show (b.sink.submit records).2.2.errors.items.length = _
    rw [submit_errors]
    exact h.reported
  · intro e he
    rw [pending_hold] at he
    show e.1 < (b.sink.submit records).2.2.nextId
    rw [submit_nextId]
    rcases Pending.mem_store he with he | rfl
    · exact Nat.lt_succ_of_lt (h.old e he)
    · exact Nat.lt_succ_self _
  · rw [pending_hold]
    exact h.distinct.store _ m

/-- A result takes out the message that waited for it and is counted. -/
theorem balanced_apply (h : s.Balanced b) (k : Nat) (d : Delivery) :
    (s.apply k d b).1.Balanced (s.apply k d b).2.1 := by
  rcases apply_cases k d s b with ⟨-, hs, hb⟩ | ⟨m, hm, hs, hb⟩ <;> rw [hs, hb]
  · exact ⟨h.received, h.submitted, h.reported, h.old, h.distinct⟩
  · have hl := Pending.length_remove h.distinct hm
    have hu := h.submitted
    have ho : ∀ e ∈ s.pending.remove d.id, e.1 < b.sink.nextId :=
      fun e he => h.old e (Pending.mem_of_mem_remove he)
    unfold bookResult
    split
    · refine ⟨h.received, ?_, h.reported, ho, h.distinct.remove d.id⟩
      show b.metrics.submitted = b.metrics.delivered + 1 + b.metrics.undelivered +
        (s.pending.remove d.id).length
      omega
    · refine ⟨h.received, ?_, h.reported, ho, h.distinct.remove d.id⟩
      show b.metrics.submitted = b.metrics.delivered + (b.metrics.undelivered + 1) +
        (s.pending.remove d.id).length
      omega

/-- Every move keeps the counters in balance. -/
theorem balanced_move {t : Task} (h : s.Balanced b) (hm : Move rules k s b t s' b') :
    s'.Balanced b' := by
  cases hm with
  | turnBack | enter | join | leave | take | stop | fail | dismissed | tune | attend | forgo
  | receive | letGo | drained | close => exact h.of_same rfl rfl rfl rfl
  | oversize => exact (balanced_oversize h _ _ _ _).of_same rfl rfl rfl rfl
  | unparsed => exact (balanced_unparsed h _ _ _ _).of_same rfl rfl rfl rfl
  | @submit i _ _ q =>
    have ha : (s.advance i q).Balanced b := h.of_same rfl rfl rfl rfl
    exact balanced_submit ha _ _ _ _
  | @result _ sink _ _ hd =>
    obtain ⟨q, -, rfl⟩ := nextDelivery_same hd
    have ha : { s with confirmer := .asking }.Balanced
        (taken b { b.sink with deliveries := q }) := h.of_same rfl rfl rfl rfl
    exact balanced_apply ha _ _
  | leftover _ hd =>
    obtain ⟨q, -, rfl⟩ := nextDelivery_same (nextDelivery_of_tryNext hd)
    have ha : s.Balanced { b with sink := { b.sink with deliveries := q } } :=
      h.of_same rfl rfl rfl rfl
    exact balanced_apply ha _ _

/-- Whatever is done from outside leaves the counters in balance. -/
theorem balanced_outside (h : s.Balanced b) (ho : Outside s b s' b') : s'.Balanced b' := by
  cases ho with
  | nothing | drain | cancel | start | push | shut | confirm | closeOutput =>
    exact h.of_same rfl rfl rfl rfl
  | setup => exact ⟨h.received, h.submitted, h.reported, h.old, h.distinct⟩
  | receive hr =>
    obtain ⟨⟨x, q⟩, -, he⟩ := Option.map_eq_some_iff.mp hr
    cases he
    exact h.of_same rfl rfl rfl rfl

namespace Run

theorem Reachable.balanced {r : Run} (h : r.Reachable rules n) : r.session.Balanced r.books :=
  h.holds (balanced_ofCapacity n) balanced_move balanced_outside

/-- **One outcome each.** In every run of a session, whatever the order of its tasks: the messages
received are those skipped as too long, those without records and those submitted; the groups
submitted are those delivered, those not delivered and those that wait; one error was shown for
every message skipped; and the slots in use are those of the messages that wait and of the claims
that read, never more than the window was made for. -/
theorem outcomes_balance {r : Run} (h : r.Reachable rules n) :
    r.books.metrics.received =
      r.books.metrics.oversize + r.books.metrics.parseFailures + r.books.metrics.submitted ∧
    r.books.metrics.submitted =
      r.books.metrics.delivered + r.books.metrics.undelivered + r.session.pending.length ∧
    r.books.sink.errors.items.length =
      r.books.metrics.oversize + r.books.metrics.parseFailures ∧
    r.session.window.held = r.session.pending.length + r.session.readers ∧
    r.session.window.held ≤ max 1 n ∧ (0 < n → r.session.window.held ≤ n) := by
  have hb := h.balanced
  have hs := h.slots
  have hle := hs.window.held_le
  exact ⟨hb.received, hb.submitted, hb.reported, hs.held, hle, fun hn => by omega⟩

/-- Two slots and two claims: one message too long, one without records, one delivered, one not
delivered, one that waits, a result that nobody waits for and a claim that reads. -/
theorem outcomes_balance_mixed : ∃ r : Run, r.Reachable plainRules 2 ∧
    r.books.metrics = ⟨5, 3, 1, 1, 1, 1, 1, 1, 0, 0⟩ ∧
    r.session.pending.length = 1 ∧ r.session.readers = 1 ∧
    r.books.metrics.received =
      r.books.metrics.oversize + r.books.metrics.parseFailures + r.books.metrics.submitted ∧
    r.books.metrics.submitted =
      r.books.metrics.delivered + r.books.metrics.undelivered + r.session.pending.length ∧
    r.books.sink.errors.items.length =
      r.books.metrics.oversize + r.books.metrics.parseFailures ∧
    r.session.window.held = r.session.pending.length + r.session.readers ∧
    r.session.window.held ≤ max 1 2 ∧ (0 < 2 → r.session.window.held ≤ 2) := by
  obtain ⟨r, hr, hm, hp, hd⟩ : ∃ r : Run,
      (ofCapacity 2).replay plainRules
        [.inl .setup, .inr .confirmer, .inl (.start "t" 0), .inl (.start "t" 1),
          .inr (.claim 0), .inr (.claim 1),
          .inl (.push 0 (.message (.plain "t" 0 0 [1, 2, 3, 4]))), .inr (.claim 0),
          .inl (.push 1 (.message (.plain "t" 1 0 []))), .inr (.claim 1),
          .inr (.claim 0), .inl (.push 0 (.message (.plain "t" 0 1 [1]))), .inr (.claim 0),
          .inr (.claim 1), .inl (.push 1 (.message (.plain "t" 1 1 [1]))), .inr (.claim 1),
          .inr (.claim 0),
          .inl (.confirm ⟨1, true⟩), .inr .confirmer, .inr .confirmer,
          .inl (.confirm ⟨2, false⟩), .inr .confirmer, .inr .confirmer,
          .inl (.confirm ⟨1, true⟩), .inr .confirmer, .inr .confirmer,
          .inr (.claim 0), .inl (.push 0 (.message (.plain "t" 0 2 [1]))), .inr (.claim 0),
          .inr (.claim 1)] = some r ∧
      r.books.metrics = ⟨5, 3, 1, 1, 1, 1, 1, 1, 0, 0⟩ ∧ r.session.pending.length = 1 ∧
      r.session.readers = 1 := ⟨_, rfl, rfl, rfl, rfl⟩
  have h := Reachable.start.replay hr
  exact ⟨r, h, hm, hp, hd, outcomes_balance h⟩

end Run
end Sluice.Session
