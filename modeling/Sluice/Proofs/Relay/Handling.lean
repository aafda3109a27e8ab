import Sluice.Proofs.Relay.Frame
/-!
# The moves of sessions handle messages and results

A move of a claim or of a confirmer, whichever of the moves of its session it is, does to the flow
one of the things that `Handling` lists, and nothing else.

* `handling_of_move`: every move of a session, by its kind.
* `flow_of_session`, `handling_of_session`: every step of a session's task in a relay.
-/
namespace Sluice

/-- The flow after a move that leaves session `k` as `s` and the books as `b`. -/
def Flow.after (F : Flow) (k : Nat) (s : Session) (b : Books) : Flow :=
  { F with
    store := b.store
    history := b.history
    deliveries := b.sink.deliveries
    nextId := b.sink.nextId
    loads := F.loads.modify k fun l =>
      { l with unset := s.stage == .idle, queues := s.queues, pending := s.pending } }

namespace Relay
variable {w v : Relay} {k : Nat} {h : Hosted}

theorem loads_get (hk : w.sessions[k]? = some h) : w.flow.loads[k]? = some h.load := by
  simp [flow, hk]

theorem queues_get {i : Nat} {c : Claim} (hc : h.session.claims[i]? = some c) :
    h.load.queues[i]? = some c.queue := by
  simp [Hosted.load, Session.queues, hc]

/-! ## The tasks of sessions -/

/-- What a move that leaves session `k` as `s` and the books as `b` does to the flow, if it does `f`
to what the session keeps. -/
theorem handling_of_load {s : Session} {b : Books} {f : Load → Load} {o : Option Fate}
    (hk : w.sessions[k]? = some h) (hs : (s.stage == .idle) = (h.session.stage == .idle))
    (hf : { h.load with queues := s.queues, pending := s.pending } = f h.load)
    (hh : w.flow.Handling o { w.flow.modify k f with
      store := b.store
      history := b.history
      deliveries := b.sink.deliveries
      nextId := b.sink.nextId }) : ∃ o, w.flow.Handling o (w.flow.after k s b) := by
  have hm := Flow.modify_eq (loads_get hk) (g := f)
    (f := fun l => { l with unset := s.stage == .idle, queues := s.queues, pending := s.pending })
    (by rw [hs, ← hf]; rfl)
  rw [← hm] at hh
  exact ⟨o, hh⟩

/-- A move that changes no queue, no entry and nothing in the books is none of the flow's. -/
theorem handling_of_same {s : Session} {b : Books} (hk : w.sessions[k]? = some h)
    (hs : (s.stage == .idle) = (h.session.stage == .idle)) (hq : s.queues = h.session.queues)
    (hp : s.pending = h.session.pending) (hb : b.store = w.books.store)
    (hh : b.history = w.books.history) (hd : b.sink.deliveries = w.books.sink.deliveries)
    (hn : b.sink.nextId = w.books.sink.nextId) : ∃ o, w.flow.Handling o (w.flow.after k s b) := by
  refine handling_of_load (f := fun l => l) (o := none) hk hs (by rw [hq, hp]; rfl) ?_
  rw [Flow.modify_same, hb, hh, hd, hn]
  exact .nothing

/-- What applying a result does to the flow. -/
theorem handling_of_apply {s : Session} {b : Books} {d : Delivery} {ds : Queue Delivery}
    (hk : w.sessions[k]? = some h) (hd : w.books.sink.deliveries.pop? = some (d, ds))
    (hs : s.stage = h.session.stage) (hq : s.queues = h.session.queues)
    (hp : s.pending = h.session.pending) (hb : b.store = w.books.store)
    (hh : b.history = w.books.history) (hds : b.sink.deliveries = ds)
    (hn : b.sink.nextId = w.books.sink.nextId) :
    ∃ o, w.flow.Handling o (w.flow.after k (s.apply k d b).1 (s.apply k d b).2.1) := by
  have hl := loads_get hk
  rcases Session.apply_cases k d s b with ⟨hg, e1, e2⟩ | ⟨m, hg, e1, e2⟩ <;> rw [e1, e2] <;>
    rw [hp] at hg
  · refine handling_of_load (f := fun l => l) hk (by rw [hs]) (by rw [hq, hp]; rfl)
      (o := some (.unknown k d.id d.delivered)) ?_
    have hu := Flow.Handling.unknown hl hd hg
    simp only [Session.bookUnknown, Books.note, Books.count, hb, hh, hds, hn, Flow.modify_same]
    exact hu
  · have hf : { h.load with queues := s.queues, pending := s.pending.remove d.id } =
        h.load.settle d.id := by
      rw [hq, hp]
      rfl
    unfold Session.bookResult
    split
    · next hx =>
      refine handling_of_load (f := fun l => l.settle d.id) hk (by rw [← hs]; rfl) hf
        (o := some (.delivered k m d.id)) ?_
      have hu := Flow.Handling.delivered hl hd hg hx
      simp only [Books.note, Books.count, Books.mark, hb, hh, hds, hn]
      exact hu
    · next hx =>
      refine handling_of_load (f := fun l => l.settle d.id) hk (by rw [← hs]; rfl) hf
        (o := some (.undelivered k m d.id)) ?_
      have hu := Flow.Handling.undelivered hl hd hg (by simpa using hx)
      simp only [Books.note, Books.count, hb, hh, hds, hn]
      exact hu

/-- A move of a session's task handles messages or results. -/
theorem handling_of_move {t : Session.Task} {s : Session} {b : Books}
    (hk : w.sessions[k]? = some h) (hm : Session.Move h.rules k h.session w.books t s b) :
    ∃ o, w.flow.Handling o (w.flow.after k s b) := by
  have hl := loads_get hk
  cases hm with
  | turnBack | enter | join | leave | take | stop =>
    exact handling_of_same hk rfl (Session.queues_setPhase _ _ _) rfl rfl rfl rfl rfl
  | dismissed | tune | attend | forgo | receive | letGo | drained =>
    exact handling_of_same hk rfl rfl rfl rfl rfl rfl rfl
  | close hs => exact handling_of_same hk (by rw [hs]; rfl) rfl rfl rfl rfl rfl rfl
  | @fail i _ _ q hc _ _ hq =>
    exact handling_of_load (f := fun l => l.read i q) hk rfl (by simp; rfl)
      (.spoil hl (queues_get hc) hq)
  | @oversize i _ _ q hc _ _ hq ht =>
    exact handling_of_load (f := fun l => l.read i q) hk rfl (by simp; rfl)
      (.oversize hl (queues_get hc) hq ht)
  | @unparsed i _ _ q _ hc _ _ hq ht he =>
    exact handling_of_load (f := fun l => l.read i q) hk rfl (by simp; rfl)
      (.unparsed hl (queues_get hc) hq ht he)
  | @submit i _ m q records hc _ _ hq ht hr =>
    have hu : w.flow.Handling
        (some (.submitted k i m w.books.sink.nextId (h.rules.tagged m records))) _ :=
      .submit hl (queues_get hc) hq ht hr
        (Session.submit_deliveries w.books.sink (h.rules.tagged m records))
    refine handling_of_load (f := fun l => (l.read i q).await w.books.sink.nextId m) hk (by simp; rfl)
      (by simp; rfl)
      (o := some (.submitted k i m w.books.sink.nextId (h.rules.tagged m records))) ?_
    simp only [Session.bookSubmitted, Books.note, Books.count, Session.submit_nextId]
    exact hu
  | result _ _ hd =>
    obtain ⟨q, hq, rfl⟩ := Session.nextDelivery_same hd
    exact handling_of_apply hk hq rfl rfl rfl rfl rfl rfl rfl
  | leftover _ hd =>
    obtain ⟨q, hq, rfl⟩ := Session.nextDelivery_same (Session.nextDelivery_of_tryNext hd)
    exact handling_of_apply hk hq rfl rfl rfl rfl rfl rfl rfl

/-- A move of a session's task is a move of its session, which is then taken over. -/
theorem move_of_session {t : Session.Task} (hs : w.stepSession k t = some v) :
    ∃ h s b xs, w.sessions[k]? = some h ∧ Session.Move h.rules k h.session w.books t s b ∧
      v = w.settleMove k (s, b, xs) := by
  unfold stepSession at hs
  split at hs
  · cases hs
  · next h hk =>
    obtain ⟨⟨s, b, xs⟩, hm, rfl⟩ := Option.map_eq_some_iff.mp hs
    exact ⟨h, s, b, xs, hk, Session.move_of_step hm, rfl⟩

theorem flow_settleMove (w : Relay) (k : Nat) (s : Session) (b : Books) (xs : List Session.Signal) :
    (w.settleMove k (s, b, xs)).flow = w.flow.after k s b := by
  unfold settleMove
  rw [flow_signals]
  have hl := flow_modifyHosted w k (f := fun h => { h with session := s })
    (g := fun l => { l with unset := s.stage == .idle, queues := s.queues, pending := s.pending })
    fun _ _ => rfl
  have hf : { (w.modifyHosted k fun h => { h with session := s }).flow with
      store := b.store
      history := b.history
      deliveries := b.sink.deliveries
      nextId := b.sink.nextId } = w.flow.after k s b := by
    rw [hl]
    rfl
  exact hf

/-- A move of a session's task changes the flow in nothing else. -/
theorem flow_of_session {t : Session.Task} (hs : w.stepSession k t = some v) :
    ∃ h s b, w.sessions[k]? = some h ∧ Session.Move h.rules k h.session w.books t s b ∧
      v.flow = w.flow.after k s b := by
  obtain ⟨h, s, b, xs, hk, hm, rfl⟩ := move_of_session hs
  exact ⟨h, s, b, hk, hm, flow_settleMove w k s b xs⟩

/-- A move of a claim or a confirmer handles messages or results. -/
theorem handling_of_session {t : Session.Task} (hs : w.stepSession k t = some v) :
    ∃ o, w.flow.Handling o v.flow := by
  obtain ⟨h, s, b, hk, hm, hf⟩ := flow_of_session hs
  rw [hf]
  exact handling_of_move hk hm

end Relay
end Sluice
