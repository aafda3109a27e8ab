import Sluice.Proofs.Supervision.Chronicle
/-!
# What becomes of results

Only a confirmer reads results, one at a time, and a result goes to the message of its own session
that waits under its number, or to none. Numbers are given once, so what waits under a number is the
message that was submitted under it.

* `Flow.Numbered`: numbers are given once.
* `result_of_step`: what a step that reads a result does with it.
* `awaits_unique`: only the session that submitted a group can wait for its result.
-/
namespace Sluice

/-! ## Numbers are given once -/

namespace Flow
variable {F G : Flow}

/-- Every number that was given is below the next one, and was given to one message of one session. -/
structure Numbered (F : Flow) : Prop where
  old : ∀ k m id, F.Submitted k m id → id < F.nextId
  once : ∀ j k m n id, F.Submitted j m id → F.Submitted k n id → j = k ∧ m = n

theorem Numbered.of_same (h : F.Numbered) (hh : ∀ k m id, G.Submitted k m id → F.Submitted k m id)
    (hn : G.nextId = F.nextId) : G.Numbered :=
  ⟨fun k m id hs => by rw [hn]; exact h.old k m id (hh k m id hs),
    fun j k m n id hj hk => h.once j k m n id (hh j m id hj) (hh k n id hk)⟩

/-- What has been submitted after a fate was written down. -/
theorem submitted_note {f : Fate} {k : Nat} {m : Message} {id : Nat}
    (h : (F.note f).Submitted k m id) :
    F.Submitted k m id ∨ ∃ i records, f = .submitted k i m id records := by
  obtain ⟨i, records, hm⟩ := h
  rcases List.mem_append.mp hm with hm | hm
  · exact .inl ⟨i, records, hm⟩
  · exact .inr ⟨i, records, (List.mem_singleton.mp hm).symm⟩

theorem numbered_handling {o : Option Fate} (h : F.Numbered) (hs : F.Handling o G) : G.Numbered := by
  cases hs with
  | nothing => exact h
  | spoil => exact h.of_same (fun _ _ _ hs => hs) rfl
  | oversize | unparsed | unknown | delivered | undelivered =>
    refine h.of_same (fun k m id hs => ?_) rfl
    rcases submitted_note hs with hs | ⟨i, records, he⟩
    · exact hs
    · cases he
  | @submit k i l q m q' xs records ds =>
    have hsub : ∀ {j n id}, Flow.Submitted _ j n id → F.Submitted j n id ∨
        j = k ∧ n = m ∧ id = F.nextId := fun {j n id} hs => by
      rcases submitted_note (f := .submitted k i m F.nextId records) hs with hs | ⟨i', rs, he⟩
      · exact .inl hs
      · cases he
        exact .inr ⟨rfl, rfl, rfl⟩
    refine ⟨fun j n id hs => ?_, fun j j' n n' id hs hs' => ?_⟩
    · show id < F.nextId + 1
      rcases hsub hs with hs | ⟨-, -, rfl⟩
      · exact Nat.lt_succ_of_lt (h.old j n id hs)
      · exact Nat.lt_succ_self _
    · -- The number of the new group is above all that were given before.
      rcases hsub hs with ho | ⟨hj, hn, hid⟩ <;> rcases hsub hs' with ho' | ⟨hj', hn', hid'⟩
      · exact h.once j j' n n' id ho ho'
      · exact absurd (h.old j n id ho) (by omega)
      · exact absurd (h.old j' n' id ho') (by omega)
      · exact ⟨hj.trans hj'.symm, hn.trans hn'.symm⟩

theorem numbered_hosting (h : F.Numbered) (hs : F.Hosting G) : G.Numbered := by
  refine h.of_same (fun k m id ⟨i, records, hm⟩ => ⟨i, records, hs.same.1 ▸ hm⟩) ?_
  cases hs <;> rfl

end Flow

namespace Session
variable {r : Rules} {k : Nat} {s s' : Session} {b b' : Books}

/-! ## What a move reads -/

/-- What becomes of result `d` in a session: the message that waits under its number is marked if it
was delivered, and its slot comes back; without such a message the result is counted as unknown. -/
inductive Took (d : Delivery) (s : Session) (b : Books) (s' : Session) (b' : Books) : Prop where
  | unknown : s.pending.get? d.id = none → s'.window = s.window → s'.pending = s.pending →
      b'.store = b.store → b'.metrics = b.metrics.count .unknown → Took d s b s' b'
  | applied {m : Message} : s.pending.get? d.id = some m → s'.window = s.window.release.2 →
      s'.pending = s.pending.remove d.id →
      b'.store = (if d.delivered then (b.store.mark m.source m.offset).2 else b.store) →
      b'.metrics = b.metrics.count (if d.delivered then .delivered else .undelivered) →
      Took d s b s' b'

theorem took_apply {t : Session} {c : Books} (k : Nat) (d : Delivery) (hw : t.window = s.window)
    (hp : t.pending = s.pending) (hs : c.store = b.store) (hm : c.metrics = b.metrics) :
    Took d s b (t.apply k d c).1 (t.apply k d c).2.1 := by
  rcases apply_cases k d t c with ⟨hg, h1, h2⟩ | ⟨m, hg, h1, h2⟩ <;> rw [h1, h2] <;> rw [hp] at hg
  · exact .unknown hg hw hp hs (congrArg (Metrics.count · .unknown) hm)
  · refine .applied hg (by simp [yielded, release, hw]) (by simp [yielded, release, hp]) ?_ ?_
    · unfold bookResult
      split <;> simp [Books.note, Books.count, Books.mark, hs]
    · unfold bookResult
      split <;> simp [Books.note, Books.count, Books.mark, hm]

/-- A move reads one result and deals with it, or reads none. -/
theorem past_of_move {t : Task} (hm : Move r k s b t s' b') :
    b'.sink.deliveries.past = b.sink.deliveries.past ∨
    ∃ d, t = .confirmer ∧ s.confirmer ≠ .absent ∧ s.confirmer ≠ .ended ∧
      b'.sink.deliveries.past = b.sink.deliveries.past ++ [d] ∧ Took d s b s' b' := by
  cases hm with
  | turnBack | enter | join | leave | take | stop | fail | dismissed | tune | attend | forgo
  | receive | letGo | drained | close | oversize | unparsed => exact .inl rfl
  | @submit i c m q records =>
    left
    show (b.sink.submit (r.tagged m records)).2.2.deliveries.past = _
    rcases submit_deliveries b.sink (r.tagged m records) with hd | ⟨x, hd⟩ <;> rw [hd]
    exact Queue.past_push _ _
  | @result d sink hc _ hd =>
    obtain ⟨q, hq, rfl⟩ := nextDelivery_same hd
    refine .inr ⟨d, rfl, by simp [hc], by simp [hc], ?_, took_apply k d rfl rfl rfl rfl⟩
    rw [(apply_same k d _ _).2.2.2.2.2]
    exact Queue.past_of_pop? hq
  | @leftover d sink hc hd =>
    obtain ⟨q, hq, rfl⟩ := nextDelivery_same (nextDelivery_of_tryNext hd)
    refine .inr ⟨d, rfl, by simp [hc], by simp [hc], ?_, took_apply k d rfl rfl rfl rfl⟩
    rw [(apply_same k d _ _).2.2.2.2.2]
    exact Queue.past_of_pop? hq

end Session
namespace Relay
variable {w v : Relay} {k : Nat} {d : Delivery}

/-- The results that have been read, first to last. -/
def results (w : Relay) : List Delivery := w.books.sink.deliveries.past

/-- The windows of all sessions, and the messages that wait for a result there. -/
def slots (w : Relay) : List (Window × Pending Message) :=
  w.sessions.map fun h => (h.session.window, h.session.pending)

/-- Session `k` waits for the result of group `id`, for this message. -/
def Awaits (w : Relay) (k : Nat) (m : Message) (id : Nat) : Prop :=
  ∃ h, w.sessions[k]? = some h ∧ h.session.pending.get? id = some m

/-- A result is applied to a message of session `k`: the message is marked if it was delivered, the
result is counted, and one slot of the session comes back. All other sessions stay what they are. -/
structure Applied (w v : Relay) (k : Nat) (m : Message) (d : Delivery) : Prop where
  store : v.books.store =
    if d.delivered then (w.books.store.mark m.source m.offset).2 else w.books.store
  metrics : v.books.metrics = w.books.metrics.count (if d.delivered then .delivered else .undelivered)
  slots : v.slots = w.slots.modify k fun x => (x.1.release.2, x.2.remove d.id)

/-- A result is counted as unknown, once, and nothing else happens: no position moves and no slot
comes back. -/
structure Disregarded (w v : Relay) : Prop where
  store : v.books.store = w.books.store
  metrics : v.books.metrics = w.books.metrics.count .unknown
  slots : v.slots = w.slots

/-! ## What a step reads -/

theorem slots_modifyHosted (w : Relay) (k : Nat) {f : Hosted → Hosted}
    {g : Window × Pending Message → Window × Pending Message}
    (h : ∀ x, w.sessions[k]? = some x → ((f x).session.window, (f x).session.pending) =
      g (x.session.window, x.session.pending)) :
    (w.modifyHosted k f).slots = w.slots.modify k g := map_modify w.sessions k h

/-- Waking tasks gives no slot away and writes nothing down. -/
theorem signal_same (k : Nat) (w : Relay) (x : Session.Signal) :
    (signal k w x).books = w.books ∧ (signal k w x).slots = w.slots := by
  have hhost : ∀ w : Relay, (w.wakeHost k).books = w.books ∧ (w.wakeHost k).slots = w.slots := by
    intro w
    unfold wakeHost
    split
    · exact ⟨rfl, rfl⟩
    · unfold wakeCall
      split <;> exact ⟨rfl, rfl⟩
  have hfeeder : ∀ (w : Relay) i,
      (w.wakeFeeder k i).books = w.books ∧ (w.wakeFeeder k i).slots = w.slots := by
    intro w i
    unfold wakeFeeder
    split <;> exact ⟨rfl, rfl⟩
  cases x with
  | claim | stream => exact ⟨rfl, rfl⟩
  | delivery =>
    show w.wakeReader.books = _ ∧ w.wakeReader.slots = _
    unfold wakeReader
    split <;> exact ⟨rfl, rfl⟩
  | room i => exact hfeeder w i
  | ended i =>
    unfold signal
    dsimp only
    have hm := slots_modifyHosted w k (f := fun h => { h with ended := h.ended ++ [i] }) (g := id)
      fun _ _ => rfl
    rw [List.modify_id] at hm
    exact ⟨(hhost _).1.trans (hfeeder _ i).1, ((hhost _).2.trans (hfeeder _ i).2).trans hm⟩
  | confirmed => exact hhost w

/-- A step of a session's task reads one result and deals with it, or reads none. -/
theorem result_of_session {t : Session.Task} (hs : w.stepSession k t = some v) :
    v.results = w.results ∨ ∃ h d, w.sessions[k]? = some h ∧ t = .confirmer ∧
      h.session.confirmer ≠ .absent ∧ h.session.confirmer ≠ .ended ∧
      v.results = w.results ++ [d] ∧
      ((h.session.pending.get? d.id = none ∧ w.Disregarded v) ∨
        ∃ m, h.session.pending.get? d.id = some m ∧ w.Applied v k m d) := by
  unfold stepSession at hs
  split at hs
  · cases hs
  · next h hk =>
    obtain ⟨⟨s, b, xs⟩, hm, rfl⟩ := Option.map_eq_some_iff.mp hs
    have hsame : (w.settleMove k (s, b, xs)).books = b ∧ (w.settleMove k (s, b, xs)).slots =
        w.slots.modify k fun _ => (s.window, s.pending) := by
      unfold settleMove
      have hl := slots_modifyHosted w k (f := fun h => { h with session := s })
        (g := fun _ => (s.window, s.pending)) fun _ _ => rfl
      have hb : ({ w.modifyHosted k fun h => { h with session := s } with
          books := b } : Relay).slots = w.slots.modify k fun _ => (s.window, s.pending) := hl
      rw [← hb]
      refine List.foldlRecOn (motive := fun v : Relay => v.books = b ∧ v.slots = _) xs (signal k)
        ⟨rfl, rfl⟩ fun v ⟨h1, h2⟩ x _ => ?_
      obtain ⟨h3, h4⟩ := signal_same k v x
      exact ⟨h3.trans h1, h4.trans h2⟩
    obtain ⟨hb, hsl⟩ := hsame
    have hget : w.slots[k]? = some (h.session.window, h.session.pending) := by simp [slots, hk]
    rcases Session.past_of_move (Session.move_of_step hm) with hp | ⟨d, rfl, ha, he, hp, ht⟩
    · exact .inl (by rw [results, hb]; exact hp)
    · refine .inr ⟨h, d, hk, rfl, ha, he, by rw [results, hb]; exact hp, ?_⟩
      cases ht with
      | unknown hg hw hpe hst hme =>
        refine .inl ⟨hg, (congrArg Books.store hb).trans hst, (congrArg Books.metrics hb).trans hme,
          hsl.trans ?_⟩
        refine modify_same w.slots k fun x hx => ?_
        cases Option.some.inj (hget.symm.trans hx)
        simp [hw, hpe]
      | @applied m hg hw hpe hst hme =>
        refine .inr ⟨m, hg, (congrArg Books.store hb).trans hst,
          (congrArg Books.metrics hb).trans hme, hsl.trans (modify_congr w.slots k fun x hx => ?_)⟩
        cases Option.some.inj (hget.symm.trans hx)
        simp [hw, hpe]

theorem past_of_hosting {F G : Flow} (hs : F.Hosting G) : G.deliveries.past = F.deliveries.past := by
  cases hs with
  | confirm d => exact Queue.past_push _ _
  | nothing | enlist | assign | fail | begin | rest | supply | append => rfl

/-- A step reads no result, or it is one of a confirmer that reads one and deals with it. -/
theorem result_of_step {t : Task} (hs : w.step t = some v) :
    v.results = w.results ∨ ∃ k h d, t = .confirmer k ∧ w.sessions[k]? = some h ∧
      h.session.confirmer ≠ .absent ∧ h.session.confirmer ≠ .ended ∧
      v.results = w.results ++ [d] ∧
      ((h.session.pending.get? d.id = none ∧ w.Disregarded v) ∨
        ∃ m, h.session.pending.get? d.id = some m ∧ w.Applied v k m d) := by
  cases ht : t.session? with
  | none => exact .inl (past_of_hosting (hosting_of_step ht hs))
  | some kx =>
    obtain ⟨k, x⟩ := kx
    rw [step_of_session ht] at hs
    refine (result_of_session hs).imp_right fun ⟨h, d, hk, hx, ho⟩ => ⟨k, h, d, ?_, hk, ho⟩
    subst hx
    cases t <;> cases ht
    rfl

/-- Nothing that happens from outside reads a result. -/
theorem results_of_event (w : Relay) (e : Event) : (w.apply e).results = w.results :=
  past_of_hosting (hosting_of_event w e)

theorem Reachable.numbered {settings : Settings} (h : Reachable settings w) : w.flow.Numbered := by
  obtain ⟨ms, ht⟩ := h.trail
  refine ht.holds ⟨fun k m id hs => ?_, fun j k m n id hs => ?_⟩ Flow.numbered_handling
    Flow.numbered_hosting
  · obtain ⟨i, records, hm⟩ := hs
    cases hm
  · obtain ⟨i, records, hm⟩ := hs
    cases hm

/-- What waits for a result under a number was submitted under it, and nobody else waits for it. -/
theorem Reachable.awaits_unique {settings : Settings} (h : Reachable settings w) {j k id : Nat}
    {m n : Message} (ha : w.Awaits k m id) :
    w.Submitted k m id ∧ (w.Submitted j n id → j = k ∧ n = m) := by
  obtain ⟨x, hk, hg⟩ := ha
  obtain ⟨ms, ht⟩ := h.trail
  have hp := ((ht.sound (.inr ⟨_, rfl⟩)).loads k x.load (loads_get hk)).pending
  have hs : w.Submitted k m id := hp _ (Pending.mem_of_get? hg)
  exact ⟨hs, fun hn => h.numbered.once j k n m id hn hs⟩

end Relay
end Sluice
