import Sluice.Proofs.Relay.Lanes
import Sluice.Proofs.Session.Draws
/-!
# Who wakes a feeder

Whatever moves and whatever happens, but for a feeder's own moves: `Goes` says what becomes of the
lanes of a relay. Feeders and the items that have come into their queues stay as they are, logs only
grow, and a feeder that had to wait and can move now has been woken.

* `Calm.goes`: what no lane shows.
* `goes_of_session`: a claim that takes an item or ends wakes a feeder that waits for room.
* `goes_endSession`, `goes_assign`, `goes_produce`: the end of a session, its beginning, and a new
  message.
* `goes_of_step`, `goes_of_event`, `goes_of_use`: there is nothing else.
-/
namespace Sluice

namespace Lane

/-- What may become of a lane without its feeder: items are taken, and who reads it ends. -/
structure Onward (L M : Lane) : Prop where
  feeder : M.feeder = L.feeder
  source : M.source = L.source
  items : M.queue.items = L.queue.items
  taken : L.queue.taken ≤ M.queue.taken
  ended : L.ended = true → M.ended = true
  cancelled : L.cancelled = true → M.cancelled = true

theorem Onward.refl (L : Lane) : L.Onward L := ⟨rfl, rfl, rfl, Nat.le_refl _, id, id⟩

theorem Onward.trans {L M N : Lane} (h : L.Onward M) (h' : M.Onward N) : L.Onward N :=
  ⟨h'.feeder.trans h.feeder, h'.source.trans h.source, h'.items.trans h.items,
    Nat.le_trans h.taken h'.taken, fun e => h'.ended (h.ended e), fun e => h'.cancelled (h.cancelled e)⟩

/-- The feeder has not begun, and nothing has come into the queue. -/
structure New (L : Lane) : Prop where
  fresh : L.feeder.phase = .fresh
  source : L.feeder.source = L.source
  items : L.queue.items = []

theorem New.onward {L M : Lane} (h : L.New) (ho : L.Onward M) : M.New :=
  ⟨by rw [ho.feeder, h.fresh], by rw [ho.feeder, ho.source, h.source], ho.items.trans h.items⟩

end Lane

namespace Relay
variable {w v u : Relay} {k i : Nat} {h : Hosted} {L M : Lane} {t : Task}

/-- What becomes of the lanes of a relay while no feeder moves. A feeder that had to wait and can
move now has been woken, and so has a feeder that was just set up. -/
structure Goes (w v : Relay) : Prop where
  line : ∀ t ∈ w.line, t ∈ v.line
  log : ∀ p, w.broker.log p <+: v.broker.log p
  old : ∀ {k i L}, w.lane? k i = some L → ∃ M, v.lane? k i = some M ∧ L.Onward M ∧
    (w.Rests L → v.Rests M ∨ .feeder k i ∈ v.line)
  new : ∀ {k i M}, v.lane? k i = some M → w.lane? k i = none → M.New ∧ .feeder k i ∈ v.line

theorem Calm.rests (h : w.Calm v) : v.Rests L ↔ w.Rests L := by
  unfold Rests
  rw [h.log]

theorem Calm.goes (h : w.Calm v) : w.Goes v :=
  ⟨h.line, fun p => h.log ▸ List.prefix_rfl, fun {k i L} hl => ⟨L, (h.lane k i).trans hl, .refl L,
    fun hr => .inl (h.rests.mpr hr)⟩,
    fun {k i M} hm hn => by rw [h.lane, hn] at hm; cases hm⟩

theorem Goes.refl (w : Relay) : w.Goes w := (Calm.refl w).goes

/-- Where a lane comes from. -/
theorem Goes.cases (h : w.Goes v) (hm : v.lane? k i = some M) :
    M.New ∧ .feeder k i ∈ v.line ∨ ∃ L, w.lane? k i = some L ∧ L.Onward M ∧
      (w.Rests L → v.Rests M ∨ .feeder k i ∈ v.line) := by
  cases hl : w.lane? k i with
  | none => exact .inl (h.new hm hl)
  | some L =>
    obtain ⟨N, hn, ho, hr⟩ := h.old hl
    cases Option.some.inj (hm.symm.trans hn)
    exact .inr ⟨L, rfl, ho, hr⟩

theorem Goes.trans (h : w.Goes v) (h' : v.Goes u) : w.Goes u := by
  refine ⟨fun t ht => h'.line t (h.line t ht), fun p => (h.log p).trans (h'.log p),
    fun {k i L} hl => ?_, fun {k i N} hn hw => ?_⟩
  · obtain ⟨M, hm, ho, hr⟩ := h.old hl
    obtain ⟨N, hn, ho', hr'⟩ := h'.old hm
    exact ⟨N, hn, ho.trans ho', fun hi => (hr hi).elim hr' fun hw => .inr (h'.line _ hw)⟩
  · rcases h'.cases hn with hnew | ⟨M, hv, ho, -⟩
    · exact hnew
    · obtain ⟨hm, hw⟩ := h.new hv hw
      exact ⟨hm.onward ho, h'.line _ hw⟩

theorem goes_foldl {α : Type} {f : Relay → α → Relay} (h : ∀ w a, Goes w (f w a)) (xs : List α)
    (w : Relay) : w.Goes (xs.foldl f w) := by
  induction xs generalizing w with
  | nil => exact .refl w
  | cons x xs ih => exact (h w x).trans (ih _)

theorem calm_foldl {α : Type} {f : Relay → α → Relay} (h : ∀ w a, Calm w (f w a)) (xs : List α)
    (w : Relay) : w.Calm (xs.foldl f w) := by
  induction xs generalizing w with
  | nil => exact .refl w
  | cons x xs ih => exact (h w x).trans (ih _)

/-! ## The tasks of a session -/

theorem calm_signal (k : Nat) (w : Relay) (x : Session.Signal) : w.Calm (signal k w x) := by
  cases x with
  | claim | stream => exact calm_wake w _
  | delivery => exact calm_wakeReader w
  | room i => exact calm_wakeFeeder w k i
  | ended i =>
    exact (calm_modifyHosted w k fun _ _ _ => by rfl).trans
      ((calm_wakeFeeder _ k i).trans (calm_wakeHost _ k))
  | confirmed => exact calm_wakeHost w k

/-- A feeder that waits for room is woken. -/
theorem mem_line_wakeFeeder (hl : w.lane? k i = some L) (hp : L.feeder.phase = .blocked) :
    .feeder k i ∈ (w.wakeFeeder k i).line := by
  obtain ⟨h, hk, hi⟩ := lane_eq_some_iff.mp hl
  obtain ⟨⟨source, first, next, phase⟩, c, hf, -, rfl⟩ := Hosted.lane_eq_some_iff.mp hi
  cases hp
  unfold wakeFeeder
  simp only [hk, hf, Option.bind_some]
  exact Schedule.mem_wake_iff.mpr (.inl rfl)

/-- A feeder that waits for room is woken when an item is taken from its queue, and when its claim
ends. -/
theorem mem_line_signals {xs : List Session.Signal} (hl : w.lane? k i = some L)
    (hp : L.feeder.phase = .blocked) (hx : .room i ∈ xs ∨ .ended i ∈ xs) :
    .feeder k i ∈ (xs.foldl (signal k) w).line := by
  induction xs generalizing w with
  | nil => exact absurd hx (by simp)
  | cons x xs ih =>
    have hc := calm_foldl (calm_signal k) xs (signal k w x)
    have hm : x = .room i ∨ x = .ended i → .feeder k i ∈ (signal k w x).line := by
      rintro (rfl | rfl)
      · exact mem_line_wakeFeeder hl hp
      · refine (calm_wakeHost _ k).line _ (mem_line_wakeFeeder (L := L) ?_ hp)
        rw [(calm_modifyHosted w k fun _ _ _ => by rfl).lane]
        exact hl
    by_cases he : x = .room i ∨ x = .ended i
    · exact hc.line _ (hm he)
    · rw [not_or] at he
      refine ih (((calm_signal k w x).lane k i).trans hl) ?_
      simpa [Ne.symm he.1, Ne.symm he.2] using hx

/-- One session changes, and no other. -/
theorem goes_of_one (k : Nat) (hb : v.broker.log = w.broker.log) (hl : ∀ t ∈ w.line, t ∈ v.line)
    (hothers : ∀ j n, j ≠ k → v.lane? j n = w.lane? j n)
    (hold : ∀ {i L}, w.lane? k i = some L → ∃ M, v.lane? k i = some M ∧ L.Onward M ∧
      (w.Rests L → v.Rests M ∨ .feeder k i ∈ v.line))
    (hnew : ∀ {i M}, v.lane? k i = some M → w.lane? k i = none → M.New ∧ .feeder k i ∈ v.line) :
    w.Goes v := by
  refine ⟨hl, fun p => hb ▸ List.prefix_rfl, fun {j n L} h => ?_, fun {j n M} h hn => ?_⟩ <;>
    by_cases e : j = k
  · subst e
    exact hold h
  · refine ⟨L, (hothers j n e).trans h, .refl L, fun hr => .inl ?_⟩
    unfold Rests
    rwa [hb]
  · subst e
    exact hnew h hn
  · rw [hothers j n e, hn] at h
    cases h

/-- What a feeder waits for stays away if its queue, its claim and its session stay as they are. -/
theorem Rests.of_same (hr : w.Rests L) (hb : v.broker.log = w.broker.log)
    (hf : M.feeder = L.feeder) (hx : M.cancelled = L.cancelled)
    (hs : L.feeder.phase = .blocked → M.queue = L.queue ∧ M.ended = L.ended) : v.Rests M := by
  unfold Rests at *
  rw [hb, hf]
  cases hr with
  | ended hp => exact .ended (by rw [hf, hp])
  | parked hp hc hm => exact .parked (by rw [hf, hp]) (hx.trans hc) (by rw [hf, hm])
  | blocked hp hc hm he hq =>
    obtain ⟨hqs, hes⟩ := hs hp
    exact .blocked (by rw [hf, hp]) (hx.trans hc) (by rw [hf, hm]) (hes.trans he) (by rwa [hqs])

/-- What a move of a session's task does to the lanes. -/
theorem goes_settleMove {s : Session} {b : Books} {xs : List Session.Signal}
    (hk : w.sessions[k]? = some h) (hd : Session.Draws xs h.session s) :
    w.Goes (w.settleMove k (s, b, xs)) := by
  let moved : Relay := { w.modifyHosted k fun h => { h with session := s } with books := b }
  have hc : moved.Calm (w.settleMove k (s, b, xs)) := calm_foldl (calm_signal k) xs moved
  have hlane : ∀ j n, moved.lane? j n =
      w.sessions[j]?.bind fun h => (if k = j then { h with session := s } else h).lane? n :=
    fun j n => lane_modifyHosted w k _ j n
  have hself : ∀ n, moved.lane? k n = Hosted.lane? { h with session := s } n := fun n => by
    rw [hlane, hk, Option.bind_some, if_pos rfl]
  refine goes_of_one k hc.log hc.line (fun j n hj => ?_) (fun {i L} hl => ?_) fun {i M} hm hn => ?_
  · rw [hc.lane, hlane]
    simp only [if_neg (Ne.symm hj)]
    rfl
  · rw [lane_of_session hk] at hl
    obtain ⟨f, c, hf, hcl, rfl⟩ := Hosted.lane_eq_some_iff.mp hl
    obtain ⟨d, hdl, ho, hs⟩ := hd.some hcl
    have hm := (hself i).trans (Hosted.lane_of_get (h := { h with session := s }) hf hdl)
    refine ⟨_, (hc.lane k i).trans hm,
      ⟨rfl, ho.source, ho.items, ho.taken, ho.ended, fun e => hd.cancelled.trans e⟩, fun hr => ?_⟩
    -- only a feeder that waits for room looks at what the claim has done
    by_cases hp : f.phase = .blocked
    · rcases hs with hs | hs | hs
      · exact .inr (mem_line_signals hm hp (.inl hs))
      · exact .inr (mem_line_signals hm hp (.inr hs))
      · exact .inl (hr.of_same hc.log rfl hd.cancelled fun _ => hs)
    · exact .inl (hr.of_same hc.log rfl hd.cancelled fun e => absurd e hp)
  · rw [hc.lane, hself] at hm
    rw [lane_of_session hk] at hn
    obtain ⟨f, d, hf, hdl, -⟩ := Hosted.lane_eq_some_iff.mp hm
    cases hcl : h.session.claims[i]? with
    | none =>
      rw [hd.none hcl] at hdl
      cases hdl
    | some c => cases hn.symm.trans (Hosted.lane_of_get (h := h) hf hcl)

/-- A claim that takes an item or ends wakes a feeder that waits for room. -/
theorem goes_of_session {x : Session.Task} (hs : w.stepSession k x = some v) : w.Goes v := by
  unfold stepSession at hs
  split at hs
  · cases hs
  · next h hk =>
    obtain ⟨⟨s, b, xs⟩, hm, rfl⟩ := Option.map_eq_some_iff.mp hs
    exact goes_settleMove hk (Session.draws_of_step hm)

/-! ## The beginning and the end of a session -/

/-- A session that is told to end wakes its feeders. -/
theorem goes_endSession (w : Relay) (k : Nat) : w.Goes (w.endSession k) := by
  unfold endSession
  split
  · exact .refl w
  · next h hk =>
    split
    · exact .refl w
    · let told := w.modifyHosted k fun h => { h with session := { h.session with cancelled := true } }
      let pairs := (List.range h.session.claims.length).flatMap fun i =>
        [Task.feeder k i, Task.claim k i]
      have hc : told.Calm ((told.wakeAll pairs).wakeHost k) :=
        (calm_wakeAll told pairs).trans (calm_wakeHost _ k)
      refine goes_of_one k hc.log hc.line (fun j n hj => ?_) (fun {i L} hl => ?_) fun {i M} hm hn => ?_
      · rw [hc.lane, lane_modifyHosted]
        simp only [if_neg (Ne.symm hj)]
        rfl
      · rw [lane_of_session hk] at hl
        obtain ⟨f, c, hf, hcl, rfl⟩ := Hosted.lane_eq_some_iff.mp hl
        refine ⟨.of f c true, ?_, ⟨rfl, rfl, rfl, Nat.le_refl _, id, fun _ => rfl⟩, fun _ => .inr ?_⟩
        · rw [hc.lane, lane_modifyHosted, hk, Option.bind_some, if_pos rfl]
          exact Hosted.lane_of_get (h := { h with session := { h.session with cancelled := true } }) hf hcl
        · refine (calm_wakeHost _ k).line _ (Schedule.mem_wakeAll_iff.mpr (.inl ?_))
          have hi := (List.getElem?_eq_some_iff.mp hcl).1
          exact List.mem_flatMap.mpr ⟨i, List.mem_range.mpr hi, List.mem_cons_self⟩
      · rw [hc.lane, lane_modifyHosted, hk, Option.bind_some, if_pos rfl] at hm
        rw [lane_of_session hk] at hn
        obtain ⟨f, c, hf, hcl, -⟩ := Hosted.lane_eq_some_iff.mp hm
        cases hn.symm.trans (Hosted.lane_of_get (h := h) hf hcl)

theorem calm_list (w : Relay) (l : List Nat) : w.Calm { w with listed := l } :=
  calm_of_sessions rfl rfl fun _ => id

theorem goes_rebalance (w : Relay) : w.Goes w.rebalance :=
  (calm_list w []).goes.trans (goes_foldl goes_endSession _ _)

theorem goes_cancel (w : Relay) (token : Nat) : w.Goes (w.cancel token) := by
  unfold cancel
  split
  · exact .refl w
  · have hc : w.Calm { w with cancelled := token :: w.cancelled } :=
      ⟨fun _ _ => rfl, rfl, fun _ => id⟩
    have hg := fun ks => hc.goes.trans (goes_foldl goes_endSession ks
      { w with cancelled := token :: w.cancelled })
    dsimp only
    split
    · exact (hg _).trans ((calm_wakeAll _ _).trans (calm_wakeCallers _)).goes
    · exact hg _

/-- A session that is set up wakes its feeders. -/
theorem goes_assign (w : Relay) (k : Nat) (ps : List Partition)
    (hc : ∀ h, w.sessions[k]? = some h → h.session.claims = []) : w.Goes (w.assign k ps) := by
  unfold assign
  dsimp only
  have hw := fun v ts => (calm_wakeAll v ts).line
  refine goes_of_one k rfl (fun t ht => hw _ _ t ht) (fun j n hj => ?_) (fun {i L} hl => ?_)
    fun {i M} hm _ => ?_
  · rw [(calm_wakeAll _ _).lane, lane_modifyHosted]
    simp only [if_neg (Ne.symm hj)]
    rfl
  · obtain ⟨h, hk, hl⟩ := lane_eq_some_iff.mp hl
    obtain ⟨f, c, -, hcl, -⟩ := Hosted.lane_eq_some_iff.mp hl
    rw [hc h hk] at hcl
    cases hcl
  · rw [(calm_wakeAll _ _).lane, lane_modifyHosted] at hm
    obtain ⟨h, hk, hl⟩ := Option.bind_eq_some_iff.mp hm
    rw [if_pos rfl] at hl
    obtain ⟨f, c, hf, hcl, rfl⟩ := Hosted.lane_eq_some_iff.mp hl
    obtain ⟨p, hp, rfl⟩ := Option.map_eq_some_iff.mp ((List.getElem?_map ..).symm.trans hf)
    have he : c = Claim.start p.topic p.index := by
      have hcl : (ps.foldl (fun s p => s.start p.topic p.index) h.session).claims[i]? = some c := hcl
      rw [Session.starts_eq, hc h hk, List.nil_append, List.getElem?_map, hp] at hcl
      exact (Option.some.inj hcl).symm
    subst he
    refine ⟨⟨rfl, rfl, rfl⟩, Schedule.mem_wakeAll_iff.mpr (.inl ?_)⟩
    have hi := (List.getElem?_eq_some_iff.mp hp).1
    exact List.mem_flatMap.mpr ⟨i, List.mem_range.mpr hi, List.mem_cons_self⟩

/-! ## Calls -/

/-- A session that has not been set up has no claims. -/
def Unclaimed (w : Relay) : Prop :=
  ∀ {k : Nat} {h}, w.sessions[k]? = some h → h.session.stage = .idle → h.session.claims = []

theorem calm_books (w : Relay) (b : Books) : w.Calm { w with books := b } :=
  calm_of_sessions rfl rfl fun _ => id

theorem calm_setCall (w : Relay) (c : Nat) (p : ConsumeCall.Phase) : w.Calm (w.setCall c p) :=
  calm_of_sessions rfl rfl fun _ => id

/-- A session without claims has no lanes. -/
theorem calm_setup {f : Hosted → Hosted} (hk : w.sessions[k]? = some h)
    (hc : h.session.claims = []) (hf : (f h).session.claims = []) : w.Calm (w.modifyHosted k f) := by
  refine calm_modifyHosted w k fun x hx i => ?_
  cases Option.some.inj (hk.symm.trans hx)
  unfold Hosted.lane?
  rw [hc, hf]
  simp

theorem goes_served (hu : w.Unclaimed) {c : Nat} {x : ConsumeCall} {s : Session}
    (hk : w.sessions[x.session]? = some h) (hi : h.session.stage = .idle)
    (hs : s.claims = h.session.claims) : w.Goes (w.served c x s) := by
  have hcl := hu hk hi
  have hbook := (calm_broker w (Broker.log_beginConsume w.broker)).trans
    ((calm_books _ (w.books.count .session)).trans (calm_list _ (w.listed ++ [c])))
  unfold served
  refine Goes.trans ?_ ((goes_assign _ _ _ fun y hy => ?_).trans (calm_setCall _ _ _).goes)
  · refine (hbook.trans (Calm.trans ?_ (calm_wake _ _))).goes
    exact calm_setup hk hcl (hs.trans hcl)
  · obtain ⟨z, -, rfl⟩ : ∃ z, w.sessions[x.session]? = some z ∧ _ = y := by
      simpa [wake, modifyHosted] using hy
    exact hs.trans hcl

theorem goes_leaveCall (w : Relay) (c : Nat) (x : ConsumeCall) (e : Option RelayError) :
    w.Goes (w.leaveCall c x e) :=
  (goes_endSession w x.session).trans (calm_setCall _ _ _).goes

/-- A session goes over to another stage. -/
theorem calm_setStage {s : Session} (hk : w.sessions[k]? = some h)
    (hc : s.claims = h.session.claims) (hx : s.cancelled = h.session.cancelled) :
    w.Calm (w.modifyHosted k fun h => { h with session := s }) := by
  refine calm_modifyHosted w k fun x hx' i => ?_
  cases Option.some.inj (hk.symm.trans hx')
  unfold Hosted.lane?
  simp only [hc, hx]

theorem goes_of_call {c : Nat} {x : ConsumeCall} (hu : w.Unclaimed) (hm : w.CallMove c x v) :
    w.Goes v := by
  have hlook := fun rest => (calm_modifyHosted w x.session (f := fun h => { h with ended := rest })
    fun _ _ _ => rfl).goes
  cases hm with
  | refuse => exact (calm_setCall w c _).goes
  | giveUp => exact ((calm_list w _).trans (calm_setCall _ c _)).goes
  | fail =>
    exact ((calm_broker w (Broker.log_beginConsume w.broker)).trans (calm_setCall _ c _)).goes
  | unready =>
    exact ((calm_broker w (Broker.log_beginConsume w.broker)).trans
      ((calm_list _ _).trans (calm_setCall _ c _))).goes
  | begin _ _ _ hk hi => exact goes_served hu hk hi rfl
  | leave => exact goes_leaveCall w c x _
  | look => exact hlook _
  | abort => exact (hlook _).trans (goes_leaveCall _ c x _)
  | @drain h _ _ hk =>
    exact ((calm_setStage (s := { h.session with stage := .draining }) hk rfl rfl).trans
      ((calm_wake _ _).trans (calm_setCall _ c _))).goes
  | @close h _ _ hk =>
    exact ((calm_setStage (s := { h.session with stage := .closed }) hk rfl rfl).trans
      ((calm_list _ _).trans (calm_setCall _ c _))).goes

/-! ## The supervisor and its callers -/

theorem calm_modifySupervisor (w : Relay) (f : Supervisor → Supervisor) :
    w.Calm (w.modifySupervisor f) := calm_of_sessions rfl rfl fun _ => id

theorem calm_setLoop (w : Relay) (p : Supervisor.Loop) : w.Calm (w.setLoop p) :=
  calm_modifySupervisor w _

theorem calm_clearTimer (w : Relay) (t : Task) : w.Calm (w.clearTimer t) :=
  calm_of_sessions rfl rfl fun _ => id

theorem calm_setTimer (w : Relay) (t : Task) (moment : Nat) : w.Calm (w.setTimer t moment) :=
  calm_of_sessions rfl rfl fun _ => id

theorem calm_setCaller (w : Relay) (i : Nat) (p : Caller.Phase) : w.Calm (w.setCaller i p) :=
  calm_of_sessions rfl rfl fun _ => id

theorem calm_leaveGroup (w : Relay) (g : Nat) : w.Calm (w.leaveGroup g) := by
  unfold leaveGroup
  split
  · exact .refl w
  · exact (calm_broker w (Broker.log_leave _ _)).trans (calm_foldl calm_wakeCall _ _)

theorem calm_install (w : Relay) (s : Supervisor) (topics : List String) (group : Nat) :
    w.Calm (w.install s topics group) := by
  unfold install
  have hc := fun f => (calm_modifySupervisor w f).trans
    ((calm_wake _ .forwarder).trans (calm_wakeCallers _))
  dsimp only
  split
  · exact hc _
  · exact (hc _).trans ((calm_books _ _).trans (calm_leaveGroup _ _))

theorem calm_refresh (w : Relay) (s : Supervisor) : w.Calm (w.refresh s).2 := by
  unfold refresh
  have hsel := calm_broker w (Broker.log_select w.broker s.settings.pattern)
  have hjoin := calm_broker w
    ((Broker.log_join _).trans (Broker.log_select w.broker s.settings.pattern))
  dsimp only
  split
  · exact hsel
  · split
    · exact hsel
    · split
      · exact hjoin
      · split
        · exact hjoin.trans ((calm_leaveGroup _ _).trans (calm_broker _ (Broker.log_dropStream _ _)))
        · exact hjoin.trans (calm_install _ s _ _)

theorem calm_pause (w : Relay) (s : Supervisor) : w.Calm (w.pause s) :=
  (calm_setLoop w _).trans (calm_setTimer _ _ _)

theorem calm_retry (w : Relay) (s : Supervisor) (e : RelayError) : w.Calm (w.retry s e) :=
  (calm_books w _).trans ((calm_books _ _).trans (calm_pause _ s))

theorem calm_endLoop (w : Relay) (s : Supervisor) : w.Calm (w.endLoop s) := by
  unfold endLoop
  have hl := fun v : Relay => (calm_clearTimer v .loop).trans (calm_setLoop _ .ended)
  dsimp only
  split
  · exact (hl w).trans (calm_wakeCallers _)
  · exact (calm_leaveGroup w _).trans ((hl _).trans (calm_wakeCallers _))

/-- A session is added. -/
theorem calm_addSession (w : Relay) (settings : Settings) : w.Calm (w.addSession settings).2 := by
  refine ⟨fun k i => ?_, rfl, fun _ => id⟩
  unfold addSession lane?
  rw [List.getElem?_append]
  split
  · rfl
  · next hk =>
    rw [List.getElem?_eq_none (Nat.le_of_not_lt hk), List.getElem?_singleton]
    split <;> rfl

/-- A call is added. -/
theorem calm_addCall (w : Relay) (group session : Nat) (topics : List String) (token : Nat) :
    w.Calm (w.addCall group session topics token).2 := calm_of_sessions rfl rfl fun _ => id

theorem calm_serve (w : Relay) (s : Supervisor) (group : Nat) : w.Calm (w.serve s group) := by
  unfold serve
  split
  · exact (calm_setLoop w _).trans (calm_wakeCallers _)
  · exact (calm_addSession w s.settings).trans ((calm_addCall _ _ _ _ _).trans (calm_setLoop _ _))

theorem goes_of_loop {s : Supervisor} (hu : w.Unclaimed) (hm : w.LoopMove s v) : w.Goes v := by
  have hr := calm_refresh w s
  cases hm with
  | stop => exact (calm_endLoop w s).goes
  | join _ _ _ e =>
    rw [e] at hr
    exact hr.goes
  | joinFails _ _ _ e =>
    rw [e] at hr
    exact (hr.trans (calm_retry _ s _)).goes
  | idle => exact (calm_pause w s).goes
  | serve => exact (calm_serve w s _).goes
  | resume => exact ((calm_clearTimer w _).trans (calm_setLoop _ _)).goes
  | call _ _ hm => exact goes_of_call hu hm
  | finish => exact (calm_setLoop w _).goes
  | retry => exact (calm_retry w s _).goes

theorem calm_of_forwarder {s : Supervisor} (hm : w.ForwarderMove s v) : w.Calm v := by
  cases hm with
  | stop =>
    unfold endForwarder
    refine Calm.trans ?_ ((calm_modifySupervisor _ _).trans (calm_wakeCallers _))
    split
    · exact .refl w
    · exact calm_broker w (Broker.log_dropStream _ _)
  | follow =>
    unfold follow
    dsimp only
    refine (calm_broker w ?_).trans (calm_modifySupervisor _ _)
    split <;> split <;> simp
  | forward => exact (calm_broker w (Broker.log_modifyGroup _ _ _)).trans (calm_books _ _)

theorem calm_of_refresher {s : Supervisor} (hm : w.RefresherMove s v) : w.Calm v := by
  have hclear := calm_clearTimer w .refresher
  have hr := hclear.trans (calm_refresh (w.clearTimer .refresher) s)
  have hwait := fun (u : Relay) next => (calm_modifySupervisor u fun s =>
    { s with refresher := .waiting next }).trans (calm_setTimer _ .refresher (tickOf next))
  cases hm with
  | stop => exact hclear.trans ((calm_modifySupervisor _ _).trans (calm_wakeCallers _))
  | refresh _ _ _ _ e =>
    rw [e] at hr
    exact hr.trans (hwait _ _)
  | refreshFails _ _ _ _ e =>
    rw [e] at hr
    exact hr.trans ((calm_books _ _).trans (hwait _ _))

theorem goes_reap (w : Relay) : w.Goes w.reap := by
  unfold reap
  split
  · exact goes_cancel w _
  · exact .refl w

theorem goes_answer (w : Relay) (i : Nat) (value : Bool) : w.Goes (w.answer i value) :=
  (calm_setCaller w i _).goes.trans (goes_reap _)

theorem goes_abandon (w : Relay) (i : Nat) : w.Goes (w.abandon i) := by
  unfold abandon
  split
  · exact .refl w
  · split
    · exact .refl w
    · exact (calm_setCaller w i _).goes.trans (goes_reap _)

theorem goes_takeOver (w : Relay) (s : Supervisor) (i : Nat) : w.Goes (w.takeOver s i) := by
  unfold takeOver
  split
  · exact goes_answer w i true
  · exact ((calm_modifySupervisor w _).trans (calm_setCaller _ i _)).goes

theorem goes_of_caller {s : Supervisor} {i : Nat} (hm : w.CallerMove s i v) : w.Goes v := by
  cases hm with
  | refuse | grant | done => exact goes_answer w i _
  | wait => exact (calm_setCaller w i _).goes
  | finish => exact goes_takeOver w s i
  | shutdown => exact (goes_cancel w _).trans (goes_takeOver _ s i)

/-! ## Whatever moves, and whatever happens -/

/-- The claim that a task feeds. -/
def Task.fed? : Task → Option (Nat × Nat)
  | .feeder k i | .straggler k i => some (k, i)
  | _ => none

/-- A move of any task but a feeder. -/
theorem goes_of_step (hu : w.Unclaimed) (ht : t.fed? = none) (hs : w.step t = some v) :
    w.Goes v := by
  cases move_of_step hs with
  | claim hs | confirmer hs => exact goes_of_session hs
  | feeder | straggler => cases ht
  | call _ _ hm => exact goes_of_call hu hm
  | loop _ hm => exact goes_of_loop hu hm
  | forwarder _ hm => exact (calm_of_forwarder hm).goes
  | refresher _ hm => exact (calm_of_refresher hm).goes
  | caller _ hm => exact goes_of_caller hm

/-- The feeders that wait for a new message are woken. -/
theorem mem_line_wakeParked (hl : w.lane? k i = some L) (hp : L.feeder.phase = .parked) :
    .feeder k i ∈ w.wakeParked.line := by
  obtain ⟨h, hk, hi⟩ := lane_eq_some_iff.mp hl
  obtain ⟨f, c, hf, -, rfl⟩ := Hosted.lane_eq_some_iff.mp hi
  refine Schedule.mem_wakeAll_iff.mpr (.inl (List.mem_flatMap.mpr ⟨(h, k), ?_, ?_⟩))
  · exact List.mk_mem_zipIdx_iff_getElem?.mpr hk
  · refine List.mem_map.mpr ⟨(f, i), List.mem_filter.mpr ⟨?_, ?_⟩, rfl⟩
    · exact List.mk_mem_zipIdx_iff_getElem?.mpr hf
    · exact beq_iff_eq.mpr hp

/-- A new message wakes the feeders that have nothing to put into their queues. -/
theorem goes_produce (w : Relay) (p : Partition) (payload : List UInt8) :
    w.Goes (w.produce p payload).2 := by
  have hlog : ∀ q, w.broker.log q <+: (w.broker.append p payload).2.log q := fun q => by
    rw [Broker.log_append]
    split
    · exact List.prefix_append _ _
    · exact List.prefix_rfl
  have hc := calm_wakeAll { w with broker := (w.broker.append p payload).2 }
  refine ⟨fun t ht => (hc _).line t ht, hlog, fun {k i L} hl => ⟨L, hl, .refl L, fun hr => ?_⟩,
    fun {k i M} hm hn => by cases hn.symm.trans hm⟩
  cases hr with
  | ended hp => exact .inl (.ended hp)
  | parked hp => exact .inr (mem_line_wakeParked (w := { w with broker := _ }) hl hp)
  | blocked hp hx hm he hb =>
    exact .inl (.blocked hp hx (getElem?_extends (hlog _) hm) he hb)

theorem goes_of_event (w : Relay) (e : Event) : w.Goes (w.apply e) := by
  have hsame : ∀ {v : Relay}, v.sessions = w.sessions → v.broker.log = w.broker.log →
      v.line = w.line → w.Goes v := fun hs hb hl =>
    (calm_of_sessions hs hb fun _ ht => hl ▸ ht).goes
  cases e with
  | createTopic name n => exact hsame rfl (Broker.log_createTopic _ _ _) rfl
  | deleteTopic | script | closeOutput => exact hsame rfl rfl rfl
  | produce p payload => exact goes_produce w p payload
  | rebalance => exact goes_rebalance w
  | groupError text =>
    show w.Goes (w.groupError text).2
    unfold groupError
    split
    · exact .refl w
    · exact ((calm_broker w (Broker.log_groupError _ _)).trans (calm_wake _ _)).goes
  | confirm d => exact ((calm_books w _).trans (calm_wakeReader _)).goes
  | receive =>
    unfold apply
    dsimp only
    split <;> exact hsame rfl rfl rfl
  | refresh =>
    show w.Goes w.refreshNow.2
    unfold refreshNow
    split
    · exact .refl w
    · exact (calm_refresh w _).goes
  | cancel => exact goes_cancel w _
  | call kind =>
    have hc : w.Calm { w with callers := w.callers ++ [⟨kind, .fresh⟩] } :=
      calm_of_sessions rfl rfl fun _ => id
    exact (hc.trans (calm_wake _ _)).goes
  | abandon i => exact goes_abandon w i
  | drop => exact (calm_modifySupervisor w _).goes.trans (goes_reap _)
  | tick moment =>
    have hc : w.Calm { w with
        now := max w.now moment, timers := w.timers.filter fun e => max w.now moment < e.1 } :=
      calm_of_sessions rfl rfl fun _ => id
    exact (hc.trans (calm_wakeAll _ _)).goes

theorem goes_of_use (w : Relay) (x : Use) : w.Goes (w.use x) := by
  cases x with
  | event e => exact goes_of_event w e
  | join => exact (calm_broker w (Broker.log_join _)).goes
  | leave g => exact (calm_leaveGroup w g).goes
  | session settings =>
    unfold use
    dsimp only
    split
    · exact (calm_addSession w settings).goes
    · exact .refl w
  | consume group session topics token =>
    exact ((calm_addCall w group session topics token).trans (calm_wake _ _)).goes
  | cancel token => exact goes_cancel w token

end Relay
end Sluice
