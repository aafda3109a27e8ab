import Sluice.Proofs.Supervision.Membership
import Sluice.Proofs.Supervision.Retries
/-!
# Out of an outage, on time

Every step of a punctual run takes the relay to a later stage or nearer to the end of a pause. So the
run comes to the first group and to the first session, and at their moments.

* `At.onward`: what one step comes to.
* `passed`: what a run has come to.
* `ridden_out`: when the first group is joined and the first session is set up.
* `crashed_loop_sets_nothing_up`: without room for the messages of a session there is none.
-/
namespace Sluice.Outage
open Relay
variable {o : Outage} {n : Nat} {f : Supervisor.Forwarder} {w v : Relay} {st : Stage}

/-! ## One step -/

/-- The consume loop waits for the end of a pause, or its next move takes it to the next stage or
sets the first session up. -/
theorem At.loop_moves (h : o.At st f w) (hfit : Pending.fits o.settings.maxUndelivered = true) :
    (∃ n, st = .pausing n ∧ w.now < o.moment n ∧ w.step .loop = none) ∨
    ∃ v, w.step .loop = some v ∧
      ((∃ st', v.now = w.now ∧ o.At st' f v ∧ st'.rank o < st.rank o ∧
        (st'.joined o = st.joined o ∨ o.Joins w v)) ∨ st.joined o = true ∧ o.SetsUp w v) := by
  have hfew := h.few
  cases st with
  | top n joined =>
    cases joined with
    | false =>
      by_cases hn : n < o.beforeJoin
      · obtain ⟨v, hs, hnow, hv⟩ := h.fails_to_join hn
        have hlt : n < o.failures := hn.trans_le (Nat.le_add_right ..)
        refine .inr ⟨v, hs, .inl ⟨_, hnow, hv, ?_, .inl ?_⟩⟩
        · simp only [Stage.rank]
          omega
        · simp [Stage.joined, Nat.not_lt.mpr hn]
      · obtain ⟨v, hs, hnow, hv, hj⟩ := h.joins hn
        exact .inr ⟨v, hs, .inl ⟨_, hnow, hv, Nat.lt_succ_self _, .inr hj⟩⟩
    | true =>
      obtain ⟨v, hs, hnow, hv⟩ := h.serves hfit
      exact .inr ⟨v, hs, .inl ⟨_, hnow, hv, Nat.lt_succ_self _, .inl rfl⟩⟩
  | calling n =>
    by_cases hn : n < o.failures
    · obtain ⟨v, hs, hnow, hv⟩ := h.refused_by hn
      exact .inr ⟨v, hs, .inl ⟨_, hnow, hv, Nat.lt_succ_self _, .inl rfl⟩⟩
    · obtain ⟨v, hs, hv⟩ := h.begins hn
      exact .inr ⟨v, hs, .inr ⟨rfl, hv⟩⟩
  | refused n =>
    obtain ⟨v, hs, hnow, hv⟩ := h.tells
    have hlt : n < o.failures := hv.few
    refine .inr ⟨v, hs, .inl ⟨_, hnow, hv, ?_, .inl ?_⟩⟩
    · simp only [Stage.rank]
      omega
    · cases h with
      | refused _ hj => simp [Stage.joined, Nat.lt_succ_of_le hj]
  | pausing n =>
    by_cases hn : w.now < o.moment n
    · exact .inl ⟨n, rfl, hn, h.waits hn⟩
    · obtain ⟨v, hs, hnow, hv⟩ := h.resumes hn
      refine .inr ⟨v, hs, .inl ⟨_, hnow, hv, ?_, .inl rfl⟩⟩
      cases decide (o.beforeJoin < n) <;> exact Nat.add_lt_add_left (by decide) _

/-- While no task can move time goes on, up to the end of the pause. -/
theorem At.tick (h : o.At st f w) (hfit : Pending.fits o.settings.maxUndelivered = true)
    (hset : w.Settled) {moment : Nat} (hall : ∀ e ∈ w.timers, moment ≤ e.1) :
    o.At st f (w.tickTo moment) ∧ w.now < o.moment o.failures := by
  rcases h.loop_moves hfit with ⟨n, rfl, hn, -⟩ | ⟨v, hs, -⟩
  · cases h with
    | pausing htry hlate htimers =>
      rw [if_pos hn] at htimers
      have hle : moment ≤ o.moment n := hall (o.moment n, .loop) (by rw [htimers]; simp)
      have hnow : max w.now moment ≤ o.moment n := Nat.max_le.mpr ⟨hn.le, hle⟩
      have hrefresh : max w.now moment < tickOf o.due := hnow.trans_lt (lt_tickOf_due htry.few)
      refine ⟨.pausing { htry with early := hnow } ?_ ?_, hn.trans_le (moment_le htry.few)⟩
      · exact hlate.trans (Nat.add_le_add_right (Nat.le_max_left ..) _)
      · show w.timers.filter (fun e => decide (max w.now moment < e.1)) =
          o.refreshTimer :: if max w.now moment < o.moment n then _ else _
        have hstays : max w.now moment < o.refreshTimer.1 := hrefresh
        generalize max w.now moment = now at hstays
        rw [htimers]
        by_cases hlater : now < o.moment n <;> simp [hstays, hlater]
  · rw [hset .loop] at hs
    cases hs

/-- Until the first session is set up a punctual run can go on. -/
theorem At.goes_on (h : o.At st f w) (hfit : Pending.fits o.settings.maxUndelivered = true) :
    ∃ v, w.Onward v := by
  by_cases hset : w.Settled
  · refine ⟨_, .tick (w.now + 1) hset (Nat.lt_succ_self _) fun e he => ?_⟩
    rcases h.loop_moves hfit with ⟨n, rfl, hn, -⟩ | ⟨v, hs, -⟩
    · cases h with
      | pausing htry _ htimers =>
        rw [if_pos hn] at htimers
        rw [htimers] at he
        rcases List.mem_cons.mp he with rfl | he
        · exact hn.trans (lt_tickOf_due htry.few)
        · cases List.mem_singleton.mp he
          exact hn
    · rw [hset .loop] at hs
      cases hs
  · obtain ⟨t, ht⟩ := not_forall.mp hset
    obtain ⟨v, hv⟩ := Option.ne_none_iff_exists'.mp ht
    exact ⟨v, .move t hv⟩

/-- What is left until the first session: moves of the loop, the move of the forwarder, and time. -/
def distance (o : Outage) (st : Stage) (f : Supervisor.Forwarder) (w : Relay) : Nat :=
  st.rank o + (if f = .watching 0 none then 1 else 0) + (o.moment o.failures - w.now)

/-- What a step comes to: less is left, and if it has joined the first group it has done so on time;
or the first session has been set up on time. -/
theorem At.onward (h : o.At st f w) (hfit : Pending.fits o.settings.maxUndelivered = true)
    (hs : w.Onward v) :
    (∃ st' g, o.At st' g v ∧ o.distance st' g v < o.distance st f w ∧
      (st'.joined o = st.joined o ∨ o.Joins w v)) ∨ st.joined o = true ∧ o.SetsUp w v := by
  cases hs with
  | move t hs =>
    by_cases ht : t = .loop
    · subst ht
      rcases h.loop_moves hfit with ⟨n, -, -, hnone⟩ | ⟨u, hu, hmove⟩
      · rw [hnone] at hs
        cases hs
      · cases hu.symm.trans hs
        refine hmove.imp_left fun ⟨st', hnow, hv, hrank, hj⟩ => ⟨st', f, hv, ?_, hj⟩
        unfold distance
        rw [hnow]
        omega
    · obtain ⟨-, rfl, hnow, r, hv⟩ := h.others ht hs
      refine .inl ⟨st, _, hv, ?_, .inl rfl⟩
      unfold distance
      rw [hnow, if_pos rfl, if_neg (by simp)]
      omega
  | tick moment hset hlt hall =>
    obtain ⟨hv, hnow⟩ := h.tick hfit hset hall
    refine .inl ⟨st, f, hv, ?_, .inl rfl⟩
    have hnow' : (w.tickTo moment).now = max w.now moment := rfl
    unfold distance
    rw [hnow']
    omega

/-! ## Runs -/

theorem broke_start (o : Outage) : o.Broke 0 false o.start.broker where
  catalog := rfl
  faults := by
    show o.faults = o.left 0
    simp [left]
  groups := ⟨.kept, rfl⟩
  connects := rfl
  closes := rfl
  consumes := (Nat.zero_sub _).symm

theorem at_start (o : Outage) : o.At (.top 0 false) (.watching 0 none) o.start := by
  have hnow : o.start.now = o.moment 0 := by
    unfold moment
    rw [Nat.zero_mul]
    rfl
  refine .top ?_ nofun (fun _ => Nat.zero_le _) hnow rfl
  exact {
    supervisor := rfl
    forwarder := .inl rfl
    broker := broke_start o
    books := rfl
    few := Nat.zero_le _
    unused := nofun
    callsEnded := nofun
    callers := rfl
    goesOn := rfl
    early := hnow.le }

/-- Before the first session everything is on time. -/
theorem At.onTime (h : o.At st f w) : o.OnTime st.shown w := by
  obtain ⟨m, loop, htry, hlate⟩ := h.shown
  obtain ⟨hcount, hshown, hsessions⟩ := books_told htry.few
  rw [← htry.books] at hcount hshown hsessions
  refine ⟨htry.few, hcount, hshown, hsessions, fun x hx => ?_, htry.early, hlate⟩
  rw [htry.unused x hx]
  rfl

/-- Before the first group it is not too late. -/
theorem At.unjoined (h : o.At st f w) (hj : st.joined o = false) : o.Unjoined w := by
  have hle : st.shown ≤ o.beforeJoin := by
    cases h with
    | top _ _ hle => exact hle hj
    | calling | refused => cases hj
    | pausing => exact Nat.le_of_not_lt (of_decide_eq_false hj)
  obtain ⟨m, loop, htry, -⟩ := h.shown
  rw [hj] at htry
  refine ⟨?_, ?_, htry.broker.connects, htry.early.trans (moment_le hle)⟩
  · rw [htry.supervisor]
    rfl
  · rw [htry.supervisor]
    rfl

/-- Every punctual run comes to the first session. -/
theorem At.sets_up (h : o.At st f w) (hfit : Pending.fits o.settings.maxUndelivered = true) :
    w.Inevitable fun y => ∃ x, o.SetsUp x y := by
  refine Inevitable.of_measure (I := fun k x => ∃ st f, o.At st f x ∧ o.distance st f x = k) ?_
    ⟨st, f, h, rfl⟩
  rintro k x ⟨st, f, hx, rfl⟩
  refine ⟨hx.goes_on hfit, fun y hy => ?_⟩
  rcases hx.onward hfit hy with ⟨st', g, hy', hlt, -⟩ | ⟨-, hset⟩
  · exact .inr ⟨_, hlt, st', g, hy', rfl⟩
  · exact .inl ⟨x, hset⟩

/-- Before the first group every punctual run comes to it. -/
theorem At.joins_soon (h : o.At st f w) (hj : st.joined o = false)
    (hfit : Pending.fits o.settings.maxUndelivered = true) :
    w.Inevitable fun y => ∃ x, o.Joins x y := by
  refine Inevitable.of_measure
    (I := fun k x => ∃ st f, o.At st f x ∧ st.joined o = false ∧ o.distance st f x = k) ?_
    ⟨st, f, h, hj, rfl⟩
  rintro k x ⟨st, f, hx, hj, rfl⟩
  refine ⟨hx.goes_on hfit, fun y hy => ?_⟩
  rcases hx.onward hfit hy with ⟨st', g, hy', hlt, hsame | hjoins⟩ | ⟨hjoined, -⟩
  · exact .inr ⟨_, hlt, st', g, hy', hsame.trans hj, rfl⟩
  · exact .inl ⟨x, hjoins⟩
  · rw [hj] at hjoined
    cases hjoined

/-- A punctual run has not come to the first session, or it has joined the first group and set the
first session up on its way. With a group it has joined that on its way. -/
theorem passed (hfit : Pending.fits o.settings.maxUndelivered = true) (h : o.start.Punctual v) :
    (∃ st f, o.At st f v ∧ (st.joined o = true → o.start.Through o.Joins v)) ∨
      o.start.Through o.Joins v ∧ o.start.Through o.SetsUp v := by
  induction h with
  | here => exact .inl ⟨_, _, at_start o, nofun⟩
  | @move x y t hx hs ih =>
    have hmove : x.Punctual y := .move t .here hs
    rcases ih with ⟨st, f, hat, hj⟩ | ⟨hjoins, hsetsUp⟩
    · rcases hat.onward hfit (.move t hs) with ⟨st', g, hy, -, hsame | hjoin⟩ | ⟨hjoined, hset⟩
      · exact .inl ⟨st', g, hy, fun hj' => (hj (hsame ▸ hj')).trans hmove⟩
      · exact .inl ⟨st', g, hy, fun _ => ⟨x, y, hx, hjoin, .here⟩⟩
      · exact .inr ⟨(hj hjoined).trans hmove, x, y, hx, hset, .here⟩
    · exact .inr ⟨hjoins.trans hmove, hsetsUp.trans hmove⟩
  | @tick x moment hx hset hall ih =>
    have htick : x.Punctual (x.tickTo moment) := .tick moment .here hset hall
    rcases ih with ⟨st, f, hat, hj⟩ | ⟨hjoins, hsetsUp⟩
    · exact .inl ⟨st, f, (hat.tick hfit hset hall).1, fun hj' => (hj hj').trans htick⟩
    · exact .inr ⟨hjoins.trans htick, hsetsUp.trans htick⟩

/-- **Out of an outage, on time.** A supervisor is started while the next lists of topics, then the
next connections, and then the next calls fail, each kind as often as you like. Nothing else happens,
time stands still while a task can move, and no refresh is due before the failures are used up. In
every such run, whatever the order of the tasks, the first group is joined after one delay for each
list and each connection that failed, and the first session is set up after one delay for each
failure, provided that there is room for its messages. A run that has not come so far is not late,
has shown each failure at its moment, and will come to it. One that has come so far has gone through
the step in question. At the moment of the first session every failure has been counted and shown
once, in order, one group has been joined and none left, and one call more has been made than failed. -/
theorem ridden_out (hfit : Pending.fits o.settings.maxUndelivered = true) (h : o.start.Punctual v) :
    (o.Unjoined v ∧ (v.Inevitable fun y => ∃ x, o.Joins x y) ∨ o.start.Through o.Joins v) ∧
    ((∃ n, o.OnTime n v) ∧ (v.Inevitable fun y => ∃ x, o.SetsUp x y) ∨
      o.start.Through o.SetsUp v) := by
  rcases passed hfit h with ⟨st, f, hat, hj⟩ | ⟨hjoins, hsetsUp⟩
  · refine ⟨?_, .inl ⟨⟨_, hat.onTime⟩, hat.sets_up hfit⟩⟩
    cases hjoined : st.joined o with
    | false => exact .inl ⟨hat.unjoined hjoined, hat.joins_soon hjoined hfit⟩
    | true => exact .inr (hj hjoined)
  · exact ⟨.inr hjoins, .inr hsetsUp⟩

/-- One list, two connections and one call fail. -/
def brief : Outage where
  settings := plainSettings
  catalog := [("t", 1)]
  logs := []
  faults := ⟨1, 2, 1, 0⟩
  began := 5
  delay := 10
  positive := by decide
  reconnectDelay := rfl
  matching := ⟨("t", 1), List.mem_singleton.mpr rfl, rfl⟩
  patient := by decide

/-- The start is at five milliseconds and the delay is ten: the group is joined at thirty-five, and
the session set up at forty-five. -/
theorem ridden_out_brief : ∃ w x y z, brief.start.Punctual w ∧ brief.Joins w x ∧ x.now = 35 ∧
    x.Punctual z ∧ brief.SetsUp y z ∧ z.now = 45 ∧ z.books.metrics.consumeErrors = 4 ∧
    z.broker.calls.consumes = 2 := by
  obtain ⟨-, hall⟩ := ridden_out (o := brief) (by decide) .here
  obtain ⟨y, z, hz, hset⟩ : ∃ y z, brief.start.Punctual z ∧ brief.SetsUp y z := by
    rcases hall with ⟨-, hsoon⟩ | ⟨y, z, hy, hset, -⟩
    · obtain ⟨z, hz, y, hset⟩ := hsoon.reached
      exact ⟨y, z, hz, hset⟩
    · exact ⟨y, z, .move .loop hy hset.step, hset⟩
  obtain ⟨⟨hnone, -⟩ | ⟨w, x, hw, hjoins, hx⟩, -⟩ := ridden_out (by decide) hz
  · -- with a session there is a group
    cases hnone.connects.symm.trans hset.connects
  · exact ⟨w, x, y, z, hw, hjoins, hjoins.moment, hx, hset, hset.moment, hset.counted, hset.consumes⟩

/-- As `brief`, without failures and with more messages than room can be made for. -/
def vast : Outage where
  settings := vastSettings
  catalog := [("t", 1)]
  logs := []
  faults := ⟨0, 0, 0, 0⟩
  began := 0
  delay := 10
  positive := by decide
  reconnectDelay := rfl
  matching := ⟨("t", 1), List.mem_singleton.mpr rfl, rfl⟩
  patient := by decide

/-- **No session at all.** The window of a session could be made, but not the room for its messages:
the consume loop crashes as soon as it has a group, and no call is ever made. -/
theorem crashed_loop_sets_nothing_up : Window.fits vast.settings.maxUndelivered = true ∧
    ∃ w, vast.start.Punctual w ∧ vast.moment vast.failures < w.now ∧
      w.books.metrics.sessions = 0 ∧ w.broker.calls.consumes = 0 ∧
      w.supervisor.map Supervisor.loop = some .crashed := by
  refine ⟨by decide, ?_⟩
  obtain ⟨a, b, c, ha, hb, hc, hset, htimers, hs, hn, hl⟩ : ∃ a b c, vast.start.step .loop = some a ∧
      a.step .forwarder = some b ∧ b.step .loop = some c ∧ c.isSettled = true ∧
      c.timers = [(60000, .refresher)] ∧ c.books.metrics.sessions = 0 ∧
      c.broker.calls.consumes = 0 ∧ c.supervisor.map Supervisor.loop = some .crashed :=
    ⟨_, _, _, rfl, rfl, rfl, rfl, rfl, rfl, rfl, rfl⟩
  have hrun : vast.start.Punctual c := .move _ (.move _ (.move _ .here ha) hb) hc
  refine ⟨c.tickTo 1, hrun.tick 1 (settled_of_isSettled hset) ?_, ?_, hs, hn, hl⟩
  · rw [htimers]
    decide
  · exact Nat.lt_of_lt_of_le (by decide) (Nat.le_max_right ..)

end Sluice.Outage
