import Sluice.Proofs.Consume.Tokens
import Sluice.Proofs.Relay.Hosting
import Sluice.Proofs.Session.Results
import Sluice.Proofs.Supervision.Frame
/-!
# Every step is a few changes

Whatever task of a supervised relay moves, and whatever happens from outside, the roster goes through
a few of the changes that `Roster.Change` lists. `Relay.moveNotices` and `Relay.eventNotices` read the
news of a step from the state before it.

* `changes_of_session`, `changes_of_call`, `changes_of_loop`, …: task by task.
* `changes_of_step`, `changes_of_event`: all tasks, and all events.
* `news_of_move`, `news_of_event`: what there can be in the news.
-/
namespace Sluice

/-! ## The moves of sessions -/

namespace Session
variable {r : Rules} {k : Nat} {s s' : Session} {b b' : Books}

/-- No claim comes or goes while the tasks of a session move, and only the confirmer's own moves
change what it does. -/
theorem post_of_move {t : Task} (ht : t ≠ .cleaner) (hm : Move r k s b t s' b') :
    s'.stage = s.stage ∧ s'.cancelled = s.cancelled ∧ s'.claims.length = s.claims.length ∧
      (s'.confirmer = s.confirmer ∨
        s.confirmer ≠ .absent ∧ s.confirmer ≠ .ended ∧ s'.confirmer ≠ .absent) := by
  cases hm with
  | turnBack | enter | join | leave | take | stop | oversize | unparsed =>
    exact ⟨rfl, rfl, List.length_modify .., .inl rfl⟩
  | fail =>
    exact ⟨rfl, rfl, (List.length_modify ..).trans (List.length_modify ..), .inl rfl⟩
  | submit =>
    unfold hold
    dsimp only
    split <;> exact ⟨rfl, rfl, List.length_modify .., .inl rfl⟩
  | dismissed hc | tune hc | attend hc | forgo hc | receive hc | letGo hc | drained hc =>
    exact ⟨rfl, rfl, rfl, .inr ⟨by simp [hc], by simp [hc], by simp⟩⟩
  | @result d sink hc =>
    obtain ⟨h1, h2, h3, h4, -⟩ :=
      apply_same k d { s with confirmer := .asking } (taken b sink)
    exact ⟨h1, h2, congrArg List.length h3, .inr ⟨by simp [hc], by simp [hc], by simp [h4]⟩⟩
  | @leftover d sink hc =>
    obtain ⟨h1, h2, h3, h4, -⟩ := apply_same k d s { b with sink := sink }
    exact ⟨h1, h2, congrArg List.length h3, .inl h4⟩
  | close => exact absurd rfl ht

/-- The tasks of a session count no swap and show one error at most. -/
theorem books_of_move {t : Task} (hm : Move r k s b t s' b') :
    b'.metrics.swaps = b.metrics.swaps ∧
      (b'.sink.errors = b.sink.errors ∨ ∃ e, b'.sink.errors = (b.sink.report e).errors) := by
  cases hm with
  | turnBack | enter | join | leave | take | stop | fail | dismissed | tune | attend | forgo
  | receive | letGo | drained | close => exact ⟨rfl, .inl rfl⟩
  | oversize => exact ⟨rfl, .inr ⟨_, rfl⟩⟩
  | unparsed => exact ⟨rfl, .inr ⟨_, rfl⟩⟩
  | submit => exact ⟨rfl, .inl (submit_errors _ _)⟩
  | @result d sink _ _ hd =>
    obtain ⟨q, -, rfl⟩ := nextDelivery_same hd
    obtain ⟨-, -, -, -, h1, h2⟩ := apply_same k d { s with confirmer := .asking }
      (taken b { b.sink with deliveries := q })
    exact ⟨h1, .inl (by rw [h2]; rfl)⟩
  | @leftover d sink _ hd =>
    obtain ⟨q, -, rfl⟩ := nextDelivery_same (nextDelivery_of_tryNext hd)
    obtain ⟨-, -, -, -, h1, h2⟩ := apply_same k d s
      { b with sink := { b.sink with deliveries := q } }
    exact ⟨h1, .inl (by rw [h2])⟩

end Session

namespace Relay
open Roster
variable {w v : Relay}

theorem changes_of_eq (h : v.roster = w.roster) : w.roster.Changes [] v.roster := h ▸ .none _

theorem changes_of_session {k : Nat} {t : Session.Task} (ht : t ≠ .cleaner)
    (hs : w.stepSession k t = some v) : w.roster.Changes [] v.roster := by
  unfold stepSession at hs
  split at hs
  · cases hs
  · next h hk =>
    obtain ⟨⟨s, b, xs⟩, hm, rfl⟩ := Option.map_eq_some_iff.mp hs
    have hm := Session.move_of_step hm
    obtain ⟨hst, hca, hcl, hco⟩ := Session.post_of_move ht hm
    obtain ⟨hsw, her⟩ := Session.books_of_move hm
    unfold settleMove
    rw [roster_foldl (roster_signal k)]
    have hp := roster_modifyHosted w k (f := fun h => { h with session := s })
      (g := fun p => { p with confirmer := s.confirmer }) fun x hx => by
        cases Option.some.inj (hk.symm.trans hx)
        simp only [Hosted.post, hst, hca, hcl]
    have hc : w.roster.Changes [] (w.modifyHosted k fun h => { h with session := s }).roster := by
      rw [hp]
      rcases hco with hco | ⟨h1, h2, h3⟩
      · rw [modifyPost_eq (posts_get hk) (g := fun p => p), modifyPost_same]
        · exact .none _
        · simp only [Hosted.post, hco]
      · exact Change.once (.confirm _ (posts_get hk) h1 h2 h3)
    refine hc.quietly ?_
    rcases her with her | ⟨e, her⟩
    · exact changes_of_eq (by simp only [roster, hsw, her]; rfl)
    · have := Change.report (R := (w.modifyHosted k fun h => { h with session := s }).roster) e
      refine cast ?_ this.once
      simp only [roster, hsw, her]
      rfl

/-- Feeders change nothing of the roster. -/
theorem roster_of_feeder {k i : Nat} {h : Hosted} {f : Feeder} {c : Claim}
    (hm : w.FeederMove k i h f c v) : v.roster = w.roster := by
  have hb := roster_broker w (Broker.tally_takeClaimFault w.broker)
  cases hm with
  | fail => rw [roster_endFeeder, roster_feed, hb]
  | begin => rw [roster_modifyFeeder, hb]
  | stop | desert => rw [roster_endFeeder]
  | park | block => rw [roster_modifyFeeder]
  | put => rw [roster_feed, roster_modifyFeeder]

/-! ## Calls -/

/-- A call sets its session up. -/
theorem changes_of_served {c : Nat} {x : ConsumeCall} {h : Hosted} (hx : w.calls[c]? = some x)
    (hp : x.phase = .fresh) (hk : w.sessions[x.session]? = some h) (hi : h.session.stage = .idle) :
    w.roster.Changes [] (w.served c x { h.session with
      stage := .active, confirmer := .asking, cancelled := w.isCancelled x.token }).roster := by
  have hb := roster_broker w (Broker.tally_beginConsume w.broker)
  unfold served
  dsimp only
  generalize hps : x.topics.flatMap _ = ps
  have hc := (Change.begin (R := w.roster) (w.isCancelled x.token) ps.length hx hp (posts_get hk) hi
    fun ht => by rw [ht]; rfl).once
  refine cast (congrArg (w.roster.Changes []) (Eq.symm ?_)) hc
  rw [roster_setCall, roster_assign, roster_wake, roster_modifyHosted (g := fun p =>
    ⟨.active, .asking, w.isCancelled x.token, x.token, some c, p.claims, p.feeders⟩),
    modifyPost_modifyPost]
  · exact congrArg (fun R : Roster => (R.modifyPost x.session _).setCall c _) hb
  · intro y hy
    cases Option.some.inj (hk.symm.trans hy)
    rfl

/-- A session goes over to another stage. -/
theorem roster_setStage {k : Nat} {h : Hosted} (hk : w.sessions[k]? = some h) (t : Session.Stage) :
    (w.modifyHosted k fun y => { y with session := { h.session with stage := t } }).roster =
      w.roster.modifyPost k fun p => { p with stage := t } :=
  roster_modifyHosted w k fun y hy => by
    cases Option.some.inj (hk.symm.trans hy)
    rfl

theorem changes_of_call {c : Nat} {x : ConsumeCall} (hx : w.calls[c]? = some x)
    (hm : w.CallMove c x v) : w.roster.Changes [] v.roster := by
  have hx' : w.roster.calls[c]? = some x := hx
  have hlook := fun rest => roster_modifyHosted_same w x.session
    (f := fun h => { h with ended := rest }) fun _ => rfl
  have hleave : ∀ {u : Relay}, u.roster = w.roster → ∀ failure, x.phase = .serving →
      w.roster.Changes [] (u.leaveCall c x failure).roster := fun hu failure hp => by
    unfold leaveCall
    rw [roster_setCall, roster_endSession, hu]
    exact (Change.leave failure hx' hp).once
  cases hm with
  | refuse hp => exact (Change.refuse _ hx' hp).once
  | fail failure hp =>
    unfold endCall
    rw [roster_setCall, roster_broker w (Broker.tally_beginConsume w.broker)]
    exact (Change.refuse failure hx' hp).once
  | unready e hp =>
    unfold endCall
    rw [roster_setCall, roster_unlist, roster_enlist,
      roster_broker w (Broker.tally_beginConsume w.broker)]
    exact (Change.refuse (some e) hx' hp).once
  | begin hp _ _ hk hi => exact changes_of_served hx hp hk hi
  | leave hp => exact hleave rfl _ hp
  | look => exact changes_of_eq (hlook _)
  | abort hp => exact hleave (hlook _) _ hp
  | drain hp hk _ _ ha =>
    rw [roster_setCall, roster_wake, roster_setStage hk]
    exact (Change.drain hx' hp (posts_get hk) ha).once
  | giveUp hp hk _ _ ha => exact (Change.giveUp _ hx' hp (posts_get hk) ha).once
  | close hp hk hd hc =>
    unfold endCall
    rw [roster_setCall, roster_unlist, roster_setStage hk]
    exact (Change.close hx' hp (posts_get hk) hd hc).once

/-! ## Refreshing -/

/-- What a refresh comes to: the topics are looked up, and at most one group is joined for them. It is
installed, or thrown away again after the end. -/
theorem refresh_cases {s : Supervisor} (hw : w.supervisor = some s) {o : Except RelayError Bool}
    (h : w.refresh s = (o, v)) :
    (o ≠ .ok true ∧ v.roster = w.roster.look) ∨
    (o = .ok false ∧ w.isStopped = true ∧ v.roster = w.roster.look.discard) ∨
    (o = .ok true ∧ w.isStopped = false ∧
      v.roster = w.roster.look.install s (s.settings.pattern.select w.broker.topics)) := by
  obtain ⟨hg, hcat, hcalls, hsel⟩ := Broker.select_same w.broker s.settings.pattern
  unfold refresh at h
  generalize w.broker.select s.settings.pattern = x at h hg hcat hcalls hsel
  obtain ⟨selected, b⟩ := x
  have hlook := roster_look w hg hcalls
  dsimp only at h
  split at h
  · cases h
    exact .inl ⟨nofun, hlook⟩
  · next topics =>
    cases hsel topics rfl
    split at h
    · cases h
      exact .inl ⟨nofun, hlook⟩
    · rcases roster_join { w with broker := b } with ⟨⟨e, he⟩, ht⟩ | ⟨hj, ht⟩ <;> rw [hlook] at ht
      · simp only [he] at h
        cases h
        exact .inl ⟨nofun, ht⟩
      · simp only [hj] at h
        have hn : w.roster.look.groups.length = b.groups.length := congrArg List.length hg.symm
        split at h
        · next hst =>
          cases h
          refine .inr (.inl ⟨rfl, hst, ?_⟩)
          have hd := roster_discard ht
          rwa [hn] at hd
        · next hst =>
          cases h
          refine .inr (.inr ⟨rfl, Bool.eq_false_iff.mpr hst, ?_⟩)
          have hi := roster_install (w := { w with broker := b.join.2 }) hw ht
            (s.settings.pattern.select w.broker.topics)
          rwa [hn] at hi

/-- The news of a refresh that is made now: there is some if it installs a group. -/
def refreshed (w : Relay) (s : Supervisor) : List Notice :=
  match (w.refresh s).1 with
  | .ok true => w.roster.succession s (s.settings.pattern.select w.broker.topics)
  | _ => []

theorem changes_of_refresh {s : Supervisor} (hw : w.supervisor = some s) :
    w.roster.Changes (w.refreshed s) (w.refresh s).2.roster := by
  have hlook : w.roster.Changes [] w.roster.look := Change.look.once
  unfold refreshed
  generalize hr : w.refresh s = x
  obtain ⟨o, v⟩ := x
  rcases refresh_cases hw hr with ⟨ho, hv⟩ | ⟨rfl, hst, hv⟩ | ⟨rfl, hst, hv⟩ <;> rw [hv]
  · split
    · next he => exact absurd he ho
    · exact hlook
  · exact hlook.quietly (Change.discard hst).once
  · exact hlook.quietly (Change.install (s := s) _ hw hst).once

/-- A refresh goes by the broker and the supervisor's token alone. -/
theorem refreshed_clearTimer (w : Relay) (t : Task) (s : Supervisor) :
    (w.clearTimer t).refreshed s = w.refreshed s := by
  have hr : ((w.clearTimer t).refresh s).1 = (w.refresh s).1 := by
    unfold refresh
    rw [show (w.clearTimer t).broker = w.broker from rfl]
    rcases w.broker.select s.settings.pattern with ⟨_ | topics, b⟩
    · rfl
    · dsimp only
      split
      · rfl
      · rcases b.join with ⟨_ | g, b⟩
        · rfl
        · have hst : ({ w.clearTimer t with broker := b } : Relay).isStopped =
              ({ w with broker := b } : Relay).isStopped := rfl
          dsimp only
          rw [hst]
          split <;> rfl
  unfold refreshed
  rw [hr]
  rfl

/-- A refresh leaves the supervisor's tasks to themselves. -/
theorem refresh_supervisor {s : Supervisor} (hw : w.supervisor = some s) {o : Except RelayError Bool}
    (h : w.refresh s = (o, v)) :
    ∃ s', v.supervisor = some s' ∧ s'.loop = s.loop ∧ s'.refresher = s.refresher ∧
      (o ≠ .ok true → s' = s) := by
  rcases refresh_cases hw h with ⟨ho, hv⟩ | ⟨rfl, -, hv⟩ | ⟨rfl, -, hv⟩
  · exact ⟨s, (congrArg Roster.supervisor hv).trans hw, rfl, rfl, fun _ => rfl⟩
  · exact ⟨s, (congrArg Roster.supervisor hv).trans hw, rfl, rfl, fun _ => rfl⟩
  · refine ⟨s.install (s.settings.pattern.select w.broker.topics) w.roster.groups.length,
      (congrArg Roster.supervisor hv).trans ?_, rfl, rfl, fun hn => absurd rfl hn⟩
    unfold Roster.install
    dsimp only
    split
    · rfl
    · unfold Roster.leave
      split <;> rfl

/-! ## The tasks of the supervisor -/

section Supervised
variable {s : Supervisor} (hw : w.supervisor = some s)
include hw

theorem changes_of_pause (hf : w.roster.IsFree s.loop) :
    w.roster.Changes [] (w.pause s).roster := by
  obtain ⟨moment, hp⟩ := roster_pause hw
  rw [hp]
  exact (Change.turn _ hw hf (.inr ⟨moment, rfl⟩)).once

theorem changes_of_retry (hf : w.roster.IsFree s.loop) (e : RelayError) :
    w.roster.Changes [] (w.retry s e).roster := by
  obtain ⟨moment, hp⟩ := roster_retry hw e
  rw [hp]
  exact (Change.report e).once.quietly
    (Change.turn (R := w.roster.report e) _ hw hf (.inr ⟨moment, rfl⟩)).once

theorem changes_of_top (hf : w.roster.IsFree s.loop) :
    w.roster.Changes [] (w.setLoop .top).roster := by
  rw [roster_setLoop hw]
  exact (Change.turn _ hw hf (.inl rfl)).once

theorem changes_of_endLoop (hst : w.isStopped = true) (hf : w.roster.IsFree s.loop) :
    w.roster.Changes [] (w.endLoop s).roster := by
  rw [roster_endLoop hw]
  exact (Change.endLoop hw hst hf).once

theorem changes_of_serve {g : Nat} (hst : w.isStopped = false) (ht : s.loop = .top)
    (hg : s.group = some g) : w.roster.Changes [] (w.serve s g).roster := by
  by_cases hfit : Pending.fits s.settings.maxUndelivered = true
  · rw [roster_serve hw g hfit]
    exact (Change.serve hw ht hg hst).once
  · rw [Bool.not_eq_true] at hfit
    unfold serve
    simp only [hfit, Bool.not_false, if_true]
    rw [roster_wakeCallers, roster_setLoop hw]
    exact (Change.crash hw ht hfit).once

end Supervised

/-- The news of the next move of the consume loop: it may join the first group. -/
def loopNotices (w : Relay) (s : Supervisor) : List Notice :=
  if s.loop = .top ∧ w.isStopped = false ∧ s.group = none then w.refreshed s else []

theorem changes_of_loop {s : Supervisor} (hw : w.supervisor = some s) (hm : w.LoopMove s v) :
    w.roster.Changes (w.loopNotices s) v.roster := by
  have hr := changes_of_refresh hw
  have hended : ∀ {c n x failure}, s.loop = .serving c n → w.calls[c]? = some x →
      x.phase = .ended failure → w.roster.IsFree s.loop := fun hl hx hp => by
    rw [hl]
    exact ⟨_, _, hx, hp⟩
  unfold loopNotices
  cases hm with
  | stop hst hl =>
    rw [if_neg (by simp [hst])]
    refine changes_of_endLoop hw hst ?_
    rcases hl with hl | ⟨moment, hl⟩ | ⟨c, n, x, e, hl, hx, hp⟩
    · rw [hl]
      trivial
    · rw [hl]
      trivial
    · exact hended hl hx hp
  | join hl hst hg e =>
    rw [e] at hr
    rwa [if_pos ⟨hl, hst, hg⟩]
  | joinFails hl hst hg e =>
    obtain ⟨s', hs', -, -, hsame⟩ := refresh_supervisor hw e
    cases hsame nofun
    rw [e] at hr
    rw [if_pos ⟨hl, hst, hg⟩]
    refine hr.andQuietly (changes_of_retry hs' ?_ _)
    rw [hl]
    trivial
  | idle hl _ hg =>
    rw [if_neg (by simp [hg])]
    refine changes_of_pause hw ?_
    rw [hl]
    trivial
  | serve hl hst hg =>
    rw [if_neg (by simp [hg])]
    exact changes_of_serve hw hst hl hg
  | resume hl =>
    rw [if_neg (by simp [hl])]
    refine changes_of_top (w := w.clearTimer .loop) hw ?_
    rw [hl]
    trivial
  | call hl hx hm =>
    rw [if_neg (by simp [hl])]
    exact changes_of_call hx hm
  | finish hl hx hp =>
    rw [if_neg (by simp [hl])]
    exact changes_of_top hw (hended hl hx hp)
  | retry hl hx hp =>
    rw [if_neg (by simp [hl])]
    exact changes_of_retry hw (hended hl hx hp) _

/-- The news of the next move of the forwarder: it may pass on an error. -/
def forwarderNotices (w : Relay) (s : Supervisor) : List Notice :=
  match s.forwarder with
  | .watching seen (some g) =>
    if w.isStopped = false ∧ s.generation = seen then
      (w.roster.unread g).take 1 |>.map (.forwarded g)
    else []
  | _ => []

theorem forwarderNotices_of_stopped {s : Supervisor} (hst : w.isStopped = true) :
    w.forwarderNotices s = [] := by
  unfold forwarderNotices
  split
  · rw [if_neg (by simp [hst])]
  · rfl

theorem forwarderNotices_of_outdated {s : Supervisor} {seen : Nat} {reading : Option Nat}
    (hf : s.forwarder = .watching seen reading) (hg : s.generation ≠ seen) :
    w.forwarderNotices s = [] := by
  cases reading <;> simp [forwarderNotices, hf, hg]

theorem forwarderNotices_of_unread {s : Supervisor} {g : Nat} {e : RelayError}
    {rest : List RelayError} (hf : s.forwarder = .watching s.generation (some g))
    (hst : w.isStopped = false) (hu : w.roster.unread g = e :: rest) :
    w.forwarderNotices s = [.forwarded g e] := by
  simp [forwarderNotices, hf, hst, hu]

theorem changes_of_forwarder {s : Supervisor} (hw : w.supervisor = some s)
    (hm : w.ForwarderMove s v) : w.roster.Changes (w.forwarderNotices s) v.roster := by
  cases hm with
  | stop hf hst =>
    rw [forwarderNotices_of_stopped hst, roster_endForwarder hw]
    exact (Change.endForwarder hw hst hf).once
  | follow hf hst hg =>
    rw [forwarderNotices_of_outdated hf hg, roster_follow hw]
    exact (Change.follow hw hst hf hg).once
  | forward hf hst hu =>
    rw [forwarderNotices_of_unread hf hst hu]
    exact (Change.forward (R := w.roster) hw hst hf hu).once

/-- The news of the next move of the refresher: a refresh may install a group. -/
def refresherNotices (w : Relay) (s : Supervisor) : List Notice :=
  match s.refresher with
  | .waiting due => if w.isStopped = false ∧ tickOf due ≤ w.now then w.refreshed s else []
  | .ended => []

theorem changes_of_refresher {s : Supervisor} (hw : w.supervisor = some s)
    (hm : w.RefresherMove s v) : w.roster.Changes (w.refresherNotices s) v.roster := by
  have hr := changes_of_refresh (w := w.clearTimer .refresher) hw
  rw [refreshed_clearTimer, roster_clearTimer] at hr
  unfold refresherNotices
  cases hm with
  | stop hre hst =>
    simp only [hre]
    rw [if_neg (by simp [hst]), roster_wakeCallers,
      roster_modifySupervisor (w := w.clearTimer .refresher) hw]
    exact (Change.endRefresher hw hst).once
  | refresh next hre hst hdue e =>
    obtain ⟨s', hs', -, hre', -⟩ := refresh_supervisor (w := w.clearTimer .refresher) hw e
    rw [e] at hr
    simp only [hre]
    rw [if_pos ⟨hst, hdue⟩, roster_setTimer, roster_modifySupervisor hs']
    exact hr.andQuietly (Change.postpone _ hs' (hre'.trans hre)).once
  | @refreshFails _ next e u hre hst hdue he =>
    obtain ⟨s', hs', -, hre', -⟩ := refresh_supervisor (w := w.clearTimer .refresher) hw he
    rw [he] at hr
    simp only [hre]
    rw [if_pos ⟨hst, hdue⟩, roster_setTimer, roster_modifySupervisor (w := u.report e) hs',
      roster_report]
    exact hr.andQuietly ((Change.report e).once.quietly
      (Change.postpone (R := u.roster.report e) _ hs' (hre'.trans hre)).once)

/-! ## Callers -/

theorem changes_of_cancel (w : Relay) : w.roster.Changes [] (w.cancel rootToken).roster := by
  rw [roster_cancel]
  split
  · exact .none _
  · exact Change.stop.once

theorem changes_of_reap (w : Relay) : w.roster.Changes [] w.reap.roster := by
  unfold reap
  split
  · exact changes_of_cancel w
  · exact .none _

/-- Whoever gets an answer may have been the last that had the supervisor. -/
theorem changes_of_answer {i : Nat} {b : Bool}
    (hc : w.roster.Change [] (w.roster.setCaller i (.done b))) :
    w.roster.Changes [] (w.answer i b).roster :=
  hc.once.quietly (changes_of_reap (w.setCaller i (.done b)))

theorem changes_of_abandon (w : Relay) (i : Nat) : w.roster.Changes [] (w.abandon i).roster := by
  unfold abandon
  split
  · exact .none _
  · next c hc =>
    split
    · exact .none _
    · next he =>
      exact (Change.abandon (R := w.roster) hc (Bool.eq_false_iff.mpr he)).once.quietly
        (changes_of_reap (w.setCaller i .abandoned))

/-- A caller that asks for the end of the tasks takes over to wait for it, or somebody else has. -/
theorem changes_of_takeOver {s : Supervisor} (hw : w.supervisor = some s) {i : Nat} {c : Caller}
    (hc : w.callers[i]? = some c) (hk : c.kind ≠ .connected) (hp : c.phase = .fresh)
    (hst : c.kind = .shutdown → w.isStopped = true) :
    w.roster.Changes [] (w.takeOver s i).roster := by
  have hc' : w.roster.callers[i]? = some c := hc
  unfold takeOver
  split
  · next ha =>
    exact changes_of_answer (.answer true hw hc' (.inr (.inl ⟨hp, ha, hst⟩)))
  · next ha =>
    rw [roster_setCaller, roster_modifySupervisor hw]
    exact (Change.takeOver hw hc' hk hp (Bool.eq_false_iff.mpr ha) hst).once

theorem supervisor_cancel (w : Relay) : (w.cancel rootToken).supervisor = w.supervisor := by
  refine (congrArg Roster.supervisor (roster_cancel w)).trans ?_
  split <;> rfl

theorem callers_cancel (w : Relay) : (w.cancel rootToken).callers = w.callers := by
  refine (congrArg Roster.callers (roster_cancel w)).trans ?_
  split <;> rfl

theorem isStopped_cancel (w : Relay) : (w.cancel rootToken).isStopped = true := by
  have h := congrArg Roster.stopped (roster_cancel w)
  split at h
  · next hst => exact h.trans hst
  · exact h

theorem changes_of_caller {s : Supervisor} (hw : w.supervisor = some s) {i : Nat}
    (hm : w.CallerMove s i v) : w.roster.Changes [] v.roster := by
  cases hm with
  | refuse hc => exact changes_of_answer (.answer false hw hc (.inl rfl))
  | grant hc => exact changes_of_answer (.answer true hw hc (.inl rfl))
  | wait hc => exact (Change.wait (R := w.roster) hc).once
  | finish hc => exact changes_of_takeOver hw hc (by simp) rfl nofun
  | shutdown hc =>
    have hcal : (w.cancel rootToken).callers[i]? = some ⟨.shutdown, .fresh⟩ := by
      rw [callers_cancel]
      exact hc
    exact (changes_of_cancel w).quietly (changes_of_takeOver ((supervisor_cancel w).trans hw) hcal
      (by simp) rfl fun _ => isStopped_cancel w)
  | done hc _ he => exact changes_of_answer (.answer true hw hc (.inr (.inr ⟨rfl, he⟩)))

/-! ## Whatever moves, and whatever happens -/

/-- The news of the next move of a task. -/
def moveNotices (w : Relay) (t : Task) : List Notice :=
  match t, w.supervisor with
  | .loop, some s => w.loopNotices s
  | .forwarder, some s => w.forwarderNotices s
  | .refresher, some s => w.refresherNotices s
  | _, _ => []

/-- The news of an event: the newest group may take an error, and a refresh may install a group. -/
def eventNotices (w : Relay) : Event → List Notice
  | .groupError text =>
    if (w.groupError text).1 then [.accepted (w.broker.groups.length - 1) (.connection text)] else []
  | .refresh => (w.supervisor.map w.refreshed).getD []
  | _ => []

/-- A move makes the news of a refresh, or the forwarder passes on one error. -/
theorem news_of_move {s : Supervisor} (hw : w.supervisor = some s) (t : Task) :
    w.moveNotices t = w.refreshed s ∨
      (∃ g e, t = .forwarder ∧ w.moveNotices t = [.forwarded g e]) ∨ w.moveNotices t = [] := by
  unfold moveNotices
  rw [hw]
  cases t with
  | claim | feeder | straggler | confirmer | consume | caller => exact .inr (.inr rfl)
  | loop =>
    dsimp only
    unfold loopNotices
    split
    · exact .inl rfl
    · exact .inr (.inr rfl)
  | forwarder =>
    dsimp only
    unfold forwarderNotices
    split
    · next g hg =>
      split
      · cases w.roster.unread g with
        | nil => exact .inr (.inr rfl)
        | cons e rest => exact .inr (.inl ⟨g, e, rfl, rfl⟩)
      · exact .inr (.inr rfl)
    · exact .inr (.inr rfl)
  | refresher =>
    dsimp only
    unfold refresherNotices
    split
    · split
      · exact .inl rfl
      · exact .inr (.inr rfl)
    · exact .inr (.inr rfl)

/-- An event makes the news of a refresh, or the newest group takes one error. -/
theorem news_of_event {s : Supervisor} (hw : w.supervisor = some s) (e : Event) :
    w.eventNotices e = w.refreshed s ∨
      (∃ text, w.broker.groups ≠ [] ∧
        w.eventNotices e = [.accepted (w.broker.groups.length - 1) (.connection text)]) ∨
      w.eventNotices e = [] := by
  unfold eventNotices
  rw [hw]
  cases e with
  | refresh => exact .inl rfl
  | groupError text =>
    dsimp only
    split
    · next ht =>
      refine .inr (.inl ⟨text, fun hg => ?_, rfl⟩)
      simp only [groupError, Broker.groupError, hg, List.getLast?_nil] at ht
      split at ht <;> cases ht
    · exact .inr (.inr rfl)
  | createTopic | deleteTopic | produce | script | rebalance | confirm | receive | closeOutput
  | cancel | call | abandon | drop | tick => exact .inr (.inr rfl)

/-- A refresh installs a group for the topics that match, or makes no news. -/
theorem refreshed_cases (w : Relay) (s : Supervisor) :
    w.refreshed s = w.roster.succession s (s.settings.pattern.select w.broker.topics) ∨
      w.refreshed s = [] := by
  unfold refreshed
  split
  · exact .inl rfl
  · exact .inr rfl

theorem changes_of_step {s : Supervisor} (hw : w.supervisor = some s) {t : Task}
    (hs : w.step t = some v) : w.roster.Changes (w.moveNotices t) v.roster := by
  unfold moveNotices
  rw [hw]
  cases move_of_step hs with
  | claim hs | confirmer hs => exact changes_of_session (by simp) hs
  | feeder _ _ _ hm | straggler _ _ _ hm => exact changes_of_eq (roster_of_feeder hm)
  | call _ hx hm => exact changes_of_call hx hm
  | loop hw' hm =>
    cases Option.some.inj (hw.symm.trans hw')
    exact changes_of_loop hw hm
  | forwarder hw' hm =>
    cases Option.some.inj (hw.symm.trans hw')
    exact changes_of_forwarder hw hm
  | refresher hw' hm =>
    cases Option.some.inj (hw.symm.trans hw')
    exact changes_of_refresher hw hm
  | caller hw hm => exact changes_of_caller hw hm

theorem changes_of_groupError (w : Relay) (text : String) :
    w.roster.Changes (w.eventNotices (.groupError text)) (w.groupError text).2.roster := by
  unfold eventNotices groupError
  dsimp only
  split
  · exact .none _
  · unfold Broker.groupError
    cases hg : w.broker.groups.getLast? with
    | none => exact .none _
    | some x =>
      dsimp only
      split
      · next hx => exact (Change.accept (R := w.roster) _ hg hx.1).once
      · exact .none _

theorem changes_of_event {s : Supervisor} (hl : w.ground.Enlisted) (hw : w.supervisor = some s)
    (e : Event) : w.roster.Changes (w.eventNotices e) (w.apply e).roster := by
  cases e with
  | createTopic name n =>
    refine changes_of_eq (roster_broker w ?_)
    unfold Broker.createTopic
    split <;> rfl
  | deleteTopic | script | closeOutput | tick | produce => exact .none _
  | rebalance =>
    show w.roster.Changes [] w.rebalance.roster
    rw [roster_rebalance w (fun k hk h hh => hl.hosted_of_recalled hk hh) fun k hk => ?_]
    · exact Change.rebalance.once
    · unfold isServed at hk
      split at hk
      · cases hk
      · next h hh =>
        simp only [Bool.and_eq_true, Bool.not_eq_true', Option.isSome_iff_exists] at hk
        obtain ⟨⟨c, hc⟩, hn⟩ := hk
        exact hl.recalled_of_served hh hc hn
  | groupError text => exact changes_of_groupError w text
  | confirm d => exact changes_of_eq (roster_wakeReader _)
  | receive =>
    refine changes_of_eq ?_
    unfold apply
    dsimp only
    split
    · next hr =>
      obtain ⟨⟨x, q⟩, -, he⟩ := Option.map_eq_some_iff.mp hr
      cases he
      rfl
    · rfl
  | refresh =>
    unfold eventNotices apply refreshNow
    rw [hw]
    exact changes_of_refresh hw
  | cancel => exact changes_of_cancel w
  | call kind => exact (Change.call kind).once
  | abandon i => exact changes_of_abandon w i
  | drop =>
    show w.roster.Changes [] w.drop.roster
    unfold drop
    have hc := (Change.release (R := w.roster) hw).once
    rw [← roster_modifySupervisor hw fun s => { s with held := false }] at hc
    exact hc.quietly (changes_of_reap _)

end Relay
end Sluice
