import Sluice.Proofs.Supervision.Chronicle
/-!
# The scene of a relay

Of a relay, `Relay.scene` keeps the clock, who has the stream of results, and how far every session
and its confirmer have come. Waking tasks, ending sessions, refreshing topics and answering callers
leave it as it is. `Scene.Turn` lists all that everything but the tasks of sessions can do to it.

* `scene_modifyHosted`: what a change of one session does to the scene.
* `turn_of_step`, `scene_of_event`: what other tasks than those of sessions, and events, do to it.
-/
namespace Sluice

/-- How far a session and its confirmer have come. -/
abbrev Standing := Session.Stage × Session.Confirmer

/-- The clock, who has the stream of results, and where all sessions stand. -/
structure Scene where
  now : Nat
  stream : Window
  standings : List Standing

/-- Where a session stands. -/
def Hosted.standing (h : Hosted) : Standing := (h.session.stage, h.session.confirmer)

/-- The scene of a relay. -/
def Relay.scene (w : Relay) : Scene :=
  ⟨w.now, w.books.sink.stream, w.sessions.map Hosted.standing⟩

namespace Scene

/-- Session `k` or its confirmer goes on. -/
def modify (S : Scene) (k : Nat) (f : Standing → Standing) : Scene :=
  { S with standings := S.standings.modify k f }

/-- What everything but the tasks of sessions can do to the scene of a moment. -/
inductive Turn (S : Scene) : Scene → Prop where
  | nothing : Turn S S
  /-- A session is added. -/
  | enlist : Turn S { S with standings := S.standings ++ [(.idle, .absent)] }
  /-- A session is set up. -/
  | setup {k c} : S.standings[k]? = some (.idle, c) →
      Turn S (S.modify k fun _ => (.active, .asking))
  /-- A session is about to be cleaned up. -/
  | drain {k c} : S.standings[k]? = some (.active, c) →
      Turn S (S.modify k fun _ => (.draining, c))
  /-- A session has been cleaned up. -/
  | close {k} : S.standings[k]? = some (.draining, .ended) →
      Turn S (S.modify k fun _ => (.closed, .ended))

theorem Turn.of_eq {S T U : Scene} (h : S.Turn T) (e : U = T) : S.Turn U := e ▸ h

theorem Turn.now_eq {S T : Scene} (h : S.Turn T) : T.now = S.now := by
  cases h <;> rfl

end Scene

namespace Relay
variable {w v : Relay} {k : Nat} {h : Hosted}

theorem turn_of_eq (h : v.scene = w.scene) : w.scene.Turn v.scene := Scene.Turn.nothing.of_eq h

theorem standings_get (hk : w.sessions[k]? = some h) :
    w.scene.standings[k]? = some (h.session.stage, h.session.confirmer) := by
  simp [scene, hk, Hosted.standing]

/-! ## Changing one part -/

theorem scene_modifyHosted (w : Relay) (k : Nat) {f : Hosted → Hosted} {g : Standing → Standing}
    (h : ∀ x, w.sessions[k]? = some x → (f x).standing = g x.standing) :
    (w.modifyHosted k f).scene = w.scene.modify k g := by
  unfold modifyHosted scene Scene.modify
  rw [map_modify w.sessions k h]

theorem scene_modifyHosted_same (w : Relay) (k : Nat) {f : Hosted → Hosted}
    (h : ∀ x, (f x).standing = x.standing) : (w.modifyHosted k f).scene = w.scene := by
  rw [scene_modifyHosted w k (g := id) fun x _ => h x]
  unfold Scene.modify
  rw [List.modify_id]

@[simp] theorem scene_modifyFeeder (w : Relay) (k i : Nat) (f : Feeder → Feeder) :
    (w.modifyFeeder k i f).scene = w.scene := scene_modifyHosted_same w k fun _ => rfl

@[simp] theorem scene_modifyClaim (w : Relay) (k i : Nat) (f : Claim → Claim) :
    (w.modifyClaim k i f).scene = w.scene := scene_modifyHosted_same w k fun _ => rfl

theorem scene_broker (w : Relay) (b : Broker) : ({ w with broker := b } : Relay).scene = w.scene :=
  rfl

@[simp] theorem scene_setCall (w : Relay) (c : Nat) (p : ConsumeCall.Phase) :
    (w.setCall c p).scene = w.scene := rfl

@[simp] theorem scene_setLoop (w : Relay) (l : Supervisor.Loop) : (w.setLoop l).scene = w.scene :=
  rfl

@[simp] theorem scene_clearTimer (w : Relay) (t : Task) : (w.clearTimer t).scene = w.scene := rfl

@[simp] theorem scene_wakeCall (w : Relay) (c : Nat) : (w.wakeCall c).scene = w.scene := by
  unfold wakeCall
  split <;> rfl

@[simp] theorem scene_wakeHost (w : Relay) (k : Nat) : (w.wakeHost k).scene = w.scene := by
  unfold wakeHost
  split
  · rfl
  · exact scene_wakeCall w _

@[simp] theorem scene_wakeClaim (w : Relay) (k i : Nat) : (w.wakeClaim k i).scene = w.scene := by
  unfold wakeClaim
  split <;> rfl

@[simp] theorem scene_wakeFeeder (w : Relay) (k i : Nat) : (w.wakeFeeder k i).scene = w.scene := by
  unfold wakeFeeder
  split <;> rfl

@[simp] theorem scene_wakeReader (w : Relay) : w.wakeReader.scene = w.scene := by
  unfold wakeReader
  split <;> rfl

@[simp] theorem scene_wakeAll (w : Relay) (ts : List Task) : (w.wakeAll ts).scene = w.scene := rfl

@[simp] theorem scene_wakeCallers (w : Relay) : w.wakeCallers.scene = w.scene := rfl

@[simp] theorem scene_wakeLeavingHost (w : Relay) (k : Nat) :
    (w.wakeLeavingHost k).scene = w.scene := by
  unfold wakeLeavingHost
  split
  · exact scene_wakeHost w k
  · rfl

@[simp] theorem scene_signal (k : Nat) (w : Relay) (x : Session.Signal) :
    (signal k w x).scene = w.scene := by
  cases x with
  | claim | stream => rfl
  | delivery => exact scene_wakeReader w
  | room i => exact scene_wakeFeeder w k i
  | ended i =>
    unfold signal
    rw [scene_wakeHost, scene_wakeFeeder]
    exact scene_modifyHosted_same w k fun _ => rfl
  | confirmed => exact scene_wakeHost w k

/-- A fold of moves that are none of the scene's. -/
theorem scene_foldl {α : Type} {f : Relay → α → Relay} (h : ∀ w a, (f w a).scene = w.scene)
    (xs : List α) (w : Relay) : (xs.foldl f w).scene = w.scene := by
  induction xs generalizing w with
  | nil => rfl
  | cons x xs ih => exact (ih (f w x)).trans (h w x)

/-! ## Feeders and calls -/

@[simp] theorem scene_endFeeder (w : Relay) (k i : Nat) : (w.endFeeder k i).scene = w.scene := by
  unfold endFeeder
  rw [scene_wakeLeavingHost, scene_wakeClaim, scene_modifyClaim, scene_modifyFeeder]

@[simp] theorem scene_feed (w : Relay) (k i : Nat) (x : Item) : (w.feed k i x).scene = w.scene := by
  unfold feed
  rw [scene_wakeClaim, scene_modifyClaim]

theorem scene_of_feeder {i : Nat} {h : Hosted} {f : Feeder} {c : Claim}
    (hm : w.FeederMove k i h f c v) : v.scene = w.scene := by
  cases hm with
  | fail =>
    rw [scene_endFeeder, scene_feed]
    rfl
  | begin =>
    rw [scene_modifyFeeder]
    rfl
  | stop | desert => rw [scene_endFeeder]
  | park | block => rw [scene_modifyFeeder]
  | put => rw [scene_feed, scene_modifyFeeder]

@[simp] theorem scene_endSession (w : Relay) (k : Nat) : (w.endSession k).scene = w.scene := by
  unfold endSession
  split
  · rfl
  · split
    · rfl
    · rw [scene_wakeHost]
      exact scene_modifyHosted_same w k fun _ => rfl

@[simp] theorem scene_leaveGroup (w : Relay) (g : Nat) : (w.leaveGroup g).scene = w.scene := by
  unfold leaveGroup
  split
  · rfl
  · rw [scene_foldl scene_wakeCall]
    rfl

/-- Every claim of a session is started alike. -/
theorem scene_assign (w : Relay) (k : Nat) (ps : List Partition) :
    (w.assign k ps).scene = w.scene := by
  unfold assign
  refine (scene_modifyHosted_same w k fun h => ?_ :)
  rw [Session.starts_eq]
  rfl

/-- A call sets its session up. -/
theorem turn_of_served {c : Nat} {x : ConsumeCall} {s : Session}
    (hk : w.sessions[x.session]? = some h) (hi : h.session.stage = .idle) (hs : s.stage = .active)
    (hc : s.confirmer = .asking) : w.scene.Turn (w.served c x s).scene := by
  have hget := standings_get hk
  rw [hi] at hget
  refine (Scene.Turn.setup hget).of_eq ?_
  unfold served
  rw [scene_setCall, scene_assign]
  exact scene_modifyHosted { w with
    books := w.books.count .session
    broker := w.broker.beginConsume.2 } x.session fun _ _ => congrArg₂ Prod.mk hs hc

theorem turn_of_call {c : Nat} {x : ConsumeCall} (hm : w.CallMove c x v) :
    w.scene.Turn v.scene := by
  have hlook := fun rest => scene_modifyHosted_same w x.session
    (f := fun h => { h with ended := rest }) fun _ => rfl
  cases hm with
  | refuse | fail | unready | giveUp => exact .nothing
  | begin _ _ _ hk hi => exact turn_of_served hk hi rfl rfl
  | leave => exact turn_of_eq (scene_endSession w x.session)
  | look => exact turn_of_eq (hlook _)
  | abort => exact turn_of_eq ((scene_endSession _ x.session).trans (hlook _))
  | drain _ hk _ _ ha =>
    have hget := standings_get hk
    rw [ha] at hget
    refine (Scene.Turn.drain hget).of_eq ?_
    exact scene_modifyHosted w x.session fun _ _ => rfl
  | close _ hk hd hc =>
    have hget := standings_get hk
    rw [hd, hc] at hget
    refine (Scene.Turn.close hget).of_eq ?_
    exact scene_modifyHosted w x.session fun y hy => by
      cases Option.some.inj (hk.symm.trans hy)
      exact congrArg (Session.Stage.closed, ·) hc

/-! ## The supervisor and its callers -/

theorem scene_rebalance (w : Relay) : w.rebalance.scene = w.scene :=
  scene_foldl scene_endSession _ { w with listed := [] }

@[simp] theorem scene_cancel (w : Relay) (token : Nat) : (w.cancel token).scene = w.scene := by
  unfold cancel
  split
  · rfl
  · have h := scene_foldl scene_endSession
    dsimp only
    split
    · rw [scene_wakeCallers, scene_wakeAll, h]
      rfl
    · rw [h]
      rfl

theorem scene_install (w : Relay) (s : Supervisor) (topics : List String) (group : Nat) :
    (w.install s topics group).scene = w.scene := by
  unfold install
  dsimp only
  split
  · rfl
  · rw [scene_leaveGroup]
    rfl

theorem scene_refresh (w : Relay) (s : Supervisor) : (w.refresh s).2.scene = w.scene := by
  unfold refresh
  dsimp only
  split
  · rfl
  · split
    · rfl
    · split
      · rfl
      · split
        · rw [scene_broker, scene_leaveGroup]
          rfl
        · rw [scene_install]
          rfl

theorem scene_endLoop (w : Relay) (s : Supervisor) : (w.endLoop s).scene = w.scene := by
  unfold endLoop
  rw [scene_wakeCallers, scene_setLoop, scene_clearTimer]
  split
  · rfl
  · exact scene_leaveGroup w _

theorem turn_of_serve (w : Relay) (s : Supervisor) (group : Nat) :
    w.scene.Turn (w.serve s group).scene := by
  unfold serve
  split
  · exact .nothing
  · refine Scene.Turn.enlist.of_eq ?_
    simp [addSession, addCall, setLoop, modifySupervisor, scene, Hosted.standing,
      Session.ofCapacity]

theorem turn_of_loop {s : Supervisor} (hm : w.LoopMove s v) : w.scene.Turn v.scene := by
  have hr := scene_refresh w s
  cases hm with
  | stop => exact turn_of_eq (scene_endLoop w s)
  | join _ _ _ e | joinFails _ _ _ e =>
    rw [e] at hr
    exact turn_of_eq hr
  | idle | resume | finish | retry => exact .nothing
  | serve => exact turn_of_serve w s _
  | call _ _ hm => exact turn_of_call hm

theorem scene_of_forwarder {s : Supervisor} (hm : w.ForwarderMove s v) : v.scene = w.scene := by
  cases hm with
  | stop =>
    unfold endForwarder
    dsimp only
    split <;> rfl
  | follow | forward => rfl

theorem scene_of_refresher {s : Supervisor} (hm : w.RefresherMove s v) : v.scene = w.scene := by
  have hr := scene_refresh (w.clearTimer .refresher) s
  cases hm with
  | stop => rfl
  | refresh _ _ _ _ e | refreshFails _ _ _ _ e =>
    rw [e] at hr
    exact hr

@[simp] theorem scene_reap (w : Relay) : w.reap.scene = w.scene := by
  unfold reap
  split
  · exact scene_cancel w _
  · rfl

theorem scene_answer (w : Relay) (i : Nat) (b : Bool) : (w.answer i b).scene = w.scene :=
  scene_reap (w.setCaller i (.done b))

theorem scene_takeOver (w : Relay) (s : Supervisor) (i : Nat) :
    (w.takeOver s i).scene = w.scene := by
  unfold takeOver
  split
  · exact scene_answer w i true
  · rfl

theorem scene_of_caller {s : Supervisor} {i : Nat} (hm : w.CallerMove s i v) :
    v.scene = w.scene := by
  cases hm with
  | refuse | grant | done => exact scene_answer w i _
  | wait => rfl
  | finish => exact scene_takeOver w s i
  | shutdown => rw [scene_takeOver, scene_cancel]

/-! ## Whatever moves, and whatever happens -/

/-- A task that belongs to no session sets one up, cleans one up, or leaves the scene as it is. -/
theorem turn_of_step {t : Task} (ht : t.session? = none) (hs : w.step t = some v) :
    w.scene.Turn v.scene := by
  cases move_of_step hs with
  | claim | confirmer => cases ht
  | feeder _ _ _ hm | straggler _ _ _ hm => exact turn_of_eq (scene_of_feeder hm)
  | call _ _ hm => exact turn_of_call hm
  | loop _ hm => exact turn_of_loop hm
  | forwarder _ hm => exact turn_of_eq (scene_of_forwarder hm)
  | refresher _ hm => exact turn_of_eq (scene_of_refresher hm)
  | caller _ hm => exact turn_of_eq (scene_of_caller hm)

/-- What happens from outside leaves the scene as it is, or moves the clock. -/
theorem scene_of_event_cases (w : Relay) (e : Event) :
    (∃ moment, e = .tick moment) ∨ (w.apply e).scene = w.scene := by
  cases e with
  | createTopic | deleteTopic | script | closeOutput | call | produce => exact .inr rfl
  | tick moment => exact .inl ⟨moment, rfl⟩
  | rebalance => exact .inr (scene_rebalance w)
  | groupError text =>
    refine .inr ?_
    show (w.groupError text).2.scene = w.scene
    unfold groupError
    dsimp only
    split <;> rfl
  | confirm d => exact .inr (scene_wakeReader _)
  | receive =>
    refine .inr ?_
    unfold apply
    dsimp only
    split
    · next hr =>
      obtain ⟨⟨x, q⟩, -, he⟩ := Option.map_eq_some_iff.mp hr
      cases he
      rfl
    · rfl
  | refresh =>
    refine .inr ?_
    show w.refreshNow.2.scene = w.scene
    unfold refreshNow
    split
    · rfl
    · exact scene_refresh w _
  | cancel => exact .inr (scene_cancel w _)
  | abandon i =>
    refine .inr ?_
    show (w.abandon i).scene = w.scene
    unfold abandon
    split
    · rfl
    · split
      · rfl
      · exact scene_reap (w.setCaller i .abandoned)
  | drop => exact .inr (scene_reap (w.modifySupervisor fun s => { s with held := false }))

/-- What happens from outside moves no more than the clock. -/
theorem scene_of_event (w : Relay) (e : Event) :
    (w.apply e).scene = { w.scene with now := (w.apply e).now } := by
  rcases scene_of_event_cases w e with ⟨moment, rfl⟩ | hv
  · rfl
  · rw [show (w.apply e).now = w.now from congrArg Scene.now hv]
    exact hv

/-- The clock does not go back. -/
theorem now_of_event (w : Relay) (e : Event) : w.now ≤ (w.apply e).now := by
  rcases scene_of_event_cases w e with ⟨moment, rfl⟩ | hv
  · exact Nat.le_max_left _ _
  · exact Nat.le_of_eq (congrArg Scene.now hv).symm

end Relay
end Sluice
