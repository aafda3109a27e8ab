import Sluice.Proofs.Relay.Handling
import Sluice.Proofs.Relay.Moves
/-!
# Everything else hosts

The moves of feeders, calls, the supervisor's tasks and its callers, and whatever happens from
outside, do to the flow one of the things that `Hosting` lists. Together with the moves of sessions
these are all there are, so what `Handling` and `Hosting` keep is kept by a relay, whichever tasks
move.

* `hosting_of_feeder`, `hosting_of_call`, `hosting_of_loop`: task by task.
* `hosting_of_step`: the moves of all tasks that belong to no session.
* `hosting_of_event`, `hosting_of_use`: what happens from outside.
-/
namespace Sluice.Relay
variable {w v : Relay} {k : Nat} {h : Hosted}

/-- What leaves the flow as it is hosts. -/
theorem hosting_of_eq (h : v.flow = w.flow) : w.flow.Hosting v.flow := h ▸ .nothing

/-! ## Feeders -/

theorem feeders_get {i : Nat} {f : Feeder} (hf : h.feeders[i]? = some f) :
    h.load.feeders[i]? = some f := hf

theorem flow_feed (w : Relay) (k i : Nat) (x : Item) :
    (w.feed k i x).flow = w.flow.modify k fun l => l.push i x := by
  unfold feed
  rw [flow_wakeClaim]
  refine flow_modifyHosted w k fun h _ => ?_
  have := Session.queues_modify h.session i (f := fun c => c.push x) (g := fun q => q.push x)
    fun _ => rfl
  simp only [Hosted.load, this]
  rfl

theorem flow_endFeeder (w : Relay) (k i : Nat) :
    (w.endFeeder k i).flow = w.flow.modify k fun l => l.turn i fun f => { f with phase := .ended } := by
  unfold endFeeder
  rw [flow_wakeLeavingHost, flow_wakeClaim, ← flow_modifyFeeder]
  refine flow_modifyHosted_same _ k fun h => ?_
  have := Session.queues_modify h.session i (f := fun c => { c with isOpen := false }) (g := id)
    fun _ => rfl
  rw [List.modify_id] at this
  simp only [Hosted.load, this]
  rfl

/-- A move of a feeder hosts. -/
theorem hosting_of_feeder {i : Nat} {f : Feeder} {c : Claim} (hk : w.sessions[k]? = some h)
    (hf : h.feeders[i]? = some f) (hm : w.FeederMove k i h f c v) : w.flow.Hosting v.flow := by
  have hl := loads_get hk
  have hf := feeders_get hf
  have hb := flow_broker w (Broker.log_takeClaimFault w.broker)
  cases hm with
  | fail hp =>
    rw [flow_endFeeder, flow_feed, hb, Flow.modify_modify]
    exact .fail _ hl hf hp
  | begin hp =>
    rw [flow_modifyFeeder, hb]
    exact .begin hl hf hp
  | stop hp | desert hp =>
    rw [flow_endFeeder]
    exact .rest _ hl hf hp (by simp)
  | park hp | block hp =>
    rw [flow_modifyFeeder]
    exact .rest _ hl hf hp (by simp)
  | put hp _ hm =>
    rw [flow_feed, flow_modifyFeeder, Flow.modify_modify]
    exact .supply hl hf hp hm

/-! ## Calls -/

/-- Setting a session up gives every partition a feeder and an empty queue. -/
theorem flow_assign (w : Relay) (k : Nat) (ps : List Partition)
    (h : ∀ x, w.sessions[k]? = some x → x.session.stage ≠ .idle) :
    (w.assign k ps).flow = w.flow.modify k fun l => l.assign ps := by
  unfold assign
  rw [flow_wakeAll]
  refine flow_modifyHosted w k fun x hx => ?_
  have hq : (ps.map fun p => Claim.start p.topic p.index).map Claim.queue = ps.map fun _ => .empty :=
    List.map_map
  simp only [Session.starts_eq, Hosted.load, Load.assign, Session.queues, List.map_append, hq]
  simp [h x hx]

/-- A call sets its session up. -/
theorem hosting_of_served {c : Nat} {x : ConsumeCall} {s : Session}
    (hk : w.sessions[x.session]? = some h) (hi : h.session.stage = .idle) (hs : s.stage ≠ .idle)
    (hq : s.queues = h.session.queues) (hp : s.pending = h.session.pending) :
    w.flow.Hosting (w.served c x s).flow := by
  have hn : { w with
      books := w.books.count .session, broker := w.broker.beginConsume.2
      listed := w.listed ++ [c] }.flow = w.flow :=
    flow_broker w (Broker.log_beginConsume w.broker)
  unfold served
  rw [flow_setCall, flow_assign]
  · rw [flow_wake, flow_modifyHosted _ x.session (g := fun l => { l with unset := false }),
      Flow.modify_modify, hn]
    · exact .assign _ (loads_get hk) (by simp [Hosted.load, hi])
    · intro y hy
      cases Option.some.inj (hk.symm.trans hy)
      simp [Hosted.load, hq, hp, hs]
  · intro y hy
    obtain ⟨z, -, rfl⟩ : ∃ z, w.sessions[x.session]? = some z ∧ _ = y := by
      simpa [wake, modifyHosted] using hy
    exact hs

/-- A session goes over to another stage. -/
theorem flow_setSession {s : Session} (hk : w.sessions[k]? = some h)
    (hs : (s.stage == .idle) = (h.session.stage == .idle)) (hq : s.queues = h.session.queues)
    (hp : s.pending = h.session.pending) :
    (w.modifyHosted k fun h => { h with session := s }).flow = w.flow := by
  rw [flow_modifyHosted w k (g := fun l => l), Flow.modify_same]
  intro x hx
  cases Option.some.inj (hk.symm.trans hx)
  simp only [Hosted.load, hs, hq, hp]

theorem flow_leaveCall (w : Relay) (c : Nat) (x : ConsumeCall) (failure : Option RelayError) :
    (w.leaveCall c x failure).flow = w.flow := flow_endSession w x.session

/-- A move of a call sets a session up or is none of the flow's. -/
theorem hosting_of_call {c : Nat} {x : ConsumeCall} (hm : w.CallMove c x v) :
    w.flow.Hosting v.flow := by
  have hlook := fun rest => flow_modifyHosted_same w x.session
    (f := fun h => { h with ended := rest }) fun _ => rfl
  cases hm with
  | refuse | giveUp => exact .nothing
  | fail | unready => exact hosting_of_eq (flow_broker w (Broker.log_beginConsume w.broker))
  | begin _ _ _ hk hi => exact hosting_of_served hk hi nofun rfl rfl
  | leave => exact hosting_of_eq (flow_leaveCall w c x _)
  | look => exact hosting_of_eq (hlook _)
  | abort => exact hosting_of_eq ((flow_leaveCall _ c x _).trans (hlook _))
  | drain _ hk _ _ ha => exact hosting_of_eq (flow_setSession hk (by rw [ha]; rfl) rfl rfl)
  | close _ hk hd => exact hosting_of_eq (flow_setSession hk (by rw [hd]; rfl) rfl rfl)

/-! ## The supervisor and its callers -/

/-- A supervisor gives its sessions its own rules. -/
theorem hosting_of_serve {s : Supervisor} (hw : w.supervisor = some s) (group : Nat) :
    w.flow.Hosting (w.serve s group).flow := by
  unfold serve
  split
  · rw [flow_wakeCallers, flow_setLoop]
    exact .nothing
  · dsimp only
    rw [flow_setLoop, flow_addCall, flow_addSession]
    exact .enlist _ (.inr (by simp [flow, hw]))

theorem hosting_of_loop {s : Supervisor} (hw : w.supervisor = some s) (hm : w.LoopMove s v) :
    w.flow.Hosting v.flow := by
  have hr := flow_refresh w s
  cases hm with
  | stop => exact hosting_of_eq (flow_endLoop w s)
  | join _ _ _ e =>
    rw [e] at hr
    exact hosting_of_eq hr
  | joinFails _ _ _ e =>
    rw [e] at hr
    exact hosting_of_eq ((flow_retry _ s _).trans hr)
  | idle => exact hosting_of_eq (flow_pause w s)
  | serve => exact hosting_of_serve hw _
  | resume => exact hosting_of_eq ((flow_setLoop _ _).trans (flow_clearTimer w _))
  | call _ _ hm => exact hosting_of_call hm
  | finish => exact hosting_of_eq (flow_setLoop w _)
  | retry => exact hosting_of_eq (flow_retry w s _)

theorem flow_forwarder {s : Supervisor} (hm : w.ForwarderMove s v) : v.flow = w.flow := by
  cases hm with
  | stop =>
    unfold endForwarder
    rw [flow_wakeCallers]
    refine (flow_modifySupervisor _ fun _ => by rfl).trans ?_
    split
    · rfl
    · exact flow_broker w (Broker.log_dropStream _ _)
  | follow =>
    unfold follow
    dsimp only
    refine (flow_modifySupervisor _ fun _ => by rfl).trans (flow_broker w ?_)
    split <;> split <;> simp
  | forward =>
    rw [flow_report]
    exact flow_broker w (Broker.log_modifyGroup _ _ _)

theorem flow_refresher {s : Supervisor} (hm : w.RefresherMove s v) : v.flow = w.flow := by
  have hr := flow_refresh (w.clearTimer .refresher) s
  cases hm with
  | stop =>
    rw [flow_wakeCallers]
    exact (flow_modifySupervisor _ fun _ => by rfl).trans (flow_clearTimer w _)
  | refresh _ _ _ _ e | refreshFails _ _ _ _ e =>
    rw [e] at hr
    rw [flow_setTimer]
    exact (flow_modifySupervisor _ fun _ => by rfl).trans hr

theorem flow_caller {s : Supervisor} {i : Nat} (hm : w.CallerMove s i v) : v.flow = w.flow := by
  cases hm with
  | refuse | grant | done => exact flow_answer w i _
  | wait => rfl
  | finish => exact flow_takeOver w s i
  | shutdown => rw [flow_takeOver, flow_cancel]

/-! ## Whatever moves, and whatever happens -/

/-- The session that a task belongs to, and what it is there. -/
def Task.session? : Task → Option (Nat × Session.Task)
  | .claim k i => some (k, .claim i)
  | .confirmer k => some (k, .confirmer)
  | _ => none

theorem step_of_session {t : Task} {x : Session.Task} (ht : t.session? = some (k, x)) :
    w.step t = w.stepSession k x := by
  cases t <;> cases ht <;> rfl

/-- A move of a task that belongs to no session hosts. -/
theorem hosting_of_step {t : Task} (ht : t.session? = none) (hs : w.step t = some v) :
    w.flow.Hosting v.flow := by
  cases move_of_step hs with
  | claim | confirmer => cases ht
  | feeder hk hf _ hm | straggler hk hf _ hm => exact hosting_of_feeder hk hf hm
  | call _ _ hm => exact hosting_of_call hm
  | loop hw hm => exact hosting_of_loop hw hm
  | forwarder _ hm => exact hosting_of_eq (flow_forwarder hm)
  | refresher _ hm => exact hosting_of_eq (flow_refresher hm)
  | caller _ hm => exact hosting_of_eq (flow_caller hm)

theorem hosting_of_produce (w : Relay) (p : Partition) (payload : List UInt8) :
    w.flow.Hosting (w.produce p payload).2.flow := by
  have h := Flow.Hosting.append (F := w.flow) p payload
  have hl : (w.broker.append p payload).2.log =
      Function.update w.broker.log p (w.broker.log p ++ [w.broker.appended p payload]) := by
    funext q
    rw [Broker.log_append, Function.update_apply]
    split
    · next hq => rw [hq]
    · rfl
  unfold produce
  rw [flow_wakeParked]
  unfold flow
  rw [hl]
  exact h

/-- Every event hosts. -/
theorem hosting_of_event (w : Relay) (e : Event) : w.flow.Hosting (w.apply e).flow := by
  cases e with
  | createTopic name n => exact hosting_of_eq (flow_broker w (Broker.log_createTopic _ _ _))
  | deleteTopic name => exact hosting_of_eq (flow_broker w (Broker.log_deleteTopic _ _))
  | produce p payload => exact hosting_of_produce w p payload
  | script | closeOutput | call | tick => exact .nothing
  | rebalance => exact hosting_of_eq (flow_rebalance w)
  | groupError text =>
    refine hosting_of_eq ?_
    show (w.groupError text).2.flow = w.flow
    unfold groupError
    split
    · rfl
    · exact flow_broker w (Broker.log_groupError _ _)
  | confirm d =>
    show w.flow.Hosting (w.confirm d).flow
    unfold confirm
    rw [flow_wakeReader]
    exact .confirm d
  | receive =>
    unfold apply
    dsimp only
    split
    · next hr =>
      obtain ⟨⟨x, q⟩, -, he⟩ := Option.map_eq_some_iff.mp hr
      cases he
      exact .nothing
    · exact .nothing
  | refresh =>
    refine hosting_of_eq ?_
    show w.refreshNow.2.flow = w.flow
    unfold refreshNow
    split
    · rfl
    · exact flow_refresh w _
  | cancel => exact hosting_of_eq (flow_cancel w _)
  | abandon i => exact hosting_of_eq (flow_abandon w i)
  | drop =>
    refine hosting_of_eq ?_
    show w.drop.flow = w.flow
    unfold drop
    rw [flow_reap]
    exact flow_modifySupervisor w fun _ => rfl

/-- So does every use of a broker. -/
theorem hosting_of_use (w : Relay) (u : Use) (hw : w.supervisor = none) :
    w.flow.Hosting (w.use u).flow := by
  cases u with
  | event e => exact hosting_of_event w e
  | join => exact hosting_of_eq (flow_broker w (Broker.log_join _))
  | leave g => exact hosting_of_eq (flow_leaveGroup w g)
  | session settings =>
    unfold use
    dsimp only
    split
    · rw [flow_addSession]
      exact .enlist _ (.inl (by simp [flow, hw]))
    · exact .nothing
  | consume => exact .nothing
  | cancel token => exact hosting_of_eq (flow_cancel w token)

end Sluice.Relay
