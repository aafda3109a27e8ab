import Sluice.Proofs.Broker
import Sluice.Proofs.Relay.Flow
/-!
# What leaves the flow as it is

Waking tasks, setting timers, ending sessions, leaving groups, refreshing topics and answering
callers move no message and no result. `flow_modifyHosted` tells what a change of one session does
to the flow; the rest follows from it, operation by operation.
-/
namespace Sluice.Relay

/-! ## Changing one part -/

theorem flow_modifyHosted (w : Relay) (k : Nat) {f : Hosted → Hosted} {g : Load → Load}
    (h : ∀ x, w.sessions[k]? = some x → (f x).load = g x.load) :
    (w.modifyHosted k f).flow = w.flow.modify k g := by
  unfold modifyHosted flow Flow.modify
  rw [map_modify w.sessions k h]

theorem flow_modifyHosted_same (w : Relay) (k : Nat) {f : Hosted → Hosted}
    (h : ∀ x, (f x).load = x.load) : (w.modifyHosted k f).flow = w.flow := by
  rw [flow_modifyHosted w k (g := fun l => l) fun x _ => h x, Flow.modify_same]

@[simp] theorem flow_modifyFeeder (w : Relay) (k i : Nat) (f : Feeder → Feeder) :
    (w.modifyFeeder k i f).flow = w.flow.modify k fun l => l.turn i f :=
  flow_modifyHosted w k fun _ _ => rfl

@[simp] theorem flow_wake (w : Relay) (t : Task) : (w.wake t).flow = w.flow := rfl

@[simp] theorem flow_wakeAll (w : Relay) (ts : List Task) : (w.wakeAll ts).flow = w.flow := rfl

@[simp] theorem flow_wakeCall (w : Relay) (c : Nat) : (w.wakeCall c).flow = w.flow := by
  unfold wakeCall
  split <;> rfl

@[simp] theorem flow_wakeHost (w : Relay) (k : Nat) : (w.wakeHost k).flow = w.flow := by
  unfold wakeHost
  split
  · rfl
  · exact flow_wakeCall w _

@[simp] theorem flow_wakeClaim (w : Relay) (k i : Nat) : (w.wakeClaim k i).flow = w.flow := by
  unfold wakeClaim
  split <;> rfl

@[simp] theorem flow_wakeFeeder (w : Relay) (k i : Nat) : (w.wakeFeeder k i).flow = w.flow := by
  unfold wakeFeeder
  split <;> rfl

@[simp] theorem flow_wakeReader (w : Relay) : w.wakeReader.flow = w.flow := by
  unfold wakeReader
  split <;> rfl

@[simp] theorem flow_wakeParked (w : Relay) : w.wakeParked.flow = w.flow := rfl

@[simp] theorem flow_wakeCallers (w : Relay) : w.wakeCallers.flow = w.flow := rfl

@[simp] theorem flow_wakeLeavingHost (w : Relay) (k : Nat) :
    (w.wakeLeavingHost k).flow = w.flow := by
  unfold wakeLeavingHost
  split
  · exact flow_wakeHost w k
  · rfl

@[simp] theorem flow_setCall (w : Relay) (c : Nat) (p : ConsumeCall.Phase) :
    (w.setCall c p).flow = w.flow := rfl

@[simp] theorem flow_setCaller (w : Relay) (i : Nat) (p : Caller.Phase) :
    (w.setCaller i p).flow = w.flow := rfl

@[simp] theorem flow_setTimer (w : Relay) (t : Task) (moment : Nat) :
    (w.setTimer t moment).flow = w.flow := rfl

@[simp] theorem flow_clearTimer (w : Relay) (t : Task) : (w.clearTimer t).flow = w.flow := rfl

@[simp] theorem flow_report (w : Relay) (e : RelayError) : (w.report e).flow = w.flow := rfl

/-- The supervisor keeps its settings whatever else it does. -/
theorem flow_modifySupervisor (w : Relay) {f : Supervisor → Supervisor}
    (h : ∀ s, (f s).settings = s.settings) : (w.modifySupervisor f).flow = w.flow := by
  unfold modifySupervisor flow
  cases hs : w.supervisor with
  | none => rfl
  | some s => simp [h s]

@[simp] theorem flow_setLoop (w : Relay) (p : Supervisor.Loop) : (w.setLoop p).flow = w.flow :=
  flow_modifySupervisor w fun _ => rfl

/-- A call on the broker that changes no log. -/
theorem flow_broker (w : Relay) {b : Broker} (h : b.log = w.broker.log) :
    { w with broker := b }.flow = w.flow := by
  unfold flow
  rw [h]

@[simp] theorem flow_signal (k : Nat) (w : Relay) (x : Session.Signal) :
    (signal k w x).flow = w.flow := by
  cases x with
  | claim | stream => rfl
  | delivery => exact flow_wakeReader w
  | room i => exact flow_wakeFeeder w k i
  | ended i =>
    unfold signal
    rw [flow_wakeHost, flow_wakeFeeder]
    exact flow_modifyHosted_same w k fun _ => rfl
  | confirmed => exact flow_wakeHost w k

theorem flow_signals (k : Nat) (xs : List Session.Signal) (w : Relay) :
    (xs.foldl (signal k) w).flow = w.flow := by
  induction xs generalizing w with
  | nil => rfl
  | cons x xs ih => exact (ih (signal k w x)).trans (flow_signal k w x)

/-- A fold of moves that are none of the flow's. -/
theorem flow_foldl {α : Type} {f : Relay → α → Relay} (h : ∀ w a, (f w a).flow = w.flow)
    (xs : List α) (w : Relay) : (xs.foldl f w).flow = w.flow := by
  induction xs generalizing w with
  | nil => rfl
  | cons x xs ih => exact (ih (f w x)).trans (h w x)

@[simp] theorem flow_endSession (w : Relay) (k : Nat) : (w.endSession k).flow = w.flow := by
  unfold endSession
  split
  · rfl
  · split
    · rfl
    · rw [flow_wakeHost, flow_wakeAll]
      exact flow_modifyHosted_same w k fun _ => rfl

@[simp] theorem flow_rebalance (w : Relay) : w.rebalance.flow = w.flow :=
  flow_foldl flow_endSession _ { w with listed := [] }

@[simp] theorem flow_cancel (w : Relay) (token : Nat) : (w.cancel token).flow = w.flow := by
  unfold cancel
  split
  · rfl
  · have h := flow_foldl flow_endSession
    dsimp only
    split
    · rw [flow_wakeCallers, flow_wakeAll, h]
      rfl
    · rw [h]
      rfl

@[simp] theorem flow_leaveGroup (w : Relay) (g : Nat) : (w.leaveGroup g).flow = w.flow := by
  unfold leaveGroup
  split
  · rfl
  · rw [flow_foldl flow_wakeCall]
    exact flow_broker w (Broker.log_leave _ _)

theorem flow_addSession (w : Relay) (settings : Settings) :
    (w.addSession settings).2.flow =
      { w.flow with loads := w.flow.loads ++ [⟨settings.rules, true, [], [], []⟩] } := by
  simp [addSession, flow, Hosted.load, Session.ofCapacity, Session.queues]

@[simp] theorem flow_addCall (w : Relay) (group session : Nat) (topics : List String)
    (token : Nat) : (w.addCall group session topics token).2.flow = w.flow := rfl

/-! ## The supervisor and its callers -/

theorem flow_install (w : Relay) (s : Supervisor) (topics : List String) (group : Nat) :
    (w.install s topics group).flow = w.flow := by
  unfold install
  have hm := flow_modifySupervisor w (f := fun s =>
    { s with topics := topics, group := some group, generation := s.generation + 1 }) fun _ => rfl
  dsimp only
  split
  · exact hm
  · rw [flow_leaveGroup]
    exact hm

theorem flow_refresh (w : Relay) (s : Supervisor) : (w.refresh s).2.flow = w.flow := by
  unfold refresh
  have hsel := flow_broker w (Broker.log_select w.broker s.settings.pattern)
  have hjoin := flow_broker w ((Broker.log_join _).trans (Broker.log_select w.broker s.settings.pattern))
  dsimp only
  split
  · exact hsel
  · split
    · exact hsel
    · split
      · exact hjoin
      · split
        · rw [flow_broker _ (Broker.log_dropStream _ _), flow_leaveGroup]
          exact hjoin
        · rw [flow_install]
          exact hjoin

theorem flow_pause (w : Relay) (s : Supervisor) : (w.pause s).flow = w.flow := by
  unfold pause
  rw [flow_setTimer, flow_setLoop]

theorem flow_retry (w : Relay) (s : Supervisor) (e : RelayError) : (w.retry s e).flow = w.flow := by
  unfold retry
  rw [flow_pause]
  rfl

theorem flow_endLoop (w : Relay) (s : Supervisor) : (w.endLoop s).flow = w.flow := by
  unfold endLoop
  rw [flow_wakeCallers, flow_setLoop, flow_clearTimer]
  split
  · rfl
  · exact flow_leaveGroup w _

theorem flow_reap (w : Relay) : w.reap.flow = w.flow := by
  unfold reap
  split
  · exact flow_cancel w _
  · rfl

theorem flow_answer (w : Relay) (i : Nat) (value : Bool) : (w.answer i value).flow = w.flow := by
  unfold answer
  rw [flow_reap, flow_setCaller]

theorem flow_abandon (w : Relay) (i : Nat) : (w.abandon i).flow = w.flow := by
  unfold abandon
  split
  · rfl
  · split
    · rfl
    · rw [flow_reap, flow_setCaller]

theorem flow_takeOver (w : Relay) (s : Supervisor) (i : Nat) :
    (w.takeOver s i).flow = w.flow := by
  unfold takeOver
  split
  · exact flow_answer w i true
  · rw [flow_setCaller]
    exact flow_modifySupervisor w fun _ => rfl

end Sluice.Relay
