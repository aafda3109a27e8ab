import Sluice.Proofs.Broker
import Sluice.Proofs.Relay.Moves
/-!
# What tasks ask of the broker

Whatever a task does, all that becomes of the broker is what comes of a few requests. None of them
creates or deletes a topic, so that the catalog changes only from outside.

* `Request`, `Broker.ask`: the requests. `Broker.Asked`: what comes of any number of them.
* `broker_settleMove`, `broker_cancel`, …: what leaves the broker alone.
* `asked_of_step`: every step of a task.
* `catalog_of_step`, `topics_of_event`: the catalog over a step and over an event.
-/
namespace Sluice

/-- What a task can ask of the broker. -/
inductive Request where
  | select (p : Pattern)
  | join
  | leave (group : Nat)
  | takeStream (group : Nat)
  | modifyGroup (group : Nat) (f : Group → Group)
  | beginConsume
  | takeClaimFault

namespace Broker

/-- What comes of a request. -/
def ask (b : Broker) : Request → Broker
  | .select p => (b.select p).2
  | .join => b.join.2
  | .leave g => b.leave g
  | .takeStream g => (b.takeStream g).2
  | .modifyGroup g f => b.modifyGroup g f
  | .beginConsume => b.beginConsume.2
  | .takeClaimFault => b.takeClaimFault.2

/-- What comes of any number of requests. -/
inductive Asked (b : Broker) : Broker → Prop where
  | nothing : Asked b b
  | next {c : Broker} (r : Request) : Asked b c → Asked b (c.ask r)

/-- No request changes the catalog. -/
theorem catalog_ask (b : Broker) (r : Request) : (b.ask r).catalog = b.catalog := by
  cases r with
  | select p => exact (select_same b p).2.1
  | modifyGroup => rfl
  | join =>
    show b.join.2.catalog = b.catalog
    unfold join
    split <;> rfl
  | leave g =>
    show (b.leave g).catalog = b.catalog
    unfold leave
    split <;> rfl
  | takeStream g =>
    show (b.takeStream g).2.catalog = b.catalog
    unfold takeStream
    split <;> rfl
  | beginConsume =>
    show b.beginConsume.2.catalog = b.catalog
    unfold beginConsume
    dsimp only
    split <;> rfl
  | takeClaimFault =>
    show b.takeClaimFault.2.catalog = b.catalog
    unfold takeClaimFault
    split <;> rfl

variable {b c : Broker}

theorem Asked.catalog (h : b.Asked c) : c.catalog = b.catalog := by
  induction h with
  | nothing => rfl
  | next r _ ih => exact (catalog_ask _ r).trans ih

theorem Asked.one (r : Request) : b.Asked (b.ask r) := .next r .nothing

end Broker

namespace Relay
variable {w v : Relay} {s : Supervisor}

/-! ## What leaves the broker alone -/

@[simp] theorem broker_wakeCall (w : Relay) (c : Nat) : (w.wakeCall c).broker = w.broker := by
  unfold wakeCall
  split <;> rfl

@[simp] theorem broker_wakeHost (w : Relay) (k : Nat) : (w.wakeHost k).broker = w.broker := by
  unfold wakeHost
  split
  · rfl
  · exact broker_wakeCall w _

@[simp] theorem broker_wakeClaim (w : Relay) (k i : Nat) : (w.wakeClaim k i).broker = w.broker := by
  unfold wakeClaim
  split <;> rfl

@[simp] theorem broker_wakeFeeder (w : Relay) (k i : Nat) :
    (w.wakeFeeder k i).broker = w.broker := by
  unfold wakeFeeder
  split <;> rfl

@[simp] theorem broker_wakeReader (w : Relay) : w.wakeReader.broker = w.broker := by
  unfold wakeReader
  split <;> rfl

@[simp] theorem broker_wakeLeavingHost (w : Relay) (k : Nat) :
    (w.wakeLeavingHost k).broker = w.broker := by
  unfold wakeLeavingHost
  split
  · exact broker_wakeHost w k
  · rfl

/-- A fold of operations that leave the broker alone. -/
theorem broker_foldl {α : Type} {f : Relay → α → Relay} (h : ∀ w a, (f w a).broker = w.broker)
    (xs : List α) (w : Relay) : (xs.foldl f w).broker = w.broker := by
  induction xs generalizing w with
  | nil => rfl
  | cons x xs ih => exact (ih (f w x)).trans (h w x)

theorem broker_signal (k : Nat) (w : Relay) (x : Session.Signal) :
    (signal k w x).broker = w.broker := by
  cases x with
  | claim | stream => rfl
  | delivery => exact broker_wakeReader w
  | room i => exact broker_wakeFeeder w k i
  | ended i => exact (broker_wakeHost _ k).trans (broker_wakeFeeder _ k i)
  | confirmed => exact broker_wakeHost w k

theorem broker_settleMove (w : Relay) (k : Nat) (m : Session × Books × List Session.Signal) :
    (w.settleMove k m).broker = w.broker := broker_foldl (broker_signal k) m.2.2 _

theorem broker_stepSession {k : Nat} {t : Session.Task} (hs : w.stepSession k t = some v) :
    v.broker = w.broker := by
  unfold stepSession at hs
  split at hs
  · cases hs
  · obtain ⟨m, -, rfl⟩ := Option.map_eq_some_iff.mp hs
    exact broker_settleMove w k m

theorem broker_feed (w : Relay) (k i : Nat) (x : Item) : (w.feed k i x).broker = w.broker :=
  broker_wakeClaim _ k i

theorem broker_endFeeder (w : Relay) (k i : Nat) : (w.endFeeder k i).broker = w.broker :=
  (broker_wakeLeavingHost _ k).trans (broker_wakeClaim _ k i)

theorem broker_endSession (w : Relay) (k : Nat) : (w.endSession k).broker = w.broker := by
  unfold endSession
  split
  · rfl
  · split
    · rfl
    · exact broker_wakeHost _ k

theorem broker_leaveCall (w : Relay) (c : Nat) (x : ConsumeCall) (failure : Option RelayError) :
    (w.leaveCall c x failure).broker = w.broker := broker_endSession w x.session

@[simp] theorem broker_rebalance (w : Relay) : w.rebalance.broker = w.broker :=
  broker_foldl broker_endSession _ { w with listed := [] }

@[simp] theorem broker_cancel (w : Relay) (token : Nat) : (w.cancel token).broker = w.broker := by
  unfold cancel
  split
  · rfl
  · dsimp only
    split <;> exact broker_foldl broker_endSession _ _

theorem broker_reap (w : Relay) : w.reap.broker = w.broker := by
  unfold reap
  split
  · exact broker_cancel w rootToken
  · rfl

theorem broker_answer (w : Relay) (i : Nat) (value : Bool) : (w.answer i value).broker = w.broker :=
  broker_reap (w.setCaller i (.done value))

theorem broker_abandon (w : Relay) (i : Nat) : (w.abandon i).broker = w.broker := by
  unfold abandon
  split
  · rfl
  · split
    · rfl
    · exact broker_reap (w.setCaller i .abandoned)

theorem broker_takeOver (w : Relay) (s : Supervisor) (i : Nat) :
    (w.takeOver s i).broker = w.broker := by
  unfold takeOver
  split
  · exact broker_answer w i true
  · rfl

theorem broker_serve (w : Relay) (s : Supervisor) (g : Nat) : (w.serve s g).broker = w.broker := by
  unfold serve
  split <;> rfl

theorem broker_of_caller {i : Nat} (hm : w.CallerMove s i v) : v.broker = w.broker := by
  cases hm with
  | refuse | grant | done => exact broker_answer w i _
  | wait => rfl
  | finish => exact broker_takeOver w s i
  | shutdown => exact (broker_takeOver _ s i).trans (broker_cancel w rootToken)

/-! ## Requests -/

theorem asked_leaveGroup {b : Broker} (h : b.Asked w.broker) (g : Nat) :
    b.Asked (w.leaveGroup g).broker := by
  unfold leaveGroup
  split
  · exact h
  · rw [broker_foldl broker_wakeCall]
    exact h.next (.leave g)

theorem asked_install {b : Broker} (h : b.Asked w.broker) (s : Supervisor) (topics : List String)
    (group : Nat) : b.Asked (w.install s topics group).broker := by
  unfold install
  dsimp only
  split
  · exact h
  · refine asked_leaveGroup ?_ _
    exact h

theorem asked_refresh (w : Relay) (s : Supervisor) : w.broker.Asked (w.refresh s).2.broker := by
  have hselect : w.broker.Asked (w.broker.select s.settings.pattern).2 :=
    .one (.select s.settings.pattern)
  have hjoin := hselect.next .join
  unfold refresh
  dsimp only
  split
  · exact hselect
  · split
    · exact hselect
    · split
      · exact hjoin
      · split
        · refine (asked_leaveGroup ?_ _).next (.modifyGroup _ _)
          exact hjoin
        · refine asked_install ?_ s _ _
          exact hjoin

theorem asked_endLoop (w : Relay) (s : Supervisor) : w.broker.Asked (w.endLoop s).broker := by
  unfold endLoop
  dsimp only
  split
  · exact .nothing
  · exact asked_leaveGroup .nothing _

theorem asked_of_feeder {k i : Nat} {h : Hosted} {f : Feeder} {c : Claim}
    (hm : w.FeederMove k i h f c v) : w.broker.Asked v.broker := by
  cases hm with
  | fail =>
    rw [broker_endFeeder, broker_feed]
    exact .one .takeClaimFault
  | begin => exact .one .takeClaimFault
  | stop | desert =>
    rw [broker_endFeeder]
    exact .nothing
  | park | block => exact .nothing
  | put =>
    rw [broker_feed]
    exact .nothing

theorem asked_of_call {c : Nat} {x : ConsumeCall} (hm : w.CallMove c x v) :
    w.broker.Asked v.broker := by
  cases hm with
  | refuse | look | drain | giveUp | close => exact .nothing
  | fail | unready | begin => exact .one .beginConsume
  | leave | abort =>
    rw [broker_leaveCall]
    exact .nothing

theorem asked_of_loop (hm : w.LoopMove s v) : w.broker.Asked v.broker := by
  cases hm with
  | stop => exact asked_endLoop w s
  | join _ _ _ hr | joinFails _ _ _ hr =>
    have h := asked_refresh w s
    rw [hr] at h
    exact h
  | idle | resume | finish | retry => exact .nothing
  | serve =>
    rw [broker_serve]
    exact .nothing
  | call _ _ hc => exact asked_of_call hc

theorem asked_follow (w : Relay) (s : Supervisor) (reading : Option Nat) :
    w.broker.Asked (w.follow s reading).broker := by
  unfold follow
  cases s.group with
  | none =>
    cases reading with
    | none => exact .nothing
    | some r => exact .one (.modifyGroup r _)
  | some g =>
    have taken : w.broker.Asked (w.broker.takeStream g).2 := .one (.takeStream g)
    cases reading with
    | none => exact taken
    | some r => exact taken.next (.modifyGroup r _)

theorem asked_of_forwarder (hm : w.ForwarderMove s v) : w.broker.Asked v.broker := by
  cases hm with
  | stop =>
    unfold endForwarder
    dsimp only
    split
    · exact .nothing
    · exact .one (.modifyGroup _ _)
  | follow => exact asked_follow w s _
  | forward => exact .one (.modifyGroup _ _)

theorem asked_of_refresher (hm : w.RefresherMove s v) : w.broker.Asked v.broker := by
  have h := asked_refresh (w.clearTimer .refresher) s
  cases hm with
  | stop => exact .nothing
  | refresh _ _ _ _ hr | refreshFails _ _ _ _ hr =>
    rw [hr] at h
    exact h

/-- All that a step makes of the broker comes of requests. -/
theorem asked_of_step {t : Task} (hs : w.step t = some v) : w.broker.Asked v.broker := by
  cases move_of_step hs with
  | claim hm | confirmer hm =>
    rw [broker_stepSession hm]
    exact .nothing
  | feeder _ _ _ hm | straggler _ _ _ hm => exact asked_of_feeder hm
  | call _ _ hm => exact asked_of_call hm
  | loop _ hm => exact asked_of_loop hm
  | forwarder _ hm => exact asked_of_forwarder hm
  | refresher _ hm => exact asked_of_refresher hm
  | caller _ hm =>
    rw [broker_of_caller hm]
    exact .nothing

/-- No task changes the catalog. -/
theorem catalog_of_step {t : Task} (hs : w.step t = some v) :
    v.broker.catalog = w.broker.catalog := (asked_of_step hs).catalog

end Relay

/-! ## Changes from outside -/

/-- A change of the list of topics. -/
inductive TopicChange where
  | create (name : String)
  | delete (name : String)
  deriving DecidableEq, Repr

/-- What a change makes of the names of all topics: a new topic comes last, and stays there. -/
def TopicChange.apply (names : List String) : TopicChange → List String
  | .create name => if names.contains name then names else names ++ [name]
  | .delete name => names.filter fun n => n ≠ name

/-- The changes of the list of topics that an event makes. -/
def Relay.Event.topicChanges : Relay.Event → List TopicChange
  | .createTopic name _ => [.create name]
  | .deleteTopic name => [.delete name]
  | _ => []

theorem Broker.topics_createTopic (b : Broker) (name : String) (n : Nat) :
    (b.createTopic name n).topics = TopicChange.apply b.topics (.create name) := by
  show _ = if b.topics.contains name then b.topics else b.topics ++ [name]
  unfold createTopic
  split
  · rfl
  · exact List.map_append

theorem Broker.topics_deleteTopic (b : Broker) (name : String) :
    (b.deleteTopic name).topics = TopicChange.apply b.topics (.delete name) :=
  (List.filter_map (p := fun n => decide (n ≠ name)) (f := Prod.fst) (l := b.catalog)).symm

namespace Relay
variable {settings : Settings} {w v : Relay}

/-- The names of all topics change as an event says. -/
theorem topics_of_event (w : Relay) (e : Event) :
    (w.apply e).broker.topics = e.topicChanges.foldl TopicChange.apply w.broker.topics := by
  have hsame : ∀ {v : Relay}, v.broker.catalog = w.broker.catalog →
      v.broker.topics = w.broker.topics := fun h => congrArg (List.map Prod.fst) h
  cases e with
  | createTopic name n => exact Broker.topics_createTopic w.broker name n
  | deleteTopic name => exact Broker.topics_deleteTopic w.broker name
  | produce | script | closeOutput | call | tick => rfl
  | rebalance => exact hsame (congrArg Broker.catalog (broker_rebalance w))
  | groupError text =>
    refine hsame (?_ : (w.groupError text).2.broker.catalog = _)
    unfold groupError Broker.groupError
    split
    · rfl
    · dsimp only
      split
      · rfl
      · split <;> rfl
  | confirm d => exact hsame (congrArg Broker.catalog (broker_wakeReader _))
  | receive =>
    refine hsame ?_
    unfold apply
    dsimp only
    split <;> rfl
  | refresh =>
    refine hsame (?_ : w.refreshNow.2.broker.catalog = _)
    unfold refreshNow
    split
    · rfl
    · exact (asked_refresh w _).catalog
  | cancel => exact hsame (congrArg Broker.catalog (broker_cancel w rootToken))
  | abandon i => exact hsame (congrArg Broker.catalog (broker_abandon w i))
  | drop => exact hsame (congrArg Broker.catalog (broker_reap _))

theorem topics_of_step {t : Task} (hs : w.step t = some v) : v.broker.topics = w.broker.topics :=
  congrArg (List.map Prod.fst) (catalog_of_step hs)

end Relay
end Sluice
