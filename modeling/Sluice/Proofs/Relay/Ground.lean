import Sluice.Proofs.Lists
import Sluice.Proofs.Relay.Moves
/-!
# The ground of a relay

Of a relay, `Relay.ground` keeps the sessions and the calls as they are, whose tokens the broker keeps,
what the consume loop does, and how many failures of the broker were counted. Waking tasks, leaving
groups and refreshing topics leave it as it is; what is left of the other operations is one equation
each.

* `ground_settleMove`: what a move of a session's task changes. `endedBy`: the claims that it ends.
* `ground_endFeeder`, `ground_feed`: what feeders change.
* `ground_endSession`, `ground_rebalance`, `ground_cancel`: who is told to end.
* `ground_pause`, `ground_retry`, `ground_endLoop`, `ground_serve`: the consume loop.
* `ground_refresh`, `ground_of_forwarder`, `ground_of_refresher`, `ground_of_caller`: everybody else.
* `ground_of_event`: what happens from outside.
-/
namespace Sluice

/-- Tells a session to end. -/
def Hosted.dismiss (h : Hosted) : Hosted :=
  { h with session := { h.session with cancelled := true } }

theorem Hosted.dismiss_eq_self {h : Hosted} (hc : h.session.cancelled = true) : h.dismiss = h := by
  obtain ⟨rules, session, feeders, ended, token, host⟩ := h
  obtain ⟨stage, window, pending, claims, cancelled, confirmer⟩ := session
  cases hc
  rfl

@[simp] theorem Hosted.dismiss_dismiss (h : Hosted) : h.dismiss.dismiss = h.dismiss :=
  dismiss_eq_self rfl

/-- The claims that signals say have ended. -/
def Session.endedBy (xs : List Session.Signal) : List Nat :=
  xs.filterMap fun
    | .ended i => some i
    | _ => none

/-- The sessions, the calls, the calls whose session tokens the broker keeps, what the consume loop
does if there is one, and how many failures of the broker were counted. -/
structure Ground where
  sessions : List Hosted
  calls : List ConsumeCall
  listed : List Nat
  loop : Option Supervisor.Loop
  failures : Nat

namespace Ground

/-- Changes a session. -/
def modify (G : Ground) (k : Nat) (f : Hosted → Hosted) : Ground :=
  { G with sessions := G.sessions.modify k f }

/-- Sets how far a call has come. -/
def setCall (G : Ground) (c : Nat) (p : ConsumeCall.Phase) : Ground :=
  { G with calls := G.calls.modify c fun x => { x with phase := p } }

/-- Sets what the consume loop does. -/
def setLoop (G : Ground) (p : Supervisor.Loop) : Ground := { G with loop := G.loop.map fun _ => p }

/-- Tells some of the sessions to end. -/
def dismiss (G : Ground) (which : Nat → Bool) : Ground :=
  { G with sessions := G.sessions.mapIdx fun k h => if which k then h.dismiss else h }

/-- The broker keeps the session token of a call. -/
def enlist (G : Ground) (c : Nat) : Ground := { G with listed := G.listed ++ [c] }

/-- The broker lets go of the token of a call, and of all others that have been cancelled. -/
def unlist (G : Ground) (c : Nat) : Ground :=
  { G with listed := G.listed.filter fun d => d ≠ c &&
      !((G.calls[d]?.map ConsumeCall.session).bind fun k => G.sessions[k]?).any fun h =>
        h.session.cancelled }

/-- The sessions of the calls whose tokens the broker keeps. -/
def recalled (G : Ground) : List Nat :=
  G.listed.filterMap fun c => G.calls[c]?.map ConsumeCall.session

/-- Tells the sessions of the tokens that the broker keeps to end, and the broker keeps none. -/
def rebalance (G : Ground) : Ground :=
  { G.dismiss fun k => G.recalled.contains k with listed := [] }

theorem modify_modify (G : Ground) (k : Nat) (f g : Hosted → Hosted) :
    (G.modify k f).modify k g = G.modify k fun h => g (f h) := by
  unfold modify
  simp only [List.modify_modify_eq]
  rfl

theorem modify_same {G : Ground} {k : Nat} {f : Hosted → Hosted}
    (h : ∀ x, G.sessions[k]? = some x → f x = x) : G.modify k f = G := by
  unfold modify
  rw [Sluice.modify_same G.sessions k h]

variable {G : Ground} {c k : Nat} {x : ConsumeCall} {h : Hosted}

theorem session_modify {f : Hosted → Hosted} (hk : G.sessions[k]? = some h) :
    (G.modify k f).sessions[k]? = some (f h) := by
  simp [modify, hk]

theorem session_modify_ne {f : Hosted → Hosted} {j : Nat} (hj : k ≠ j) :
    (G.modify k f).sessions[j]? = G.sessions[j]? := by
  simp [modify, hj]

/-- A session of the changed ground is the one that was changed, or was there before. -/
theorem session_modify_cases {f : Hosted → Hosted} {j : Nat} {g : Hosted}
    (hk : G.sessions[k]? = some h) (hg : (G.modify k f).sessions[j]? = some g) :
    j = k ∧ g = f h ∨ j ≠ k ∧ G.sessions[j]? = some g := by
  by_cases hj : j = k
  · subst hj
    exact .inl ⟨rfl, Option.some.inj (hg.symm.trans (session_modify hk))⟩
  · exact .inr ⟨hj, (session_modify_ne (Ne.symm hj)).symm.trans hg⟩

theorem call_setCall {p : ConsumeCall.Phase} (hx : G.calls[c]? = some x) :
    (G.setCall c p).calls[c]? = some { x with phase := p } := by
  simp [setCall, hx]

theorem call_setCall_ne {p : ConsumeCall.Phase} {d : Nat} (hd : c ≠ d) :
    (G.setCall c p).calls[d]? = G.calls[d]? := by
  simp [setCall, hd]

/-- A call of the changed ground is the one that has gone on, or was there before. -/
theorem call_setCall_cases {p : ConsumeCall.Phase} {d : Nat} {y : ConsumeCall}
    (hx : G.calls[c]? = some x) (hy : (G.setCall c p).calls[d]? = some y) :
    d = c ∧ y = { x with phase := p } ∨ d ≠ c ∧ G.calls[d]? = some y := by
  by_cases hd : d = c
  · subst hd
    exact .inl ⟨rfl, Option.some.inj (hy.symm.trans (call_setCall hx))⟩
  · exact .inr ⟨hd, (call_setCall_ne (Ne.symm hd)).symm.trans hy⟩

theorem setCall_same (hx : G.calls[c]? = some x) : G.setCall c x.phase = G := by
  unfold setCall
  rw [Sluice.modify_same G.calls c fun y hy => by cases Option.some.inj (hx.symm.trans hy); rfl]

@[simp] theorem dismiss_none (G : Ground) : G.dismiss (fun _ => false) = G := by
  simp [dismiss, List.mapIdx_eq_zipIdx_map]

theorem dismiss_dismiss (G : Ground) (f g : Nat → Bool) :
    (G.dismiss f).dismiss g = G.dismiss fun k => f k || g k := by
  simp only [dismiss, mk.injEq, and_true]
  refine List.ext_getElem? fun j => ?_
  simp only [List.getElem?_mapIdx, Option.map_map]
  refine congrArg (Option.map · _) (funext fun h => ?_)
  by_cases hf : f j = true <;> by_cases hg : g j = true <;> simp [hf, hg]

/-- One session is told to end. -/
theorem modify_eq_dismiss (G : Ground) (k : Nat) :
    G.modify k Hosted.dismiss = G.dismiss fun j => k == j := by
  simp only [dismiss, modify, mk.injEq, and_true]
  refine List.ext_getElem? fun j => ?_
  rw [List.getElem?_mapIdx, List.getElem?_modify]
  by_cases hj : k = j
  · simp [hj]
  · simp [hj]

end Ground

namespace Relay
variable {w v : Relay} {k i : Nat}

/-- The ground of a relay. -/
def ground (w : Relay) : Ground :=
  ⟨w.sessions, w.calls, w.listed, w.supervisor.map Supervisor.loop, w.books.metrics.consumeErrors⟩

/-- How far call `x` has come, in a relay whose ground says so. -/
theorem call_of_ground {G : Ground} {c : Nat} {x : ConsumeCall} {p : ConsumeCall.Phase}
    (hg : w.ground = G.setCall c p) (hx : G.calls[c]? = some x) :
    w.calls[c]? = some { x with phase := p } :=
  (congrArg (·[c]?) (congrArg Ground.calls hg)).trans (Ground.call_setCall hx)

/-- What has become of session `h`, in a relay whose ground says so. -/
theorem session_of_ground {G : Ground} {c : Nat} {h : Hosted} {f : Hosted → Hosted}
    {p : ConsumeCall.Phase} (hg : w.ground = (G.modify k f).setCall c p)
    (hk : G.sessions[k]? = some h) : w.sessions[k]? = some (f h) :=
  (congrArg (·[k]?) (congrArg Ground.sessions hg)).trans (Ground.session_modify hk)

/-! ## Waking tasks -/

@[simp] theorem ground_wake (w : Relay) (t : Task) : (w.wake t).ground = w.ground := rfl

@[simp] theorem ground_wakeAll (w : Relay) (ts : List Task) : (w.wakeAll ts).ground = w.ground := rfl

@[simp] theorem ground_wakeCallers (w : Relay) : w.wakeCallers.ground = w.ground := rfl

@[simp] theorem ground_wakeCall (w : Relay) (c : Nat) : (w.wakeCall c).ground = w.ground := by
  unfold wakeCall
  split <;> rfl

@[simp] theorem ground_wakeHost (w : Relay) (k : Nat) : (w.wakeHost k).ground = w.ground := by
  unfold wakeHost
  split
  · rfl
  · exact ground_wakeCall w _

@[simp] theorem ground_wakeClaim (w : Relay) (k i : Nat) : (w.wakeClaim k i).ground = w.ground := by
  unfold wakeClaim
  split <;> rfl

@[simp] theorem ground_wakeFeeder (w : Relay) (k i : Nat) :
    (w.wakeFeeder k i).ground = w.ground := by
  unfold wakeFeeder
  split <;> rfl

@[simp] theorem ground_wakeReader (w : Relay) : w.wakeReader.ground = w.ground := by
  unfold wakeReader
  split <;> rfl

@[simp] theorem ground_wakeLeavingHost (w : Relay) (k : Nat) :
    (w.wakeLeavingHost k).ground = w.ground := by
  unfold wakeLeavingHost
  split
  · exact ground_wakeHost w k
  · rfl

theorem ground_modifyHosted (w : Relay) (k : Nat) (f : Hosted → Hosted) :
    (w.modifyHosted k f).ground = w.ground.modify k f := rfl

/-- A fold of operations that are none of the ground's. -/
theorem ground_foldl {α : Type} {f : Relay → α → Relay} (h : ∀ w a, (f w a).ground = w.ground)
    (xs : List α) (w : Relay) : (xs.foldl f w).ground = w.ground := by
  induction xs generalizing w with
  | nil => rfl
  | cons x xs ih => exact (ih (f w x)).trans (h w x)

/-! ## The tasks of sessions -/

/-- A signal is none of the ground's, but that a claim has ended. -/
theorem ground_signal (k : Nat) (w : Relay) (x : Session.Signal) : (signal k w x).ground =
    w.ground.modify k fun h => { h with ended := h.ended ++ Session.endedBy [x] } := by
  have hsame : w.ground = w.ground.modify k fun h => { h with ended := h.ended ++ [] } :=
    (Ground.modify_same fun h _ => by simp).symm
  cases x with
  | claim | stream => exact hsame
  | delivery => exact (ground_wakeReader w).trans hsame
  | room i => exact (ground_wakeFeeder w k i).trans hsame
  | ended i =>
    unfold signal
    rw [ground_wakeHost, ground_wakeFeeder]
    rfl
  | confirmed => exact (ground_wakeHost w k).trans hsame

theorem ground_signals (k : Nat) (xs : List Session.Signal) (w : Relay) :
    (xs.foldl (signal k) w).ground =
      w.ground.modify k fun h => { h with ended := h.ended ++ Session.endedBy xs } := by
  induction xs generalizing w with
  | nil => exact (Ground.modify_same fun h _ => by simp [Session.endedBy]).symm
  | cons x xs ih =>
    rw [List.foldl_cons, ih, ground_signal, Ground.modify_modify]
    refine congrArg (w.ground.modify k) (funext fun h => ?_)
    rw [List.append_assoc, Session.endedBy, Session.endedBy, ← List.filterMap_append]
    rfl

/-- What a move of a session's task changes. -/
theorem ground_settleMove (w : Relay) (k : Nat) (s : Session) (b : Books)
    (xs : List Session.Signal) : (w.settleMove k (s, b, xs)).ground =
      { w.ground.modify k fun h =>
          { h with session := s, ended := h.ended ++ Session.endedBy xs } with
        failures := b.metrics.consumeErrors } := by
  unfold settleMove
  rw [ground_signals]
  have hm := Ground.modify_modify w.ground k (fun h => { h with session := s })
    fun h => { h with ended := h.ended ++ Session.endedBy xs }
  rw [← hm]
  rfl

/-! ## Feeders -/

theorem ground_feed (w : Relay) (k i : Nat) (x : Item) : (w.feed k i x).ground =
    w.ground.modify k fun h => { h with session := h.session.modify i fun c => c.push x } := by
  unfold feed
  rw [ground_wakeClaim]
  rfl

/-- A feeder ends, and no more items come into its queue. -/
theorem ground_endFeeder (w : Relay) (k i : Nat) : (w.endFeeder k i).ground =
    w.ground.modify k fun h => { h with
      feeders := h.feeders.modify i fun f => { f with phase := .ended }
      session := h.session.modify i fun c => { c with isOpen := false } } := by
  unfold endFeeder
  rw [ground_wakeLeavingHost, ground_wakeClaim]
  exact Ground.modify_modify w.ground k _ _

/-! ## Ending sessions -/

theorem ground_endSession (w : Relay) (k : Nat) :
    (w.endSession k).ground = w.ground.modify k Hosted.dismiss := by
  unfold endSession
  split
  · next hk =>
    refine (Ground.modify_same fun x hx => ?_).symm
    cases hk.symm.trans hx
  · next h hk =>
    split
    · next hc =>
      refine (Ground.modify_same fun x hx => ?_).symm
      cases Option.some.inj (hk.symm.trans hx)
      exact Hosted.dismiss_eq_self hc
    · rw [ground_wakeHost]
      rfl

theorem ground_endSessions (ks : List Nat) (w : Relay) :
    (ks.foldl endSession w).ground = w.ground.dismiss fun k => ks.contains k := by
  induction ks generalizing w with
  | nil => exact (Ground.dismiss_none _).symm
  | cons k ks ih =>
    rw [List.foldl_cons, ih, ground_endSession, Ground.modify_eq_dismiss, Ground.dismiss_dismiss]
    refine congrArg w.ground.dismiss (funext fun j => ?_)
    rw [List.contains_cons, Bool.beq_comm]

theorem ground_rebalance (w : Relay) : w.rebalance.ground = w.ground.rebalance :=
  ground_endSessions (w.listed.filterMap w.sessionOf) { w with listed := [] }

theorem ground_cancel (w : Relay) (token : Nat) :
    ∃ which, (w.cancel token).ground = w.ground.dismiss which := by
  unfold cancel
  split
  · exact ⟨_, (Ground.dismiss_none _).symm⟩
  · have h := ground_endSessions ((List.range w.sessions.length).filter fun k =>
      w.isServed k && (w.sessions[k]?.map Hosted.token == some token)).reverse
      { w with cancelled := token :: w.cancelled }
    dsimp only
    split
    · rw [ground_wakeCallers, ground_wakeAll]
      exact ⟨_, h⟩
    · exact ⟨_, h⟩

@[simp] theorem ground_leaveGroup (w : Relay) (g : Nat) : (w.leaveGroup g).ground = w.ground := by
  unfold leaveGroup
  split
  · rfl
  · rw [ground_foldl ground_wakeCall]
    rfl

theorem ground_leaveCall (w : Relay) (c : Nat) (x : ConsumeCall) (failure : Option RelayError) :
    (w.leaveCall c x failure).ground =
      (w.ground.modify x.session Hosted.dismiss).setCall c (.leaving failure) :=
  congrArg (Ground.setCall · c (.leaving failure)) (ground_endSession w x.session)

/-! ## The supervisor and its callers -/

theorem ground_modifySupervisor (w : Relay) {f : Supervisor → Supervisor}
    (h : ∀ s, (f s).loop = s.loop) : (w.modifySupervisor f).ground = w.ground := by
  unfold modifySupervisor ground
  cases w.supervisor with
  | none => rfl
  | some s => simp [h s]

theorem ground_setLoop (w : Relay) (p : Supervisor.Loop) :
    (w.setLoop p).ground = w.ground.setLoop p := by
  unfold setLoop modifySupervisor ground Ground.setLoop
  cases w.supervisor <;> rfl

theorem ground_install (w : Relay) (s : Supervisor) (topics : List String) (group : Nat) :
    (w.install s topics group).ground = w.ground := by
  unfold install
  have hm := ground_modifySupervisor w (f := fun s =>
    { s with topics := topics, group := some group, generation := s.generation + 1 }) fun _ => rfl
  dsimp only
  split
  · exact hm
  · rw [ground_leaveGroup]
    exact hm

theorem ground_refresh (w : Relay) (s : Supervisor) : (w.refresh s).2.ground = w.ground := by
  unfold refresh
  dsimp only
  split
  · rfl
  · split
    · rfl
    · split
      · rfl
      · split
        · exact ground_leaveGroup _ _
        · exact ground_install _ s _ _

theorem ground_pause (w : Relay) (s : Supervisor) : (w.pause s).ground =
    w.ground.setLoop (.pausing (w.pauseEnd s.settings.reconnectDelay)) := ground_setLoop w _

/-- A failure is counted before the pause. -/
theorem ground_retry (w : Relay) (s : Supervisor) (e : RelayError) : (w.retry s e).ground =
    ({ w.ground with failures := w.ground.failures + 1 } : Ground).setLoop
      (.pausing (w.pauseEnd s.settings.reconnectDelay)) :=
  ground_pause (({ w with books := w.books.count .consumeError } : Relay).report e) s

theorem ground_endLoop (w : Relay) (s : Supervisor) :
    (w.endLoop s).ground = w.ground.setLoop .ended := by
  unfold endLoop
  rw [ground_wakeCallers, ground_setLoop]
  refine congrArg (Ground.setLoop · .ended) ?_
  split
  · rfl
  · exact ground_leaveGroup w _

/-- A call and a session for it are added, if there is room for its messages. -/
theorem ground_serve (w : Relay) (s : Supervisor) (g : Nat) :
    (w.serve s g).ground = w.ground.setLoop .crashed ∨
    (w.serve s g).ground = ({ w.ground with
      sessions := w.sessions ++
        [⟨s.settings.rules, .ofCapacity s.settings.maxUndelivered, [], [], rootToken, none⟩]
      calls := w.calls ++ [⟨g, w.sessions.length, s.topics, rootToken, .fresh⟩] } : Ground).setLoop
        (.serving w.calls.length s.generation) := by
  unfold serve
  split
  · exact .inl ((ground_wakeCallers _).trans (ground_setLoop w _))
  · exact .inr (ground_setLoop _ _)

theorem ground_of_forwarder {s : Supervisor} (hm : w.ForwarderMove s v) : v.ground = w.ground := by
  cases hm with
  | stop =>
    unfold endForwarder
    rw [ground_wakeCallers]
    refine (ground_modifySupervisor _ fun _ => by rfl).trans ?_
    split <;> rfl
  | follow => exact ground_modifySupervisor _ fun _ => by rfl
  | forward => rfl

theorem ground_of_refresher {s : Supervisor} (hm : w.RefresherMove s v) : v.ground = w.ground := by
  have hr := ground_refresh (w.clearTimer .refresher) s
  cases hm with
  | stop => exact (ground_wakeCallers _).trans (ground_modifySupervisor _ fun _ => by rfl)
  | refresh _ _ _ _ e | refreshFails _ _ _ _ e =>
    rw [e] at hr
    exact (ground_modifySupervisor _ fun _ => by rfl).trans hr

theorem ground_reap (w : Relay) : ∃ which, w.reap.ground = w.ground.dismiss which := by
  unfold reap
  split
  · exact ground_cancel w rootToken
  · exact ⟨_, (Ground.dismiss_none _).symm⟩

theorem ground_abandon (w : Relay) (i : Nat) :
    ∃ which, (w.abandon i).ground = w.ground.dismiss which := by
  have hsame : ∃ which, w.ground = w.ground.dismiss which := ⟨_, (Ground.dismiss_none _).symm⟩
  unfold abandon
  split
  · exact hsame
  · split
    · exact hsame
    · exact ground_reap (w.setCaller i .abandoned)

/-- A caller may be the last that has the supervisor, or ask for its end. -/
theorem ground_of_caller {s : Supervisor} (hm : w.CallerMove s i v) :
    ∃ which, v.ground = w.ground.dismiss which := by
  have hanswer : ∀ (u : Relay) (b : Bool), ∃ which, (u.answer i b).ground = u.ground.dismiss which :=
    fun u b => ground_reap (u.setCaller i (.done b))
  have htake : ∀ u : Relay, ∃ which, (u.takeOver s i).ground = u.ground.dismiss which := fun u => by
    unfold takeOver
    split
    · exact hanswer u true
    · exact ⟨_, (ground_modifySupervisor u fun _ => by rfl).trans (Ground.dismiss_none _).symm⟩
  cases hm with
  | refuse | grant | done => exact hanswer w _
  | wait => exact ⟨_, (Ground.dismiss_none _).symm⟩
  | finish => exact htake w
  | shutdown =>
    obtain ⟨f, hf⟩ := ground_cancel w rootToken
    obtain ⟨g, hg⟩ := htake (w.cancel rootToken)
    exact ⟨_, by rw [hg, hf, Ground.dismiss_dismiss]⟩

/-- Whatever happens from outside, sessions may be told to end, and the broker keeps the tokens or lets
go of all. -/
theorem ground_of_event (w : Relay) (e : Event) :
    (∃ which, (w.apply e).ground = w.ground.dismiss which) ∨
      (w.apply e).ground = w.ground.rebalance := by
  have hsame : ∀ {v : Relay}, v.ground = w.ground →
      (∃ which, v.ground = w.ground.dismiss which) ∨ v.ground = w.ground.rebalance :=
    fun hv => .inl ⟨_, hv.trans (Ground.dismiss_none _).symm⟩
  cases e with
  | createTopic | deleteTopic | script | closeOutput | call | produce | tick => exact hsame rfl
  | rebalance => exact .inr (ground_rebalance w)
  | groupError text =>
    refine hsame ?_
    show (w.groupError text).2.ground = w.ground
    unfold groupError
    dsimp only
    split <;> rfl
  | confirm d => exact hsame (ground_wakeReader _)
  | receive =>
    refine hsame ?_
    unfold apply
    dsimp only
    split <;> rfl
  | refresh =>
    refine hsame ?_
    show w.refreshNow.2.ground = w.ground
    unfold refreshNow
    split
    · rfl
    · exact ground_refresh w _
  | cancel => exact .inl (ground_cancel w rootToken)
  | abandon i => exact .inl (ground_abandon w i)
  | drop =>
    have hs := ground_modifySupervisor w (f := fun s => { s with held := false }) fun _ => rfl
    obtain ⟨which, hr⟩ := ground_reap (w.modifySupervisor fun s => { s with held := false })
    exact .inl ⟨which, hr.trans (congrArg (Ground.dismiss · which) hs)⟩

/-- Calls, the consume loop and the failures that were counted are left to themselves. -/
theorem kept_by_event (w : Relay) (e : Event) : (w.apply e).calls = w.calls ∧
    (w.apply e).ground.loop = w.ground.loop ∧ (w.apply e).ground.failures = w.ground.failures := by
  rcases ground_of_event w e with ⟨which, hg⟩ | hg <;>
    exact ⟨congrArg Ground.calls hg, (congrArg Ground.loop hg :), (congrArg Ground.failures hg :)⟩

end Relay
end Sluice
