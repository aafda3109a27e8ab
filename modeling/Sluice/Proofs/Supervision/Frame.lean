import Sluice.Proofs.Broker
import Sluice.Proofs.Relay.Ground
import Sluice.Proofs.Session.Moves
import Sluice.Proofs.Supervision.Roster
/-!
# What operations do to the roster

Waking tasks and setting timers leave the roster as it is. Of what is left, `roster_modifyHosted`
tells what a change of one session does to it, and the other lemmas say of each operation of a relay
which change of the roster it is.
-/
namespace Sluice

/-- What the roster keeps of a broker. -/
def Broker.tally (b : Broker) : List Group × Nat × Nat × Nat × Nat :=
  (b.groups, b.calls.metadataConnects, b.calls.metadataCloses, b.calls.groupConnects,
    b.calls.groupCloses)

theorem Broker.tally_takeClaimFault (b : Broker) : b.takeClaimFault.2.tally = b.tally := by
  unfold takeClaimFault
  split <;> rfl

theorem Broker.tally_beginConsume (b : Broker) : b.beginConsume.2.tally = b.tally := by
  unfold beginConsume
  dsimp only
  split <;> rfl

namespace Relay

/-! ## Waking tasks -/

@[simp] theorem roster_wake (w : Relay) (t : Task) : (w.wake t).roster = w.roster := rfl

@[simp] theorem roster_wakeAll (w : Relay) (ts : List Task) : (w.wakeAll ts).roster = w.roster := rfl

@[simp] theorem roster_wakeCall (w : Relay) (c : Nat) : (w.wakeCall c).roster = w.roster := by
  unfold wakeCall
  split <;> rfl

@[simp] theorem roster_wakeHost (w : Relay) (k : Nat) : (w.wakeHost k).roster = w.roster := by
  unfold wakeHost
  split
  · rfl
  · exact roster_wakeCall w _

@[simp] theorem roster_wakeClaim (w : Relay) (k i : Nat) : (w.wakeClaim k i).roster = w.roster := by
  unfold wakeClaim
  split <;> rfl

@[simp] theorem roster_wakeFeeder (w : Relay) (k i : Nat) :
    (w.wakeFeeder k i).roster = w.roster := by
  unfold wakeFeeder
  split <;> rfl

@[simp] theorem roster_wakeReader (w : Relay) : w.wakeReader.roster = w.roster := by
  unfold wakeReader
  split <;> rfl

@[simp] theorem roster_wakeCallers (w : Relay) : w.wakeCallers.roster = w.roster := rfl

@[simp] theorem roster_wakeLeavingHost (w : Relay) (k : Nat) :
    (w.wakeLeavingHost k).roster = w.roster := by
  unfold wakeLeavingHost
  split
  · exact roster_wakeHost w k
  · rfl

@[simp] theorem roster_setTimer (w : Relay) (t : Task) (moment : Nat) :
    (w.setTimer t moment).roster = w.roster := rfl

@[simp] theorem roster_clearTimer (w : Relay) (t : Task) : (w.clearTimer t).roster = w.roster := rfl

theorem roster_setCall (w : Relay) (c : Nat) (p : ConsumeCall.Phase) :
    (w.setCall c p).roster = w.roster.setCall c p := rfl

theorem roster_setCaller (w : Relay) (i : Nat) (p : Caller.Phase) :
    (w.setCaller i p).roster = w.roster.setCaller i p := rfl

theorem roster_report (w : Relay) (e : RelayError) :
    (w.report e).roster = w.roster.report e := rfl

/-- A fold of moves that are none of the roster's. -/
theorem roster_foldl {α : Type} {f : Relay → α → Relay} (h : ∀ w a, (f w a).roster = w.roster)
    (xs : List α) (w : Relay) : (xs.foldl f w).roster = w.roster := by
  induction xs generalizing w with
  | nil => rfl
  | cons x xs ih => exact (ih (f w x)).trans (h w x)

/-! ## Sessions -/

theorem roster_modifyHosted (w : Relay) (k : Nat) {f : Hosted → Hosted} {g : Post → Post}
    (h : ∀ x, w.sessions[k]? = some x → (f x).post = g x.post) :
    (w.modifyHosted k f).roster = w.roster.modifyPost k g := by
  unfold modifyHosted roster Roster.modifyPost
  rw [map_modify w.sessions k h]
  rfl

theorem roster_modifyHosted_same (w : Relay) (k : Nat) {f : Hosted → Hosted}
    (h : ∀ x, (f x).post = x.post) : (w.modifyHosted k f).roster = w.roster := by
  rw [roster_modifyHosted w k (g := fun p => p) fun x _ => h x, Roster.modifyPost_same]

@[simp] theorem roster_modifyFeeder (w : Relay) (k i : Nat) (f : Feeder → Feeder) :
    (w.modifyFeeder k i f).roster = w.roster :=
  roster_modifyHosted_same w k fun h => by simp [Hosted.post]

@[simp] theorem roster_modifyClaim (w : Relay) (k i : Nat) (f : Claim → Claim) :
    (w.modifyClaim k i f).roster = w.roster :=
  roster_modifyHosted_same w k fun h => by simp [Hosted.post, Session.modify]

@[simp] theorem roster_signal (k : Nat) (w : Relay) (x : Session.Signal) :
    (signal k w x).roster = w.roster := by
  cases x with
  | claim | stream => rfl
  | delivery => exact roster_wakeReader w
  | room i => exact roster_wakeFeeder w k i
  | ended i =>
    unfold signal
    rw [roster_wakeHost, roster_wakeFeeder]
    exact roster_modifyHosted_same w k fun _ => rfl
  | confirmed => exact roster_wakeHost w k

@[simp] theorem roster_feed (w : Relay) (k i : Nat) (x : Item) :
    (w.feed k i x).roster = w.roster := by
  unfold feed
  rw [roster_wakeClaim, roster_modifyClaim]

@[simp] theorem roster_endFeeder (w : Relay) (k i : Nat) :
    (w.endFeeder k i).roster = w.roster := by
  unfold endFeeder
  rw [roster_wakeLeavingHost, roster_wakeClaim, roster_modifyClaim, roster_modifyFeeder]

/-- Setting a session up gives it claims and as many feeders. -/
theorem roster_assign (w : Relay) (k : Nat) (ps : List Partition) :
    (w.assign k ps).roster = w.roster.modifyPost k fun p =>
      { p with claims := p.claims + ps.length, feeders := ps.length } := by
  unfold assign
  rw [roster_wakeAll]
  refine roster_modifyHosted w k fun x _ => ?_
  simp only [Session.starts_eq, Hosted.post, List.length_append, List.length_map]

theorem posts_get {w : Relay} {k : Nat} {h : Hosted} (hk : w.sessions[k]? = some h) :
    w.roster.posts[k]? = some h.post := by
  simp [roster, hk]

theorem roster_enlist (w : Relay) (c : Nat) : (w.enlist c).roster = w.roster := rfl

theorem roster_unlist (w : Relay) (c : Nat) : (w.unlist c).roster = w.roster := rfl

/-- A session is told to end at most once. -/
theorem roster_endSession (w : Relay) (k : Nat) :
    (w.endSession k).roster = w.roster.modifyPost k Post.dismiss := by
  unfold endSession
  split
  · next hk =>
    have : w.roster.posts[k]? = none := by simp [roster, hk]
    unfold Roster.modifyPost
    rw [List.modify_eq_self (by simpa using this)]
  · next h hk =>
    split
    · next hc =>
      rw [Roster.modifyPost_eq (posts_get hk) (g := fun p => p), Roster.modifyPost_same]
      simp [Hosted.post, Post.dismiss, hc]
    · rw [roster_wakeHost, roster_wakeAll]
      exact roster_modifyHosted w k fun _ _ => rfl

/-- Telling sessions of a kind to end, those among them that have not been told, tells all of the
kind. -/
theorem foldl_dismiss {p : Post → Bool} (R : Roster) (ks : List Nat)
    (honly : ∀ k x, R.posts[k]? = some x → k ∈ ks → p x = true)
    (hall : ∀ k x, R.posts[k]? = some x → p x = true → x.cancelled = false → k ∈ ks) :
    ks.foldl (fun R k => R.modifyPost k Post.dismiss) R = R.dismiss p := by
  have hf : ∀ (ks : List Nat) (R : Roster),
      ks.foldl (fun R k => R.modifyPost k Post.dismiss) R =
        { R with posts := R.posts.mapIdx fun k p => if k ∈ ks then p.dismiss else p } := by
    intro ks
    induction ks with
    | nil => simp [List.mapIdx_eq_zipIdx_map]
    | cons k ks ih =>
      intro R
      rw [List.foldl_cons, ih]
      simp only [Roster.modifyPost, Roster.mk.injEq, true_and, and_true]
      refine List.ext_getElem? fun j => ?_
      simp only [List.getElem?_mapIdx, List.getElem?_modify]
      by_cases hj : k = j
      · subst hj
        cases R.posts[k]? with
        | none => rfl
        | some p => simp [Post.dismiss]
      · simp [hj, Ne.symm hj]
  rw [hf]
  simp only [Roster.dismiss, Roster.mk.injEq, true_and, and_true]
  refine List.ext_getElem? fun k => ?_
  rw [List.getElem?_mapIdx, List.getElem?_map]
  cases hk : R.posts[k]? with
  | none => rfl
  | some p =>
    by_cases hm : k ∈ ks
    · simp [hm, honly k p hk hm]
    · simp only [Option.map_some, if_neg hm, Option.some.injEq]
      split
      · next hp =>
        have hc : p.cancelled = true := by
          cases hc : p.cancelled with
          | true => rfl
          | false => exact absurd (hall k p hk hp hc) hm
        rw [Post.dismiss, ← hc]
      · rfl

theorem roster_endSessions (ks : List Nat) (w : Relay) :
    (ks.foldl endSession w).roster =
      ks.foldl (fun R k => R.modifyPost k Post.dismiss) w.roster := by
  induction ks generalizing w with
  | nil => rfl
  | cons k ks ih => rw [List.foldl_cons, List.foldl_cons, ih, roster_endSession]

theorem isServed_eq {w : Relay} {k : Nat} {p : Post} (hk : w.roster.posts[k]? = some p) :
    w.isServed k = (p.isHosted && !p.cancelled) ∧
      (w.sessions[k]?.map Hosted.token == some rootToken) = (p.token == rootToken) := by
  obtain ⟨h, hh, rfl⟩ : ∃ h, w.sessions[k]? = some h ∧ h.post = p := by
    simpa [roster] using hk
  unfold isServed
  simp [hh, Hosted.post, Post.isHosted]

theorem lt_of_posts {w : Relay} {k : Nat} {p : Post} (hk : w.roster.posts[k]? = some p) :
    k < w.sessions.length := by
  have := (List.getElem?_eq_some_iff.mp hk).1
  simpa [roster] using this

/-- A rebalance tells every session that somebody hosts to end, if the broker keeps the tokens of those
that are served, and of no session that nobody hosts. -/
theorem roster_rebalance (w : Relay)
    (honly : ∀ k ∈ w.ground.recalled, ∀ h, w.sessions[k]? = some h → h.host.isSome = true)
    (hall : ∀ k, w.isServed k = true → k ∈ w.ground.recalled) :
    w.rebalance.roster = w.roster.dismiss Post.isHosted := by
  refine (roster_endSessions _ _).trans (foldl_dismiss w.roster _ (fun k p hk hm => ?_)
    fun k p hk hp hc => hall k ?_)
  · obtain ⟨h, hh, rfl⟩ : ∃ h, w.sessions[k]? = some h ∧ h.post = p := by simpa [roster] using hk
    exact honly k hm h hh
  · rw [(isServed_eq hk).1, hp, hc]
    rfl

/-- Cancelling the supervisor's token tells the supervisor and its sessions to end, once. -/
theorem roster_cancel (w : Relay) :
    (w.cancel rootToken).roster =
      if w.isStopped then w.roster else w.roster.stop := by
  unfold cancel isStopped
  split
  · rfl
  · have hd := roster_endSessions ((List.range w.sessions.length).filter fun k =>
      w.isServed k && (w.sessions[k]?.map Hosted.token == some rootToken)).reverse
      { w with cancelled := rootToken :: w.cancelled }
    have hmem : ∀ k p, w.roster.posts[k]? = some p →
        (k ∈ ((List.range w.sessions.length).filter fun k =>
          w.isServed k && (w.sessions[k]?.map Hosted.token == some rootToken)).reverse ↔
        (p.isHosted = true ∧ p.cancelled = false) ∧ (p.token == rootToken) = true) := by
      intro k p hk
      rw [List.mem_reverse, List.mem_filter, List.mem_range, (isServed_eq hk).1, (isServed_eq hk).2]
      simp [lt_of_posts hk]
    rw [foldl_dismiss (p := Post.isSupervised)] at hd
    · have hs : ({ w with cancelled := rootToken :: w.cancelled } : Relay).roster.dismiss
          Post.isSupervised = w.roster.stop := by
        simp [roster, Roster.dismiss, Roster.stop, isStopped, isCancelled]
      dsimp only
      split
      · rw [roster_wakeCallers, roster_wakeAll]
        exact hd.trans hs
      · exact hd.trans hs
    · intro k p hk hm
      rw [hmem k p hk] at hm
      rw [Post.isSupervised, hm.1.1, hm.2, Bool.and_self]
    · intro k p hk hp hc
      rw [hmem k p hk]
      rw [Post.isSupervised, Bool.and_eq_true] at hp
      exact ⟨⟨hp.1, hc⟩, hp.2⟩

/-! ## The broker -/

/-- A call on the broker that counts neither clients nor groups. -/
theorem roster_broker (w : Relay) {b : Broker} (h : b.tally = w.broker.tally) :
    { w with broker := b }.roster = w.roster := by
  simp only [Broker.tally, Prod.mk.injEq] at h
  obtain ⟨hg, ho, hs, hj, hl⟩ := h
  simp only [roster, hg, ho, hs, hj, hl]
  rfl

/-- A call on the broker that counts a look at the topics. -/
theorem roster_look (w : Relay) {b : Broker} (hg : b.groups = w.broker.groups)
    (hc : b.calls = { w.broker.calls with
      metadataConnects := w.broker.calls.metadataConnects + 1
      metadataCloses := w.broker.calls.metadataCloses + 1 }) :
    { w with broker := b }.roster = w.roster.look := by
  simp only [roster, hg, hc]
  rfl

/-- A group is joined, or nothing is counted. -/
theorem roster_join (w : Relay) :
    ((∃ e, w.broker.join.1 = .error e) ∧ { w with broker := w.broker.join.2 }.roster = w.roster) ∨
      w.broker.join.1 = .ok w.broker.groups.length ∧
        { w with broker := w.broker.join.2 }.roster = w.roster.join := by
  unfold Broker.join
  split
  · exact .inl ⟨⟨_, rfl⟩, rfl⟩
  · exact .inr ⟨rfl, rfl⟩

theorem roster_leaveGroup (w : Relay) (g : Nat) : (w.leaveGroup g).roster = w.roster.leave g := by
  unfold leaveGroup Roster.leave
  have hc : w.roster.isClosed g = w.broker.isClosed g := rfl
  rw [hc]
  split
  · rfl
  · next hn =>
    rw [roster_foldl roster_wakeCall]
    unfold Broker.leave
    rw [if_neg hn]
    rfl

/-- A group that was just joined is left and thrown away. -/
theorem roster_discard {w : Relay} {R : Roster} (hR : w.roster = R.join) :
    { w.leaveGroup R.groups.length with
      broker := (w.leaveGroup R.groups.length).broker.dropStream R.groups.length }.roster =
        R.discard := by
  have hl := roster_leaveGroup w R.groups.length
  have ho : R.join.isClosed R.groups.length = false := by
    simp [Roster.isClosed, Roster.join, Group.fresh]
  rw [hR, Roster.leave, if_neg (by simp [ho])] at hl
  refine (congrArg (Roster.dropStream? · (some R.groups.length)) hl).trans ?_
  simp [Roster.dropStream?, Roster.modifyGroup, Roster.join, Roster.discard, Group.fresh,
    modify_concat]

/-- The stream of a group's errors is taken if it is there; else nothing changes. -/
theorem takeStream_eq (b : Broker) (g : Nat) :
    (b.takeStream g).1 = ((b.groups[g]?.map fun x => x.stream == .kept).getD false) ∧
      (b.takeStream g).2 = b.modifyGroup g fun x =>
        if x.stream = .kept then { x with stream := .taken } else x := by
  have hsame : (∀ x, b.groups[g]? = some x → x.stream ≠ .kept) →
      b.modifyGroup g (fun x => if x.stream = .kept then { x with stream := .taken } else x) = b := by
    intro hs
    unfold Broker.modifyGroup
    rw [modify_same b.groups g fun a ha => if_neg (hs a ha)]
  unfold Broker.takeStream
  cases hg : b.groups[g]? with
  | none => exact ⟨rfl, (hsame fun x hx => by rw [hg] at hx; cases hx).symm⟩
  | some x =>
    cases hs : x.stream with
    | kept =>
      simp only [Option.map_some, hs]
      refine ⟨rfl, ?_⟩
      unfold Broker.modifyGroup
      rw [modify_congr b.groups g fun a ha => ?_]
      rw [hg] at ha
      cases ha
      exact (if_pos hs).symm
    | taken | dropped =>
      simp only [Option.map_some, hs]
      refine ⟨rfl, (hsame fun a ha => ?_).symm⟩
      rw [hg] at ha
      cases ha
      simp [hs]

/-! ## The supervisor and its callers -/

section Supervised
variable {w : Relay} {s : Supervisor} (hw : w.supervisor = some s)
include hw

theorem roster_modifySupervisor (f : Supervisor → Supervisor) :
    (w.modifySupervisor f).roster = w.roster.put (f s) := by
  unfold modifySupervisor
  rw [hw]
  rfl

theorem roster_setLoop (p : Supervisor.Loop) :
    (w.setLoop p).roster = w.roster.put { s with loop := p } := roster_modifySupervisor hw _

theorem roster_pause : ∃ moment,
    (w.pause s).roster = w.roster.put { s with loop := .pausing moment } := by
  unfold pause
  exact ⟨_, (roster_setTimer _ _ _).trans (roster_setLoop hw _)⟩

/-- A failure is shown to the operator before the pause. -/
theorem roster_retry (e : RelayError) : ∃ moment,
    (w.retry s e).roster = (w.roster.report e).put { s with loop := .pausing moment } := by
  have hs : ({ w with books := w.books.count .consumeError }.report e).supervisor = some s := hw
  obtain ⟨moment, hp⟩ := roster_pause hs
  exact ⟨moment, hp⟩

theorem supervisor_leaveGroup (g : Nat) : (w.leaveGroup g).supervisor = some s := by
  have hl := congrArg Roster.supervisor (roster_leaveGroup w g)
  unfold Roster.leave at hl
  split at hl <;> exact hl.trans hw

theorem roster_endLoop :
    (w.endLoop s).roster = (w.roster.leave? s.group).put { s with loop := .ended } := by
  unfold endLoop
  rw [roster_wakeCallers]
  split
  · next hg =>
    rw [show w.roster.leave? s.group = w.roster by rw [hg]; rfl]
    exact roster_setLoop (w := w.clearTimer .loop) hw _
  · next g hg =>
    rw [show w.roster.leave? s.group = w.roster.leave g by rw [hg]; rfl, ← roster_leaveGroup]
    exact roster_setLoop (w := (w.leaveGroup g).clearTimer .loop) (supervisor_leaveGroup hw g) _

/-- A group that was just joined is installed. -/
theorem roster_install {R : Roster} (hR : w.roster = R.join) (topics : List String) :
    (w.install s topics R.groups.length).roster = R.install s topics := by
  unfold install Roster.install
  have hm := roster_modifySupervisor hw fun s =>
    { s with topics := topics, group := some R.groups.length, generation := s.generation + 1 }
  rw [hR] at hm
  dsimp only
  cases s.group with
  | none => exact hm
  | some old =>
    rw [roster_leaveGroup]
    refine congrArg (Roster.leave · old) ?_
    exact congrArg (fun R : Roster => { R with swaps := R.swaps + 1 }) hm

theorem roster_endForwarder (reading : Option Nat) : (w.endForwarder reading).roster =
    (w.roster.dropStream? reading).put { s with forwarder := .ended } := by
  unfold endForwarder
  rw [roster_wakeCallers]
  cases reading with
  | none => exact roster_modifySupervisor hw _
  | some g =>
    exact roster_modifySupervisor (w := { w with broker := w.broker.dropStream g }) hw _

theorem roster_follow (reading : Option Nat) :
    (w.follow s reading).roster = w.roster.follow s reading := by
  obtain ⟨settings, topics, _ | g, generation, loop, forwarder, refresher, held, awaited⟩ := s
  · cases reading with
    | none => exact roster_modifySupervisor (w := { w with broker := w.broker }) hw _
    | some r => exact roster_modifySupervisor (w := { w with broker := w.broker.dropStream r }) hw _
  · obtain ⟨h1, h2⟩ := takeStream_eq w.broker g
    unfold follow
    simp only [h1, h2]
    cases reading with
    | none =>
      exact roster_modifySupervisor (w := { w with broker := w.broker.modifyGroup g _ }) hw _
    | some r =>
      exact roster_modifySupervisor
        (w := { w with broker := (w.broker.modifyGroup g _).dropStream r }) hw _

end Supervised

/-- A session is added, and a call that serves it. -/
theorem roster_serve {w : Relay} {s : Supervisor} (hw : w.supervisor = some s) (g : Nat)
    (hf : Pending.fits s.settings.maxUndelivered = true) :
    (w.serve s g).roster = w.roster.serve s g := by
  unfold serve
  simp only [hf, Bool.not_true, Bool.false_eq_true, if_false]
  have hs := roster_setLoop
    (w := ((w.addSession s.settings).2.addCall g w.sessions.length s.topics rootToken).2)
    hw (.serving w.calls.length s.generation)
  refine Eq.trans hs ?_
  simp [addSession, addCall, Roster.serve, roster, Hosted.post, Post.idle, Session.ofCapacity]
  rfl

end Relay
end Sluice
