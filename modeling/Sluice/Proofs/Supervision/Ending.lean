import Sluice.Proofs.Supervision.Callers
import Sluice.Proofs.Supervision.Drain
import Sluice.Proofs.Supervision.Membership
/-!
# Cancellation ends everything

No task of a supervisor ends before its token is cancelled, and then all of them do, wherever they
have come to: the loop may be joining, pausing or serving, the refresher may wait for its moment, the
claims may wait for items or for slots, and results may be out. Nobody has to let time go on or to
confirm anything for that.

* `Relay.AllEnded`: what is so when everything has ended.
* `Reachable.allEnded`: a settled relay after the end.
* `Relay.Drained`: what has become of the results that were queued.
* `Reachable.cancellation_completes`: from every relay that a supervisor comes to.
* `loop_ends_uncancelled`: a loop that ends for want of room.
-/
namespace Sluice.Relay
open Roster
variable {settings : Settings} {w v : Relay} {k : Nat} {h : Hosted}

/-! ## Everything has ended -/

/-- Everything has ended: the three tasks, and all claims, feeders, confirmers, calls and callers.
Every group that was joined is closed. -/
structure AllEnded (w : Relay) : Prop where
  tasks : ∃ s, w.supervisor = some s ∧ s.loop = .ended ∧ s.forwarder = .ended ∧ s.refresher = .ended
  claims : ∀ h ∈ w.sessions, ∀ c ∈ h.session.claims, c.hasEnded = true
  feeders : ∀ h ∈ w.sessions, ∀ f ∈ h.feeders, f.phase = .ended
  /-- The confirmer of a session that was never set up is not there. -/
  confirmers : ∀ h ∈ w.sessions, h.session.confirmer = .ended ∨
    h.session.confirmer = .absent ∧ h.session.stage = .idle
  calls : ∀ x ∈ w.calls, ∃ failure, x.phase = .ended failure
  groups : ∀ g ∈ w.broker.groups, g.closed = true
  callers : ∀ c ∈ w.callers, c.hasEnded = true

/-- In a settled relay after the end everything has ended, if there was room for a session. -/
theorem Reachable.allEnded (hr : Reachable settings w)
    (hfit : Pending.fits settings.maxUndelivered = true) (hst : w.isStopped = true)
    (hs : w.Settled) : w.AllEnded := by
  obtain ⟨s, hw, -, he, ho⟩ := hr.kept
  obtain ⟨⟨s', hw', hended, -⟩, hcallers⟩ := hr.over_of_settled hs hst
  cases Option.some.inj (hw.symm.trans hw')
  obtain ⟨-, hforward, hrefresh⟩ := (Supervisor.hasEnded_iff s).mp hended
  have hloop : s.loop = .ended := by
    rcases hr.loop_of_settled hs hw with ⟨hl, -⟩ | ⟨-, hn⟩ | ⟨-, hn⟩ | ⟨c, x, y, -, hn, -⟩
    · exact hl
    · rw [hfit] at hn
      cases hn
    · rw [hst] at hn
      cases hn
    · rw [hst] at hn
      cases hn
  have hcalls : ∀ (c : Nat) (x : ConsumeCall), w.calls[c]? = some x →
      ∃ failure, x.phase = .ended failure := fun c x hx => by
    refine (ho.busy c x hx).resolve_right fun ⟨n, hl⟩ => ?_
    rw [hloop] at hl
    cases hl
  refine ⟨⟨s, hw, hloop, hforward, hrefresh⟩, fun h hm c hc => ?_, fun h hm f hf => ?_,
    fun h hm => ?_, fun x hx => ?_, fun g hg => ?_, fun c hc => ?_⟩
  · obtain ⟨k, hk⟩ := List.mem_iff_getElem?.mp hm
    rcases hr.told hst hk with ⟨hn, -⟩ | ⟨hca, -⟩
    · simp [hn] at hc
    · exact List.all_eq_true.mp (claims_ended hs hk hca) c hc
  · obtain ⟨k, hk⟩ := List.mem_iff_getElem?.mp hm
    rcases hr.told hst hk with ⟨-, hn⟩ | ⟨hca, hl⟩
    · simp [hn] at hf
    · exact eq_of_beq (List.all_eq_true.mp (feeders_ended hs hk hca hl) f hf)
  · obtain ⟨k, hk⟩ := List.mem_iff_getElem?.mp hm
    obtain ⟨x, hx, hfits⟩ := fits_call ho hk
    obtain ⟨failure, hp⟩ := hcalls k x hx
    rw [hp] at hfits
    rcases hfits with hi | ⟨-, he⟩
    · -- the call failed before it set its session up
      exact .inr ⟨congrArg Post.confirmer hi, congrArg Post.stage hi⟩
    · exact .inl he
  · obtain ⟨c, hc⟩ := List.mem_iff_getElem?.mp hx
    exact hcalls c x hc
  · obtain ⟨j, hj⟩ := List.mem_iff_getElem?.mp hg
    cases hcl : g.closed with
    | true => rfl
    | false =>
      have hopen : w.roster.closings[j]? = some false := by
        simp [closings, roster, hj, hcl]
      exact absurd hloop ((he.open_ j).mp hopen).2
  · obtain ⟨i, hi⟩ := List.mem_iff_getElem?.mp hc
    exact hcallers i c hi

/-! ## What becomes of the results -/

/-- All results that were queued in `w` have been read in `v`, in order, and no others: session `k`
has applied them to the messages that waited for them, the positions of those that were delivered have
moved, and nobody waits for them any more. -/
structure Drained (w v : Relay) (k : Nat) : Prop where
  queued : v.queued = []
  results : v.results = w.results ++ w.queued
  history : v.books.history = w.books.history ++ Session.fates k (w.awaiting k) w.queued
  store : v.books.store =
    ((Session.fates k (w.awaiting k) w.queued).filterMap Fate.marked).foldl
      (fun s m => (s.mark m.source m.offset).2) w.books.store
  awaiting : v.awaiting k = Session.unanswered (w.awaiting k) w.queued

/-- Positions are what the marks in the history make them. -/
theorem Reachable.store_eq (hr : Reachable settings w) :
    w.books.store = OffsetStore.ofMarks (w.books.history.filterMap Fate.marked) := by
  obtain ⟨ms, ht⟩ := hr.trail
  obtain ⟨hm, hs⟩ := ht.marks (.inr ⟨settings, rfl⟩)
  rw [hs, ← hm]
  rfl

/-- A session that is served at the end reads all that is queued. -/
theorem Reachable.drained (hr : Reachable settings w) (hst : w.isStopped = true)
    (hk : w.sessions[k]? = some h) (ha : h.session.stage = .active) (hm : w.Moves v)
    (hend : v.AllEnded) : w.Drained v k := by
  have hget := standings_get hk
  have hsound := hr.clear.sound _ (List.mem_of_getElem? hget)
  rw [ha] at hget hsound
  have hd : w.Drains k := by
    refine ⟨_, _, hget, ?_, fun he => ?_⟩
    · rcases hsound with hc | hc <;> simp [hc]
    · rw [he] at hsound
      rcases hsound with hc | hc <;> cases hc
  obtain ⟨ho, st, c, hkv, hav, hev⟩ := hm.outlook hr hst hd
  obtain ⟨y, hy, hc⟩ := Option.map_eq_some_iff.mp ((List.getElem?_map ..).symm.trans hkv)
  have hce : c = .ended := by
    have hco : y.session.confirmer = c := congrArg Prod.snd hc
    rcases hend.confirmers y (List.mem_of_getElem? hy) with he | ⟨he, -⟩
    · exact hco.symm.trans he
    · exact absurd (hco.symm.trans he) hav
  have hnone := hev hce
  simp only [outlook, hnone, Session.fates, List.append_nil, Session.unanswered, List.foldl_nil,
    Prod.mk.injEq] at ho
  obtain ⟨hhist, haw, hitems⟩ := ho
  refine ⟨hnone, ?_, hhist, ?_, haw⟩
  · have hv := Queue.past_append_waiting v.books.sink.deliveries
    have hw := Queue.past_append_waiting w.books.sink.deliveries
    rw [show v.books.sink.deliveries.waiting = [] from hnone, List.append_nil, hitems, ← hw] at hv
    exact hv
  · -- the positions follow from the history on both sides
    rw [(hm.keeps hr hst).1.store_eq, hr.store_eq, hhist, List.filterMap_append]
    exact List.foldl_append

/-! ## Cancellation -/

/-- Cancelling the supervisor's token leaves results and sessions as they have come. -/
theorem cancel_same (w : Relay) : (w.apply .cancel).now = w.now ∧
    (w.apply .cancel).queued = w.queued ∧ (w.apply .cancel).results = w.results ∧
    (w.apply .cancel).books.history = w.books.history ∧
    (w.apply .cancel).books.store = w.books.store ∧
    (∀ k, (w.apply .cancel).awaiting k = w.awaiting k) ∧
    (w.apply .cancel).scene = w.scene := by
  have hf : (w.apply .cancel).flow = w.flow := flow_cancel w rootToken
  have hs : (w.apply .cancel).scene = w.scene := scene_cancel w rootToken
  exact ⟨congrArg Scene.now hs, congrArg (fun F : Flow => F.deliveries.waiting) hf,
    congrArg (fun F : Flow => F.deliveries.past) hf, congrArg Flow.history hf,
    congrArg Flow.store hf, fun k => by rw [awaiting_eq, awaiting_eq, hf], hs⟩

/-- **Cancellation ends everything.** From every relay that a supervisor with room for its sessions
comes to, whatever the order of its tasks: before its token is cancelled none of the three tasks has
ended. When it is cancelled, the tasks cannot go on moving for ever, and by their moves alone they come
to rest: no time passes and no result comes. Wherever they come to rest everything has ended and every
group is closed; and if a session was served when the token was cancelled, all results that were
queued then have been applied. (A relay whose token has been cancelled before is left as it is by
cancelling it again.) -/
theorem Reachable.cancellation_completes (h : Reachable settings w)
    (hfit : Pending.fits settings.maxUndelivered = true) :
    (w.isStopped = false → ∃ s, w.supervisor = some s ∧ s.loop.hasEnded = false ∧
      s.forwarder ≠ .ended ∧ s.refresher ≠ .ended) ∧
    (w.apply .cancel).isStopped = true ∧
    (∀ run : Nat → Relay, run 0 = w.apply .cancel →
      ∃ n, ∀ t, (run n).step t ≠ some (run (n + 1))) ∧
    (∃ v, (w.apply .cancel).Moves v ∧ v.Settled) ∧
    ∀ v, (w.apply .cancel).Moves v → v.Settled → v.now = w.now ∧ v.AllEnded ∧
      ∀ (k : Nat) (x : Hosted), w.sessions[k]? = some x → x.session.stage = .active →
        w.Drained v k := by
  have hc : Reachable settings (w.apply .cancel) := .event .cancel h
  have hst : (w.apply .cancel).isStopped = true := isStopped_cancel w
  obtain ⟨hnow, hq, hres, hhist, hstore, haw, hscene⟩ := cancel_same w
  refine ⟨fun hn => ?_, hst, fun run h0 => hc.no_endless_run hst h0, hc.comes_to_rest hst,
    fun v hm hs => ?_⟩
  · obtain ⟨s, hw, -⟩ := h.kept
    obtain ⟨hl, hf, hr⟩ := h.tasks_go_on hw hn
    refine ⟨s, hw, Bool.eq_false_iff.mpr fun he => ?_, hf, hr⟩
    rw [hfit] at hl
    cases hl he
  · obtain ⟨hv, hvst⟩ := hm.keeps hc hst
    have hend := hv.allEnded hfit hvst hs
    refine ⟨hm.now_eq.trans hnow, hend, fun k x hk ha => ?_⟩
    obtain ⟨y, hy, he⟩ : ∃ y, (w.apply .cancel).sessions[k]? = some y ∧
        y.standing = (x.session.stage, x.session.confirmer) := by
      have hget := standings_get hk
      rw [← hscene] at hget
      exact Option.map_eq_some_iff.mp ((List.getElem?_map ..).symm.trans hget)
    have hd := hc.drained hst hy ((congrArg Prod.fst he).trans ha) hm hend
    exact ⟨hd.queued, by rw [← hres, ← hq]; exact hd.results,
      by rw [← hhist, ← haw, ← hq]; exact hd.history,
      by rw [← hstore, ← haw, ← hq]; exact hd.store, by rw [← haw, ← hq]; exact hd.awaiting⟩

/-- A session is served, two groups are out, and the result of the first is queued when the token is
cancelled: at rest the first message has been marked, and the second still waits. -/
theorem Reachable.cancellation_completes_served : ∃ w v : Relay, Reachable plainSettings w ∧
    w.isStopped = false ∧ w.queued = [⟨1, true⟩] ∧ (w.apply .cancel).Moves v ∧ v.Settled ∧
    v.AllEnded ∧ v.now = w.now ∧ v.queued = [] ∧ v.position ⟨"t", 0⟩ = some 1 ∧
    v.awaiting 0 = [(2, .plain "t" 0 1 [123, 125])] := by
  obtain ⟨⟨ms, w⟩, hw, hst, hq, ha, hstore, haw⟩ : ∃ x, (empty.start plainSettings).replay
      (twoRead [123, 125] [123, 125] ++ [.inl (.confirm ⟨1, true⟩)]) = some x ∧
      x.2.isStopped = false ∧ x.2.queued = [⟨1, true⟩] ∧
      (x.2.sessions[0]?.map fun h => h.session.stage) = some .active ∧ x.2.books.store = [] ∧
      x.2.awaiting 0 = [(1, .plain "t" 0 0 [123, 125]), (2, .plain "t" 0 1 [123, 125])] :=
    ⟨_, rfl, rfl, rfl, rfl, rfl, rfl⟩
  have hr := Reachable.start.replay hw
  obtain ⟨-, -, -, ⟨v, hm, hs⟩, hall⟩ := hr.cancellation_completes (by decide)
  obtain ⟨hnow, hend, hdrained⟩ := hall v hm hs
  obtain ⟨h, hk, hstage⟩ := Option.map_eq_some_iff.mp ha
  have hd := hdrained 0 h hk hstage
  have hvs := hd.store
  have hva := hd.awaiting
  rw [hq, haw, hstore] at hvs
  rw [hq, haw] at hva
  refine ⟨w, v, hr, hst, hq, hm, hs, hend, hnow, hd.queued, ?_, hva.trans rfl⟩
  unfold position
  rw [hvs]
  rfl

/-- **A task that ends before the end.** The window of a session could be made, but not the room for
its messages: the consume loop crashes while the supervisor has not been told to end, and when the
token is cancelled the tasks come to rest without closing the group. -/
theorem loop_ends_uncancelled : ∃ (w v : Relay) (s : Supervisor), Reachable vastSettings w ∧
    Window.fits vastSettings.maxUndelivered = true ∧ w.isStopped = false ∧
    w.supervisor = some s ∧ s.loop.hasEnded = true ∧ s.group = some 0 ∧
    (w.apply .cancel).Moves v ∧ v.Settled ∧ v.broker.isClosed 0 = false := by
  obtain ⟨⟨ms, w⟩, s, u, v, hw, hst, hs, hl, hg, hu, hv, hset, ho⟩ : ∃ x s u v,
      (empty.start vastSettings).replay
        [.inl (.createTopic "t" 1), .inr .loop, .inr .loop] = some x ∧ x.2.isStopped = false ∧
      x.2.supervisor = some s ∧ s.loop.hasEnded = true ∧ s.group = some 0 ∧
      (x.2.apply .cancel).step .forwarder = some u ∧ u.step .refresher = some v ∧
      v.isSettled = true ∧ v.broker.isClosed 0 = false :=
    ⟨_, _, _, _, rfl, rfl, rfl, rfl, rfl, rfl, rfl, rfl, rfl⟩
  exact ⟨w, v, s, Reachable.start.replay hw, by decide, hst, hs, hl, hg,
    .move .refresher (.move .forwarder .here hu) hv, settled_of_isSettled hset, ho⟩

end Sluice.Relay
