import Sluice.Proofs.Supervision.Sessions
/-!
# What a call to shut down waits for

The first caller that asks for the end of the tasks takes over to wait for them. Whoever asks after
it is answered at once: there is nothing left to take over. So a call to shut down has waited for
all tasks unless another caller has taken over before, and still waits or was dropped.

* `Attended`: callers and the one that has taken over.
* `Reachable.tasks_go_on`: no task ends too early.
* `Reachable.shutdown_waits`: what has happened when a call to shut down returns.
* `shutdown_beside_wait`: a call that returns while a session runs.
-/
namespace Sluice

/-- Somebody has asked for the end of the tasks, and waits for it or was dropped. -/
def Caller.IsPending (c : Caller) : Prop :=
  c.kind ≠ .connected ∧ (c.phase = .waiting ∨ c.phase = .abandoned)

theorem Supervisor.hasEnded_iff (s : Supervisor) : s.hasEnded = true ↔
    s.loop.hasEnded = true ∧ s.forwarder = .ended ∧ s.refresher = .ended := by
  simp [hasEnded, and_assoc]

/-- What holds of the callers of a supervisor. -/
structure Attended (R : Roster) (s : Supervisor) : Prop where
  refresher : s.refresher = .ended → R.stopped = true
  /-- Whoever has taken over is still there, or the tasks have ended. -/
  awaited : s.awaited = true → s.hasEnded = true ∨
    ∃ (j : Nat) (c : Caller), R.callers[j]? = some c ∧ c.IsPending
  /-- Nobody waits or has an answer before somebody has taken over. -/
  begun : ∀ (i : Nat) (c : Caller), R.callers[i]? = some c → c.kind ≠ .connected →
    (c.phase = .waiting ∨ ∃ b, c.phase = .done b) →
    s.awaited = true ∧ (c.kind = .shutdown → R.stopped = true)

namespace Attended
open Roster
variable {R S : Roster} {s s' : Supervisor} {ns : List Notice}

theorem start (settings : Settings) (due : Nat) :
    Attended (.first (.first settings due)) (.first settings due) :=
  ⟨nofun, nofun, fun i c hc => by simp [Roster.first] at hc⟩

/-- No caller has moved, and no task has begun again. -/
theorem of_same (h : Attended R s) (hc : S.callers = R.callers)
    (hst : R.stopped = true → S.stopped = true) (ha : s'.awaited = s.awaited)
    (hr : s'.refresher = .ended → s.refresher = .ended ∨ S.stopped = true)
    (he : s.hasEnded = true → s'.hasEnded = true) : Attended S s' where
  refresher := fun hx => (hr hx).elim (fun hx => hst (h.refresher hx)) id
  awaited := by
    rw [ha, hc]
    exact fun hx => (h.awaited hx).imp_left he
  begun := by
    rw [ha, hc]
    intro i c hi hk hp
    obtain ⟨h1, h2⟩ := h.begun i c hi hk hp
    exact ⟨h1, fun hsd => hst (h2 hsd)⟩

/-- A loop that is free has not ended. -/
theorem not_ended_of_free (hf : R.IsFree s.loop) : s.hasEnded ≠ true := by
  rw [ne_eq, Supervisor.hasEnded_iff]
  rintro ⟨hl, -⟩
  cases hloop : s.loop <;> rw [hloop] at hl hf
  case ended => exact hf
  case crashed => exact hf
  all_goals cases hl

/-- Caller `i` goes on: it waits only if somebody has taken over, and it is answered only then. -/
theorem setCaller (h : Attended R s) {i : Nat} {c : Caller} {phase : Caller.Phase}
    (hi : R.callers[i]? = some c)
    (hawait : s.hasEnded = true ∨ (c.IsPending → phase = .abandoned))
    (hbegun : c.kind ≠ .connected → phase = .waiting ∨ (∃ b, phase = .done b) →
      s.awaited = true ∧ (c.kind = .shutdown → R.stopped = true)) :
    Attended (R.setCaller i phase) s where
  refresher := h.refresher
  awaited := fun ha => by
    rcases hawait with he | hawait
    · exact .inl he
    · refine (h.awaited ha).imp_right fun ⟨j, d, hj, hd⟩ => ?_
      by_cases hij : i = j
      · subst hij
        cases Option.some.inj (hi.symm.trans hj)
        exact ⟨i, _, (List.getElem?_modify_eq ..).trans (congrArg (Option.map _) hi), hd.1,
          .inr (hawait hd)⟩
      · exact ⟨j, d, (List.getElem?_modify_ne _ _ hij).trans hj, hd⟩
  begun := fun j d hj hk hp => by
    by_cases hij : i = j
    · subst hij
      obtain ⟨e, he, rfl⟩ := Option.map_eq_some_iff.mp ((List.getElem?_modify_eq ..).symm.trans hj)
      cases Option.some.inj (hi.symm.trans he)
      exact hbegun hk hp
    · exact h.begun j d ((List.getElem?_modify_ne _ _ hij).symm.trans hj) hk hp

/-- Every change keeps the callers attended. -/
theorem change (h : Attended R s) (hs : R.supervisor = some s) (hc : R.Change ns S)
    (hs' : S.supervisor = some s') : Attended S s' := by
  cases hc with
  | confirm | report | refuse | begin | leave | drain | giveUp | close | rebalance | look | discard
  | forward | accept =>
    cases Option.some.inj (hs.symm.trans hs')
    exact h.of_same rfl id rfl .inl id
  | stop =>
    cases Option.some.inj (hs.symm.trans hs')
    exact h.of_same rfl (fun _ => rfl) rfl .inl id
  | install topics h0 hst =>
    cases Option.some.inj (hs.symm.trans h0)
    obtain ⟨hsup, -, -, hstop, -, -, hcal, -⟩ := install_fields R s topics
    rw [hsup] at hs'
    cases hs'
    exact h.of_same hcal (fun hx => by rw [hst] at hx; cases hx) rfl .inl id
  | turn p h0 hf =>
    cases Option.some.inj (hs.symm.trans h0)
    cases hs'
    exact h.of_same rfl id rfl .inl fun he => absurd he (not_ended_of_free hf)
  | endLoop h0 hst hf =>
    cases Option.some.inj (hs.symm.trans h0)
    cases hs'
    obtain ⟨groups, left, hl, -⟩ := leave?_eq R s.group
    rw [hl]
    exact h.of_same rfl id rfl .inl fun he => absurd he (not_ended_of_free hf)
  | crash h0 ht =>
    cases Option.some.inj (hs.symm.trans h0)
    cases hs'
    exact h.of_same rfl id rfl .inl fun he =>
      absurd he (not_ended_of_free (R := R) (by rw [ht]; trivial))
  | serve h0 ht =>
    cases Option.some.inj (hs.symm.trans h0)
    cases hs'
    exact h.of_same rfl id rfl .inl fun he =>
      absurd he (not_ended_of_free (R := R) (by rw [ht]; trivial))
  | @endForwarder s₀ _ reading h0 hst hf =>
    cases Option.some.inj (hs.symm.trans h0)
    cases hs'
    obtain ⟨groups, hd, -⟩ := dropStream?_eq R reading
    rw [hd]
    refine h.of_same rfl id rfl .inl fun he => ?_
    rw [Supervisor.hasEnded_iff, hf] at he
    cases he.2.1
  | @follow s₀ _ reading h0 hst hf =>
    cases Option.some.inj (hs.symm.trans h0)
    obtain ⟨groups, reading', hd, -⟩ := follow_eq R s reading
    rw [hd] at hs' ⊢
    cases hs'
    refine h.of_same rfl id rfl .inl fun he => ?_
    rw [Supervisor.hasEnded_iff, hf] at he
    cases he.2.1
  | endRefresher h0 hst =>
    cases Option.some.inj (hs.symm.trans h0)
    cases hs'
    refine h.of_same rfl id rfl (fun _ => .inr hst) fun he => ?_
    rw [Supervisor.hasEnded_iff] at he ⊢
    exact ⟨he.1, he.2.1, rfl⟩
  | postpone due' h0 hr =>
    cases Option.some.inj (hs.symm.trans h0)
    cases hs'
    refine h.of_same rfl id rfl nofun fun he => ?_
    rw [Supervisor.hasEnded_iff, hr] at he
    cases he.2.2
  | release h0 =>
    cases Option.some.inj (hs.symm.trans h0)
    cases hs'
    exact h.of_same rfl id rfl .inl id
  | call kind =>
    cases Option.some.inj (hs.symm.trans hs')
    refine ⟨h.refresher, fun ha => ?_, fun i c hi hk hp => ?_⟩
    · refine (h.awaited ha).imp_right fun ⟨j, c, hj, hc⟩ => ⟨j, c, ?_, hc⟩
      exact (List.getElem?_append_left (List.getElem?_eq_some_iff.mp hj).1).trans hj
    · rcases concat_cases hi with hi | ⟨-, rfl⟩
      · exact h.begun i c hi hk hp
      · rcases hp with hp | ⟨b, hp⟩ <;> cases hp
  | wait hi =>
    cases Option.some.inj (hs.symm.trans hs')
    exact h.setCaller hi (.inr fun hp => absurd rfl hp.1) fun hk => absurd rfl hk
  | @takeOver s₀ i c h0 hi hk hp ha hst =>
    cases Option.some.inj (hs.symm.trans h0)
    cases hs'
    refine ⟨h.refresher, fun _ => .inr ⟨i, _, (List.getElem?_modify_eq ..).trans
      (congrArg (Option.map _) hi), hk, .inl rfl⟩, fun j d hj hkj hpj => ⟨rfl, fun hsd => ?_⟩⟩
    by_cases hij : i = j
    · subst hij
      obtain ⟨e, he, rfl⟩ := Option.map_eq_some_iff.mp ((List.getElem?_modify_eq ..).symm.trans hj)
      cases Option.some.inj (hi.symm.trans he)
      exact hst hsd
    · exact (h.begun j d ((List.getElem?_modify_ne _ _ hij).symm.trans hj) hkj hpj).2 hsd
  | answer b h0 hi hc =>
    cases Option.some.inj (hs.symm.trans h0)
    cases Option.some.inj (hs.symm.trans hs')
    rcases hc with hk | ⟨hp, ha, hst⟩ | ⟨hp, he⟩
    · exact h.setCaller hi (.inr fun hp => absurd hk hp.1) fun hk' => absurd hk hk'
    · refine h.setCaller hi (.inr fun hpend => ?_) fun _ _ => ⟨ha, hst⟩
      rw [Caller.IsPending, hp] at hpend
      rcases hpend.2 with hx | hx <;> cases hx
    · exact h.setCaller hi (.inl he) fun hk _ => h.begun _ _ hi hk (.inl hp)
  | abandon hi he =>
    cases Option.some.inj (hs.symm.trans hs')
    refine h.setCaller hi (.inr fun _ => rfl) fun _ hp => ?_
    rcases hp with hp | ⟨b, hp⟩ <;> cases hp

end Attended

namespace Relay
open Roster
variable {settings : Settings} {w v : Relay}

theorem Reachable.attended (h : Reachable settings w) :
    ∃ s, w.supervisor = some s ∧ s.settings = settings ∧ Attended w.roster s := by
  obtain ⟨ns, h⟩ := h.chronicle
  exact h.holds (P := fun _ R s => Attended R s) (fun due => .start settings due)
    fun ha hs _ hc hs' => ha.change hs hc hs'

/-- No task ends before the end, but the consume loop does if there is no room for a session. -/
theorem Reachable.tasks_go_on (h : Reachable settings w) {s : Supervisor}
    (hw : w.supervisor = some s) (hst : w.isStopped = false) :
    (s.loop.hasEnded = true → Pending.fits settings.maxUndelivered = false) ∧
      s.forwarder ≠ .ended ∧ s.refresher ≠ .ended := by
  obtain ⟨s₁, hw₁, hset, he, -⟩ := h.kept
  obtain ⟨s₂, hw₂, -, ha⟩ := h.attended
  cases Option.some.inj (hw.symm.trans hw₁)
  cases Option.some.inj (hw.symm.trans hw₂)
  have hrun : w.roster.stopped ≠ true := Bool.eq_false_iff.mp hst
  refine ⟨fun hl => ?_, fun hf => hrun (he.forwarder hf), fun hr => hrun (ha.refresher hr)⟩
  cases hloop : s.loop with
  | ended => exact absurd (he.ended hloop) hrun
  | crashed => exact hset ▸ he.crashed hloop
  | top | pausing | serving => rw [hloop] at hl; cases hl

/-- All is over: the three tasks have ended, no session runs, and the present group has been closed,
provided that room could be made for a session. -/
def AllOver (w : Relay) : Prop :=
  ∃ s, w.supervisor = some s ∧ s.hasEnded = true ∧ (∀ k, ¬ w.Running k ∧ ¬ w.Confirming k) ∧
    ∀ g, s.group = some g → Pending.fits s.settings.maxUndelivered = true →
      w.broker.isClosed g = true

/-- When the three tasks have ended, all is over. -/
theorem Reachable.allOver (h : Reachable settings w) {s : Supervisor} (hw : w.supervisor = some s)
    (he : s.hasEnded = true) : w.AllOver := by
  obtain ⟨s', hw', -, hen, ho⟩ := h.kept
  cases Option.some.inj (hw.symm.trans hw')
  have hrun : ∀ k, ¬ w.Running k := fun k hk => by
    obtain ⟨n, hn⟩ := running_call ho hk
    have := (Supervisor.hasEnded_iff s).mp he
    rw [hn] at this
    cases this.1
  refine ⟨s, hw, he, fun k => ⟨hrun k, fun hc => hrun k (running_of_confirming ho hc)⟩,
    fun g hg hfit => ?_⟩
  have hl : s.loop = .ended := by
    have hl := ((Supervisor.hasEnded_iff s).mp he).1
    cases hloop : s.loop with
    | ended => rfl
    | crashed =>
      have := hen.crashed hloop
      rw [hfit] at this
      cases this
    | top | pausing | serving => rw [hloop] at hl; cases hl
  have hn : w.roster.closings[g]? ≠ some false := fun hc => ((hen.open_ g).mp hc).2 hl
  show w.roster.isClosed g = true
  rw [isClosed_eq]
  cases hc : w.roster.closings[g]? with
  | none => rfl
  | some b =>
    cases b with
    | true => rfl
    | false => exact absurd hc hn

/-! ## What a call returns to -/

theorem callers_answer (w : Relay) (i : Nat) (b : Bool) :
    (w.answer i b).callers = (w.setCaller i (.done b)).callers := by
  unfold answer reap
  split
  · exact callers_cancel _
  · rfl

theorem callers_setCaller {i : Nat} {kind : Caller.Kind} {p phase : Caller.Phase}
    (hi : w.callers[i]? = some ⟨kind, p⟩) :
    (w.setCaller i phase).callers[i]? = some ⟨kind, phase⟩ :=
  (List.getElem?_modify_eq ..).trans (congrArg (Option.map _) hi)

/-- Who asks for the end of the tasks waits for it, unless somebody has taken over before. -/
theorem caller_takeOver (s : Supervisor) {i : Nat} {kind : Caller.Kind} {p : Caller.Phase}
    (hi : w.callers[i]? = some ⟨kind, p⟩) :
    (w.takeOver s i).callers[i]? = some ⟨kind, if s.awaited then .done true else .waiting⟩ := by
  unfold takeOver
  split
  · rw [callers_answer]
    exact callers_setCaller hi
  · exact callers_setCaller hi

/-- A caller that was just made can move, and that is what becomes of it. -/
theorem caller_fresh {s : Supervisor} (hw : w.supervisor = some s) {i : Nat} {kind : Caller.Kind}
    (hk : kind ≠ .connected) (hi : w.callers[i]? = some ⟨kind, .fresh⟩) :
    ∃ v, w.step (.caller i) = some v ∧
      v.callers[i]? = some ⟨kind, if s.awaited then .done true else .waiting⟩ := by
  simp only [step, hw, stepCaller, hi]
  cases kind with
  | connected => exact absurd rfl hk
  | finished => exact ⟨_, rfl, caller_takeOver s hi⟩
  | shutdown =>
    rw [← callers_cancel] at hi
    exact ⟨_, rfl, caller_takeOver s hi⟩

/-- A caller that waits for the end of the tasks moves when they have ended, and not before. -/
theorem caller_waiting {s : Supervisor} (hw : w.supervisor = some s) {i : Nat} {kind : Caller.Kind}
    (hk : kind ≠ .connected) (hi : w.callers[i]? = some ⟨kind, .waiting⟩) :
    w.step (.caller i) = if s.hasEnded then some (w.answer i true) else none := by
  simp only [step, hw, stepCaller, hi]

/-- In a settled relay after the end, all is over and everybody has an answer or was dropped. -/
theorem Reachable.over_of_settled (h : Reachable settings w) (hs : w.Settled)
    (hst : w.isStopped = true) :
    w.AllOver ∧ ∀ (i : Nat) (c : Caller), w.callers[i]? = some c → c.hasEnded = true := by
  obtain ⟨s, hw, -⟩ := h.kept
  have hloop : s.loop.hasEnded = true := by
    rcases h.loop_of_settled hs hw with ⟨hl, -⟩ | ⟨hl, -⟩ | ⟨-, hn⟩ | ⟨c, x, y, -, hn, -⟩
    · rw [hl]; rfl
    · rw [hl]; rfl
    · rw [hst] at hn; cases hn
    · rw [hst] at hn; cases hn
  have hforward : s.forwarder = .ended := by
    have hn := hs .forwarder
    simp only [step, hw, stepForwarder, hst] at hn
    cases hf : s.forwarder with
    | ended => rfl
    | watching seen reading => simp [hf] at hn
  have hrefresh : s.refresher = .ended := by
    have hn := hs .refresher
    simp only [step, hw, stepRefresher, hst] at hn
    cases hf : s.refresher with
    | ended => rfl
    | waiting due => simp [hf] at hn
  have hended : s.hasEnded = true := (Supervisor.hasEnded_iff s).mpr ⟨hloop, hforward, hrefresh⟩
  refine ⟨h.allOver hw hended, fun i c hi => ?_⟩
  obtain ⟨kind, p⟩ := c
  have hn := hs (.caller i)
  simp only [step, hw, stepCaller, hi] at hn
  cases p with
  | done | abandoned => rfl
  | fresh | waiting => cases kind <;> simp [hst, hended] at hn

/-- **What a call to shut down waits for.** In every relay that a supervisor comes to, whatever the
order of its tasks and whoever calls: who asks for the end of the tasks waits for it if nobody has
taken over before, and is else answered at once. Who waits is answered only when all is over. So if a
call to shut down has returned, the supervisor has been told to end, and all is over unless another
caller had taken over and still waits or was dropped. In a settled relay after the end all is over,
and everybody has an answer or was dropped. -/
theorem Reachable.shutdown_waits (h : Reachable settings w) : ∃ s, w.supervisor = some s ∧
    (∀ (i : Nat) (kind : Caller.Kind), kind ≠ .connected → w.callers[i]? = some ⟨kind, .fresh⟩ →
      ∃ v, w.step (.caller i) = some v ∧
        v.callers[i]? = some ⟨kind, if s.awaited then .done true else .waiting⟩) ∧
    (∀ (i : Nat) (kind : Caller.Kind) (v : Relay), kind ≠ .connected →
      w.callers[i]? = some ⟨kind, .waiting⟩ → w.step (.caller i) = some v → w.AllOver) ∧
    (∀ (i : Nat) (b : Bool), w.callers[i]? = some ⟨.shutdown, .done b⟩ → w.isStopped = true ∧
      (w.AllOver ∨ ∃ (j : Nat) (c : Caller), j ≠ i ∧ w.callers[j]? = some c ∧ c.IsPending)) ∧
    (w.Settled → w.isStopped = true →
      w.AllOver ∧ ∀ (i : Nat) (c : Caller), w.callers[i]? = some c → c.hasEnded = true) := by
  obtain ⟨s, hw, -, ha⟩ := h.attended
  refine ⟨s, hw, fun i kind hk hi => caller_fresh hw hk hi, fun i kind v hk hi hs => ?_,
    fun i b hi => ?_, h.over_of_settled⟩
  · rw [caller_waiting hw hk hi] at hs
    split at hs
    · next he => exact h.allOver hw he
    · cases hs
  · obtain ⟨haw, hst⟩ := ha.begun i _ hi nofun (.inr ⟨b, rfl⟩)
    refine ⟨hst rfl, (ha.awaited haw).imp (h.allOver hw) fun ⟨j, c, hj, hc⟩ => ?_⟩
    refine ⟨j, c, ?_, hj, hc⟩
    rintro rfl
    cases Option.some.inj (Eq.symm hj |>.trans hi)
    rcases hc.2 with hp | hp <;> cases hp

/-- The only caller asks to shut down while a session runs, and is answered when all is over. -/
theorem Reachable.shutdown_waits_alone : ∃ w : Relay, Reachable plainSettings w ∧ w.Settled ∧
    w.callers = [⟨.shutdown, .done true⟩] ∧ w.AllOver := by
  obtain ⟨⟨ms, w⟩, hw, hs, hc⟩ : ∃ x, (empty.start plainSettings).replay
      [.inl (.createTopic "t" 1), .inr .loop, .inr .loop, .inr .loop, .inl (.call .shutdown),
        .inr (.caller 0), .inr .forwarder, .inr .refresher, .inr .loop, .inr (.feeder 0 0),
        .inr (.claim 0 0), .inr (.confirmer 0), .inr (.feeder 0 0), .inr .loop,
        .inr (.confirmer 0), .inr (.confirmer 0), .inr .loop, .inr .loop, .inr .loop,
        .inr (.caller 0)] = some x ∧
      x.2.isSettled = true ∧ x.2.callers = [⟨.shutdown, .done true⟩] :=
    ⟨_, rfl, rfl, rfl⟩
  have hreach := Reachable.start.replay hw
  obtain ⟨s, -, -, -, hdone, -⟩ := hreach.shutdown_waits
  refine ⟨w, hreach, settled_of_isSettled hs, hc, ?_⟩
  refine (hdone 0 true (by rw [hc]; rfl)).2.resolve_right fun ⟨j, c, hj, hcj, _⟩ => ?_
  rw [hc, List.getElem?_eq_none (by simp; omega)] at hcj
  cases hcj

/-- **A call that returns too soon.** Somebody waits for the tasks when another calls to shut down.
The call returns at once, while the session runs and the group is open. -/
theorem shutdown_beside_wait : ∃ (w : Relay) (s : Supervisor), Reachable plainSettings w ∧
    w.callers = [⟨.finished, .waiting⟩, ⟨.shutdown, .done true⟩] ∧ w.supervisor = some s ∧
    s.hasEnded = false ∧ w.Running 0 ∧ s.group = some 0 ∧ w.broker.isClosed 0 = false := by
  obtain ⟨⟨ms, w⟩, s, hw, hc, hs, he, hr, hg, ho⟩ : ∃ x s, (empty.start plainSettings).replay
      [.inl (.createTopic "t" 1), .inr .loop, .inr .loop, .inr .loop, .inl (.call .finished),
        .inr (.caller 0), .inl (.call .shutdown), .inr (.caller 1)] = some x ∧
      x.2.callers = [⟨.finished, .waiting⟩, ⟨.shutdown, .done true⟩] ∧
      x.2.supervisor = some s ∧ s.hasEnded = false ∧
      (x.2.sessions[0]?.map fun h => h.session.stage) = some .active ∧ s.group = some 0 ∧
      x.2.broker.isClosed 0 = false :=
    ⟨_, _, rfl, rfl, rfl, rfl, rfl, rfl, rfl⟩
  obtain ⟨h, hk, hst⟩ := Option.map_eq_some_iff.mp hr
  exact ⟨w, s, Reachable.start.replay hw, hc, hs, he, ⟨h, hk, .inl hst⟩, hg, ho⟩

end Relay
end Sluice
