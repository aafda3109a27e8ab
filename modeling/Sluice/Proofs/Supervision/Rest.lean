import Sluice.Proofs.Supervision.Chronicle
/-!
# Relays at rest

When no task can move, a session that has been told to end has seen its feeders and claims off, and
a session that is being cleaned up its confirmer. So no call is stuck on its way out, and what the
consume loop does at rest is one of four things.

* `claims_ended`, `feeders_ended`, `confirmer_ended`: the tasks of a session.
* `Reachable.loop_of_settled`: the consume loop.
-/
namespace Sluice.Relay
variable {settings : Settings} {w : Relay} {k : Nat} {h : Hosted}

/-! ## The tasks of a session -/

/-- The claims of a session that has been told to end have ended. -/
theorem claims_ended (hs : w.Settled) (hk : w.sessions[k]? = some h)
    (hc : h.session.cancelled = true) : h.session.claims.all Claim.hasEnded = true := by
  rw [List.all_eq_true]
  intro c hm
  obtain ⟨i, hi⟩ := List.mem_iff_getElem?.mp hm
  have hn := hs (.claim k i)
  simp only [step, stepSession, hk, Session.step, Session.stepClaim, hi] at hn
  unfold Claim.hasEnded
  cases hp : c.phase with
  | ended => rfl
  | admitting | queued | reading => simp [hp, hc] at hn

/-- So have its feeders, of which there is one for each claim. -/
theorem feeders_ended (hs : w.Settled) (hk : w.sessions[k]? = some h)
    (hc : h.session.cancelled = true) (hl : h.feeders.length = h.session.claims.length) :
    (h.feeders.all fun f => f.phase == .ended) = true := by
  rw [List.all_eq_true]
  intro f hm
  obtain ⟨i, hi⟩ := List.mem_iff_getElem?.mp hm
  obtain ⟨c, hci⟩ : ∃ c, h.session.claims[i]? = some c := by
    have hlt := (List.getElem?_eq_some_iff.mp hi).1
    exact ⟨_, List.getElem?_eq_getElem (by omega)⟩
  have hn := hs (.feeder k i)
  simp only [step, stepFeeder, hk, hi, hci] at hn
  cases hp : f.phase with
  | ended => rfl
  | fresh =>
    simp only [hp] at hn
    split at hn <;> cases hn
  | feeding | blocked | parked => simp [hp, hc] at hn

/-- The confirmer of a session that is being cleaned up has ended. -/
theorem confirmer_ended (hs : w.Settled) (hk : w.sessions[k]? = some h)
    (ha : h.session.stage ≠ .active) (hc : h.session.confirmer ≠ .absent) :
    h.session.confirmer = .ended := by
  have hn := hs (.confirmer k)
  simp only [step, stepSession, hk, Session.step, Session.stepConfirmer] at hn
  cases hp : h.session.confirmer with
  | absent => exact absurd hp hc
  | ended => rfl
  | asking | queued | reading => simp [hp, ha] at hn
  | draining =>
    simp only [hp] at hn
    split at hn <;> simp at hn

/-! ## The consume loop -/

/-- A call that is under way at rest serves its session: its group is open and the session has not
been told to end. -/
theorem call_of_settled (hs : w.Settled) {s : Supervisor} (ho : Orderly w.roster s) {c : Nat}
    {x : ConsumeCall} (hx : w.calls[c]? = some x) (hn : w.stepConsume c = none)
    (hne : ∀ failure, x.phase ≠ .ended failure) :
    x.phase = .serving ∧ w.broker.isClosed x.group = false ∧
      ∃ h, w.sessions[c]? = some h ∧ h.session.stage = .active ∧ h.session.cancelled = false := by
  obtain ⟨hse, -⟩ := ho.paired c x hx
  obtain ⟨h, hk⟩ : ∃ h, w.sessions[c]? = some h := by
    have hlt := (List.getElem?_eq_some_iff.mp hx).1
    have hlen := ho.length
    simp only [roster, List.length_map] at hlen
    exact ⟨_, List.getElem?_eq_getElem (by omega)⟩
  have hfit := ho.fits c x h.post hx (posts_get hk)
  unfold stepConsume at hn
  simp only [hx, hse] at hn
  cases hp : x.phase with
  | fresh =>
    simp only [hp] at hn
    split at hn <;> cases hn
  | ended failure => exact absurd hp (hne failure)
  | serving =>
    rw [hp] at hfit
    simp only [hp, hk] at hn
    split at hn
    · cases hn
    · next hcl =>
      split at hn
      · cases hn
      · next hca =>
        exact ⟨rfl, Bool.eq_false_iff.mpr hcl, h, hk, hfit.1, Bool.eq_false_iff.mpr hca⟩
  | leaving failure =>
    rw [hp] at hfit
    obtain ⟨hst, -, hca, hle⟩ := hfit
    simp only [hp, hk, feeders_ended hs hk hca hle, claims_ended hs hk hca, Session.drain] at hn
    have hst : h.session.stage = .active := hst
    simp [hst] at hn
  | cleaning failure =>
    rw [hp] at hfit
    have hst : h.session.stage = .draining := hfit.1
    have hco := confirmer_ended hs hk (by simp [hst]) hfit.2
    simp [hp, hk, Session.close?, hst, hco] at hn

/-- What the consume loop does at rest: it has ended after the end, it has crashed for want of room,
it pauses, or it serves a session on the present group and its topics. -/
theorem Reachable.loop_of_settled (hr : Reachable settings w) (hs : w.Settled) {s : Supervisor}
    (hw : w.supervisor = some s) :
    (s.loop = .ended ∧ w.isStopped = true) ∨
    (s.loop = .crashed ∧ Pending.fits settings.maxUndelivered = false) ∨
    ((∃ moment, s.loop = .pausing moment) ∧ w.isStopped = false) ∨
    ∃ c x h, s.loop = .serving c s.generation ∧ w.isStopped = false ∧ w.calls[c]? = some x ∧
      x.phase = .serving ∧ w.sessions[c]? = some h ∧ h.session.stage = .active ∧
      s.group = some x.group ∧ s.topics = x.topics := by
  obtain ⟨s', hw', hset, he, ho⟩ := hr.kept
  cases Option.some.inj (hw.symm.trans hw')
  have hn := hs .loop
  simp only [step, hw, stepLoop] at hn
  cases hl : s.loop with
  | ended => exact .inl ⟨rfl, he.ended hl⟩
  | crashed => exact .inr (.inl ⟨rfl, hset ▸ he.crashed hl⟩)
  | pausing moment =>
    simp only [hl] at hn
    split at hn
    · cases hn
    · next hst => exact .inr (.inr (.inl ⟨⟨moment, rfl⟩, Bool.eq_false_iff.mpr hst⟩))
  | top =>
    simp only [hl] at hn
    split at hn
    · cases hn
    · split at hn
      · split at hn <;> cases hn
      · split at hn <;> cases hn
  | serving c n =>
    obtain ⟨x, hx, hle, hsame, hother⟩ := ho.serving c n hl
    have hx : w.calls[c]? = some x := hx
    simp only [hl, hx, Option.map_some] at hn
    have hne : ∀ failure, x.phase ≠ .ended failure := by
      intro failure hp
      simp only [hp] at hn
      cases failure with
      | none => simp at hn
      | some e =>
        simp only at hn
        split at hn
        · cases hn
        · split at hn <;> cases hn
    have hc : w.stepConsume c = none := by
      split at hn
      · next hp => exact absurd (Option.some.inj hp) (hne _)
      · next hp => exact absurd (Option.some.inj hp) (hne _)
      · exact hn
    obtain ⟨hp, hcl, h, hk, ha, hca⟩ := call_of_settled hs ho hx hc hne
    have hopen : w.roster.closings[x.group]? ≠ some true := by
      intro hg
      have hcl : w.roster.isClosed x.group = false := hcl
      rw [Roster.isClosed_eq, hg] at hcl
      cases hcl
    have hgen : n = s.generation := by
      by_contra hne
      exact hopen (hother hne)
    have hst : w.isStopped = false := by
      have hfit := ho.fits c x h.post hx (posts_get hk)
      rw [hp] at hfit
      cases hst : w.isStopped with
      | false => rfl
      | true =>
        have : h.session.cancelled = true := hfit.2.2.2.2.1 hst
        rw [hca] at this
        cases this
    exact .inr (.inr (.inr ⟨c, x, h, by rw [hgen], hst, hx, hp, hk, ha, hsame hgen⟩))

end Sluice.Relay
