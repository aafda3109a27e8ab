import Sluice.Proofs.Supervision.Rest
import Sluice.Proofs.Supervision.Results
/-!
# Sessions stay apart

All sessions of a relay share one sink and its stream of results. They do not get into each other's
way: a session is set up only after the one before it has been cleaned up, and a result that comes
too late for its session does nothing in a later one.

* `running_call`: whoever runs is served by the call of the consume loop.
* `Reachable.sessions_apart`: at most one session at a time, and what becomes of results.
* `late_result_disregarded`: a run where a result comes too late.
-/
namespace Sluice.Relay
variable {settings : Settings} {w v : Relay} {s : Supervisor} {k : Nat}

/-- Session `k` is between its setup and the end of its cleanup. -/
def Running (w : Relay) (k : Nat) : Prop :=
  ∃ h, w.sessions[k]? = some h ∧ (h.session.stage = .active ∨ h.session.stage = .draining)

/-- The confirmer of session `k` is there: it may read results. -/
def Confirming (w : Relay) (k : Nat) : Prop :=
  ∃ h, w.sessions[k]? = some h ∧ h.session.confirmer ≠ .absent ∧ h.session.confirmer ≠ .ended

/-- Every session has a call, and fits it. -/
theorem fits_call (ho : Orderly w.roster s) {h : Hosted} (hk : w.sessions[k]? = some h) :
    ∃ x, w.calls[k]? = some x ∧ h.post.Fits w.isStopped k x.phase := by
  have hlt := (List.getElem?_eq_some_iff.mp hk).1
  have hlen := ho.length
  simp only [roster, List.length_map] at hlen
  have hx : w.calls[k]? = some w.calls[k] := List.getElem?_eq_getElem (by omega)
  exact ⟨_, hx, ho.fits k _ h.post hx (posts_get hk)⟩

/-- The consume loop serves the session that runs. -/
theorem running_call (ho : Orderly w.roster s) (hr : w.Running k) :
    ∃ n, s.loop = .serving k n := by
  obtain ⟨h, hk, hst⟩ := hr
  obtain ⟨x, hx, hfit⟩ := fits_call ho hk
  refine (ho.busy k x hx).resolve_left fun ⟨failure, hp⟩ => ?_
  rw [hp] at hfit
  have hst : h.post.stage = .active ∨ h.post.stage = .draining := hst
  rcases hfit with hi | ⟨hc, -⟩
  · rw [hi] at hst
    rcases hst with hst | hst <;> cases hst
  · rw [hc] at hst
    rcases hst with hst | hst <;> cases hst

/-- Whoever reads results belongs to the session that runs. -/
theorem running_of_confirming (ho : Orderly w.roster s) (hc : w.Confirming k) : w.Running k := by
  obtain ⟨h, hk, ha, he⟩ := hc
  obtain ⟨x, hx, hfit⟩ := fits_call ho hk
  refine ⟨h, hk, ?_⟩
  cases hp : x.phase with
  | fresh =>
    rw [hp] at hfit
    exact absurd (congrArg Post.confirmer hfit) ha
  | serving | leaving =>
    rw [hp] at hfit
    exact .inl hfit.1
  | cleaning =>
    rw [hp] at hfit
    exact .inr hfit.1
  | ended =>
    rw [hp] at hfit
    rcases hfit with hi | ⟨-, hce⟩
    · exact absurd (congrArg Post.confirmer hi) ha
    · exact absurd hce he

/-- **Sessions never overlap and results never cross.** In every relay that a supervisor comes to,
whatever the order of its tasks: at most one session is between its setup and the end of its cleanup,
and only its confirmer may read results. A step reads at most one result, and then it is one of that
confirmer. The result is applied to the message that the session itself submitted under its number,
if that still waits, and is else counted as unknown, once, and does nothing more; so it is with every
result for a message of a session that has ended. Nothing else reads results. In a settled relay the
session that runs is on the present group and its topics. -/
theorem Reachable.sessions_apart (h : Reachable settings w) :
    (∀ j k, w.Running j → w.Running k → j = k) ∧
    (∀ k, w.Confirming k → w.Running k) ∧
    (∀ t v, w.step t = some v → v.results = w.results ∨
      ∃ k d, t = .confirmer k ∧ w.Running k ∧ v.results = w.results ++ [d] ∧
        ((∃ m, w.Awaits k m d.id ∧ w.Submitted k m d.id ∧ w.Applied v k m d) ∨
          (∀ m, ¬ w.Awaits k m d.id) ∧ w.Disregarded v) ∧
        ∀ j m, w.Submitted j m d.id → ¬ w.Running j → w.Disregarded v) ∧
    (∀ e, (w.apply e).results = w.results) ∧
    (w.Settled → ∀ k, w.Running k → ∃ s x, w.supervisor = some s ∧
      s.loop = .serving k s.generation ∧ w.calls[k]? = some x ∧ x.session = k ∧
      x.phase = .serving ∧ s.group = some x.group ∧ s.topics = x.topics) := by
  obtain ⟨s, hw, -, he, ho⟩ := h.kept
  refine ⟨fun j k hj hk => ?_, fun k hk => running_of_confirming ho hk, fun t v hs => ?_,
    results_of_event w, fun hs k hk => ?_⟩
  · obtain ⟨n, hn⟩ := running_call ho hj
    obtain ⟨n', hn'⟩ := running_call ho hk
    rw [hn] at hn'
    cases hn'
    rfl
  · refine (result_of_step hs).imp_right fun hread => ?_
    obtain ⟨k, x, d, ht, hk, ha, hne, hr, hout⟩ := hread
    have hrun : w.Running k := running_of_confirming ho ⟨x, hk, ha, hne⟩
    refine ⟨k, d, ht, hrun, hr, ?_, fun j m hsub hj => ?_⟩
    · rcases hout with ⟨hg, hd⟩ | ⟨m, hg, hap⟩
      · refine .inr ⟨fun m ⟨y, hy, hm⟩ => ?_, hd⟩
        cases Option.some.inj (hk.symm.trans hy)
        rw [hg] at hm
        cases hm
      · exact .inl ⟨m, ⟨x, hk, hg⟩, (h.awaits_unique (n := m) (j := k) ⟨x, hk, hg⟩).1, hap⟩
    · rcases hout with ⟨-, hd⟩ | ⟨n, hg, -⟩
      · exact hd
      · obtain ⟨rfl, -⟩ := (h.awaits_unique ⟨x, hk, hg⟩).2 hsub
        exact absurd hrun hj
  · obtain ⟨n, hn⟩ := running_call ho hk
    rcases h.loop_of_settled hs hw with ⟨hl, -⟩ | ⟨hl, -⟩ | ⟨⟨m, hl⟩, -⟩ |
      ⟨c, x, y, hl, -, hx, hp, -, -, hg, ht⟩
    · rw [hn] at hl; cases hl
    · rw [hn] at hl; cases hl
    · rw [hn] at hl; cases hl
    · have hck : c = k := by
        rw [hn] at hl
        cases hl
        rfl
      subst hck
      exact ⟨s, x, hw, hl, hx, (ho.paired c x hx).1, hp, hg, ht⟩

/-- The session that serves a call is told to end, is cleaned up, and the next one is set up. -/
def rebalanced : List (Event ⊕ Task) :=
  [.inl .rebalance, .inr (.feeder 0 0), .inr (.claim 0 0), .inr (.confirmer 0), .inr .loop,
    .inr .loop, .inr (.confirmer 0), .inr (.confirmer 0), .inr .loop, .inr .loop, .inr .loop,
    .inr .loop]

/-- A session has submitted two messages when it is told to end; the result for the first of them
comes while the next session is served, and does nothing there. -/
theorem late_result_disregarded : ∃ (w v : Relay) (m : Message), Reachable plainSettings w ∧
    w.Submitted 0 m 1 ∧ ¬ w.Running 0 ∧ w.step (.confirmer 1) = some v ∧
    v.results = w.results ++ [⟨1, true⟩] ∧ w.Running 1 ∧ w.Disregarded v := by
  obtain ⟨⟨ms, w⟩, v, hw, hstages, hh, hs, hr⟩ : ∃ x v, (empty.start plainSettings).replay
      (twoRead [123, 125] [123, 125] ++ rebalanced ++
        [.inr (.confirmer 1), .inl (.confirm ⟨1, true⟩)]) = some x ∧
      x.2.sessions.map (fun h => h.session.stage) = [.closed, .active] ∧
      x.2.books.history = [
        .submitted 0 0 (.plain "t" 0 0 [123, 125]) 1 [Record.named "kafka_consumer"],
        .submitted 0 0 (.plain "t" 0 1 [123, 125]) 2 [Record.named "kafka_consumer"]] ∧
      x.2.step (.confirmer 1) = some v ∧ v.results = x.2.results ++ [⟨1, true⟩] :=
    ⟨_, _, rfl, rfl, rfl, rfl, rfl⟩
  have hreach := Reachable.start.replay hw
  have hsub : w.Submitted 0 (.plain "t" 0 0 [123, 125]) 1 :=
    ⟨0, [Record.named "kafka_consumer"], by rw [hh]; simp⟩
  have hnot : ¬ w.Running 0 := by
    rintro ⟨h, hk, hst⟩
    have := congrArg (·[0]?) hstages
    simp only [List.getElem?_map, hk, Option.map_some, List.getElem?_cons_zero,
      Option.some.injEq] at this
    rw [this] at hst
    rcases hst with hst | hst <;> cases hst
  obtain ⟨-, -, hres, -⟩ := hreach.sessions_apart
  rcases hres _ _ hs with hn | ⟨k, d, hk, hrun, hd, -, hlate⟩
  · rw [hr] at hn
    simp at hn
  · cases hk
    cases List.append_cancel_left (hr.symm.trans hd)
    exact ⟨w, v, _, hreach, hsub, hnot, hs, hr, hrun, hlate _ _ hsub hnot⟩

end Sluice.Relay
