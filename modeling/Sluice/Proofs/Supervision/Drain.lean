import Sluice.Proofs.Supervision.Ebb
/-!
# The results that are left are applied

When a session is served at the end of a supervisor, its confirmer reads every result that has been
queued, one after another, before it ends. `Session.fates` is what becomes of them. While tasks move
and nothing comes from outside, what has been written down and what becomes of the results that are
left stays the same together (`Relay.outlook`).

* `outlook_of_step`: no move changes the outlook.
* `Moves.outlook`: nor does a run.
-/
namespace Sluice
namespace Scene
variable {S T : Scene} {k : Nat} {st : Session.Stage} {c : Session.Confirmer}

/-- Only a session that is set up gets another confirmer from outside. -/
theorem Turn.confirmer (h : S.Turn T) (hc : S.Clear) (hk : S.standings[k]? = some (st, c))
    (ha : c ≠ .absent) : ∃ st', T.standings[k]? = some (st', c) := by
  have hmod : ∀ {j : Nat} {p : Standing}, (k = j → p.2 = c) →
      ∃ st', (S.modify j fun _ => p).standings[k]? = some (st', c) := by
    intro j p hp
    by_cases hj : j = k
    · subst hj
      refine ⟨p.1, (List.getElem?_modify_eq ..).trans ?_⟩
      rw [hk, ← hp rfl]
      rfl
    · exact ⟨st, (List.getElem?_modify_ne _ _ hj).trans hk⟩
  cases h with
  | nothing => exact ⟨st, hk⟩
  | enlist => exact ⟨st, (List.getElem?_append_left (List.getElem?_eq_some_iff.mp hk).1).trans hk⟩
  | setup hj =>
    refine hmod fun he => ?_
    subst he
    cases hk.symm.trans hj
    exact absurd (hc.sound _ (List.mem_of_getElem? hk)) ha
  | drain hj | close hj =>
    refine hmod fun he => ?_
    subst he
    cases hk.symm.trans hj
    rfl

end Scene

/-- Nothing but the tasks of sessions changes what a session waits for. -/
theorem Flow.Hosting.pending {F G : Flow} (h : F.Hosting G) {k : Nat} {l : Load}
    (hk : F.loads[k]? = some l) : ∃ l', G.loads[k]? = some l' ∧ l'.pending = l.pending := by
  have hmod : ∀ {j : Nat} {f : Load → Load}, (∀ l, (f l).pending = l.pending) →
      ∃ l', (F.modify j f).loads[k]? = some l' ∧ l'.pending = l.pending := by
    intro j f hf
    by_cases hj : j = k
    · subst hj
      exact ⟨f l, (List.getElem?_modify_eq ..).trans (congrArg (Option.map f) hk), hf l⟩
    · exact ⟨l, (List.getElem?_modify_ne _ _ hj).trans hk, rfl⟩
  cases h with
  | nothing | append | confirm => exact ⟨l, hk, rfl⟩
  | enlist =>
    exact ⟨l, (List.getElem?_append_left (List.getElem?_eq_some_iff.mp hk).1).trans hk, rfl⟩
  | assign | fail | begin | rest | supply => exact hmod fun _ => rfl

namespace Relay
variable {settings : Settings} {w v u : Relay} {k : Nat} {h : Hosted}

/-- What session `k` waits for. -/
def awaiting (w : Relay) (k : Nat) : Pending Message :=
  (w.sessions[k]?.map fun h => h.session.pending).getD []

/-- What will have been written down when session `k` has read all results that are left, and what it
will then wait for; and all results there are. -/
def outlook (w : Relay) (k : Nat) : List Fate × Pending Message × List Delivery :=
  (w.books.history ++ Session.fates k (w.awaiting k) w.queued,
    Session.unanswered (w.awaiting k) w.queued, w.books.sink.deliveries.items)

/-- The confirmer of session `k` reads what is left, or has read all of it. -/
def Drains (w : Relay) (k : Nat) : Prop :=
  ∃ st c, w.scene.standings[k]? = some (st, c) ∧ c ≠ .absent ∧ (c = .ended → w.queued = [])

theorem awaiting_eq (w : Relay) (k : Nat) :
    w.awaiting k = (w.flow.loads[k]?.map Load.pending).getD [] := by
  simp only [awaiting, flow, List.getElem?_map, Option.map_map]
  rfl

theorem awaiting_settleMove {j : Nat} (hj : w.sessions[j]? = some h) (s : Session) (b : Books)
    (xs : List Session.Signal) :
    (w.settleMove j (s, b, xs)).awaiting k = if j = k then s.pending else w.awaiting k := by
  rw [awaiting_eq, awaiting_eq, flow_settleMove]
  simp only [Flow.after, List.getElem?_modify]
  split
  · next hjk =>
    subst hjk
    simp [loads_get hj]
  · simp

/-- What is written down, and all results there are, are what the books of the session's move say. -/
theorem settleMove_books (w : Relay) (j : Nat) (s : Session) (b : Books)
    (xs : List Session.Signal) : (w.settleMove j (s, b, xs)).books.history = b.history ∧
      (w.settleMove j (s, b, xs)).books.sink.deliveries = b.sink.deliveries := by
  have hf := flow_settleMove w j s b xs
  exact ⟨congrArg Flow.history hf, congrArg Flow.deliveries hf⟩

theorem standing_settleMove {j : Nat} (hj : w.sessions[j]? = some h) (s : Session) (b : Books)
    (xs : List Session.Signal) : (w.settleMove j (s, b, xs)).scene.standings[k]? =
      if j = k then some (s.stage, s.confirmer) else w.scene.standings[k]? := by
  rw [scene_settleMove]
  simp only [Scene.modify, List.getElem?_modify]
  split
  · next hjk =>
    subst hjk
    simp [standings_get hj]
  · simp

/-! ## Step by step -/

/-- While nobody but hosts moves, nothing becomes of results. -/
theorem outlook_of_host (hr : Reachable settings w) (hst : w.isStopped = true) {t : Task}
    (ht : t.session? = none) (hs : w.step t = some v) (hd : w.Drains k) :
    v.outlook k = w.outlook k ∧ v.Drains k := by
  obtain ⟨st, c, hk, ha, he⟩ := hd
  have hdel := hr.deliveries_of_step hst ht hs
  have hq : v.queued = w.queued := congrArg Queue.waiting hdel
  have hh := hosting_of_step ht hs
  obtain ⟨st', hk'⟩ := (turn_of_step ht hs).confirmer hr.clear hk ha
  refine ⟨?_, st', c, hk', ha, fun hc => hq.trans (he hc)⟩
  obtain ⟨h, hx, -⟩ := Option.map_eq_some_iff.mp ((List.getElem?_map ..).symm.trans hk)
  obtain ⟨l, hl, hp⟩ := hh.pending (loads_get hx)
  have hw : v.awaiting k = w.awaiting k := by
    rw [awaiting_eq, awaiting_eq, hl, loads_get hx]
    exact hp
  have hhist : v.books.history = w.books.history := hh.same.1
  have hitems : v.books.sink.deliveries.items = w.books.sink.deliveries.items :=
    congrArg Queue.items hdel
  unfold outlook
  rw [hw, hq, hhist, hitems]

theorem outlook_of_claim (hr : Reachable settings w) (hst : w.isStopped = true) {i j : Nat}
    (hs : w.stepSession j (.claim i) = some v) (hd : w.Drains k) :
    v.outlook k = w.outlook k ∧ v.Drains k := by
  obtain ⟨h, s', b, xs, hj, hm, rfl⟩ := move_of_session hs
  obtain ⟨-, -, -, rfl, hco, hp, -⟩ := Session.quit_of_claim (hr.cancelled_of_claim hst hj hm) hm
  obtain ⟨hstage, -, -⟩ := Session.scene_of_claim hm
  have hw : (w.settleMove j (s', w.books, xs)).awaiting k = w.awaiting k := by
    rw [awaiting_settleMove hj, hp]
    split
    · next hjk =>
      subst hjk
      simp [awaiting, hj]
    · rfl
  have hsc : (w.settleMove j (s', w.books, xs)).scene.standings[k]? = w.scene.standings[k]? := by
    rw [standing_settleMove hj, hstage, hco]
    split
    · next hjk =>
      subst hjk
      exact (standings_get hj).symm
    · rfl
  obtain ⟨hhist, hdel⟩ := settleMove_books w j s' w.books xs
  unfold outlook Drains queued
  rw [hw, hsc, hhist, hdel]
  exact ⟨rfl, hd⟩

/-- Nothing is left for a confirmer that finds nothing while its session is being cleaned up. -/
theorem Reachable.none_left (hr : Reachable settings w) (hk : w.sessions[k]? = some h)
    (hd : h.session.confirmer = .draining) (hn : w.books.sink.tryNext = none) : w.queued = [] := by
  unfold Sink.tryNext at hn
  rw [hr.stream_free hk hd, if_neg (by decide)] at hn
  exact (Queue.pop?_eq_none_iff _).mp (Option.map_eq_none_iff.mp hn)

/-- What the confirmer of a session reads, it applies: the outlook stays. It ends only when nothing is
left. -/
theorem outlook_of_confirmer (hr : Reachable settings w)
    (hs : w.stepSession k .confirmer = some v) : v.outlook k = w.outlook k ∧ v.Drains k := by
  obtain ⟨h, s', b, xs, hk, hm, rfl⟩ := move_of_session hs
  obtain ⟨-, -, ha, hread⟩ := Session.reads_of_confirmer hm
  obtain ⟨hhist, hdel⟩ := settleMove_books w k s' b xs
  have hv := awaiting_settleMove (k := k) hk s' b xs
  have hw : w.awaiting k = h.session.pending := by simp [awaiting, hk]
  have hsc := standing_settleMove (k := k) hk s' b xs
  rw [if_pos rfl] at hv hsc
  unfold outlook Drains queued
  rw [hv, hsc, hhist, hdel, hw]
  rcases hread with ⟨h1, h2, h3, hend⟩ | ⟨d, q, hq, h2, h1, h3, hne⟩
  · rw [h1, h2, h3]
    exact ⟨rfl, _, _, rfl, ha, fun he => hr.none_left hk (hend he).1 (hend he).2⟩
  · rw [h1, h2, h3, Queue.waiting_of_pop? hq, (Queue.items_of_pop? hq).1]
    refine ⟨?_, _, _, rfl, ha, fun he => absurd he hne⟩
    simp [Session.fates, Session.unanswered]

/-- Another confirmer is there only when that of session `k` has ended, and then nothing is left. -/
theorem outlook_of_other (hr : Reachable settings w) {j : Nat} (hjk : j ≠ k)
    (hs : w.stepSession j .confirmer = some v) (hd : w.Drains k) :
    v.outlook k = w.outlook k ∧ v.Drains k := by
  obtain ⟨h, s', b, xs, hj, hm, rfl⟩ := move_of_session hs
  obtain ⟨hja, hje, -, hread⟩ := Session.reads_of_confirmer hm
  obtain ⟨st, c, hk, ha, he⟩ := hd
  obtain ⟨s, -, -, -, ho⟩ := hr.kept
  -- two confirmers that have not ended would mean two sessions that run
  have hce : c = .ended := by
    by_contra hne
    obtain ⟨y, hy, hst⟩ := Option.map_eq_some_iff.mp ((List.getElem?_map ..).symm.trans hk)
    have hc : y.session.confirmer = c := congrArg Prod.snd hst
    exact hjk (confirming_unique ho ⟨h, hj, hja, hje⟩ ⟨y, hy, hc ▸ ha, hc ▸ hne⟩)
  have hnone := he hce
  obtain ⟨hhist, hdel⟩ := settleMove_books w j s' b xs
  have hv := awaiting_settleMove (k := k) hj s' b xs
  have hsc := standing_settleMove (k := k) hj s' b xs
  rw [if_neg hjk] at hv hsc
  rcases hread with ⟨h1, h2, -, -⟩ | ⟨d, q, hq, -⟩
  · unfold outlook Drains queued
    rw [hv, hsc, hhist, hdel, h1, h2]
    exact ⟨rfl, st, c, hk, ha, he⟩
  · have := Queue.waiting_of_pop? hq
    unfold queued at hnone
    rw [hnone] at this
    cases this

/-- After the end no move changes what becomes of the results that are left, while the confirmer of
session `k` reads them. -/
theorem outlook_of_step (hr : Reachable settings w) (hst : w.isStopped = true) {t : Task}
    (hs : w.step t = some v) (hd : w.Drains k) : v.outlook k = w.outlook k ∧ v.Drains k := by
  cases t with
  | claim j i => exact outlook_of_claim hr hst hs hd
  | confirmer j =>
    by_cases hjk : j = k
    · subst hjk
      exact outlook_of_confirmer hr hs
    · exact outlook_of_other hr hjk hs hd
  | feeder | straggler | consume | loop | forwarder | refresher | caller => exact outlook_of_host hr hst rfl hs hd

/-! ## Runs -/

/-- What moves of tasks alone come to is reachable, and the end stays told. -/
theorem Moves.keeps (h : w.Moves v) (hr : Reachable settings w) (hst : w.isStopped = true) :
    Reachable settings v ∧ v.isStopped = true := by
  induction h with
  | here => exact ⟨hr, hst⟩
  | move t _ hs ih => exact ⟨.move t ih.1 hs, ih.1.stays_stopped ih.2 hs⟩

/-- Moves of tasks take no time. -/
theorem Moves.now_eq (h : w.Moves v) : v.now = w.now := by
  induction h with
  | here => rfl
  | @move a b t _ hs ih =>
    refine Eq.trans ?_ ih
    cases ht : t.session? with
    | none => exact (turn_of_step ht hs).now_eq
    | some jx =>
      obtain ⟨j, x⟩ := jx
      rw [step_of_session ht] at hs
      obtain ⟨h, s', b', xs, -, -, rfl⟩ := move_of_session hs
      exact congrArg Scene.now (scene_settleMove ..)

theorem Moves.outlook (h : w.Moves v) (hr : Reachable settings w) (hst : w.isStopped = true)
    (hd : w.Drains k) : v.outlook k = w.outlook k ∧ v.Drains k := by
  induction h with
  | here => exact ⟨rfl, hd⟩
  | move t hm hs ih =>
    obtain ⟨hr', hst'⟩ := hm.keeps hr hst
    obtain ⟨ho, hd'⟩ := outlook_of_step hr' hst' hs ih.2
    exact ⟨ho.trans ih.1, hd'⟩

end Relay
end Sluice
