import Sluice.Proofs.Supervision.Scene
import Sluice.Proofs.Supervision.Sessions
/-!
# The stream of results is free for the session that runs

One session runs at a time, so nobody ever stands in line for the stream of results: a confirmer has
it while it waits for a result, and else it is free. What is left when a session is cleaned up can
therefore be read.

* `Scene.Clear`: the stream belongs to the confirmer that reads, if one does.
* `Scene.Clear.turn`, `clear_of_claim`, `clear_of_confirmer`: step by step.
* `Reachable.clear`: in every relay that a supervisor comes to.
* `Reachable.stream_free`: for a session that is being cleaned up.
-/
namespace Sluice

/-- Whether a confirmer reads results. -/
def Standing.reads (p : Standing) : Bool := p.2 == .reading

/-- Before its setup a session has no confirmer; while it is served, its confirmer asks for the stream
or has it; and never does a confirmer stand in line. -/
def Standing.IsSound : Standing → Prop
  | (.idle, c) => c = .absent
  | (.active, c) => c = .asking ∨ c = .reading
  | (_, c) => c ≠ .queued

namespace Standing
variable {st : Session.Stage} {c c' : Session.Confirmer}

theorem IsSound.unqueued (h : IsSound (st, c)) : c ≠ .queued := by
  cases st with
  | idle =>
    cases (h : c = .absent)
    exact nofun
  | active => rcases h with rfl | rfl <;> exact nofun
  | draining | closed => exact h

/-- A confirmer that is there goes on when its session is no longer served. -/
theorem IsSound.goOn (h : IsSound (st, c)) (ha : c ≠ .absent) (hst : st ≠ .active)
    (hq : c' ≠ .queued) : IsSound (st, c') := by
  cases st with
  | idle => exact absurd h ha
  | active => exact absurd rfl hst
  | draining | closed => exact hq

end Standing

namespace Scene
variable {S T : Scene} {k : Nat}

/-- How many confirmers read results. -/
def readers (S : Scene) : Nat := S.standings.countP Standing.reads

/-- The stream of results belongs to the confirmer that reads, if one does. Nobody stands in line. -/
structure Clear (S : Scene) : Prop where
  sound : ∀ p ∈ S.standings, p.IsSound
  stream : S.stream = ⟨1, 1 - S.readers, [], [], S.readers⟩
  one : S.readers ≤ 1

theorem readers_modify {p q : Standing} (hk : S.standings[k]? = some p) :
    (S.modify k fun _ => q).readers + (if p.reads then 1 else 0) =
      S.readers + (if q.reads then 1 else 0) :=
  countP_modify Standing.reads (fun _ => q) S.standings hk

theorem Clear.sound_modify (h : S.Clear) {q : Standing} (hq : q.IsSound) :
    ∀ p ∈ (S.modify k fun _ => q).standings, p.IsSound := by
  intro p hp
  obtain ⟨j, hj⟩ := List.mem_iff_getElem?.mp hp
  rcases modify_cases hj with hj | ⟨-, -, -, rfl⟩
  · exact h.sound p (List.mem_of_getElem? hj)
  · exact hq

/-- A session goes on, and its confirmer reads if it did before. -/
theorem Clear.modify_same (h : S.Clear) {p q : Standing} (hk : S.standings[k]? = some p)
    (hq : q.IsSound) (hr : q.reads = p.reads) : (S.modify k fun _ => q).Clear := by
  have hn : (S.modify k fun _ => q).readers = S.readers := by
    have := readers_modify (q := q) hk
    rw [hr] at this
    omega
  exact ⟨h.sound_modify hq, by rw [hn]; exact h.stream, by rw [hn]; exact h.one⟩

/-- Nothing but the tasks of sessions changes who reads. -/
theorem Clear.turn (h : S.Clear) (ht : S.Turn T) : T.Clear := by
  cases ht with
  | nothing => exact h
  | enlist =>
    have hn : ({ S with standings := S.standings ++ [(.idle, .absent)] } : Scene).readers =
        S.readers := by
      simp [readers, Standing.reads]
    refine ⟨fun p hp => ?_, by rw [hn]; exact h.stream, by rw [hn]; exact h.one⟩
    rcases List.mem_append.mp hp with hp | hp
    · exact h.sound p hp
    · cases List.mem_singleton.mp hp
      exact rfl
  | setup hk =>
    have hs := h.sound _ (List.mem_of_getElem? hk)
    cases (hs : _ = Session.Confirmer.absent)
    exact h.modify_same hk (.inl rfl) rfl
  | @drain _ c hk =>
    have hs := h.sound _ (List.mem_of_getElem? hk)
    refine h.modify_same hk ?_ rfl
    rcases hs with rfl | rfl <;> exact nofun
  | close hk => exact h.modify_same hk nofun rfl

/-- A confirmer goes on, and the stream goes with it. -/
theorem Clear.confirm (h : S.Clear) {p q : Standing} {x : Window} (hk : S.standings[k]? = some p)
    (hq : q.IsSound)
    (hx : ∀ n, n + (if p.reads then 1 else 0) = S.readers + (if q.reads then 1 else 0) →
      x = ⟨1, 1 - n, [], [], n⟩ ∧ n ≤ 1) :
    ({ S with stream := x }.modify k fun _ => q).Clear := by
  obtain ⟨h1, h2⟩ := hx _ (readers_modify hk)
  exact ⟨h.sound_modify hq, h1, h2⟩

/-- Who asks for the stream finds it free, unless another confirmer reads. -/
theorem Clear.acquire (h : S.Clear) (hn : S.readers = 0) :
    S.stream.acquire k = (true, ⟨1, 0, [], [], 1⟩) := by
  rw [h.stream, hn]
  rfl

/-- Who lets the stream go leaves it free. -/
theorem Clear.release (h : S.Clear) {p : Standing} (hk : S.standings[k]? = some p)
    (hr : p.reads = true) : S.readers = 1 ∧ S.stream.release.2 = ⟨1, 1, [], [], 0⟩ := by
  have hpos : 0 < S.readers := List.countP_pos_iff.mpr ⟨p, List.mem_of_getElem? hk, hr⟩
  have hone : S.readers = 1 := by have := h.one; omega
  refine ⟨hone, ?_⟩
  rw [h.stream, hone]
  rfl

end Scene

namespace Relay
open Scene
variable {settings : Settings} {w v : Relay} {s : Supervisor} {k : Nat} {h : Hosted}

/-- At most one confirmer is there. -/
theorem confirming_unique {j : Nat} (ho : Orderly w.roster s) (hj : w.Confirming j)
    (hk : w.Confirming k) : j = k := by
  obtain ⟨n, hn⟩ := running_call ho (running_of_confirming ho hj)
  obtain ⟨m, hm⟩ := running_call ho (running_of_confirming ho hk)
  rw [hn] at hm
  cases hm
  rfl

theorem scene_settleMove (w : Relay) (k : Nat) (s : Session) (b : Books)
    (xs : List Session.Signal) : (w.settleMove k (s, b, xs)).scene =
      { w.scene with stream := b.sink.stream }.modify k fun _ => (s.stage, s.confirmer) := by
  unfold settleMove
  rw [scene_foldl (scene_signal k)]
  have hm := scene_modifyHosted w k (f := fun h => { h with session := s })
    (g := fun _ => (s.stage, s.confirmer)) fun _ _ => rfl
  exact congrArg (fun S : Scene => { S with stream := b.sink.stream }) hm

/-- Nobody reads while the only confirmer there is does something else. -/
theorem readers_eq_zero (ho : Orderly w.roster s) (hk : w.sessions[k]? = some h)
    (ha : h.session.confirmer ≠ .absent) (he : h.session.confirmer ≠ .ended)
    (hr : h.session.confirmer ≠ .reading) : w.scene.readers = 0 := by
  refine List.countP_eq_zero.mpr fun p hp hreads => ?_
  obtain ⟨j, hj⟩ := List.mem_iff_getElem?.mp hp
  obtain ⟨x, hx, rfl⟩ := Option.map_eq_some_iff.mp ((List.getElem?_map ..).symm.trans hj)
  have hc : x.session.confirmer = .reading := eq_of_beq hreads
  cases confirming_unique ho ⟨x, hx, by simp [hc], by simp [hc]⟩ ⟨h, hk, ha, he⟩
  cases Option.some.inj (hk.symm.trans hx)
  exact hr hc

theorem clear_of_claim (hc : w.scene.Clear) {i : Nat} (hs : w.stepSession k (.claim i) = some v) :
    v.scene.Clear := by
  obtain ⟨h, s', b, xs, hk, hm, rfl⟩ := move_of_session hs
  obtain ⟨h1, h2, h3⟩ := Session.scene_of_claim hm
  rw [scene_settleMove, h1, h2, h3]
  exact hc.modify_same (standings_get hk) (hc.sound _ (List.mem_of_getElem? (standings_get hk))) rfl

theorem clear_of_confirmer (hc : w.scene.Clear) (ho : Orderly w.roster s)
    (hs : w.stepSession k .confirmer = some v) : v.scene.Clear := by
  obtain ⟨h, s', b, xs, hk, hm, rfl⟩ := move_of_session hs
  have hget := standings_get hk
  have hsound := hc.sound _ (List.mem_of_getElem? hget)
  rw [scene_settleMove]
  -- Whoever does not read before and after leaves the stream as it is.
  have hkeep : ∀ {c' : Session.Confirmer}, h.session.confirmer ≠ .reading → c' ≠ .reading →
      Standing.IsSound (h.session.stage, c') →
      (w.scene.modify k fun _ => (h.session.stage, c')).Clear := fun h1 h2 hq =>
    hc.modify_same hget hq (by simp [Standing.reads, h1, h2])
  -- Whoever has read lets the stream go.
  have hrelease : ∀ {c' : Session.Confirmer}, h.session.confirmer = .reading → c' ≠ .reading →
      Standing.IsSound (h.session.stage, c') →
      ({ w.scene with stream := w.books.sink.stream.release.2 }.modify k
        fun _ => (h.session.stage, c')).Clear := by
    intro c' h1 h2 hq
    obtain ⟨hone, hrel⟩ := hc.release hget (by simp [Standing.reads, h1])
    refine hc.confirm hget hq fun n hn => ?_
    simp only [Standing.reads, h1, hone, beq_self_eq_true, if_true, beq_iff_eq, h2, if_false] at hn
    obtain rfl : n = 0 := by omega
    exact ⟨hrel, Nat.zero_le 1⟩
  cases hm with
  | dismissed ha hst =>
    exact hkeep (by simp [ha]) nofun (hsound.goOn (by simp [ha]) hst nofun)
  | tune ha hst hw =>
    have hz := readers_eq_zero ho hk (by simp [ha]) (by simp [ha]) (by simp [ha])
    have hx := (hc.acquire (k := k) hz).symm.trans hw
    cases hx
    refine hc.confirm hget (q := (h.session.stage, .reading)) (hst ▸ .inr rfl) fun n hn => ?_
    simp only [Standing.reads, ha, hz] at hn
    obtain rfl : n = 1 := by simpa using hn
    exact ⟨rfl, Nat.le_refl 1⟩
  | attend ha hst hw =>
    have hz := readers_eq_zero ho hk (by simp [ha]) (by simp [ha]) (by simp [ha])
    cases (hc.acquire (k := k) hz).symm.trans hw
  | forgo ha | receive ha => exact absurd ha hsound.unqueued
  | letGo ha hst => exact hrelease ha nofun (hsound.goOn (by simp [ha]) hst nofun)
  | @result d sink ha hst hd =>
    obtain ⟨q, -, rfl⟩ := Session.nextDelivery_same hd
    obtain ⟨h1, -, -, h4, -, h6⟩ := Session.apply_same k d { h.session with confirmer := .asking }
      (Session.taken w.books { w.books.sink with deliveries := q })
    rw [h1, h4, h6]
    exact hrelease ha nofun (hst ▸ .inl rfl)
  | @leftover d sink ha hd =>
    obtain ⟨q, -, rfl⟩ := Session.nextDelivery_same (Session.nextDelivery_of_tryNext hd)
    obtain ⟨h1, -, -, h4, -, h6⟩ := Session.apply_same k d h.session
      { w.books with sink := { w.books.sink with deliveries := q } }
    rw [h1, h4, h6]
    exact hkeep (by simp [ha]) (by simp [ha]) hsound
  | drained ha hd =>
    have hst : h.session.stage ≠ .active := fun he => by
      rw [he, ha] at hsound
      rcases hsound with hx | hx <;> cases hx
    exact hkeep (by simp [ha]) nofun (hsound.goOn (by simp [ha]) hst nofun)

/-- In every relay that a supervisor comes to, whoever reads results has the stream, and else it is
free. -/
theorem Reachable.clear (h : Reachable settings w) : w.scene.Clear := by
  induction h with
  | start => exact ⟨nofun, rfl, Nat.zero_le 1⟩
  | event e h ih =>
    rw [scene_of_event _ e]
    exact ⟨ih.sound, ih.stream, ih.one⟩
  | @move w v t h hs ih =>
    cases ht : t.session? with
    | none => exact ih.turn (turn_of_step ht hs)
    | some kx =>
      obtain ⟨k, x⟩ := kx
      obtain ⟨s, -, -, -, ho⟩ := h.kept
      rw [step_of_session ht] at hs
      cases t with
      | claim k i =>
        cases ht
        exact clear_of_claim ih hs
      | confirmer k =>
        cases ht
        exact clear_of_confirmer ih ho hs
      | feeder | straggler | consume | loop | forwarder | refresher | caller => cases ht

/-- The stream is free for a session that is being cleaned up. -/
theorem Reachable.stream_free (hr : Reachable settings w) (hk : w.sessions[k]? = some h)
    (hd : h.session.confirmer = .draining) : w.books.sink.stream = ⟨1, 1, [], [], 0⟩ := by
  obtain ⟨s, -, -, -, ho⟩ := hr.kept
  have hz := readers_eq_zero ho hk (by simp [hd]) (by simp [hd]) (by simp [hd])
  have hst := hr.clear.stream
  rw [hz] at hst
  exact hst

end Relay
end Sluice
