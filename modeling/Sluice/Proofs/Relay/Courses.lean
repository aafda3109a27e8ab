import Sluice.Proofs.Relay.Runs
import Sluice.Proofs.Relay.Wakes
/-!
# Courses

A course is a run of a relay in which the tasks move in any order, woken or not. If they run when they
are woken, each until it can make no further move, the course is a run in turn.

* `lanes_of_step`: a move is a feeder's, or leaves all feeders as they are.
* `Course.holds`: what every course keeps.
* `Course.fresh`, `Course.begun`: before a feeder has begun nothing is in its queue, and every feeder
  that has begun did so at some moment.
* `InTurn.awake`: in a run in turn every feeder that can move has been woken.
* `byHand`: the run of a script.
-/
namespace Sluice.Relay
variable {w v u x : Relay} {k i : Nat} {L M : Lane} {t : Task} {run : List Task}

/-! ## What every step keeps -/

/-- In a sound relay sessions that have not been set up have no claims. -/
theorem unclaimed_of_sound (h : w.flow.Sound) : w.Unclaimed := by
  intro k x hk hi
  have hq := (h.loads k _ (loads_get hk)).unset (by simp [Hosted.load, hi])
  exact List.map_eq_nil_iff.mp hq

theorem sound_of_step (h : w.flow.Sound) (hs : w.step t = some v) : v.flow.Sound := by
  cases ht : t.session? with
  | none => exact Flow.sound_hosting h (hosting_of_step ht hs)
  | some kx =>
    rw [step_of_session ht] at hs
    obtain ⟨o, hm⟩ := handling_of_session hs
    exact Flow.sound_handling h hm

theorem sound_of_fresh (h : Fresh w) : w.flow.Sound := by
  rcases h with rfl | ⟨settings, rfl⟩ <;> exact Flow.sound_of_new rfl rfl rfl rfl

/-- No session has been made. -/
theorem lane_of_fresh (h : Fresh w) (k i : Nat) : w.lane? k i = none := by
  rcases h with rfl | ⟨settings, rfl⟩ <;> rfl

/-- A move is that of a feeder, which changes its lane and no other, or leaves all feeders as they
are. A straggler's feeder has begun and does not have to wait. -/
theorem lanes_of_step (h : w.flow.Sound) (hs : w.step t = some v) :
    w.Goes v ∨ ∃ k i g L, (t = .feeder k i ∨ L.feeder.phase ≠ .fresh ∧ ¬ w.Rests L) ∧
      w.lane? k i = some L ∧ w.Shifts k i g v ∧ w.Feeding L (g L) := by
  cases t with
  | feeder k i =>
    obtain ⟨L, hl⟩ := lane_of_stepFeeder hs
    obtain ⟨g, hg, hm⟩ := feeding_of_step hl hs
    exact .inr ⟨k, i, g, L, .inl rfl, hl, hg, hm⟩
  | straggler k i =>
    obtain ⟨g, L, hl, hp, hr, hg, hm⟩ := feeding_of_straggler hs
    exact .inr ⟨k, i, g, L, .inr ⟨hp, hr⟩, hl, hg, hm⟩
  | _ => exact .inl (goes_of_step (unclaimed_of_sound h) rfl hs)

/-- The relays that a relay comes to, its tasks moving in any order, woken or not. Woken tasks are
taken out of the line at any time. Groups, sessions and calls are made by hand only where there is
no supervisor. -/
inductive Course (w : Relay) : Relay → Prop where
  | here : Course w w
  | event {v : Relay} (e : Event) : Course w v → Course w (v.apply e)
  | use {v : Relay} (x : Use) : Course w v → v.supervisor = none → Course w (v.use x)
  | move {v u : Relay} (t : Task) : Course w v → v.step t = some u → Course w u
  | next {v u : Relay} (t : Task) : Course w v → v.next = some (t, u) → Course w u

theorem next_cases (h : w.next = some (t, v)) : w.line = t :: v.line ∧ v = { w with line := v.line } := by
  unfold next at h
  split at h
  · cases h
  · next e =>
    cases h
    exact ⟨e, rfl⟩

/-- A run in any order is a course. -/
theorem Trail.course {ms : List Message} (h : Trail w ms v) : w.Course v := by
  induction h with
  | here => exact .here
  | event e _ ih => exact .event e ih
  | use x _ hn ih => exact .use x ih hn
  | move t _ hs ih => exact .move t ih hs

theorem Course.trans (h : w.Course v) (h' : v.Course u) : w.Course u := by
  induction h' with
  | here => exact h
  | event e _ ih => exact .event e ih
  | use x _ hn ih => exact .use x ih hn
  | move t _ hs ih => exact .move t ih hs
  | next t _ hn ih => exact .next t ih hn

theorem Course.sound (h : w.Course v) (h0 : w.flow.Sound) : v.flow.Sound := by
  induction h with
  | here => exact h0
  | event e _ ih => exact Flow.sound_hosting ih (hosting_of_event _ e)
  | use x _ hn ih => exact Flow.sound_hosting ih (hosting_of_use _ x hn)
  | move t _ hs ih => exact sound_of_step ih hs
  | next t _ hn ih =>
    rw [(next_cases hn).2]
    exact ih

/-- What the moves of feeders keep, and everything that leaves feeders as they are, holds in the whole
course. Who has been woken does not matter. -/
theorem Course.holds {P : Relay → Prop} (h : w.Course v) (hw : w.flow.Sound) (h0 : P w)
    (hg : ∀ {a b}, P a → Goes a b → P b)
    (hf : ∀ {a b k i g L}, P a → a.lane? k i = some L → Shifts a k i g b → a.Feeding L (g L) → P b)
    (hn : ∀ {a line}, P a → P { a with line := line }) : P v := by
  induction h with
  | here => exact h0
  | event e _ ih => exact hg ih (goes_of_event _ e)
  | use x _ _ ih => exact hg ih (goes_of_use _ x)
  | move t ha hs ih =>
    rcases lanes_of_step (ha.sound hw) hs with hs | ⟨k, i, g, L, -, hl, hs, hm⟩
    · exact hg ih hs
    · exact hf ih hl hs hm
  | next t _ hs ih =>
    rw [(next_cases hs).2]
    exact hn ih

/-- A feeder that has not begun has put nothing into its queue. -/
theorem Course.fresh (h : w.Course v) (h0 : Fresh w) (hl : v.lane? k i = some L)
    (hp : L.feeder.phase = .fresh) : L.New := by
  refine h.holds (P := fun v => ∀ {k i L}, v.lane? k i = some L → L.feeder.phase = .fresh → L.New)
    (sound_of_fresh h0) (fun {k i L} hl => ?_) (fun {a b} ih hg k i M hm hp => ?_)
    (fun {a b j n g L} ih hl hs hm k i M hk hp => ?_) (fun ih => ih) hl hp
  · rw [lane_of_fresh h0] at hl
    cases hl
  · rcases hg.cases hm with ⟨hnew, -⟩ | ⟨L, hl, ho, -⟩
    · exact hnew
    · exact (ih hl (by rw [← ho.feeder, hp])).onward ho
  · by_cases e : k = j ∧ i = n
    · obtain ⟨rfl, rfl⟩ := e
      rw [hs.self, hl, Option.map_some, Option.some.injEq] at hk
      exact absurd hp (hk ▸ hm.begun)
    · exact ih ((hs.others k i e).symm.trans hk) hp

/-- Every feeder that has begun did so at some moment of the course. -/
theorem Course.begun (h : w.Course u) (h0 : Fresh w) (hl : u.lane? k i = some M)
    (hp : M.feeder.phase ≠ .fresh) : ∃ v x L, w.Course v ∧ v.lane? k i = some L ∧
      L.feeder.phase = .fresh ∧ v.step (.feeder k i) = some x ∧ x.Course u := by
  -- what leaves the feeders as they are leaves the moment as it is
  have hgoes : ∀ {a b : Relay} {M}, a.Goes b → b.lane? k i = some M → M.feeder.phase ≠ .fresh →
      ∃ L, a.lane? k i = some L ∧ L.feeder.phase ≠ .fresh := fun {a b M} hg hm hp => by
    rcases hg.cases hm with ⟨hnew, -⟩ | ⟨L, hl, ho, -⟩
    · exact absurd hnew.fresh hp
    · exact ⟨L, hl, by rwa [← ho.feeder]⟩
  induction h generalizing M with
  | here =>
    rw [lane_of_fresh h0] at hl
    cases hl
  | event e _ ih =>
    obtain ⟨L, hl, hp⟩ := hgoes (goes_of_event _ e) hl hp
    obtain ⟨v, x, L, hv, hL, hf, hs, hx⟩ := ih hl hp
    exact ⟨v, x, L, hv, hL, hf, hs, .event e hx⟩
  | use y _ hn ih =>
    obtain ⟨L, hl, hp⟩ := hgoes (goes_of_use _ y) hl hp
    obtain ⟨v, x, L, hv, hL, hf, hs, hx⟩ := ih hl hp
    exact ⟨v, x, L, hv, hL, hf, hs, .use y hx hn⟩
  | next t _ hn ih =>
    rw [(next_cases hn).2] at hl
    obtain ⟨v, x, L, hv, hL, hf, hs, hx⟩ := ih hl hp
    exact ⟨v, x, L, hv, hL, hf, hs, .next t hx hn⟩
  | @move a b t ha hs ih =>
    have hback : ∀ {L}, a.lane? k i = some L → L.feeder.phase ≠ .fresh →
        ∃ v x L, w.Course v ∧ v.lane? k i = some L ∧ L.feeder.phase = .fresh ∧
          v.step (.feeder k i) = some x ∧ x.Course b := fun hl hp => by
      obtain ⟨v, x, L, hv, hL, hf, hs', hx⟩ := ih hl hp
      exact ⟨v, x, L, hv, hL, hf, hs', .move t hx hs⟩
    rcases lanes_of_step (ha.sound (sound_of_fresh h0)) hs with hg | ⟨j, n, g, L, ht, hL, hg, -⟩
    · obtain ⟨L, hl, hp⟩ := hgoes hg hl hp
      exact hback hl hp
    · by_cases e : k = j ∧ i = n
      · obtain ⟨rfl, rfl⟩ := e
        by_cases hf : L.feeder.phase = .fresh
        · cases ht.resolve_right fun ht => ht.1 hf
          exact ⟨a, b, L, ha, hL, hf, hs, .here⟩
        · exact hback hL hf
      · exact hback ((hg.others k i e).symm.trans hl) hp

/-! ## Tasks that run when they are woken -/

/-- Every feeder that can move has been woken; the tasks in `run` run already. -/
structure Awake (run : List Task) (w : Relay) : Prop where
  feeder : ∀ {k i L}, w.lane? k i = some L → w.Rests L ∨ .feeder k i ∈ run ++ w.line

/-- A feeder that had to wait and can move now has been woken. -/
theorem Awake.goes (h : Awake run w) (hg : w.Goes v) : Awake run v := by
  refine ⟨fun {k i M} hm => ?_⟩
  rcases hg.cases hm with ⟨-, hw⟩ | ⟨L, hl, -, hr⟩
  · exact .inr (List.mem_append_right _ hw)
  · rcases h.feeder hl with hw | hw
    · exact (hr hw).imp_right (List.mem_append_right _)
    · exact .inr (List.mem_append.mpr ((List.mem_append.mp hw).imp_right (hg.line _)))

/-- A feeder that runs or has been woken leaves all others as they are. -/
theorem Awake.shifts {g : Lane → Lane} (h : Awake run w) (hin : .feeder k i ∈ run ++ w.line)
    (hs : w.Shifts k i g v) : Awake run v := by
  refine ⟨fun {j n M} hm => ?_⟩
  by_cases e : j = k ∧ n = i
  · obtain ⟨rfl, rfl⟩ := e
    exact .inr (List.mem_append.mpr ((List.mem_append.mp hin).imp_right (hs.line _)))
  · rcases h.feeder ((hs.others j n e).symm.trans hm) with hr | hw
    · refine .inl ?_
      unfold Rests
      rwa [hs.log]
    · exact .inr (List.mem_append.mpr ((List.mem_append.mp hw).imp_right (hs.line _)))

theorem Awake.move (h : Awake [t] w) (hw : w.flow.Sound) (hs : w.step t = some v) : Awake [t] v := by
  rcases lanes_of_step hw hs with hg | ⟨k, i, g, L, rfl | ⟨-, hr⟩, hl, hs, -⟩
  · exact h.goes hg
  · exact h.shifts List.mem_cons_self hs
  · exact h.shifts ((h.feeder hl).resolve_left hr) hs

/-- A straggler's feeder has been woken, and is not at rest. -/
theorem Awake.straggle (h : Awake [] w) (hs : w.step (.straggler k i) = some v) : Awake [] v := by
  obtain ⟨g, L, hl, -, hr, hg, -⟩ := feeding_of_straggler hs
  exact h.shifts ((h.feeder hl).resolve_left hr) hg

/-- A task that can make no further move may sleep. -/
theorem Awake.rest (h : Awake [t] w) (hs : w.step t = none) : Awake [] w := by
  refine ⟨fun {k i L} hl => (h.feeder hl).elim .inl fun hw => ?_⟩
  rcases List.mem_cons.mp hw with e | hw
  · rw [← e] at hs
    exact .inl ((stepFeeder_eq_none_iff hl).mp hs)
  · exact .inr hw

theorem Awake.next (h : Awake [] w) (hn : w.next = some (t, v)) : Awake [t] v := by
  obtain ⟨hl, hv⟩ := next_cases hn
  refine ⟨fun {k i L} hk => ?_⟩
  rw [hv] at hk
  rcases h.feeder hk with hr | hw
  · rw [hv]
    exact .inl hr
  · rw [List.nil_append, hl] at hw
    exact .inr hw

/-- The relays that a start can come to if the tasks run in the order they were woken, each until it
can make no further move. A feeder that has been told to end may straggle meanwhile. -/
inductive InTurn : Relay → Prop where
  | start {w : Relay} : Fresh w → InTurn w
  | event {w : Relay} (e : Event) : InTurn w → InTurn (w.apply e)
  | use {w : Relay} (x : Use) : InTurn w → w.supervisor = none → InTurn (w.use x)
  | turn {w v : Relay} {t : Task} (fuel : Nat) : InTurn w → w.next = some (t, v) →
      (Schedule.poll (step t) fuel v).step t = none → InTurn (Schedule.poll (step t) fuel v)
  | straggle {w v : Relay} {k i : Nat} : InTurn w → w.step (.straggler k i) = some v → InTurn v

/-- If tasks run when they are woken, every feeder that can move has been woken. -/
theorem InTurn.awake (h : InTurn w) : w.flow.Sound ∧ Awake [] w := by
  induction h with
  | start h0 =>
    refine ⟨sound_of_fresh h0, ⟨fun {k i L} hl => ?_⟩⟩
    rw [lane_of_fresh h0] at hl
    cases hl
  | event e _ ih =>
    exact ⟨Flow.sound_hosting ih.1 (hosting_of_event _ e), ih.2.goes (goes_of_event _ e)⟩
  | use x _ hn ih =>
    exact ⟨Flow.sound_hosting ih.1 (hosting_of_use _ x hn), ih.2.goes (goes_of_use _ x)⟩
  | @turn w v t fuel _ hn hs ih =>
    have hv : v.flow.Sound := by
      rw [(next_cases hn).2]
      exact ih.1
    have hmove : ∀ {a b : Relay}, a.flow.Sound ∧ Awake [t] a → a.step t = some b →
        b.flow.Sound ∧ Awake [t] b := fun h hs => ⟨sound_of_step h.1 hs, h.2.move h.1 hs⟩
    obtain ⟨hp, ha⟩ := Schedule.poll_holds hmove fuel ⟨hv, ih.2.next hn⟩
    exact ⟨hp, ha.rest hs⟩
  | straggle _ hs ih => exact ⟨sound_of_step ih.1 hs, ih.2.straggle hs⟩

/-! ## Runs on a script -/

theorem course_of_poll (t : Task) (fuel : Nat) (w : Relay) :
    w.Course (Schedule.poll (step t) fuel w) :=
  Schedule.poll_holds (P := w.Course) (fun h hs => h.move t hs) fuel .here

/-- A run in turn is a course from its start. -/
theorem InTurn.course (h : InTurn u) : ∃ w, Fresh w ∧ w.Course u := by
  induction h with
  | @start w h0 => exact ⟨w, h0, .here⟩
  | event e _ ih =>
    obtain ⟨w, h0, h⟩ := ih
    exact ⟨w, h0, .event e h⟩
  | use x _ hn ih =>
    obtain ⟨w, h0, h⟩ := ih
    exact ⟨w, h0, .use x h hn⟩
  | turn fuel _ hn _ ih =>
    obtain ⟨w, h0, h⟩ := ih
    exact ⟨w, h0, (h.next _ hn).trans (course_of_poll _ fuel _)⟩
  | straggle _ hs ih =>
    obtain ⟨w, h0, h⟩ := ih
    exact ⟨w, h0, h.move _ hs⟩

/-- Where a relay without a supervisor comes to by a script: something is done by hand, or the first of
the woken tasks runs. -/
def byHand : List (Option Use) → Relay → Option Relay
  | [], w => some w
  | some x :: rest, w => if w.supervisor.isNone then byHand rest (w.use x) else none
  | none :: rest, w =>
    match w.next with
    | none => none
    | some (t, v) =>
      let u := Schedule.poll (step t) 16 v
      if (u.step t).isNone then byHand rest u else none

/-- What each line of a script keeps. -/
theorem byHand_holds {P : Relay → Prop} (huse : ∀ {w} x, P w → w.supervisor = none → P (use w x))
    (hturn : ∀ {w t v}, P w → next w = some (t, v) → (Schedule.poll (step t) 16 v).step t = none →
      P (Schedule.poll (step t) 16 v))
    {script : List (Option Use)} (h : P w) (hr : w.byHand script = some v) : P v := by
  induction script generalizing w with
  | nil =>
    cases hr
    exact h
  | cons a rest ih =>
    cases a with
    | some x =>
      unfold byHand at hr
      split at hr
      · next hn => exact ih (huse x h (Option.isNone_iff_eq_none.mp hn)) hr
      · cases hr
    | none =>
      unfold byHand at hr
      split at hr
      · cases hr
      · next t u hn =>
        dsimp only at hr
        split at hr
        · next hs => exact ih (hturn h hn (Option.isNone_iff_eq_none.mp hs)) hr
        · cases hr

theorem InTurn.byHand {script : List (Option Use)} (h : InTurn w) (hr : w.byHand script = some v) :
    InTurn v :=
  byHand_holds (fun x h hn => h.use x hn) (fun h hn hs => h.turn 16 hn hs) h hr

theorem Course.byHand {script : List (Option Use)} (hr : w.byHand script = some v) : w.Course v :=
  byHand_holds (P := w.Course) (fun x h hn => h.use x hn)
    (fun h hn _ => (h.next _ hn).trans (course_of_poll _ 16 _)) .here hr

/-- A turn of a script, seen from the first move that is made in it. -/
theorem course_of_turn {script : List (Option Use)} (hn : w.next = some (t, v))
    (hs : v.step t = some x) (hr : w.byHand (none :: script) = some u) : x.Course u := by
  unfold byHand at hr
  simp only [hn] at hr
  have hp : Schedule.poll (step t) 16 v = Schedule.poll (step t) 15 x := by
    conv => lhs; unfold Schedule.poll
    simp only [hs]
  split at hr
  · rw [hp] at hr
    exact (course_of_poll t 15 x).trans (.byHand hr)
  · cases hr

theorem Awake.woken (h : Awake [] w) (hs : w.step (.feeder k i) ≠ none) : .feeder k i ∈ w.line := by
  obtain ⟨v, hv⟩ := Option.ne_none_iff_exists'.mp hs
  obtain ⟨L, hl⟩ := lane_of_stepFeeder hv
  exact (h.feeder hl).resolve_left fun hr => hs ((stepFeeder_eq_none_iff hl).mpr hr)

end Sluice.Relay
