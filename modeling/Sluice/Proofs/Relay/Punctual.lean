import Sluice.Relay
/-!
# Punctual runs

In a punctual run time stands still while a task can move, and goes past no moment that a task waits
for. What happens at an exact moment is told of these runs alone: `Through` tells what a run has gone
through, and `Inevitable` what it will come to, whichever task moves first and however far time goes
at once.

* `Inevitable.of_measure`: what a run comes to because something goes down until it is there.
* `Inevitable.reached`: some run comes to it.
-/
namespace Sluice.Relay
variable {w v u : Relay} {P : Relay → Prop} {R : Relay → Relay → Prop}

/-- One step of a punctual run: a task moves, or none can and time goes on. -/
inductive Onward (w : Relay) : Relay → Prop where
  | move {v : Relay} (t : Task) : w.step t = some v → Onward w v
  | tick (moment : Nat) : w.Settled → w.now < moment → (∀ e ∈ w.timers, moment ≤ e.1) →
      Onward w (w.tickTo moment)

theorem Punctual.onward (h : w.Punctual v) (hs : v.Onward u) : w.Punctual u := by
  cases hs with
  | move t hs => exact .move t h hs
  | tick moment hset _ hall => exact .tick moment h hset hall

/-- A run goes on where another ends. -/
theorem Punctual.trans (h : w.Punctual v) (hu : v.Punctual u) : w.Punctual u := by
  induction hu with
  | here => exact h
  | move t _ hs ih => exact .move t ih hs
  | tick moment _ hset hall ih => exact .tick moment ih hset hall

/-- A punctual run from `w` to `v` goes through a step of this kind. -/
def Through (w : Relay) (R : Relay → Relay → Prop) (v : Relay) : Prop :=
  ∃ x y, w.Punctual x ∧ R x y ∧ y.Punctual v

theorem Through.trans (h : w.Through R v) (hu : v.Punctual u) : w.Through R u := by
  obtain ⟨x, y, hx, hr, hy⟩ := h
  exact ⟨x, y, hx, hr, hy.trans hu⟩

/-- However a punctual run goes on, it comes to a relay with property `P`: until then it can always go
on, but not for ever. -/
inductive Inevitable (P : Relay → Prop) : Relay → Prop where
  | here {w : Relay} : P w → Inevitable P w
  | later {w : Relay} : (∃ v, w.Onward v) → (∀ v, w.Onward v → Inevitable P v) → Inevitable P w

/-- A run comes to `P` if until then it can go on, and something goes down with every step. -/
theorem Inevitable.of_measure {I : Nat → Relay → Prop}
    (hstep : ∀ n w, I n w → (∃ v, w.Onward v) ∧ ∀ v, w.Onward v → P v ∨ ∃ m, m < n ∧ I m v)
    {n : Nat} (h : I n w) : Inevitable P w := by
  induction n using Nat.strongRecOn generalizing w with
  | ind n ih =>
    obtain ⟨hsome, hall⟩ := hstep n w h
    refine .later hsome fun v hv => ?_
    rcases hall v hv with hp | ⟨m, hm, hi⟩
    · exact .here hp
    · exact ih m hm hi

/-- What is inevitable is reached by some run. -/
theorem Inevitable.reached (h : Inevitable P w) : ∃ v, w.Punctual v ∧ P v := by
  induction h with
  | here hp => exact ⟨_, .here, hp⟩
  | later hsome _ ih =>
    obtain ⟨v, hv⟩ := hsome
    obtain ⟨u, hu, hp⟩ := ih v hv
    exact ⟨u, (Punctual.here.onward hv).trans hu, hp⟩

end Sluice.Relay
