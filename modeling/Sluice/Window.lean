/-!
# The in-flight window

A window hands out a fixed number of slots. Who finds no free slot waits in line; a slot that comes
back is granted to the first in line, who takes it when it runs next. A slot is thus held, granted
or free.

* `acquire_total`, `release_total`, …: no operation changes the number of slots.
* `acquire_calm`, `release_calm`, …: while slots are free nobody waits.
-/
namespace Sluice

/-- The slots of a window and who wants one (`InFlightWindow`). -/
structure Window where
  capacity : Nat
  /-- Slots that can be had without waiting. -/
  free : Nat
  /-- Who waits, first come first. -/
  waiting : List Nat
  /-- Who has been granted a slot and has not run since, in the order of the grants. -/
  granted : List Nat
  /-- Slots in use. -/
  held : Nat
  deriving DecidableEq, Repr

namespace Window

/-- The greatest capacity of a window. -/
def limit : Nat := 2305843009213693951

/-- A window with a capacity of at least one (`InFlightWindow.new`). -/
def ofCapacity (n : Nat) : Window := ⟨max 1 n, max 1 n, [], [], 0⟩

/-- Whether a window of this capacity can be made. -/
def fits (n : Nat) : Bool := n ≤ limit

/-- Takes a free slot, if there is one (`try_acquire`). -/
def tryAcquire (w : Window) : Option Window :=
  if w.free = 0 then none else some { w with free := w.free - 1, held := w.held + 1 }

/-- Takes a free slot, or stands in line (`acquire`). -/
def acquire (w : Window) (who : Nat) : Bool × Window :=
  match w.tryAcquire with
  | some w => (true, w)
  | none => (false, { w with waiting := w.waiting ++ [who] })

/-- Passes a slot on: to the first in line, who is named, or back to the free ones. -/
def pass (w : Window) : Option Nat × Window :=
  match w.waiting with
  | [] => (none, { w with free := w.free + 1 })
  | who :: rest => (some who, { w with waiting := rest, granted := w.granted ++ [who] })

/-- Gives back a slot in use (`Slot.release`, or its `drop`). -/
def release (w : Window) : Option Nat × Window :=
  if w.held = 0 then (none, w) else pass { w with held := w.held - 1 }

/-- Takes the slot that was granted to `who`. -/
def take (w : Window) (who : Nat) : Option Window :=
  if who ∈ w.granted then some { w with granted := w.granted.erase who, held := w.held + 1 } else none

/-- Leaves the line. A slot already granted is passed on. -/
def leave (w : Window) (who : Nat) : Option Nat × Window :=
  if who ∈ w.granted then pass { w with granted := w.granted.erase who }
  else (none, { w with waiting := w.waiting.erase who })

/-- The slots of a window, wherever they are. -/
def total (w : Window) : Nat := w.held + w.granted.length + w.free

/-- While slots are free nobody waits. -/
def Calm (w : Window) : Prop := w.free = 0 ∨ w.waiting = []

theorem ofCapacity_total (n : Nat) : (ofCapacity n).total = max 1 n := by simp [ofCapacity, total]

theorem acquire_total (w : Window) (who : Nat) : (w.acquire who).2.total = w.total := by
  unfold acquire tryAcquire
  by_cases h : w.free = 0
  · simp [h, total]
  · simp only [h, ↓reduceIte, total]; omega

theorem pass_total (w : Window) : w.pass.2.total = w.total + 1 := by
  unfold pass
  split <;> simp only [total, List.length_append, List.length_cons, List.length_nil] <;> omega

theorem release_total (w : Window) : w.release.2.total = w.total := by
  unfold release
  split
  · rfl
  · rw [pass_total]; simp only [total]; omega

theorem take_total {w v : Window} {who : Nat} (h : w.take who = some v) : v.total = w.total := by
  unfold take at h
  split at h
  · next hm =>
    cases h
    have := List.length_erase_of_mem hm
    have := List.length_pos_of_mem hm
    simp only [total]; omega
  · cases h

theorem leave_total (w : Window) (who : Nat) : (w.leave who).2.total = w.total := by
  unfold leave
  split
  · next hm =>
    rw [pass_total]
    have := List.length_erase_of_mem hm
    have := List.length_pos_of_mem hm
    simp only [total]; omega
  · rfl

theorem acquire_calm {w : Window} (who : Nat) (h : w.Calm) : (w.acquire who).2.Calm := by
  unfold acquire tryAcquire
  by_cases hf : w.free = 0
  · simp [hf, Calm]
  · rcases h with h | h
    · exact absurd h hf
    · simp [hf, Calm, h]

theorem pass_calm {w : Window} (h : w.Calm) : w.pass.2.Calm := by
  unfold pass
  split
  · next hw => exact .inr (by simpa using hw)
  · next hw =>
    rcases h with h | h
    · exact .inl h
    · simp [hw] at h

theorem release_calm {w : Window} (h : w.Calm) : w.release.2.Calm := by
  unfold release
  split
  · exact h
  · exact pass_calm h

end Window
end Sluice
