import Sluice.Window
/-!
# The line of a window

Whoever asked a window for a slot and has neither taken one nor left stands in its line: first
those who were granted a slot and have not run since, then those who wait. A grant moves the border
between the two and nothing else, so nobody in the line is ever overtaken.

* `line_pass`, `line_release`: a slot that comes back leaves the line as it is.
* `acquire_cases`, `take_cases`: what asking for a slot and taking one do.
* `Ordered`: what holds of every window in use, kept by each operation.
-/
namespace Sluice.Window

/-- Who stands in line, first come first. -/
def line (w : Window) : List Nat := w.granted ++ w.waiting

/-! ## What the operations do to the line and to the slots in use -/

theorem line_pass (w : Window) : w.pass.2.line = w.line := by
  unfold pass line
  split
  · rfl
  · next hw => simp [hw]

theorem held_pass (w : Window) : w.pass.2.held = w.held := by unfold pass; split <;> rfl

theorem capacity_pass (w : Window) : w.pass.2.capacity = w.capacity := by
  unfold pass; split <;> rfl

theorem line_release (w : Window) : w.release.2.line = w.line := by
  unfold release
  split
  · rfl
  · rw [line_pass]; rfl

theorem held_release (w : Window) : w.release.2.held = w.held - 1 := by
  unfold release
  split
  · next h => simp [h]
  · rw [held_pass]

theorem capacity_release (w : Window) : w.release.2.capacity = w.capacity := by
  unfold release
  split
  · rfl
  · rw [capacity_pass]

theorem line_leave (w : Window) (who : Nat) : (w.leave who).2.line = w.line.erase who := by
  unfold leave
  split
  · next h => rw [line_pass]; exact (List.erase_append_left _ h).symm
  · next h => exact (List.erase_append_right _ h).symm

theorem held_leave (w : Window) (who : Nat) : (w.leave who).2.held = w.held := by
  unfold leave
  split
  · rw [held_pass]
  · rfl

theorem capacity_leave (w : Window) (who : Nat) : (w.leave who).2.capacity = w.capacity := by
  unfold leave
  split
  · rw [capacity_pass]
  · rfl

/-- Asking for a slot takes a free one, or else joins the end of the line. -/
theorem acquire_cases (w : Window) (who : Nat) :
    (0 < w.free ∧ w.acquire who = (true, { w with free := w.free - 1, held := w.held + 1 })) ∨
    (w.free = 0 ∧ w.acquire who = (false, { w with waiting := w.waiting ++ [who] })) := by
  unfold acquire tryAcquire
  by_cases h : w.free = 0
  · exact .inr ⟨h, by simp [h]⟩
  · exact .inl ⟨by omega, by simp [h]⟩

theorem mem_line_join (w : Window) (who i : Nat) :
    i ∈ { w with waiting := w.waiting ++ [who] }.line ↔ i = who ∨ i ∈ w.line := by
  simp only [line, List.mem_append, List.mem_singleton]
  rw [← or_assoc, or_comm]

/-- Only a slot that was granted can be taken. -/
theorem take_cases {w v : Window} {who : Nat} (h : w.take who = some v) :
    who ∈ w.granted ∧ v = { w with granted := w.granted.erase who, held := w.held + 1 } := by
  unfold take at h
  split at h
  · next hm => exact ⟨hm, by simpa using h.symm⟩
  · cases h

theorem take_isSome {w : Window} {who : Nat} (h : who ∈ w.granted) : (w.take who).isSome := by
  unfold take; rw [if_pos h]; rfl

/-! ## Windows in use -/

/-- A window that was made for `n` slots: all of them are accounted for, nobody waits while one is
free, and nobody stands in line twice. -/
structure Ordered (n : Nat) (w : Window) : Prop where
  capacity : w.capacity = max 1 n
  total : w.total = max 1 n
  calm : w.Calm
  nodup : w.line.Nodup

theorem ordered_ofCapacity (n : Nat) : (ofCapacity n).Ordered n :=
  ⟨rfl, ofCapacity_total n, .inr rfl, List.nodup_nil⟩

variable {n : Nat} {w : Window}

theorem Ordered.held_le (h : w.Ordered n) : w.held ≤ max 1 n := by
  have := h.total
  unfold Window.total at this
  omega

theorem Ordered.acquire (h : w.Ordered n) {who : Nat} (hw : who ∉ w.line) :
    (w.acquire who).2.Ordered n := by
  refine ⟨?_, by rw [acquire_total]; exact h.total, acquire_calm who h.calm, ?_⟩
  · rcases acquire_cases w who with ⟨-, e⟩ | ⟨-, e⟩ <;> rw [e] <;> exact h.capacity
  · rcases acquire_cases w who with ⟨-, e⟩ | ⟨-, e⟩ <;> rw [e]
    · exact h.nodup
    · show (w.granted ++ (w.waiting ++ [who])).Nodup
      rw [← List.append_assoc]
      refine List.nodup_append.mpr ⟨h.nodup, by simp, fun a ha b hb e => hw ?_⟩
      rw [List.mem_singleton.mp hb] at e
      exact e ▸ ha

theorem Ordered.release (h : w.Ordered n) : w.release.2.Ordered n :=
  ⟨by rw [capacity_release]; exact h.capacity, by rw [release_total]; exact h.total,
    release_calm h.calm, by rw [line_release]; exact h.nodup⟩

theorem Ordered.take (h : w.Ordered n) {v : Window} {who : Nat} (ht : w.take who = some v) :
    v.Ordered n := by
  obtain ⟨hm, rfl⟩ := take_cases ht
  refine ⟨h.capacity, by rw [take_total ht]; exact h.total, h.calm, ?_⟩
  have := h.nodup.erase who
  rwa [line, List.erase_append_left _ hm] at this

theorem Ordered.leave (h : w.Ordered n) (who : Nat) : (w.leave who).2.Ordered n := by
  refine ⟨by rw [capacity_leave]; exact h.capacity, by rw [leave_total]; exact h.total, ?_,
    by rw [line_leave]; exact h.nodup.erase who⟩
  unfold Window.leave
  split
  · exact pass_calm h.calm
  · rcases h.calm with hf | hf
    · exact .inl hf
    · exact .inr (by simp [hf])

theorem mem_line_take {v : Window} {who i : Nat} (h : w.Ordered n) (ht : w.take who = some v) :
    i ∈ v.line ↔ i ≠ who ∧ i ∈ w.line := by
  obtain ⟨hm, rfl⟩ := take_cases ht
  rw [← h.nodup.mem_erase_iff, line, line, List.erase_append_left _ hm]

theorem mem_line_leave {who i : Nat} (h : w.Ordered n) :
    i ∈ (w.leave who).2.line ↔ i ≠ who ∧ i ∈ w.line := by
  rw [line_leave, h.nodup.mem_erase_iff]

end Sluice.Window
