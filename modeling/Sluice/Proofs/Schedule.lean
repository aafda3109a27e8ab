import Sluice.Schedule
/-!
# Who has been woken

Waking adds tasks to the line of those who have been woken and takes none out of it. What one move
of a task keeps is kept by all the moves that it makes in a row.
-/
namespace Sluice.Schedule

variable {τ : Type} [BEq τ] [LawfulBEq τ] {s t : τ} {ts line : List τ}

theorem mem_wake_iff : s ∈ wake t line ↔ s = t ∨ s ∈ line := by
  unfold wake
  split
  · next h =>
    have := List.contains_iff_mem.mp h
    exact ⟨.inr, fun h => h.elim (fun e => e ▸ this) id⟩
  · simp [or_comm]

theorem mem_wakeAll_iff : s ∈ wakeAll ts line ↔ s ∈ ts ∨ s ∈ line := by
  unfold wakeAll
  induction ts generalizing line with
  | nil => simp
  | cons t ts ih => simp [ih, mem_wake_iff, or_assoc, or_left_comm]

/-- What every move keeps is kept by all the moves that a task makes in a row. -/
theorem poll_holds {σ : Type} {step : σ → Option σ} {P : σ → Prop}
    (h : ∀ {a b}, P a → step a = some b → P b) (fuel : Nat) {a : σ} (ha : P a) :
    P (poll step fuel a) := by
  induction fuel generalizing a with
  | zero => exact ha
  | succ fuel ih =>
    unfold poll
    split
    · exact ha
    · next hs => exact ih (h ha hs)

end Sluice.Schedule
