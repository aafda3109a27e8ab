import Sluice.Queue
/-!
# What taking and putting leave in a queue

* `head?_of_pop?`, `items_of_pop?`: taking an item shows the head and forgets nothing.
* `mem_past_of_pop?`: what has been taken.
-/
namespace Sluice.Queue
variable {α : Type} {q r : Queue α} {a b : α}

theorem head?_of_pop? (h : q.pop? = some (a, r)) : q.head? = some a := by
  unfold pop? at h
  split at h
  · next hl =>
    cases h
    exact List.getElem?_eq_getElem hl
  · cases h

theorem head?_of_pop?_none (h : q.pop? = none) : q.head? = none := by
  unfold pop? at h
  split at h
  · cases h
  · next hl => exact List.getElem?_eq_none (Nat.le_of_not_lt hl)

/-- Taking an item moves one place on and keeps all items. -/
theorem items_of_pop? (h : q.pop? = some (a, r)) :
    r.items = q.items ∧ r.taken = q.taken + 1 := by
  unfold pop? at h
  split at h
  · cases h
    exact ⟨rfl, rfl⟩
  · cases h

theorem mem_items_of_pop? (h : q.pop? = some (a, r)) : a ∈ q.items :=
  List.mem_of_getElem? (head?_of_pop? h)

/-- What has been taken after one more item was taken. -/
theorem mem_past_of_pop? (h : q.pop? = some (a, r)) : b ∈ r.past ↔ b ∈ q.past ∨ b = a := by
  rw [past_of_pop? h, List.mem_append, List.mem_singleton]

end Sluice.Queue
