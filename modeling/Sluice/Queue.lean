/-!
# Queues with a memory

A queue from which items are taken in the order they came. It keeps the items that have been taken,
so that what has gone through a queue and what waits in it can be told from its state.

* `waiting_push`: an item that comes waits behind all others.
* `waiting_of_pop?`: the item that is taken is the first that waits.
* `past_of_pop?`: and it is the last that has been taken.
-/
namespace Sluice

/-- A queue. -/
structure Queue (α : Type) where
  /-- All items that ever came, first to last. -/
  items : List α
  /-- How many of them have been taken. -/
  taken : Nat
  taken_le : taken ≤ items.length
  deriving DecidableEq, Repr

namespace Queue
variable {α : Type}

/-- A queue to which nothing has come. -/
def empty : Queue α := ⟨[], 0, Nat.le_refl 0⟩

/-- The items that wait. -/
def waiting (q : Queue α) : List α := q.items.drop q.taken

/-- The items that have been taken. -/
def past (q : Queue α) : List α := q.items.take q.taken

/-- How many items wait. -/
def backlog (q : Queue α) : Nat := q.items.length - q.taken

/-- The first item that waits. -/
def head? (q : Queue α) : Option α := q.items[q.taken]?

/-- Puts an item into a queue. -/
def push (q : Queue α) (a : α) : Queue α :=
  ⟨q.items ++ [a], q.taken, by rw [List.length_append]; have := q.taken_le; omega⟩

/-- Takes the first item that waits. -/
def pop? (q : Queue α) : Option (α × Queue α) :=
  if h : q.taken < q.items.length then some (q.items[q.taken], ⟨q.items, q.taken + 1, h⟩) else none

/-- Takes all items that wait. -/
def drain (q : Queue α) : List α × Queue α :=
  (q.waiting, ⟨q.items, q.items.length, Nat.le_refl _⟩)

theorem past_append_waiting (q : Queue α) : q.past ++ q.waiting = q.items :=
  List.take_append_drop q.taken q.items

theorem length_waiting (q : Queue α) : q.waiting.length = q.backlog := List.length_drop

theorem waiting_push (q : Queue α) (a : α) : (q.push a).waiting = q.waiting ++ [a] :=
  List.drop_append_of_le_length q.taken_le

theorem past_push (q : Queue α) (a : α) : (q.push a).past = q.past :=
  List.take_append_of_le_length q.taken_le

theorem waiting_of_pop? {q r : Queue α} {a : α} (h : q.pop? = some (a, r)) :
    q.waiting = a :: r.waiting := by
  unfold pop? at h
  split at h
  · cases h; exact List.drop_eq_getElem_cons _
  · cases h

theorem past_of_pop? {q r : Queue α} {a : α} (h : q.pop? = some (a, r)) :
    r.past = q.past ++ [a] := by
  unfold pop? at h
  split at h
  · cases h; exact List.take_succ_eq_append_getElem _
  · cases h

theorem pop?_eq_none_iff (q : Queue α) : q.pop? = none ↔ q.waiting = [] := by
  unfold pop? waiting
  have := q.taken_le
  split <;> simp only [List.drop_eq_nil_iff, reduceCtorEq, false_iff, true_iff] <;> omega

end Queue
end Sluice
