import Sluice.Keyed
/-!
# Stored offsets

The position of every partition: one past the highest offset marked so far. A position only moves
forward, whatever the order of the marks.

* `position_mark`: the position of any partition after a mark.
-/
namespace Sluice

/-- A partition of a topic. -/
structure Partition where
  topic : String
  index : Int
  deriving DecidableEq, Repr

/-- The stored positions. A partition without an entry has none. -/
abbrev OffsetStore := List (Partition × Int)

namespace OffsetStore

/-- The position of a partition (`marked_offset`). -/
def position (s : OffsetStore) (p : Partition) : Option Int := s.lookup p

/-- Sets the position of a partition. -/
def put (s : OffsetStore) (p : Partition) (n : Int) : OffsetStore :=
  match s with
  | [] => [(p, n)]
  | (q, m) :: rest => if q = p then (p, n) :: rest else (q, m) :: put rest p n

/-- Marks a message as done: the position behind it, if it is new, and the store (`mark_offset`). -/
def mark (s : OffsetStore) (p : Partition) (offset : Int) : Option Int × OffsetStore :=
  let next := offset + 1
  match s.position p with
  | some n => if next ≤ n then (none, s) else (some next, s.put p next)
  | none => (some next, s.put p next)

theorem position_put (s : OffsetStore) (p q : Partition) (n : Int) :
    (s.put p n).position q = if q = p then some n else s.position q := by
  induction s with
  | nil => by_cases h : q = p <;> simp [put, position, List.lookup_cons, h]; grind
  | cons e s ih =>
    obtain ⟨r, m⟩ := e
    simp only [position] at ih
    simp only [put]
    split
    · next h => subst h; by_cases h : q = r <;> simp [position, List.lookup_cons, h]; grind
    · by_cases h : q = r <;> simp [position, List.lookup_cons, h] <;> grind

theorem position_mark (s : OffsetStore) (p q : Partition) (offset : Int) :
    (s.mark p offset).2.position q =
      if q = p then some (max (offset + 1) ((s.position p).getD (offset + 1))) else s.position q := by
  unfold mark
  cases h : s.position p with
  | none => simp [position_put]
  | some n =>
    simp only
    split
    · by_cases hq : q = p
      · subst hq; simp [h]; omega
      · simp [hq]
    · simp only [position_put]
      by_cases hq : q = p
      · simp [hq]; omega
      · simp [hq]

end OffsetStore
end Sluice
