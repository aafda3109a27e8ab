import Mathlib.Data.List.Induction
import Sluice.Message
/-!
# Where positions stand

A store that messages have been marked in, one after another, holds for every partition the highest
position behind them, in whatever order they came.

* `position_ofMarks`: the position of a partition after any marks.
* `position_eq_none_iff`, `position_eq_some_iff`: the same, message by message.
-/
namespace Sluice.OffsetStore

/-- The store after these messages have been marked, first to last. -/
def ofMarks (ms : List Message) : OffsetStore :=
  ms.foldl (fun s m => (s.mark m.source m.offset).2) []

/-- The positions behind the messages of a partition. -/
def behind (ms : List Message) (p : Partition) : List Int :=
  (ms.filter fun m => m.source = p).map fun m => m.offset + 1

theorem ofMarks_append (ms : List Message) (m : Message) :
    ofMarks (ms ++ [m]) = ((ofMarks ms).mark m.source m.offset).2 := by
  simp [ofMarks]

theorem behind_append (ms ns : List Message) (p : Partition) :
    behind (ms ++ ns) p = behind ms p ++ behind ns p := by
  simp [behind]

theorem behind_singleton (m : Message) (p : Partition) :
    behind [m] p = if m.source = p then [m.offset + 1] else [] := by
  unfold behind
  by_cases h : m.source = p <;> simp [h]

theorem mem_behind {ms : List Message} {p : Partition} {n : Int} :
    n ∈ behind ms p ↔ ∃ m ∈ ms, m.source = p ∧ m.offset + 1 = n := by
  simp [behind, and_assoc]

theorem max?_append_singleton (l : List Int) (n : Int) :
    (l ++ [n]).max? = some (max n (l.max?.getD n)) := by
  rw [List.max?_eq_some_iff]
  cases h : l.max? with
  | none =>
    rw [List.max?_eq_none_iff.mp h]
    simp
  | some a =>
    obtain ⟨ha, hle⟩ := List.max?_eq_some_iff.mp h
    rw [Option.getD_some]
    refine ⟨?_, fun b hb => ?_⟩
    · by_cases hn : a ≤ n
      · simp [Int.max_eq_left hn]
      · simp [Int.max_eq_right (Int.le_of_lt (Int.not_le.mp hn)), ha]
    · rcases List.mem_append.mp hb with hb | hb
      · have := hle b hb
        omega
      · have := List.mem_singleton.mp hb
        omega

/-- The highest mark counts. -/
theorem position_ofMarks (ms : List Message) (p : Partition) :
    (ofMarks ms).position p = (behind ms p).max? := by
  -- The last mark moves the position last, so the induction is from the end.
  induction ms using List.reverseRecOn with
  | nil => rfl
  | append_singleton ms m ih =>
    rw [ofMarks_append, position_mark, behind_append, behind_singleton]
    by_cases h : m.source = p
    · rw [if_pos h, if_pos h.symm, max?_append_singleton, ← ih, h]
    · rw [if_neg h, if_neg fun e => h e.symm, List.append_nil, ih]

/-- A partition has no position as long as none of its messages has been marked. -/
theorem position_eq_none_iff {ms : List Message} {p : Partition} :
    (ofMarks ms).position p = none ↔ ∀ m ∈ ms, m.source ≠ p := by
  rw [position_ofMarks, List.max?_eq_none_iff, List.eq_nil_iff_forall_not_mem]
  refine ⟨fun h m hm hp => h _ (mem_behind.mpr ⟨m, hm, hp, rfl⟩), fun h n hn => ?_⟩
  obtain ⟨m, hm, hp, -⟩ := mem_behind.mp hn
  exact h m hm hp

/-- A position is the one behind a message that was marked, and no message that was marked lies
higher. -/
theorem position_eq_some_iff {ms : List Message} {p : Partition} {n : Int} :
    (ofMarks ms).position p = some n ↔
      (∃ m ∈ ms, m.source = p ∧ m.offset + 1 = n) ∧
        ∀ m ∈ ms, m.source = p → m.offset + 1 ≤ n := by
  rw [position_ofMarks, List.max?_eq_some_iff, mem_behind]
  refine and_congr_right fun _ => ⟨fun h m hm hp => h _ (mem_behind.mpr ⟨m, hm, hp, rfl⟩),
    fun h b hb => ?_⟩
  obtain ⟨m, hm, hp, rfl⟩ := mem_behind.mp hb
  exact h m hm hp

/-- More marks never take a position away, nor move it back. -/
theorem position_append {ms ns : List Message} {p : Partition} {n : Int}
    (h : (ofMarks ms).position p = some n) :
    ∃ n', (ofMarks (ms ++ ns)).position p = some n' ∧ n ≤ n' := by
  obtain ⟨⟨m, hm, hp, rfl⟩, -⟩ := position_eq_some_iff.mp h
  cases hn : (ofMarks (ms ++ ns)).position p with
  | none => exact absurd hp (position_eq_none_iff.mp hn m (List.mem_append_left _ hm))
  | some n' =>
    exact ⟨n', rfl, (position_eq_some_iff.mp hn).2 m (List.mem_append_left _ hm) hp⟩

/-- Marks of other partitions leave a position where it is. -/
theorem position_append_of_other {ms ns : List Message} {p : Partition}
    (h : ∀ m ∈ ns, m.source ≠ p) :
    (ofMarks (ms ++ ns)).position p = (ofMarks ms).position p := by
  have hn : behind ns p = [] := List.max?_eq_none_iff.mp
    ((position_ofMarks ns p).symm.trans (position_eq_none_iff.mpr h))
  rw [position_ofMarks, position_ofMarks, behind_append, hn, List.append_nil]

end Sluice.OffsetStore
