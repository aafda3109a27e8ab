import Sluice.Proofs.Relay.Runs
/-!
# Positions are exact

The position of a partition tells which of its messages have been marked: it is absent as long as
none has, and otherwise stands behind the highest. Only two kinds of moves mark a message: a claim
that skips it for its length, and a confirmer that takes the result that it was delivered while its
session still waits for it. Nothing else moves a position.

* `position_exact`: positions and marks, in every run.
-/
namespace Sluice.Relay

variable {w₀ w v : Relay} {ms ns : List Message} {p : Partition}

/-- A move that writes down a fate that marks nothing leaves the stored offsets as they are. -/
theorem store_of_unmarked {t : Task} {f : Fate} (hs : w.step t = some v)
    (hf : v.books.history = w.books.history ++ [f]) (hm : f.marked = none) :
    v.books.store = w.books.store := by
  obtain ⟨hms, hst⟩ := marked_of_step hs
  have hk : v.books.marks = w.books.marks := by
    unfold Books.marks
    rw [hf, List.filterMap_append]
    simp [hm]
  rw [hk] at hms
  have hn : w.marking t = none := by
    cases hx : w.marking t with
    | none => rfl
    | some m => simp [hx] at hms
  rw [hst, hn]
  rfl

/-- A message that was marked is in its log, at its offset. -/
theorem Trail.logged (h : Trail w₀ ms w) (h₀ : Fresh w₀) {m : Message} (hm : m ∈ ms) :
    ∃ o : Nat, m.offset = o ∧ (w.broker.log m.source)[o]? = some m := by
  rw [← (h.marks h₀).1] at hm
  obtain ⟨o, hl, ho, -⟩ := (h.sound h₀).marks hm
  exact ⟨o, ho, hl⟩

/-- A position lies within the log. -/
theorem Trail.position_le (h : Trail w₀ ms w) (h₀ : Fresh w₀) {n : Int}
    (hp : w.position p = some n) : n ≤ (w.broker.log p).length := by
  obtain ⟨k, rfl, hc⟩ := (h.sound h₀).position hp
  cases k with
  | zero => exact Int.natCast_nonneg _
  | succ k =>
    obtain ⟨m, hm, -⟩ := hc k (Nat.lt_succ_self k)
    have : k < (w.broker.log p).length := (List.getElem?_eq_some_iff.mp hm).1
    omega

/-- **Positions are exact.** In every run, from one relay `w` of it to a later one `v`: a partition
has no position exactly as long as none of its messages was marked, and otherwise the position is
one more than the highest offset among those that were; the messages that were marked are those
skipped for their length and those delivered to a session that waited for it, and each is in its
log, so a position lies within it; no position is lost or moves back; one moves only when a message
of its partition is marked; and a move that writes down any other fate leaves all positions as they
are. -/
theorem Trail.position_exact (h₀ : Fresh w₀) (h : Trail w₀ ms w) (hv : Trail w ns v)
    (p : Partition) :
    (w.position p = none ↔ ∀ m ∈ ms, m.source ≠ p) ∧
    (∀ n, w.position p = some n ↔
      (∃ m ∈ ms, m.source = p ∧ m.offset + 1 = n) ∧
        ∀ m ∈ ms, m.source = p → m.offset + 1 ≤ n) ∧
    (∀ m, m ∈ ms ↔ w.Skipped m ∨ w.Delivered m) ∧
    (∀ m ∈ ms, ∃ o : Nat, m.offset = o ∧ (w.broker.log m.source)[o]? = some m) ∧
    (∀ n, w.position p = some n →
      n ≤ (w.broker.log p).length ∧ ∃ n', v.position p = some n' ∧ n ≤ n') ∧
    ((∀ m ∈ ns, m.source ≠ p) → v.position p = w.position p) ∧
    (∀ t u f, w.step t = some u → u.books.history = w.books.history ++ [f] → f.marked = none →
      u.position p = w.position p) := by
  have hw : w.position p = (OffsetStore.ofMarks ms).position p :=
    congrArg (fun s : OffsetStore => s.position p) (h.marks h₀).2
  have hx : v.position p = (OffsetStore.ofMarks (ms ++ ns)).position p :=
    congrArg (fun s : OffsetStore => s.position p) ((h.append hv).marks h₀).2
  refine ⟨?_, fun n => ?_, fun m => h.mem_marks_iff h₀, fun m hm => h.logged h₀ hm, fun n hn => ⟨h.position_le h₀ hn, ?_⟩,
    fun hn => ?_, fun t u f hs hf hm => ?_⟩
  · rw [hw]
    exact OffsetStore.position_eq_none_iff
  · rw [hw]
    exact OffsetStore.position_eq_some_iff
  · rw [hx]
    rw [hw] at hn
    exact OffsetStore.position_append hn
  · rw [hx, hw]
    exact OffsetStore.position_append_of_other hn
  · exact congrArg (fun s : OffsetStore => s.position p) (store_of_unmarked hs hf hm)

/-- Of two messages the second is delivered, then the first: the position does not move back. -/
theorem Trail.position_exact_swapped : ∃ (w₀ w v : Relay) (ms ns : List Message), Fresh w₀ ∧
    Trail w₀ ms w ∧ Trail w ns v ∧ ms.length = 1 ∧ ns.length = 1 ∧
    w.position ⟨"t", 0⟩ = some 2 ∧ v.position ⟨"t", 0⟩ = some 2 ∧
    ((w.position ⟨"t", 0⟩ = none ↔ ∀ m ∈ ms, m.source ≠ ⟨"t", 0⟩) ∧
    (∀ n, w.position ⟨"t", 0⟩ = some n ↔
      (∃ m ∈ ms, m.source = ⟨"t", 0⟩ ∧ m.offset + 1 = n) ∧
        ∀ m ∈ ms, m.source = ⟨"t", 0⟩ → m.offset + 1 ≤ n) ∧
    (∀ m, m ∈ ms ↔ w.Skipped m ∨ w.Delivered m) ∧
    (∀ m ∈ ms, ∃ o : Nat, m.offset = o ∧ (w.broker.log m.source)[o]? = some m) ∧
    (∀ n, w.position ⟨"t", 0⟩ = some n →
      n ≤ (w.broker.log ⟨"t", 0⟩).length ∧ ∃ n', v.position ⟨"t", 0⟩ = some n' ∧ n ≤ n') ∧
    ((∀ m ∈ ns, m.source ≠ ⟨"t", 0⟩) → v.position ⟨"t", 0⟩ = w.position ⟨"t", 0⟩) ∧
    (∀ t u f, w.step t = some u → u.books.history = w.books.history ++ [f] → f.marked = none →
      u.position ⟨"t", 0⟩ = w.position ⟨"t", 0⟩)) := by
  obtain ⟨⟨ms, w⟩, hw, hm, hp⟩ : ∃ x, (empty.start plainSettings).replay
      (twoRead [123, 125] [123, 125] ++
        [.inr (.confirmer 0), .inl (.confirm ⟨2, true⟩), .inr (.confirmer 0)]) = some x ∧
      x.1.length = 1 ∧ x.2.position ⟨"t", 0⟩ = some 2 := ⟨_, rfl, rfl, rfl⟩
  obtain ⟨⟨ns, v⟩, hv, hn, hq⟩ : ∃ x, w.replay
      [.inr (.confirmer 0), .inl (.confirm ⟨1, true⟩), .inr (.confirmer 0)] = some x ∧
      x.1.length = 1 ∧ x.2.position ⟨"t", 0⟩ = some 2 := by
    cases hw
    exact ⟨_, rfl, rfl, rfl⟩
  have h₀ : Fresh (empty.start plainSettings) := .inr ⟨_, rfl⟩
  have h := Trail.replay hw
  have h' := Trail.replay hv
  exact ⟨_, w, v, ms, ns, h₀, h, h', hm, hn, hp, hq, position_exact h₀ h h' ⟨"t", 0⟩⟩

end Sluice.Relay
