import Sluice.Proofs.Ledger.Slots
/-!
# What becomes of an entry

Entries are stored under numbers that may repeat, and results may come before, between or after
them, or more than once. A `Trail` is a run of a ledger with what was posted to it, whoever moves and
whatever callers do meanwhile. `Accounted` is what every step of such a run keeps.

* `Trail.accounted`: the entries, marks, counters and slots follow from the postings.
* `Trail.entries_exact`: every entry is removed at most once, by the first posting that comes under
  its number, and has its slot until then.
-/
namespace Sluice.Ledger

variable {n : Nat} {id : Nat} {l l' : Ledger} {e : Tracked} {p : Posting} {ps : List Posting}

/-- What an event posts. A slot that the caller does not have cannot be handed on. -/
def posted (l : Ledger) : Event → List Posting
  | .gate _ => []
  | .register slot id e => if l.gate.has slot then [.store false slot id e] else []
  | .track slot id e => if l.gate.has slot then [.store true slot id e] else []
  | .result id delivered => [.result id delivered]

/-- The ledgers that a window of capacity `n` can come to, with what was posted to them. -/
inductive Trail (n : Nat) : List Posting → Ledger → Prop where
  | start : Trail n [] (ofCapacity n)
  | event {ps : List Posting} {l : Ledger} (e : Event) :
      Trail n ps l → Trail n (l.posted e ++ ps) (l.apply e)
  | move {ps : List Posting} {l : Ledger} {g : Gate} (i : Nat) :
      Trail n ps l → l.gate.step i = some g → Trail n ps { l with gate := g }
  /-- A woken caller has its turn. -/
  | next {ps : List Posting} {l : Ledger} {i : Nat} {g : Gate} :
      Trail n ps l → l.gate.next = some (i, g) → Trail n ps { l with gate := g }

theorem Reachable.trail (h : Reachable n l) : ∃ ps, Trail n ps l := by
  induction h with
  | start => exact ⟨[], .start⟩
  | event e _ ih => exact ⟨_, ih.choose_spec.event e⟩
  | move i _ hs ih => exact ⟨_, ih.choose_spec.move i hs⟩

/-- The entry that was stored under a number most recently, if nothing was posted under it since. -/
def Latest (ps : List Posting) (id : Nat) (e : Tracked) : Prop :=
  ∃ newer counted slot older, ps = newer ++ .store counted slot id e :: older ∧
    ∀ p ∈ newer, p.id ≠ id

theorem latest_iff : Latest ps id e ↔ ∃ s, (standing ps).get? id = some s ∧ s.entry = e := by
  constructor
  · rintro ⟨newer, c, slot, older, rfl, hn⟩
    exact ⟨⟨older.length, slot, e⟩, get?_standing_iff.mpr ⟨newer, c, older, rfl, rfl, hn⟩, rfl⟩
  · rintro ⟨s, hs, rfl⟩
    obtain ⟨newer, c, older, he, -, hn⟩ := get?_standing_iff.mp hs
    exact ⟨newer, c, s.slot, older, he, hn⟩

/-- An entry was removed if anything was posted under its number since. -/
theorem removed_of_store {c : Bool} {slot : Nat} {newer older : List Posting}
    (h : ∃ p ∈ newer, p.id = id) :
    ∃ m, (⟨older.length, slot, e⟩, m) ∈ removals (newer ++ .store c slot id e :: older) := by
  induction newer with
  | nil => simp at h
  | cons q newer ih =>
    by_cases hn : ∃ p ∈ newer, p.id = id
    · obtain ⟨m, hm⟩ := ih hn
      exact ⟨m, List.mem_append_left _ hm⟩
    · obtain ⟨p, hp, hid⟩ := h
      rcases List.mem_cons.mp hp with rfl | hp
      · refine ⟨p.manner, List.mem_append_right _ (mem_removed_iff.mpr ⟨?_, rfl⟩)⟩
        rw [hid]
        exact get?_standing_iff.mpr
          ⟨newer, c, older, rfl, rfl, fun q hq he => hn ⟨q, hq, he⟩⟩
      · exact absurd ⟨p, hp, hid⟩ hn

/-! ## What the operations do -/

/-- The gate after an entry was removed, if there was one. -/
def vacated (g : Gate) : Option Tracked → Gate
  | none => g
  | some _ => g.giveBack

theorem register_eq (l : Ledger) (slot id : Nat) (e : Tracked) : l.register slot id e =
    { l with
      gate := (vacated l.gate (l.pending.get? id)).handOver slot
      pending := (l.pending.store id e).2 } := by
  unfold register Pending.store vacated
  cases l.pending.get? id with
  | none => rfl
  | some old => simp only [complete, Bool.false_eq_true, if_false, Gate.giveBack_handOver]

theorem track_eq (l : Ledger) (slot id : Nat) (e : Tracked) : l.track slot id e =
    { l.register slot id e with metrics := l.metrics.count .submitted } := by
  unfold track
  rw [register_eq]

/-- The marks after an entry was removed as delivered or not. -/
def marked (l : Ledger) (e : Tracked) (delivered : Bool) : List Mark :=
  l.marks ++ if delivered then [⟨e.session, e.message, l.gate.window.free⟩] else []

theorem result_some (h : l.pending.get? id = some e) (delivered : Bool) :
    l.result id delivered = (true,
      { gate := l.gate.giveBack
        pending := l.pending.remove id
        marks := l.marked e delivered
        metrics := l.metrics.count (if delivered then .delivered else .undelivered) }) := by
  unfold result complete marked
  rw [h]
  cases delivered <;> simp

theorem result_none (h : l.pending.get? id = none) (delivered : Bool) :
    l.result id delivered = (false, { l with metrics := l.metrics.count .unknown }) := by
  unfold result
  rw [h]

/-! ## What every run keeps -/

/-- Whether a posting is counted as a group that was handed on. -/
def Posting.isCounted : Posting → Bool
  | store counted .. => counted
  | result .. => false

/-- The message that was marked, and on which session. -/
def Mark.entry (m : Mark) : Tracked := ⟨m.session, m.message⟩

/-- A ledger agrees with what was posted to it. -/
structure Accounted (n : Nat) (ps : List Posting) (l : Ledger) : Prop where
  pending : l.pending = (standing ps).mapEntries Stored.entry
  lent : l.gate.Lent n (standing ps) ((removals ps).map Prod.fst)
  marks : l.marks.map Mark.entry = (removedAs .delivered ps).map Stored.entry
  early : ∀ m ∈ l.marks, m.free < max 1 n
  delivered : l.metrics.delivered = (removedAs .delivered ps).length
  undelivered : l.metrics.undelivered = (removedAs .undelivered ps).length
  submitted : l.metrics.submitted = ps.countP Posting.isCounted
  results : l.metrics.delivered + l.metrics.undelivered + l.metrics.unknown +
    ps.countP Posting.isStore = ps.length

theorem Accounted.get? (h : Accounted n ps l) (id : Nat) :
    l.pending.get? id = ((standing ps).get? id).map Stored.entry := by
  rw [h.pending, Pending.get?_mapEntries]

theorem Accounted.gate (h : Accounted n ps l) {g : Gate}
    (hg : g.Lent n (standing ps) ((removals ps).map Prod.fst)) : Accounted n ps { l with gate := g } :=
  { h with lent := hg }

/-- The entry under a number is removed, if there is one, and its slot comes back. -/
theorem Accounted.vacated (h : Accounted n ps l) (p : Posting) :
    (vacated l.gate (l.pending.get? p.id)).Lent n ((standing ps).remove p.id)
      ((removals (p :: ps)).map Prod.fst) := by
  rw [h.get?, removals, List.map_append, removed]
  cases hs : (standing ps).get? p.id with
  | none =>
    rw [Pending.remove_of_get?_none hs]
    simpa [Ledger.vacated] using h.lent
  | some s => exact h.lent.giveBack (distinct_standing ps) hs

theorem has_vacated (g : Gate) (o : Option Tracked) (slot : Nat) :
    (Ledger.vacated g o).has slot = g.has slot := by
  cases o with
  | none => rfl
  | some _ => exact congrArg (fun l : List Bool => l.getD slot false) (Gate.held_giveBack g).2.2

theorem removedAs_store (ps : List Posting) (c : Bool) (slot id : Nat) (e : Tracked) :
    removedAs .delivered (.store c slot id e :: ps) = removedAs .delivered ps ∧
      removedAs .undelivered (.store c slot id e :: ps) = removedAs .undelivered ps := by
  simp [removedAs_cons, Posting.manner]

theorem accounted_register (h : Accounted n ps l) {slot : Nat} (hs : l.gate.has slot = true)
    (id : Nat) (e : Tracked) : Accounted n (.store false slot id e :: ps) (l.register slot id e) := by
  obtain ⟨hd, hu⟩ := removedAs_store ps false slot id e
  have hv := h.vacated (.store false slot id e)
  rw [register_eq]
  refine ⟨?_, hv.handOver (s := ⟨ps.length, slot, e⟩) (by rwa [has_vacated]) id, hd ▸ h.marks,
    h.early, hd ▸ h.delivered, hu ▸ h.undelivered, ?_, ?_⟩
  · show (l.pending.store id e).2 = _
    rw [h.pending]
    exact Pending.store_mapEntries Stored.entry (standing ps) id ⟨ps.length, slot, e⟩
  · rw [List.countP_cons_of_neg Bool.false_ne_true]
    exact h.submitted
  · rw [List.countP_cons_of_pos rfl, ← Nat.add_assoc]
    exact congrArg (· + 1) h.results

theorem accounted_track (h : Accounted n ps l) {slot : Nat} (hs : l.gate.has slot = true)
    (id : Nat) (e : Tracked) : Accounted n (.store true slot id e :: ps) (l.track slot id e) := by
  -- a group that was handed on is stored like any other, and counted
  have hr := accounted_register h hs id e
  rw [track_eq]
  rw [register_eq] at hr ⊢
  refine ⟨hr.pending, hr.lent, hr.marks, hr.early, hr.delivered, hr.undelivered, ?_, hr.results⟩
  rw [List.countP_cons_of_pos rfl]
  exact congrArg (· + 1) h.submitted

/-- A result for a number under which nothing waits. -/
theorem accounted_result_none (h : Accounted n ps l) (hs : (standing ps).get? id = none)
    (delivered : Bool) : Accounted n (.result id delivered :: ps) (l.result id delivered).2 := by
  have hc : l.pending.get? id = none := by rw [h.get?, hs]; rfl
  have hm : ∀ m, removedAs m (.result id delivered :: ps) = removedAs m ps := by
    intro m
    rw [removedAs_cons, Posting.id, hs]
    simp
  have hv := h.vacated (.result id delivered)
  simp only [Posting.id, hc] at hv
  rw [result_none hc]
  refine ⟨?_, hv, (hm _).symm ▸ h.marks, h.early, (hm _).symm ▸ h.delivered,
    (hm _).symm ▸ h.undelivered, ?_, ?_⟩
  · show l.pending = ((standing ps).remove id).mapEntries Stored.entry
    rw [Pending.remove_of_get?_none hs]
    exact h.pending
  · rw [List.countP_cons_of_neg Bool.false_ne_true]
    exact h.submitted
  · have hr := h.results
    rw [List.countP_cons_of_neg Bool.false_ne_true, List.length_cons, ← hr]
    show l.metrics.delivered + l.metrics.undelivered + (l.metrics.unknown + 1) + _ = _
    omega

/-- A result for an entry that waits. -/
theorem accounted_result_some (h : Accounted n ps l) {s : Stored}
    (hs : (standing ps).get? id = some s) (delivered : Bool) :
    Accounted n (.result id delivered :: ps) (l.result id delivered).2 := by
  have hc : l.pending.get? id = some s.entry := by rw [h.get?, hs]; rfl
  have hm : ∀ m, removedAs m (.result id delivered :: ps) = removedAs m ps ++
      if (if delivered then .delivered else .undelivered) = m then [s] else [] := by
    intro m
    rw [removedAs_cons, Posting.id, hs]
    cases delivered <;> rfl
  have hv := h.vacated (.result id delivered)
  simp only [Posting.id, hc] at hv
  have hr := h.results
  rw [result_some hc]
  refine ⟨?_, hv, ?_, ?_, ?_, ?_, ?_, ?_⟩
  · show l.pending.remove id = ((standing ps).remove id).mapEntries Stored.entry
    rw [h.pending, Pending.remove_mapEntries]
  · rw [hm]
    unfold marked
    cases delivered <;> simp [h.marks, Mark.entry]
  · intro m hmem
    rcases List.mem_append.mp hmem with hmem | hmem
    · exact h.early m hmem
    · cases delivered with
      | false => cases hmem
      | true =>
        rw [List.mem_singleton.mp hmem]
        exact h.lent.free_lt hs
  · rw [hm]
    cases delivered <;> simp [Metrics.count, h.delivered]
  · rw [hm]
    cases delivered <;> simp [Metrics.count, h.undelivered]
  · rw [List.countP_cons_of_neg Bool.false_ne_true, ← h.submitted]
    cases delivered <;> rfl
  · rw [List.countP_cons_of_neg Bool.false_ne_true, List.length_cons, ← hr]
    cases delivered <;> simp only [Metrics.count, if_true, Bool.false_eq_true, if_false] <;> omega

theorem accounted_result (h : Accounted n ps l) (id : Nat) (delivered : Bool) :
    Accounted n (.result id delivered :: ps) (l.result id delivered).2 := by
  cases hs : (standing ps).get? id with
  | none => exact accounted_result_none h hs delivered
  | some s => exact accounted_result_some h hs delivered

theorem accounted_apply (h : Accounted n ps l) (ev : Event) :
    Accounted n (l.posted ev ++ ps) (l.apply ev) := by
  cases ev with
  | gate e => exact h.gate (h.lent.outside (Gate.outside_of_apply l.gate e))
  | register slot id e =>
    show Accounted n ((if l.gate.has slot then [.store false slot id e] else []) ++ ps)
      (if l.gate.has slot then l.register slot id e else l)
    split
    · next hs => exact accounted_register h hs id e
    · exact h
  | track slot id e =>
    show Accounted n ((if l.gate.has slot then [.store true slot id e] else []) ++ ps)
      (if l.gate.has slot then l.track slot id e else l)
    split
    · next hs => exact accounted_track h hs id e
    · exact h
  | result id d => exact accounted_result h id d

theorem Trail.accounted (h : Trail n ps l) : Accounted n ps l := by
  induction h with
  | start => exact ⟨rfl, Gate.lent_ofCapacity n, rfl, nofun, rfl, rfl, rfl, rfl⟩
  | event e _ ih => exact accounted_apply ih e
  | move i _ hs ih => exact ih.gate (ih.lent.move (Gate.move_of_step hs))
  | next _ hn ih => exact ih.gate (ih.lent.next hn)

/-! ## The life of an entry -/

/-- What becomes of the entries of a ledger, given what was posted to it. -/
structure Exact (n : Nat) (ps : List Posting) (l : Ledger) : Prop where
  /-- A result is for the entry that was stored under its number most recently, if no other result
  has come since. -/
  waits : ∀ id e, l.pending.get? id = some e ↔ Latest ps id e
  answer : ∀ id d, (l.result id d).1 = true ↔ ∃ e, Latest ps id e
  /-- An entry is removed by the first posting that comes under its number, and only by it. -/
  removed : ∀ s m, (s, m) ∈ removals ps ↔ ∃ newest p newer c older,
    ps = newest ++ p :: newer ++ .store c s.slot p.id s.entry :: older ∧
      s.place = older.length ∧ p.manner = m ∧ ∀ q ∈ newer, q.id ≠ p.id
  /-- No entry is removed twice, and each was removed or waits. -/
  once : ((removals ps).map fun r => r.1.place).Nodup
  all : ps.countP Posting.isStore = (removals ps).length + l.pending.length
  /-- The entries that were removed as delivered are those whose messages were marked, in order. -/
  marks : l.marks.map Mark.entry = (removedAs .delivered ps).map Stored.entry
  /-- No mark was made while all slots were free. -/
  early : ∀ m ∈ l.marks, m.free < max 1 n
  delivered : l.metrics.delivered = (removedAs .delivered ps).length
  undelivered : l.metrics.undelivered = (removedAs .undelivered ps).length
  /-- The slots in use are those that callers have and those of the entries that wait. -/
  held : l.gate.window.held = (slotsInUse l.gate.slots (standing ps)).length
  total : l.gate.window.held + l.gate.window.granted.length + l.gate.window.free = max 1 n
  /-- The slot of an entry is in use until something is posted under its number, and never again. -/
  slot : ∀ newer c b id e older, ps = newer ++ .store c b id e :: older →
    (b ∈ slotsInUse l.gate.slots (standing ps) ↔ ∀ p ∈ newer, p.id ≠ id)
  /-- An entry that is removed as delivered is marked while its slot is in use. -/
  deliver : ∀ id e, Latest ps id e → l.result id true = (true,
    { gate := l.gate.giveBack
      pending := l.pending.remove id
      marks := l.marks ++ [⟨e.session, e.message, l.gate.window.free⟩]
      metrics := l.metrics.count .delivered })
  fail : ∀ id e, Latest ps id e → l.result id false = (true,
    { gate := l.gate.giveBack
      pending := l.pending.remove id
      marks := l.marks
      metrics := l.metrics.count .undelivered })
  /-- An entry that displaces another takes over its caller's slot, and the other's comes back. -/
  displace : ∀ id old slot e, Latest ps id old → l.register slot id e =
    { l with
      gate := (l.gate.handOver slot).giveBack
      pending := (l.pending.store id e).2 }
  store : ∀ id slot e, (∀ old, ¬ Latest ps id old) → l.register slot id e =
    { l with
      gate := l.gate.handOver slot
      pending := (l.pending.store id e).2 }
  /-- A slot that comes back is one less in use, and no call has it yet. -/
  giveBack : l.gate.giveBack.window.held = l.gate.window.held - 1 ∧
    l.gate.giveBack.calls = l.gate.calls ∧ l.gate.giveBack.slots = l.gate.slots
  /-- A result for a number under which nothing waits is counted, and that is all. -/
  unknown : ∀ id d, (∀ e, ¬ Latest ps id e) →
    l.result id d = (false, { l with metrics := l.metrics.count .unknown })

theorem Accounted.waits (h : Accounted n ps l) (id : Nat) (e : Tracked) :
    l.pending.get? id = some e ↔ Latest ps id e := by
  rw [latest_iff, h.get?, Option.map_eq_some_iff]

theorem Accounted.none (h : Accounted n ps l) (hn : ∀ e, ¬ Latest ps id e) :
    l.pending.get? id = none :=
  Option.eq_none_iff_forall_ne_some.mpr fun e he => hn e ((h.waits id e).mp he)

theorem Accounted.answer (h : Accounted n ps l) (id : Nat) (d : Bool) :
    (l.result id d).1 = true ↔ ∃ e, Latest ps id e := by
  simp only [← h.waits]
  cases hc : l.pending.get? id with
  | none => simp [result_none hc]
  | some e => simp [result_some hc]

theorem Accounted.slot (h : Accounted n ps l) {newer older : List Posting} {c : Bool} {b : Nat}
    (he : ps = newer ++ .store c b id e :: older) :
    b ∈ slotsInUse l.gate.slots (standing ps) ↔ ∀ p ∈ newer, p.id ≠ id := by
  constructor
  · intro hb p hp hid
    obtain ⟨m, hm⟩ : ∃ m, (⟨older.length, b, e⟩, m) ∈ removals (newer ++ .store c b id e :: older) :=
      removed_of_store ⟨p, hp, hid⟩
    exact h.lent.not_mem_of_dead (List.mem_map_of_mem (he ▸ hm)) hb
  · intro hn
    exact h.lent.mem_of_standing (s := ⟨older.length, b, e⟩)
      (get?_standing_iff.mpr ⟨newer, c, older, he, rfl, hn⟩)

/-- **Every entry is removed at most once, by the first posting under its number**, and keeps its
slot until then. It is marked exactly if that posting says that it was delivered, before its slot
comes back. -/
theorem Trail.entries_exact (h : Trail n ps l) : Exact n ps l := by
  have ha := h.accounted
  refine {
    waits := ha.waits
    answer := ha.answer
    removed := fun _ _ => mem_removals_iff
    once := nodup_removals ps
    all := ?_
    marks := ha.marks
    early := ha.early
    delivered := ha.delivered
    undelivered := ha.undelivered
    held := ha.lent.held
    total := ha.lent.total
    slot := fun _ _ _ _ _ _ => ha.slot
    deliver := fun id e hl => result_some ((ha.waits id e).mpr hl) true
    fail := fun id e hl => ?_
    displace := fun id old slot e hl => ?_
    store := fun id slot e hn => ?_
    giveBack := Gate.held_giveBack l.gate
    unknown := fun id d hn => result_none (ha.none hn) d }
  · rw [length_stores, ha.pending, Pending.length_mapEntries]
  · rw [result_some ((ha.waits id e).mpr hl)]
    simp [marked]
  · rw [register_eq, (ha.waits id old).mpr hl, Gate.giveBack_handOver]
    rfl
  · rw [register_eq, ha.none hn]
    rfl

/-- Messages of two sessions come under one number: the second displaces the first, whose slot goes
to a caller, and is marked while no slot is free. A second result for it is unknown. -/
theorem entries_exact_displaced : ∃ l : Ledger,
    Trail 2 [.result 7 true, .result 7 true, .store false 1 7 ⟨1, .plain "t" 0 3 [1]⟩,
      .store true 0 7 ⟨0, .plain "t" 0 2 [1]⟩] l ∧
    Exact 2 [.result 7 true, .result 7 true, .store false 1 7 ⟨1, .plain "t" 0 3 [1]⟩,
      .store true 0 7 ⟨0, .plain "t" 0 2 [1]⟩] l ∧
    l.marks = [⟨1, .plain "t" 0 3 [1], 0⟩] ∧ l.gate.calls = [(0, .slot 2)] ∧
    l.metrics = { Metrics.zero with submitted := 1, delivered := 1, unknown := 1 } := by
  obtain ⟨l, ht, hm⟩ : ∃ l : Ledger,
      Trail 2 [.result 7 true, .result 7 true, .store false 1 7 ⟨1, .plain "t" 0 3 [1]⟩,
        .store true 0 7 ⟨0, .plain "t" 0 2 [1]⟩] l ∧
      l.marks = [⟨1, .plain "t" 0 3 [1], 0⟩] ∧ l.gate.calls = [(0, .slot 2)] ∧
      l.metrics = { Metrics.zero with submitted := 1, delivered := 1, unknown := 1 } := by
    have h := (((((Trail.start (n := 2)).event (.gate .tryAcquire)).event (.gate .tryAcquire)).event
      (.track 0 7 ⟨0, .plain "t" 0 2 [1]⟩)).event (.gate (.start 0))).event
      (.register 1 7 ⟨1, .plain "t" 0 3 [1]⟩)
    have h := (((h.move (g := _) 0 rfl).next (g := _) rfl).event (.result 7 true)).event
      (.result 7 true)
    exact ⟨_, h, by decide, by decide, by decide⟩
  exact ⟨l, ht, ht.entries_exact, hm⟩

end Sluice.Ledger
