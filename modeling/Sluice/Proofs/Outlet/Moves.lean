import Sluice.Proofs.Gate.Fairness
import Sluice.Proofs.Queue
import Sluice.Sink
/-!
# What the readers of a stream can do

One reader at a time has the stream of results; the others stand in line for it. `Move` lists what a
reader can do when it runs. `Guarded` is what everything that happens to a sink keeps: the stream is
held by the one that reads, and its line is made of the readers that stand in it.

* `Guarded.move`, `Guarded.apply`: one step keeps it.
* `Guarded.ended_of_rest`: at rest no reader waits while a result does.
-/
namespace Sluice

/-- Whether a reader has ended. -/
def Reader.ended : Reader → Bool
  | got _ | abandoned => true
  | fresh | queued | reading => false

namespace Outlet

variable {i j : Nat} {o p : Outlet} {w : Window} {r s : Reader}

/-- The sink with its stream in another state. -/
def withStream (o : Outlet) (w : Window) : Outlet := { o with sink := { o.sink with stream := w } }

/-- The sink with its results in another state. -/
def withResults (o : Outlet) (q : Queue Delivery) : Outlet :=
  { o with sink := { o.sink with deliveries := q } }

/-- A reader that has the stream ends, and passes it on. -/
def pass (o : Outlet) (i : Nat) (r : Reader) : Outlet :=
  ((o.withStream o.sink.stream.release.2).setReader i r).wake o.sink.stream.release.1

/-- A reader ends while it stands in line. -/
def leave (o : Outlet) (i : Nat) (r : Reader) : Outlet :=
  ((o.withStream (o.sink.stream.leave i).2).setReader i r).wake (o.sink.stream.leave i).1

/-- Reader `i` runs and has the stream, which is then `w`. -/
inductive Holds (o : Outlet) (i : Nat) : Window → Prop where
  | enter : o.readers[i]? = some .fresh → 0 < o.sink.stream.free → Holds o i o.sink.stream.taken
  | take : o.readers[i]? = some .queued → i ∈ o.sink.stream.granted →
      Holds o i (o.sink.stream.redeemed i)
  | keep : o.readers[i]? = some .reading → Holds o i o.sink.stream

/-- What reader `i` can do when it runs. -/
inductive Move (o : Outlet) (i : Nat) : Outlet → Prop where
  /-- It joins the line for the stream. -/
  | join : o.readers[i]? = some .fresh → o.sink.stream.free = 0 →
      Move o i ((o.withStream (o.sink.stream.joined i)).setReader i .queued)
  /-- It gets the stream, and finds no result. -/
  | wait {w : Window} : Holds o i w → o.sink.deliveries.pop? = none →
      Move o i ((o.withStream w).setReader i .reading)
  /-- It takes a result and ends. -/
  | got {w : Window} {d : Delivery} {q : Queue Delivery} : Holds o i w →
      o.sink.deliveries.pop? = some (d, q) →
      Move o i (((o.withResults q).withStream w).pass i (.got d))

theorem move_of_read (h : Holds o i w) : Move o i ((o.withStream w).read i) := by
  unfold read Sink.nextDelivery
  have e : (o.withStream w).sink.deliveries = o.sink.deliveries := rfl
  rw [e]
  cases hq : o.sink.deliveries.pop? with
  | none => exact .wait h hq
  | some x => exact .got h hq

theorem move_of_step (hs : o.step i = some p) : o.Move i p := by
  unfold step at hs
  split at hs
  · next hr =>
    rcases Window.acquire_cases o.sink.stream i with ⟨hf, e⟩ | ⟨hf, e⟩ <;> rw [e] at hs <;> cases hs
    · exact move_of_read (.enter hr hf)
    · exact .join hr hf
  · next hr =>
    obtain ⟨w, hw, rfl⟩ := Option.map_eq_some_iff.mp hs
    obtain ⟨hm, rfl⟩ := Window.take_cases hw
    exact move_of_read (.take hr hm)
  · next hr =>
    split at hs
    · cases hs
    · cases hs
      exact move_of_read (.keep hr)
  · cases hs

/-- The sink after a number was given to a group. -/
def mint (o : Outlet) : Outlet := { o with sink := { o.sink with nextId := o.sink.nextId + 1 } }

/-- The sink with its groups in another state. -/
def withBatches (o : Outlet) (q : Queue Batch) : Outlet := { o with sink := { o.sink with batches := q } }

/-- What an event from outside does. -/
inductive Outside (o : Outlet) : Event → Outlet → Prop where
  /-- A group without records is delivered as soon as it exists. -/
  | empty : Outside o (.submit []) (o.mint.confirm ⟨o.sink.nextId, true⟩)
  /-- A group goes to the output. -/
  | batch {rs : List Record} : rs ≠ [] → o.sink.outputOpen = true →
      Outside o (.submit rs) (o.mint.withBatches (o.sink.batches.push ⟨o.sink.nextId, rs⟩))
  /-- A group comes after the output was closed. -/
  | late {rs : List Record} : rs ≠ [] → o.sink.outputOpen = false →
      Outside o (.submit rs) (o.mint.confirm ⟨o.sink.nextId, false⟩)
  | receive {b : Batch} {q : Queue Batch} : o.sink.batches.pop? = some (b, q) →
      Outside o .receive (o.withBatches q)
  | receiveNone : o.sink.batches.pop? = none → Outside o .receive o
  | confirm (d : Delivery) : Outside o (.confirm d) (o.confirm d)
  /-- A result is taken without waiting. -/
  | tryNext {d : Delivery} {q : Queue Delivery} : 0 < o.sink.stream.free →
      o.sink.deliveries.pop? = some (d, q) → Outside o .tryNext (o.withResults q)
  | tryNone : o.sink.tryNext = none → Outside o .tryNext o
  | start : Outside o .start o.start
  /-- A reader is dropped before it has run. -/
  | forget {i : Nat} : o.readers[i]? = some .fresh →
      Outside o (.abandon i) (o.setReader i .abandoned)
  /-- A reader is dropped while it stands in line. -/
  | leave {i : Nat} : o.readers[i]? = some .queued → Outside o (.abandon i) (o.leave i .abandoned)
  /-- A reader is dropped while it has the stream. -/
  | drop {i : Nat} : o.readers[i]? = some .reading → Outside o (.abandon i) (o.pass i .abandoned)
  | abandonNone {i : Nat} : (∀ r, o.readers[i]? = some r → r.ended = true) → Outside o (.abandon i) o
  | closeOutput : Outside o .closeOutput { o with sink := o.sink.closeOutput }

theorem outside_of_apply (o : Outlet) (e : Event) : o.Outside e (o.apply e) := by
  cases e with
  | submit rs =>
    show o.Outside _ (o.submit rs).2
    unfold Outlet.submit Sink.submit
    by_cases hr : rs = []
    · subst hr
      exact .empty
    · have he : rs.isEmpty = false := by simpa using hr
      simp only [he, Bool.false_eq_true, if_false]
      by_cases ho : o.sink.outputOpen = true
      · rw [if_pos ho]
        exact .batch hr ho
      · rw [if_neg ho]
        exact .late hr (by simpa using ho)
  | receive =>
    simp only [apply, Sink.receive]
    cases hq : o.sink.batches.pop? with
    | none => exact .receiveNone hq
    | some x => exact .receive hq
  | confirm d => exact .confirm d
  | tryNext =>
    simp only [apply]
    cases ht : o.sink.tryNext with
    | none => exact .tryNone ht
    | some x =>
      unfold Sink.tryNext Sink.nextDelivery at ht
      split at ht
      · cases ht
      · next hf =>
        obtain ⟨y, hy, rfl⟩ := Option.map_eq_some_iff.mp ht
        exact .tryNext (Nat.pos_of_ne_zero hf) hy
  | start => exact .start
  | abandon i =>
    show o.Outside _ (o.abandon i)
    unfold abandon
    split
    · next hr => exact .forget hr
    · next hr => exact .leave hr
    · next hr => exact .drop hr
    · next h1 h2 h3 =>
      refine .abandonNone fun r hr => ?_
      cases r with
      | fresh => exact absurd hr h1
      | queued => exact absurd hr h2
      | reading => exact absurd hr h3
      | got => rfl
      | abandoned => rfl
  | closeOutput => exact .closeOutput

/-! ## What the operations leave as it is -/

theorem wake_eq (o : Outlet) (who : Option Nat) :
    o.wake who = { o with line := Gate.wokenBy o.line who } := by
  cases who <;> rfl

theorem wakeHolder_eq (o : Outlet) :
    o.wakeHolder = { o with line := Gate.wokenBy o.line (o.readers.findIdx? (· == .reading)) } :=
  wake_eq o _

theorem reader_setReader (o : Outlet) (i j : Nat) (r : Reader) :
    (o.setReader i r).readers[j]? =
      if i = j then o.readers[j]?.map fun _ => r else o.readers[j]? := by
  unfold setReader
  simp only [List.getElem?_set]
  by_cases hj : i = j
  · subst hj
    by_cases hl : i < o.readers.length <;> simp [hl]
  · simp [hj]

theorem next_cases (hn : o.next = some (i, p)) : o.line = i :: p.line ∧ p = { o with line := p.line } := by
  unfold next at hn
  split at hn
  · cases hn
  · next e =>
    cases hn
    exact ⟨e, rfl⟩

/-! ## What a sink in use keeps -/

/-- The stream is held by the reader that reads it, and those that asked for it and have neither got
it nor an end stand in line. -/
structure Guarded (o : Outlet) : Prop where
  stream : o.sink.stream.Ordered 1
  line : ∀ i, i ∈ o.sink.stream.line ↔ o.readers[i]? = some .queued
  held : o.sink.stream.held = o.readers.count .reading

theorem guarded_empty : empty.Guarded :=
  ⟨Window.ordered_ofCapacity 1, by simp [empty, Sink.empty, Window.ofCapacity, Window.line], rfl⟩

/-- Only the stream and the readers decide. -/
theorem Guarded.of_same (h : o.Guarded) (hs : p.sink.stream = o.sink.stream)
    (hr : p.readers = o.readers) : p.Guarded :=
  ⟨hs ▸ h.stream, by rw [hs, hr]; exact h.line, by rw [hs, hr]; exact h.held⟩

theorem Guarded.not_mem_line (h : o.Guarded) (hr : o.readers[i]? = some r) (hq : r ≠ .queued) :
    i ∉ o.sink.stream.line := by
  rw [h.line, hr]
  exact fun e => hq (Option.some.inj e)

/-- How many read the stream after one reader has changed. -/
theorem count_set (hr : o.readers[i]? = some r) (s : Reader) :
    (o.readers.set i s).count .reading + (if r = .reading then 1 else 0) =
      o.readers.count .reading + if s = .reading then 1 else 0 := by
  obtain ⟨hlt, rfl⟩ := List.getElem?_eq_some_iff.mp hr
  have hpos : o.readers[i] = .reading → 0 < o.readers.count .reading := fun e =>
    List.count_pos_iff.mpr (e ▸ List.getElem_mem hlt)
  rw [List.count_set hlt]
  by_cases hc : o.readers[i] = .reading
  · have := hpos hc
    by_cases hs : s = .reading <;> simp [hc, hs] <;> omega
  · by_cases hs : s = .reading <;> simp [hc, hs]

/-- Who stands in line after one reader has changed, and the stream with it. -/
theorem Guarded.line_setReader (h : o.Guarded) (hr : o.readers[i]? = some r)
    (hi : i ∈ w.line ↔ s = .queued) (ho : ∀ j, j ≠ i → (j ∈ w.line ↔ j ∈ o.sink.stream.line))
    (j : Nat) : j ∈ w.line ↔ (o.setReader i s).readers[j]? = some .queued := by
  rw [reader_setReader]
  by_cases hj : i = j
  · subst hj
    simp [hi, hr]
  · rw [if_neg hj, ho j fun e => hj e.symm]
    exact h.line j

/-- A reader gets the stream. -/
theorem Guarded.hold (h : o.Guarded) (hh : o.Holds i w) :
    ((o.withStream w).setReader i .reading).Guarded := by
  cases hh with
  | enter hr hf =>
    have hn := h.not_mem_line hr nofun
    have ho := h.stream.acquire hn
    have hc := count_set hr .reading
    rcases Window.acquire_cases o.sink.stream i with ⟨-, e⟩ | ⟨hz, -⟩
    · rw [e] at ho
      refine ⟨ho, h.line_setReader hr (w := o.sink.stream.taken) ?_ fun _ _ => Iff.rfl, ?_⟩
      · exact ⟨fun hm => absurd hm hn, nofun⟩
      · show o.sink.stream.held + 1 = (o.readers.set i .reading).count .reading
        rw [h.held]
        simpa using hc.symm
    · omega
  | take hr hm =>
    have ht : o.sink.stream.take i = some (o.sink.stream.redeemed i) := by
      unfold Window.take
      rw [if_pos hm]
      rfl
    have hc := count_set hr .reading
    refine ⟨h.stream.take ht, h.line_setReader hr (w := o.sink.stream.redeemed i) ?_ fun j hj => ?_, ?_⟩
    · simp [Window.mem_line_take h.stream ht]
    · simp [Window.mem_line_take h.stream ht, hj]
    · show o.sink.stream.held + 1 = (o.readers.set i .reading).count .reading
      rw [h.held]
      simpa using hc.symm
  | keep hr =>
    refine h.of_same rfl ?_
    obtain ⟨hlt, e⟩ := List.getElem?_eq_some_iff.mp hr
    exact e ▸ List.set_getElem_self hlt

/-- A reader that has the stream passes it on. -/
theorem Guarded.pass (h : o.Guarded) (hr : o.readers[i]? = some .reading) (hq : s ≠ .queued)
    (hs : s ≠ .reading) : (o.pass i s).Guarded := by
  unfold Outlet.pass
  rw [wake_eq]
  have hc := count_set hr s
  refine ⟨h.stream.release,
    h.line_setReader hr (w := o.sink.stream.release.2) ?_ fun j _ => ?_, ?_⟩
  · rw [Window.line_release]
    exact ⟨fun hm => absurd hm (h.not_mem_line hr nofun), fun e => absurd e hq⟩
  · rw [Window.line_release]
  · show o.sink.stream.release.2.held = (o.readers.set i s).count .reading
    rw [Window.held_release, h.held]
    simp only [if_true, if_neg hs] at hc
    omega

/-- A reader leaves the line. -/
theorem Guarded.leave (h : o.Guarded) (hr : o.readers[i]? = some .queued) (hq : s ≠ .queued)
    (hs : s ≠ .reading) : (o.leave i s).Guarded := by
  unfold Outlet.leave
  rw [wake_eq]
  have hc := count_set hr s
  refine ⟨h.stream.leave i,
    h.line_setReader hr (w := (o.sink.stream.leave i).2) ?_ fun j hj => ?_, ?_⟩
  · simp [Window.mem_line_leave h.stream, hq]
  · simp [Window.mem_line_leave h.stream, hj]
  · show (o.sink.stream.leave i).2.held = (o.readers.set i s).count .reading
    rw [Window.held_leave, h.held]
    simpa [hs] using hc.symm

/-- A reader that takes a result is as one that waits for it and then passes the stream on. -/
theorem pass_setReader (o : Outlet) (i : Nat) (r s : Reader) :
    (o.setReader i r).pass i s = o.pass i s := by
  unfold Outlet.pass withStream setReader
  simp only [List.set_set]

theorem Guarded.move (h : o.Guarded) (hm : o.Move i p) : p.Guarded := by
  cases hm with
  | join hr hf =>
    have ho := h.stream.acquire (h.not_mem_line hr (by decide))
    have hc := count_set hr .queued
    rcases Window.acquire_cases o.sink.stream i with ⟨hz, -⟩ | ⟨-, e⟩
    · omega
    · rw [e] at ho
      refine ⟨ho, h.line_setReader hr (w := o.sink.stream.joined i) ?_ fun j hj => ?_, ?_⟩
      · simp [Window.joined, Window.mem_line_join]
      · simp [Window.joined, Window.mem_line_join, hj]
      · show o.sink.stream.held = (o.readers.set i .queued).count .reading
        rw [h.held]
        simpa using hc.symm
  | wait hh => exact h.hold hh
  | @got w d q hh hq =>
    have hg : (((o.withResults q).withStream w).setReader i .reading).Guarded :=
      (h.hold hh).of_same rfl rfl
    have hr : (((o.withResults q).withStream w).setReader i .reading).readers[i]? = some .reading := by
      rw [reader_setReader, if_pos rfl]
      cases hh with
      | enter hr => simp [withStream, withResults, hr]
      | take hr => simp [withStream, withResults, hr]
      | keep hr => simp [withStream, withResults, hr]
    rw [← pass_setReader _ i .reading]
    exact hg.pass hr (by simp) (by simp)

theorem Guarded.start (h : o.Guarded) : o.start.Guarded := by
  refine ⟨h.stream, fun i => (h.line i).trans ⟨fun hr => ?_, fun hr => ?_⟩, ?_⟩
  · exact (List.getElem?_append_left (List.getElem?_eq_some_iff.mp hr).1).trans hr
  · exact (concat_cases hr).resolve_right nofun
  · show o.sink.stream.held = (o.readers ++ [Reader.fresh]).count Reader.reading
    simp [h.held]

theorem Guarded.outside {e : Event} (h : o.Guarded) (ho : o.Outside e p) : p.Guarded := by
  have hconfirm : ∀ (q : Outlet) (d : Delivery), q.Guarded → (q.confirm d).Guarded := by
    intro q d hq
    unfold Outlet.confirm
    rw [wakeHolder_eq]
    exact hq.of_same rfl rfl
  cases ho with
  | empty => exact hconfirm _ _ (h.of_same rfl rfl)
  | late => exact hconfirm _ _ (h.of_same rfl rfl)
  | confirm d => exact hconfirm o d h
  | batch | receive | tryNext | closeOutput => exact h.of_same rfl rfl
  | receiveNone | tryNone | abandonNone => exact h
  | start => exact h.start
  | forget hr =>
    have hc := count_set hr .abandoned
    refine ⟨h.stream, h.line_setReader hr ?_ fun _ _ => Iff.rfl, ?_⟩
    · exact ⟨fun hm => absurd hm (h.not_mem_line hr nofun), nofun⟩
    · show o.sink.stream.held = (o.readers.set _ .abandoned).count .reading
      rw [h.held]
      simpa using hc.symm
  | leave hr => exact h.leave hr nofun nofun
  | drop hr => exact h.pass hr nofun nofun

theorem Guarded.next (h : o.Guarded) (hn : o.next = some (i, p)) : p.Guarded := by
  rw [(next_cases hn).2]
  exact h.of_same rfl rfl

end Outlet
end Sluice
