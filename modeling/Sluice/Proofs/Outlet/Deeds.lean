import Sluice.Proofs.Outlet.Woken
/-!
# The stream of results

Results come from the sink itself and from the output, and are read by readers that wait, by looks
that do not, and by readers that are dropped before they have ended. A `Trail` is a run of a sink
with what was done meanwhile: what it was asked to do, and what callers were given. Deeds are listed
newest first.

* `sent`, `shipped`: the results and groups that belong on the queues, by the deeds alone.
* `Trail.lossless`: what was returned and what still waits is what was sent, in order.
-/
namespace Sluice.Outlet

/-- What was done with a sink. -/
inductive Deed where
  /-- A group was submitted and got this number. -/
  | submitted (id : Nat) (records : List Record)
  /-- The output received a group. -/
  | received (b : Batch)
  /-- The output answered. -/
  | confirmed (d : Delivery)
  /-- A result was returned: to a reader, or to a look that does not wait. -/
  | returned (reader : Option Nat) (d : Delivery)
  /-- The output was closed. -/
  | closed

variable {α : Type} {i j : Nat} {ds : List Deed} {o p : Outlet} {r s : Reader} {d : Delivery}

/-- What the deeds add up to, first to last. -/
def history (f : Deed → List Deed → List α) : List Deed → List α
  | [] => []
  | d :: ds => history f ds ++ f d ds

/-- Whether the output was closed. -/
def isClosed (ds : List Deed) : Bool := ds.any fun | .closed => true | _ => false

namespace Deed

/-- The results that a deed adds to the stream. -/
def results : Deed → List Deed → List Delivery
  | submitted id records, before =>
    if records.isEmpty then [⟨id, true⟩] else if isClosed before then [⟨id, false⟩] else []
  | confirmed d, _ => [d]
  | _, _ => []

/-- The groups that a deed puts on the output. -/
def groups : Deed → List Deed → List Batch
  | submitted id records, before =>
    if records.isEmpty || isClosed before then [] else [⟨id, records⟩]
  | _, _ => []

/-- The number that a deed gives to a group. -/
def number : Deed → List Nat
  | submitted id _ => [id]
  | _ => []

/-- The result that a deed returns. -/
def answer : Deed → List Delivery
  | returned _ d => [d]
  | _ => []

/-- The reader to which a deed returns a result. -/
def reader : Deed → List Nat
  | returned (some i) _ => [i]
  | _ => []

/-- The group that a deed takes from the output. -/
def batch : Deed → List Batch
  | received b => [b]
  | _ => []

end Deed

/-- All results that were put on the stream. -/
def sent (ds : List Deed) : List Delivery := history Deed.results ds

/-- All groups that were put on the output. -/
def shipped (ds : List Deed) : List Batch := history Deed.groups ds

/-- All numbers that were given to groups. -/
def minted (ds : List Deed) : List Nat := history (fun d _ => d.number) ds

/-- All results that were returned. -/
def answers (ds : List Deed) : List Delivery := history (fun d _ => d.answer) ds

/-- All readers to which a result was returned. -/
def answered (ds : List Deed) : List Nat := history (fun d _ => d.reader) ds

/-- All groups that the output received. -/
def arrived (ds : List Deed) : List Batch := history (fun d _ => d.batch) ds

/-- What an event does, and what it returns. -/
def deed (o : Outlet) : Event → List Deed
  | .submit records => [.submitted (o.submit records).1 records]
  | .receive => (o.sink.receive.map fun x => .received x.1).toList
  | .confirm d => [.confirmed d]
  | .tryNext => (o.sink.tryNext.map fun x => .returned none x.1).toList
  | .start | .abandon _ => []
  | .closeOutput => [.closed]

/-- What reader `i` returns as it ends. -/
def returns (i : Nat) : Reader → List Deed
  | .got d => [.returned (some i) d]
  | _ => []

/-- What a reader returns that has just run. -/
def given (o : Outlet) (i : Nat) : List Deed := o.readers[i]?.elim [] (returns i)

/-- The sinks that a new one can come to, with what was done meanwhile. Readers run in any order. -/
inductive Trail : List Deed → Outlet → Prop where
  | start : Trail [] empty
  | event {ds : List Deed} {o : Outlet} (e : Event) :
      Trail ds o → Trail (o.deed e ++ ds) (o.apply e)
  | move {ds : List Deed} {o p : Outlet} (i : Nat) :
      Trail ds o → o.step i = some p → Trail (p.given i ++ ds) p
  /-- A woken reader has its turn. -/
  | next {ds : List Deed} {o p : Outlet} {i : Nat} :
      Trail ds o → o.next = some (i, p) → Trail ds p

/-! ## What every run keeps -/

theorem sent_cons (x : Deed) (ds : List Deed) : sent (x :: ds) = sent ds ++ x.results ds := rfl

theorem shipped_cons (x : Deed) (ds : List Deed) : shipped (x :: ds) = shipped ds ++ x.groups ds := rfl

theorem minted_cons (x : Deed) (ds : List Deed) : minted (x :: ds) = minted ds ++ x.number := rfl

theorem answers_cons (x : Deed) (ds : List Deed) : answers (x :: ds) = answers ds ++ x.answer := rfl

theorem answered_cons (x : Deed) (ds : List Deed) : answered (x :: ds) = answered ds ++ x.reader := rfl

theorem arrived_cons (x : Deed) (ds : List Deed) : arrived (x :: ds) = arrived ds ++ x.batch := rfl

theorem mem_answered : i ∈ answered ds ↔ ∃ d, .returned (some i) d ∈ ds := by
  induction ds with
  | nil => simp [answered, history]
  | cons x ds ih =>
    rw [answered_cons, List.mem_append, ih]
    cases x with
    | returned who d =>
      cases who with
      | none => simp [Deed.reader]
      | some j => simp [Deed.reader, exists_or, eq_comm, or_comm]
    | submitted | received | confirmed | closed => simp [Deed.reader]

/-- A sink agrees with what was done with it. -/
structure Recorded (ds : List Deed) (o : Outlet) : Prop where
  below : ∀ id ∈ minted ds, id < o.sink.nextId
  ordered : (minted ds).Pairwise (· < ·)
  results : answers ds ++ o.sink.deliveries.waiting = sent ds
  groups : arrived ds ++ o.sink.batches.waiting = shipped ds
  isOpen : o.sink.outputOpen = !isClosed ds
  got : ∀ (i : Nat) d, o.readers[i]? = some (.got d) ↔ .returned (some i) d ∈ ds
  once : (answered ds).Nodup

theorem recorded_empty : Recorded [] empty := ⟨nofun, .nil, rfl, rfl, rfl, by simp [empty], .nil⟩

/-- Only the queues, the last number and the results that readers have decide. -/
theorem Recorded.of_same (h : Recorded ds o) (hi : p.sink.nextId = o.sink.nextId)
    (hd : p.sink.deliveries = o.sink.deliveries) (hb : p.sink.batches = o.sink.batches)
    (ho : p.sink.outputOpen = o.sink.outputOpen)
    (hr : ∀ (i : Nat) d, p.readers[i]? = some (.got d) ↔ o.readers[i]? = some (.got d)) :
    Recorded ds p :=
  ⟨hi ▸ h.below, h.ordered, hd ▸ h.results, hb ▸ h.groups, ho ▸ h.isOpen,
    fun i d => (hr i d).trans (h.got i d), h.once⟩

/-- What a deed records that gives no number and returns nothing to a reader. -/
theorem Recorded.add {x : Deed} (h : Recorded ds o) (hn : x.number = []) (hr : x.reader = [])
    (hi : p.sink.nextId = o.sink.nextId)
    (hd : x.answer ++ p.sink.deliveries.waiting = o.sink.deliveries.waiting ++ x.results ds)
    (hb : x.batch ++ p.sink.batches.waiting = o.sink.batches.waiting ++ x.groups ds)
    (ho : p.sink.outputOpen = !isClosed (x :: ds)) (hp : p.readers = o.readers) :
    Recorded (x :: ds) p where
  below := by
    rw [minted_cons, hn, List.append_nil, hi]
    exact h.below
  ordered := by
    rw [minted_cons, hn, List.append_nil]
    exact h.ordered
  results := by rw [answers_cons, sent_cons, List.append_assoc, hd, ← List.append_assoc, h.results]
  groups := by rw [arrived_cons, shipped_cons, List.append_assoc, hb, ← List.append_assoc, h.groups]
  isOpen := ho
  got := by
    intro i d
    have hx : Deed.returned (some i) d ≠ x := by
      rintro rfl
      cases hr
    rw [hp, h.got, List.mem_cons]
    simp [hx]
  once := by
    rw [answered_cons, hr, List.append_nil]
    exact h.once

/-- A group is submitted. -/
theorem Recorded.submitted (h : Recorded ds o) (rs : List Record)
    (hi : p.sink.nextId = o.sink.nextId + 1)
    (hd : p.sink.deliveries.waiting =
      o.sink.deliveries.waiting ++ (Deed.submitted o.sink.nextId rs).results ds)
    (hb : p.sink.batches.waiting =
      o.sink.batches.waiting ++ (Deed.submitted o.sink.nextId rs).groups ds)
    (ho : p.sink.outputOpen = o.sink.outputOpen) (hr : p.readers = o.readers) :
    Recorded (.submitted o.sink.nextId rs :: ds) p where
  below := by
    intro id hm
    rw [hi]
    rcases List.mem_append.mp hm with hm | hm
    · exact Nat.lt_succ_of_lt (h.below id hm)
    · rw [List.mem_singleton.mp hm]
      exact Nat.lt_succ_self _
  ordered := List.pairwise_append.mpr ⟨h.ordered, List.pairwise_singleton _ _, fun a ha b hb => by
    rw [List.mem_singleton.mp hb]
    exact h.below a ha⟩
  results := by
    rw [hd, sent_cons, ← h.results, ← List.append_assoc]
    exact congrArg (· ++ _ ++ _) (List.append_nil _)
  groups := by
    rw [hb, shipped_cons, ← h.groups, ← List.append_assoc]
    exact congrArg (· ++ _ ++ _) (List.append_nil _)
  isOpen := ho.trans h.isOpen
  got := by
    intro i d
    rw [hr, h.got]
    simp
  once := by
    rw [answered_cons]
    exact (List.append_nil (answered ds)).symm ▸ h.once

/-- The output answers. -/
theorem Recorded.confirmed (h : Recorded ds o) (d : Delivery) :
    Recorded (.confirmed d :: ds) (o.confirm d) := by
  unfold Outlet.confirm
  rw [wakeHolder_eq]
  exact h.add rfl rfl rfl (Queue.waiting_push _ d) (List.append_nil _).symm h.isOpen rfl

/-- A reader that has no result gets none by going on without one. -/
theorem got_setReader (hr : o.readers[i]? = some r) (he : r.ended = false) (hs : s ≠ .got d) :
    (o.setReader i s).readers[j]? = some (.got d) ↔ o.readers[j]? = some (.got d) := by
  rw [reader_setReader]
  by_cases hj : i = j
  · subst hj
    rw [if_pos rfl, hr]
    refine ⟨fun h => absurd (Option.some.inj h) hs, fun h => ?_⟩
    rw [Option.some.inj h] at he
    cases he
  · rw [if_neg hj]

/-- A reader takes a result and ends. -/
theorem Recorded.answer (h : Recorded ds o) {q : Queue Delivery} (hr : o.readers[i]? = some r)
    (he : r.ended = false) (hq : o.sink.deliveries.pop? = some (d, q))
    (hi : p.sink.nextId = o.sink.nextId) (hd : p.sink.deliveries = q)
    (hb : p.sink.batches = o.sink.batches) (ho : p.sink.outputOpen = o.sink.outputOpen)
    (hp : p.readers = (o.setReader i (.got d)).readers) :
    Recorded (.returned (some i) d :: ds) p where
  below := by
    rw [minted_cons, hi]
    exact (List.append_nil (minted ds)).symm ▸ h.below
  ordered := by
    rw [minted_cons]
    exact (List.append_nil (minted ds)).symm ▸ h.ordered
  results := by
    rw [answers_cons, sent_cons, ← h.results, hd, Queue.waiting_of_pop? hq]
    simp [Deed.answer, Deed.results]
  groups := by
    rw [arrived_cons, shipped_cons, hb, ← h.groups]
    simp [Deed.batch, Deed.groups]
  isOpen := ho.trans h.isOpen
  got := by
    intro j e
    rw [hp, reader_setReader, List.mem_cons]
    by_cases hj : i = j
    · subst hj
      have hn : .returned (some i) e ∉ ds := fun hm => by
        rw [← h.got, hr] at hm
        rw [Option.some.inj hm] at he
        cases he
      simp [hr, hn, eq_comm]
    · have hne : Deed.returned (some j) e ≠ .returned (some i) d := fun h => by
        cases h
        exact hj rfl
      simp [if_neg hj, h.got, hne]
  once := by
    rw [answered_cons]
    refine List.nodup_append.mpr ⟨h.once, by simp [Deed.reader], fun a ha b hb e => ?_⟩
    rw [List.mem_singleton.mp hb] at e
    obtain ⟨d', hm⟩ := mem_answered.mp ha
    rw [← h.got, e, hr] at hm
    rw [Option.some.inj hm] at he
    cases he

theorem submit_id (o : Outlet) (rs : List Record) : (o.submit rs).1 = o.sink.nextId := by
  unfold Outlet.submit Sink.submit
  cases rs with
  | nil => rfl
  | cons r rs => cases o.sink.outputOpen <;> rfl

theorem Recorded.outside {e : Event} (h : Recorded ds o) (ho : o.Outside e p) :
    Recorded (o.deed e ++ ds) p := by
  have hopen := h.isOpen
  cases ho with
  | empty =>
    unfold Outlet.confirm
    rw [wakeHolder_eq]
    exact h.submitted [] rfl (Queue.waiting_push _ _) (List.append_nil _).symm rfl rfl
  | @batch rs hr ho =>
    have hc : isClosed ds = false := by simpa [ho] using hopen
    show Recorded ([.submitted (o.submit rs).1 rs] ++ ds) _
    rw [submit_id]
    refine h.submitted rs rfl ?_ ?_ rfl rfl
    · simp [Deed.results, hr, hc, mint, withBatches]
    · simp [Deed.groups, hr, hc, withBatches, Queue.waiting_push]
  | @late rs hr ho =>
    have hc : isClosed ds = true := by simpa [ho] using hopen
    show Recorded ([.submitted (o.submit rs).1 rs] ++ ds) _
    rw [submit_id]
    unfold Outlet.confirm
    rw [wakeHolder_eq]
    refine h.submitted rs rfl ?_ ?_ rfl rfl
    · simp [Deed.results, hr, hc, mint, Sink.confirm, Queue.waiting_push]
    · simp [Deed.groups, hc, mint, Sink.confirm]
  | @receive b q hq =>
    have hd : o.deed .receive = [.received b] := by simp [deed, Sink.receive, hq]
    rw [hd]
    refine h.add rfl rfl rfl (List.append_nil _).symm ?_ h.isOpen rfl
    rw [Queue.waiting_of_pop? hq]
    exact (List.append_nil _).symm
  | receiveNone hq =>
    have hd : o.deed .receive = [] := by simp [deed, Sink.receive, hq]
    rw [hd]
    exact h
  | confirm d => exact h.confirmed d
  | @tryNext d q hf hq =>
    have hd : o.deed .tryNext = [.returned none d] := by
      simp [deed, Sink.tryNext, Nat.ne_of_gt hf, Sink.nextDelivery, hq]
    rw [hd]
    refine h.add rfl rfl rfl ?_ (List.append_nil _).symm h.isOpen rfl
    rw [Queue.waiting_of_pop? hq]
    exact (List.append_nil _).symm
  | tryNone hn =>
    have hd : o.deed .tryNext = [] := by simp [deed, hn]
    rw [hd]
    exact h
  | start =>
    refine h.of_same rfl rfl rfl rfl fun i d => ⟨fun hr => ?_, fun hr => ?_⟩
    · exact (concat_cases hr).resolve_right (by simp)
    · exact (List.getElem?_append_left (List.getElem?_eq_some_iff.mp hr).1).trans hr
  | forget hr => exact h.of_same rfl rfl rfl rfl fun _ _ => got_setReader hr rfl (by simp)
  | leave hr =>
    unfold Outlet.leave
    rw [wake_eq]
    exact h.of_same rfl rfl rfl rfl fun _ _ => got_setReader hr rfl (by simp)
  | drop hr =>
    unfold Outlet.pass
    rw [wake_eq]
    exact h.of_same rfl rfl rfl rfl fun _ _ => got_setReader hr rfl (by simp)
  | abandonNone => exact h
  | closeOutput => exact h.add rfl rfl rfl (List.append_nil _).symm (List.append_nil _).symm rfl rfl

/-- Who gets the stream has not ended. -/
theorem Holds.waits {w : Window} (h : o.Holds i w) :
    ∃ r, o.readers[i]? = some r ∧ r.ended = false := by
  cases h with
  | enter hr => exact ⟨_, hr, rfl⟩
  | take hr => exact ⟨_, hr, rfl⟩
  | keep hr => exact ⟨_, hr, rfl⟩

/-- A reader that has just run returns something only if it has ended with it. -/
theorem Recorded.given (h : Recorded (returns i s ++ ds) p) (hr : o.readers[i]? = some r)
    (hp : p.readers = (o.setReader i s).readers) : Recorded (p.given i ++ ds) p := by
  have hs : p.readers[i]? = some s := by
    rw [hp, reader_setReader, if_pos rfl, hr]
    rfl
  unfold Outlet.given
  rw [hs]
  exact h

theorem Recorded.move (h : Recorded ds o) (hm : o.Move i p) : Recorded (p.given i ++ ds) p := by
  cases hm with
  | join hr hf =>
    refine Recorded.given ?_ hr rfl
    exact h.of_same rfl rfl rfl rfl fun _ _ => got_setReader hr rfl (by simp)
  | wait hh hq =>
    obtain ⟨r, hr, he⟩ := hh.waits
    refine Recorded.given ?_ hr rfl
    exact h.of_same rfl rfl rfl rfl fun _ _ => got_setReader hr he (by simp)
  | got hh hq =>
    obtain ⟨r, hr, he⟩ := hh.waits
    unfold Outlet.pass
    rw [wake_eq]
    refine Recorded.given ?_ hr rfl
    exact h.answer hr he hq rfl rfl rfl rfl rfl

theorem Trail.recorded (h : Trail ds o) : Recorded ds o := by
  induction h with
  | start => exact recorded_empty
  | event e _ ih => exact ih.outside (outside_of_apply _ e)
  | move i _ hs ih => exact ih.move (move_of_step hs)
  | next _ hn ih =>
    rw [(next_cases hn).2]
    exact ih.of_same rfl rfl rfl rfl fun _ _ => Iff.rfl

theorem Trail.guarded (h : Trail ds o) : o.Guarded := by
  induction h with
  | start => exact guarded_empty
  | event e _ ih => exact ih.outside (outside_of_apply _ e)
  | move i _ hs ih => exact ih.move (move_of_step hs)
  | next _ hn ih => exact ih.next hn

/-! ## Nothing is lost -/

/-- What a sink does with groups and results, given what was done with it. -/
structure Lossless (ds : List Deed) (o : Outlet) : Prop where
  /-- Numbers go up. -/
  minted : (minted ds).Pairwise (· < ·)
  /-- A group without records is delivered at once, and does not go to the output. -/
  empty : (o.submit []).1 = o.sink.nextId ∧
    (o.submit []).2.sink.deliveries = o.sink.deliveries.push ⟨o.sink.nextId, true⟩ ∧
    (o.submit []).2.sink.batches = o.sink.batches
  /-- Any other group goes to the output, and no result with it. -/
  batch : isClosed ds = false → ∀ rs, rs ≠ [] → (o.submit rs).1 = o.sink.nextId ∧
    (o.submit rs).2.sink.deliveries = o.sink.deliveries ∧
    (o.submit rs).2.sink.batches = o.sink.batches.push ⟨o.sink.nextId, rs⟩
  /-- Once the output is closed it is undelivered at once. -/
  late : isClosed ds = true → ∀ rs, rs ≠ [] → (o.submit rs).1 = o.sink.nextId ∧
    (o.submit rs).2.sink.deliveries = o.sink.deliveries.push ⟨o.sink.nextId, false⟩ ∧
    (o.submit rs).2.sink.batches = o.sink.batches
  /-- What was returned and what still waits are the results that were sent, in order. -/
  results : answers ds ++ o.sink.deliveries.waiting = sent ds
  /-- So it is with the groups. -/
  groups : arrived ds ++ o.sink.batches.waiting = shipped ds
  /-- A reader has ended with a result exactly if that was returned to it, and no reader ends twice. -/
  got : ∀ (i : Nat) d, o.readers[i]? = some (.got d) ↔ .returned (some i) d ∈ ds
  once : (answered ds).Nodup
  /-- A reader that is dropped takes no result with it. -/
  abandon : ∀ i, (o.abandon i).sink.deliveries = o.sink.deliveries ∧ o.deed (.abandon i) = []
  /-- At rest no reader waits while a result does. -/
  rest : (∀ i, o.step i = none) → o.sink.deliveries.waiting ≠ [] → ∀ (i : Nat) r,
    o.readers[i]? = some r → r.ended = true
  /-- If readers run when they are woken, whoever can go on has been woken. -/
  woken : InTurn o → ∀ i, o.step i ≠ none → i ∈ o.line

theorem queues_submit_empty (o : Outlet) :
    (o.submit []).2.sink.deliveries = o.sink.deliveries.push ⟨o.sink.nextId, true⟩ ∧
      (o.submit []).2.sink.batches = o.sink.batches := by
  show (o.mint.confirm _).sink.deliveries = _ ∧ (o.mint.confirm _).sink.batches = _
  unfold Outlet.confirm
  rw [wakeHolder_eq]
  exact ⟨rfl, rfl⟩

theorem queues_submit_batch {rs : List Record} (hne : rs ≠ []) (hopen : o.sink.outputOpen = true) :
    (o.submit rs).2.sink.deliveries = o.sink.deliveries ∧
      (o.submit rs).2.sink.batches = o.sink.batches.push ⟨o.sink.nextId, rs⟩ := by
  have ho : o.Outside (.submit rs) (o.submit rs).2 := outside_of_apply o (.submit rs)
  generalize (o.submit rs).2 = p at ho ⊢
  cases ho with
  | empty => exact absurd rfl hne
  | batch => exact ⟨rfl, rfl⟩
  | late _ hc => exact absurd (hopen.symm.trans hc) nofun

theorem queues_submit_late {rs : List Record} (hne : rs ≠ []) (hclosed : o.sink.outputOpen = false) :
    (o.submit rs).2.sink.deliveries = o.sink.deliveries.push ⟨o.sink.nextId, false⟩ ∧
      (o.submit rs).2.sink.batches = o.sink.batches := by
  have ho : o.Outside (.submit rs) (o.submit rs).2 := outside_of_apply o (.submit rs)
  generalize (o.submit rs).2 = p at ho ⊢
  cases ho with
  | empty => exact absurd rfl hne
  | batch _ hc => exact absurd (hclosed.symm.trans hc) nofun
  | late =>
    unfold Outlet.confirm
    rw [wakeHolder_eq]
    exact ⟨rfl, rfl⟩

theorem deliveries_abandon (o : Outlet) (i : Nat) :
    (o.abandon i).sink.deliveries = o.sink.deliveries := by
  have ho : o.Outside (.abandon i) (o.abandon i) := outside_of_apply o (.abandon i)
  generalize o.abandon i = p at ho ⊢
  cases ho with
  | forget | abandonNone => rfl
  | leave =>
    unfold Outlet.leave
    rw [wake_eq]
    rfl
  | drop =>
    unfold Outlet.pass
    rw [wake_eq]
    rfl

/-- **The stream of results loses nothing and keeps the order**, whoever reads it and whoever is
dropped. -/
theorem Trail.lossless (h : Trail ds o) : Lossless ds o := by
  have hr := h.recorded
  refine {
    minted := hr.ordered
    empty := ?_
    batch := fun hc rs hne => ?_
    late := fun hc rs hne => ?_
    results := hr.results
    groups := hr.groups
    got := hr.got
    once := hr.once
    abandon := fun i => ⟨deliveries_abandon o i, rfl⟩
    rest := fun hs hw _ _ hi => h.guarded.ended_of_rest hs ?_ hi
    woken := fun ht _ hs => ht.awake.1.woken hs }
  · exact ⟨rfl, queues_submit_empty o⟩
  · exact ⟨submit_id o rs, queues_submit_batch hne (by rw [hr.isOpen, hc]; rfl)⟩
  · exact ⟨submit_id o rs, queues_submit_late hne (by rw [hr.isOpen, hc]; rfl)⟩
  · rw [← Queue.length_waiting]
    exact fun h0 => hw (List.length_eq_zero_iff.mp h0)

/-- Two readers wait; the first has the stream and is dropped after a result has woken it. The second
gets that result, and a look without waiting the next; a group that comes after the output was closed
is undelivered. -/
theorem Trail.lossless_dropped : ∃ ds o, Trail ds o ∧ Lossless ds o ∧ InTurn o ∧
    answers ds = [⟨1, true⟩, ⟨2, true⟩] ∧ o.sink.deliveries.waiting = [⟨3, false⟩] ∧
    o.readers = [.abandoned, .got ⟨1, true⟩] ∧ minted ds = [1, 2, 3] ∧
    shipped ds = [⟨1, [.named "a"]⟩] := by
  have h := ((((Trail.start.event .start).event .start).next (p := _) rfl).move (p := _) 0 rfl)
  have h := ((h.next (p := _) rfl).move (p := _) 1 rfl).event (.submit [.named "a"])
  have h := ((h.event (.confirm ⟨1, true⟩)).event (.abandon 0)).event (.submit [])
  have h := (((h.next (p := _) rfl).next (p := _) rfl).move (p := _) 1 rfl).event .tryNext
  have h := (h.event .closeOutput).event (.submit [.named "a"])
  have ht := ((InTurn.start.event .start).event .start).turn (p := _) 2 rfl rfl
  have ht := (ht.turn (p := _) 2 rfl rfl).event (.submit [.named "a"])
  have ht := ((ht.event (.confirm ⟨1, true⟩)).event (.abandon 0)).event (.submit [])
  have ht := ((ht.turn (p := _) 2 rfl rfl).turn (p := _) 2 rfl rfl).event .tryNext
  have ht := (ht.event .closeOutput).event (.submit [.named "a"])
  exact ⟨_, _, h, h.lossless, ht, rfl, rfl, rfl, rfl, rfl⟩

end Sluice.Outlet
