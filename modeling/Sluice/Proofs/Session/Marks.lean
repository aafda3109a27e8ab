import Sluice.Proofs.Queue
import Sluice.Proofs.Session.Moves
/-!
# Which moves mark a message

A message is marked as done by two kinds of moves only: a claim skips it for its length, or a
confirmer takes the result that it was delivered while its session still waits for it. `marking`
tells from the state of a session which message the next move of a task marks.

* `marks_move`: a move marks this message, and moves the store by it, and does neither otherwise.
-/
namespace Sluice.Session

variable {k : Nat} {r : Rules} {s s' : Session} {b b' : Books}

/-- Whether the next move of the confirmer takes a result, if there is one. -/
def takesResult (s : Session) (b : Books) : Bool :=
  (s.confirmer == .reading && s.stage == .active) ||
    (s.confirmer == .draining && b.sink.stream.free != 0)

/-- The message over the length limit that a claim reads next. -/
def skips (r : Rules) (s : Session) (i : Nat) : Option Message :=
  match s.claims[i]? with
  | none => none
  | some c =>
    if c.phase = .reading ∧ s.cancelled = false then
      match c.queue.head? with
      | some (.message m) => if r.tooLong m then some m else none
      | _ => none
    else none

/-- The message that waits for the result that the confirmer takes next, if that says that it was
delivered. -/
def clears (s : Session) (b : Books) : Option Message :=
  if s.takesResult b then
    match b.sink.deliveries.head? with
    | some d => if d.delivered then s.pending.get? d.id else none
    | none => none
  else none

/-- The message that the next move of a task marks as done, if it marks one. -/
def marking (r : Rules) (s : Session) (b : Books) : Task → Option Message
  | .claim i => s.skips r i
  | .confirmer => s.clears b
  | .cleaner => none

theorem skips_of_phase {i : Nat} {c : Claim} (hc : s.claims[i]? = some c)
    (hp : c.phase ≠ .reading) : s.skips r i = none := by
  simp [skips, hc, hp]

theorem skips_of_cancelled {i : Nat} {c : Claim} (hc : s.claims[i]? = some c)
    (hs : s.cancelled = true) : s.skips r i = none := by
  simp [skips, hc, hs]

theorem skips_of_reading {i : Nat} {c : Claim} (hc : s.claims[i]? = some c)
    (hp : c.phase = .reading) (hs : s.cancelled = false) :
    s.skips r i = match c.queue.head? with
      | some (.message m) => if r.tooLong m then some m else none
      | _ => none := by
  simp [skips, hc, hp, hs]

theorem clears_of_takes {d : Delivery} {ds : Queue Delivery} (ht : s.takesResult b = true)
    (hd : b.sink.deliveries.pop? = some (d, ds)) :
    s.clears b = if d.delivered then s.pending.get? d.id else none := by
  simp [clears, ht, Queue.head?_of_pop? hd]

theorem clears_of_none (hd : b.sink.deliveries.pop? = none) : s.clears b = none := by
  simp [clears, Queue.head?_of_pop?_none hd]

theorem clears_of_not_takes (ht : s.takesResult b = false) : s.clears b = none := by
  simp [clears, ht]

/-- The books have this message marked, if any, and are otherwise as before. -/
def Marked (b : Books) (m? : Option Message) (b' : Books) : Prop :=
  b'.marks = b.marks ++ m?.toList ∧
    b'.store = m?.elim b.store fun m => (b.store.mark m.source m.offset).2

theorem marked_of_same (hh : b'.history = b.history) (hs : b'.store = b.store) :
    Marked b none b' := ⟨by simp [Books.marks, hh], hs⟩

theorem marked_of_note {f : Fate} {m? : Option Message} (hm : f.marked = m?)
    (hh : b'.history = b.history ++ [f])
    (hs : b'.store = m?.elim b.store fun m => (b.store.mark m.source m.offset).2) :
    Marked b m? b' := by
  refine ⟨?_, hs⟩
  unfold Books.marks
  rw [hh, List.filterMap_append]
  cases m? <;> simp [hm]

/-- Applying a result marks the message that waits for it, if it was delivered. -/
theorem marked_apply {d : Delivery} (k : Nat) (hh : b'.history = b.history)
    (hs : b'.store = b.store) :
    Marked b (if d.delivered then s.pending.get? d.id else none) (s.apply k d b').2.1 := by
  rcases apply_cases k d s b' with ⟨hg, -, e⟩ | ⟨m, hg, -, e⟩ <;> rw [e, hg]
  · rw [ite_self]
    exact marked_of_note (f := .unknown k d.id d.delivered) rfl
      (congrArg (· ++ [_]) hh) hs
  · unfold bookResult
    split
    · exact marked_of_note (f := .delivered k m d.id) rfl (congrArg (· ++ [_]) hh)
        (congrArg (fun o : OffsetStore => (o.mark m.source m.offset).2) hs)
    · exact marked_of_note (f := .undelivered k m d.id) rfl (congrArg (· ++ [_]) hh) hs

/-- **What marks.** A move marks the message that `marking` tells, and no other; with it, and only
with it, the store moves. -/
theorem marks_move {t : Task} (hm : Move r k s b t s' b') : Marked b (s.marking r b t) b' := by
  cases hm with
  | turnBack hc hp | enter hc hp | join hc hp | leave hc hp | take hc hp =>
    rw [marking, skips_of_phase hc (by simp [hp])]
    exact marked_of_same rfl rfl
  | stop hc hp hs =>
    rw [marking]
    rcases hs with hs | ⟨hs, hq, -⟩
    · rw [skips_of_cancelled hc hs]
      exact marked_of_same rfl rfl
    · rw [skips_of_reading hc hp hs, Queue.head?_of_pop?_none hq]
      exact marked_of_same rfl rfl
  | fail hc hp hs hq =>
    rw [marking, skips_of_reading hc hp hs, Queue.head?_of_pop? hq]
    exact marked_of_same rfl rfl
  | oversize hc hp hs hq ht =>
    rw [marking, skips_of_reading hc hp hs, Queue.head?_of_pop? hq]
    simp only [ht, if_true]
    exact marked_of_note rfl rfl rfl
  | unparsed hc hp hs hq ht =>
    rw [marking, skips_of_reading hc hp hs, Queue.head?_of_pop? hq]
    simp only [ht, Bool.false_eq_true, if_false]
    exact marked_of_note rfl rfl rfl
  | submit hc hp hs hq ht =>
    rw [marking, skips_of_reading hc hp hs, Queue.head?_of_pop? hq]
    simp only [ht, Bool.false_eq_true, if_false]
    exact marked_of_note rfl rfl rfl
  | dismissed hf | tune hf | attend hf | forgo hf | receive hf =>
    rw [marking, clears_of_not_takes (by simp [takesResult, hf])]
    exact marked_of_same rfl rfl
  | letGo hf hs =>
    rw [marking, clears_of_not_takes (by simp [takesResult, hf, hs])]
    exact marked_of_same rfl rfl
  | drained hf hd =>
    unfold Sink.tryNext at hd
    split at hd
    · next h0 =>
      rw [marking, clears_of_not_takes (by simp [takesResult, hf, h0])]
      exact marked_of_same rfl rfl
    · rw [marking, clears_of_none (Option.map_eq_none_iff.mp hd)]
      exact marked_of_same rfl rfl
  | result hf hs hd =>
    obtain ⟨q, hq, rfl⟩ := nextDelivery_same hd
    rw [marking, clears_of_takes (by simp [takesResult, hf, hs]) hq]
    exact marked_apply k rfl rfl
  | leftover hf hd =>
    obtain ⟨q, hq, rfl⟩ := nextDelivery_same (nextDelivery_of_tryNext hd)
    have hn : b.sink.stream.free ≠ 0 := fun h0 => by simp [Sink.tryNext, h0] at hd
    rw [marking, clears_of_takes (by simp [takesResult, hf, hn]) hq]
    exact marked_apply k rfl rfl
  | close => exact marked_of_same rfl rfl

end Sluice.Session
