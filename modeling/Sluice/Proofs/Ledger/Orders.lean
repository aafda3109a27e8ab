import Mathlib.Data.List.Perm.Basic
import Sluice.Proofs.Ledger.Entries
import Sluice.Proofs.OffsetStore
import Sluice.Proofs.Session.Moves
/-!
# Results in any order

Results reach a ledger, or a session, in the order in which the output gives them. What they change
is a `Desk`: the slots, the entries that wait, the counters and the positions. To a desk, results for
different entries are the same whichever comes first, since a position only follows the highest mark,
a slot that comes back is like any other, and every counter counts for itself.

* `Desk.answer_comm`: two results, one way round or the other.
* `Ledger.desk_result`, `Session.desk_apply`: a result does to a ledger or a session what it does to
  its desk.
* `OffsetStore.tops`: what every mark of a sequence of marks does.
* `results_in_any_order`: all results of a list, in any two orders.
-/
namespace Sluice

/-! ## Marks -/

namespace OffsetStore

/-- A mark tells the position behind it exactly if it has moved the position forward. -/
theorem mark_answer_iff {s : OffsetStore} {p : Partition} {offset n : Int} :
    (s.mark p offset).1 = some n ↔
      (s.mark p offset).2.position p = some n ∧ ∀ n', s.position p = some n' → n' < n := by
  rw [position_mark, if_pos rfl]
  unfold mark
  cases s.position p with
  | none => simp
  | some n' =>
    simp only [Option.getD_some, Option.some.injEq, forall_eq']
    split <;> simp <;> omega

/-- Offsets and positions are less than this. -/
def limit : Int := Int.ofNat (pow2 63)

/-- What the marks of some messages come to, and what the next one does. -/
structure Tops (ms : List Message) : Prop where
  /-- A position is the one behind the highest offset marked, and there is none without a mark. -/
  highest : ∀ p, (ofMarks ms).position p = (behind ms p).max?
  /-- A mark tells the new position, if it is the first or moves the position forward. -/
  answer : ∀ m n, ((ofMarks ms).mark m.source m.offset).1 = some n ↔
    (ofMarks (ms ++ [m])).position m.source = some n ∧
      ∀ n', (ofMarks ms).position m.source = some n' → n' < n
  /-- It leaves all other partitions alone. -/
  apart : ∀ m p, p ≠ m.source →
    (ofMarks (ms ++ [m])).position p = (ofMarks ms).position p
  /-- No position is too great, as long as no message has the greatest offset. -/
  fits : (∀ m ∈ ms, m.offset + 1 < limit) → ∀ p n, (ofMarks ms).position p = some n → n < limit

theorem tops (ms : List Message) : Tops ms where
  highest := position_ofMarks ms
  answer m n := by rw [ofMarks_append, mark_answer_iff]
  apart m p h := by rw [ofMarks_append, position_mark, if_neg h]
  fits h p n hn := by
    obtain ⟨⟨m, hm, -, rfl⟩, -⟩ := position_eq_some_iff.mp hn
    exact h m hm

end OffsetStore

/-! ## What a result changes -/

/-- What results change, given what the slots are and what waits for a result. -/
structure Desk (σ α : Type) where
  /-- The slots, free or in use, and who waits for one. -/
  slots : σ
  pending : Pending α
  metrics : Metrics
  /-- The position of every partition. -/
  position : Partition → Option Int

/-- The counter of a result. -/
def verdict (delivered : Bool) : Metrics.Event := if delivered then .delivered else .undelivered

/-- The positions after a message has been marked. -/
def Desk.advance (m : Message) (position : Partition → Option Int) : Partition → Option Int := fun p =>
  if p = m.source then some (max (m.offset + 1) ((position m.source).getD (m.offset + 1)))
  else position p

namespace Desk
variable {σ α : Type} (giveBack : σ → σ) (message : α → Message)

/-- A result for an entry that waits ends it; any other is counted. -/
def answer (x : Desk σ α) (d : Delivery) : Desk σ α :=
  match x.pending.get? d.id with
  | none => { x with metrics := x.metrics.count .unknown }
  | some a =>
    { slots := giveBack x.slots
      pending := x.pending.remove d.id
      metrics := x.metrics.count (verdict d.delivered)
      position := if d.delivered then advance (message a) x.position else x.position }

end Desk

theorem Metrics.count_comm (m : Metrics) (e e' : Metrics.Event) :
    (m.count e).count e' = (m.count e').count e := by
  cases e <;> cases e' <;> rfl

theorem Pending.remove_comm {α : Type} (p : Pending α) (id id' : Nat) :
    (p.remove id).remove id' = (p.remove id').remove id := List.filter_comm ..

/-- The highest mark counts, whichever comes first. -/
theorem Desk.advance_comm (m m' : Message) (position : Partition → Option Int) :
    advance m (advance m' position) = advance m' (advance m position) := by
  funext p
  unfold advance
  by_cases hm : m.source = m'.source
  · rw [hm]
    by_cases hp : p = m'.source
    · cases position m'.source <;> simp [hp] <;> omega
    · simp [hp]
  · by_cases hp : p = m.source
    · subst hp
      simp [hm]
    · by_cases hp' : p = m'.source
      · subst hp'
        simp [Ne.symm hm]
      · simp [hp, hp']

namespace Desk
variable {σ α : Type} {giveBack : σ → σ} {message : α → Message}

/-- Results for two entries, or for none, may come one way round or the other. -/
theorem answer_comm (x : Desk σ α) {d e : Delivery} (h : d.id ≠ e.id) :
    (x.answer giveBack message d).answer giveBack message e =
      (x.answer giveBack message e).answer giveBack message d := by
  cases hd : x.pending.get? d.id with
  | none =>
    cases he : x.pending.get? e.id with
    | none => simp [answer, hd, he]
    | some b => simp [answer, hd, he, Pending.get?_remove, h, Metrics.count_comm]
  | some a =>
    cases he : x.pending.get? e.id with
    | none => simp [answer, hd, he, Pending.get?_remove, h.symm, Metrics.count_comm]
    | some b =>
      simp only [answer, hd, he, Pending.get?_remove, h, h.symm, if_false, mk.injEq, true_and]
      refine ⟨Pending.remove_comm .., Metrics.count_comm .., ?_⟩
      cases d.delivered <;> cases e.delivered <;> simp [advance_comm]

/-- All results of a list, in any two orders. -/
theorem answers_perm {ds es : List Delivery} (perm : ds.Perm es)
    (distinct : (ds.map Delivery.id).Nodup) (x : Desk σ α) :
    ds.foldl (answer giveBack message) x = es.foldl (answer giveBack message) x := by
  refine perm.foldl_eq' (fun d hd e he y => ?_) x
  by_cases h : d.id = e.id
  · rw [List.inj_on_of_nodup_map distinct hd he h]
  · exact answer_comm y h

end Desk

/-! ## Ledgers and sessions -/

namespace Ledger

/-- The store that the sessions of a ledger mark in. -/
def store (l : Ledger) : OffsetStore := .ofMarks (l.marks.map Mark.message)

/-- What results change of a ledger. -/
def desk (l : Ledger) : Desk Gate Tracked := ⟨l.gate, l.pending, l.metrics, l.store.position⟩

/-- A ledger after results, first to last. -/
def answers (ds : List Delivery) (l : Ledger) : Ledger :=
  ds.foldl (fun l d => (l.result d.id d.delivered).2) l

theorem desk_result (l : Ledger) (d : Delivery) :
    (l.result d.id d.delivered).2.desk = l.desk.answer Gate.giveBack Tracked.message d := by
  unfold Desk.answer
  cases h : l.pending.get? d.id with
  | none => simp [result_none h, desk, h, store]
  | some e =>
    simp only [result_some h, desk, h, Desk.mk.injEq, true_and, verdict]
    funext p
    cases d.delivered with
    | false => simp [store, marked]
    | true =>
      simp only [store, marked, if_true, List.map_append, List.map_cons, List.map_nil]
      rw [OffsetStore.ofMarks_append, OffsetStore.position_mark]
      rfl

theorem desk_answers (ds : List Delivery) (l : Ledger) : (l.answers ds).desk =
    ds.foldl (Desk.answer Gate.giveBack Tracked.message) l.desk := by
  induction ds generalizing l with
  | nil => rfl
  | cons d ds ih => rw [List.foldl_cons, ← desk_result, ← ih]; rfl

end Ledger

namespace Session

/-- What results change of a session and its books. -/
def desk (x : Session × Books) : Desk Window Message :=
  ⟨x.1.window, x.1.pending, x.2.metrics, x.2.store.position⟩

/-- Session `k` with its books after results, first to last. -/
def answers (k : Nat) (ds : List Delivery) (x : Session × Books) : Session × Books :=
  ds.foldl (fun x d => ((x.1.apply k d x.2).1, (x.1.apply k d x.2).2.1)) x

theorem desk_apply (k : Nat) (d : Delivery) (s : Session) (b : Books) :
    desk ((s.apply k d b).1, (s.apply k d b).2.1) =
      (desk (s, b)).answer (fun w => w.release.2) id d := by
  unfold Desk.answer
  rcases apply_cases k d s b with ⟨h, hs, hb⟩ | ⟨m, h, hs, hb⟩ <;> rw [hs, hb] <;>
    simp only [desk, h]
  · rfl
  · simp only [Desk.mk.injEq]
    refine ⟨rfl, rfl, ?_, ?_⟩
    · cases hd : d.delivered <;> simp [bookResult, hd, verdict] <;> rfl
    · funext p
      cases hd : d.delivered with
      | false => simp [bookResult, hd]; rfl
      | true =>
        simp only [bookResult, hd, if_true, Desk.advance]
        exact OffsetStore.position_mark ..

theorem desk_answers (k : Nat) (ds : List Delivery) (x : Session × Books) :
    desk (answers k ds x) = ds.foldl (Desk.answer (fun w => w.release.2) id) (desk x) := by
  induction ds generalizing x with
  | nil => rfl
  | cons d ds ih => rw [List.foldl_cons, ← desk_apply k, ← ih]; rfl

end Session

/-- **The order of results does not matter.** Results for different entries, delivered or not, leave
the same positions, slots and counters in whichever of two orders they are applied, to a ledger as to
a session with its books. A position is the one behind the highest offset marked, whatever the order
of the marks; a mark tells it exactly if it has moved it forward, and leaves the others alone. -/
theorem results_in_any_order {ds es : List Delivery} (perm : ds.Perm es)
    (distinct : (ds.map Delivery.id).Nodup) :
    (∀ l : Ledger,
      (∀ p, (l.answers ds).store.position p = (l.answers es).store.position p) ∧
      (l.answers ds).gate = (l.answers es).gate ∧
      (l.answers ds).metrics = (l.answers es).metrics) ∧
    (∀ k s b,
      (∀ p, (Session.answers k ds (s, b)).2.store.position p =
        (Session.answers k es (s, b)).2.store.position p) ∧
      (Session.answers k ds (s, b)).1.window = (Session.answers k es (s, b)).1.window ∧
      (Session.answers k ds (s, b)).2.metrics = (Session.answers k es (s, b)).2.metrics) ∧
    ∀ ms, OffsetStore.Tops ms := by
  refine ⟨fun l => ?_, fun k s b => ?_, OffsetStore.tops⟩
  · have same : (l.answers ds).desk = (l.answers es).desk := by
      rw [Ledger.desk_answers, Ledger.desk_answers, Desk.answers_perm perm distinct]
    simp only [Ledger.desk, Desk.mk.injEq] at same
    exact ⟨congrFun same.2.2.2, same.1, same.2.2.1⟩
  · have same : Session.desk (Session.answers k ds (s, b)) =
        Session.desk (Session.answers k es (s, b)) := by
      rw [Session.desk_answers, Session.desk_answers, Desk.answers_perm perm distinct]
    simp only [Session.desk, Desk.mk.injEq] at same
    exact ⟨congrFun same.2.2.2, same.1, same.2.2.1⟩

/-- Three entries of two partitions in a window of four slots. -/
def Ledger.threefold : Ledger :=
  [.gate .tryAcquire, .gate .tryAcquire, .gate .tryAcquire, .track 0 7 ⟨0, .plain "t" 0 5 [1]⟩,
    .track 1 8 ⟨0, .plain "t" 0 2 [1]⟩, .register 2 9 ⟨1, .plain "u" 0 4 [1]⟩].foldl
      Ledger.apply (.ofCapacity 4)

/-- The lower offset is confirmed first or last; the position is behind the higher one. -/
theorem results_in_any_order_threefold :
    ([⟨7, true⟩, ⟨9, false⟩, ⟨8, true⟩] : List Delivery).Perm [⟨8, true⟩, ⟨7, true⟩, ⟨9, false⟩] ∧
    ([7, 9, 8] : List Nat).Nodup ∧
    ∀ ds ∈ ([[⟨7, true⟩, ⟨9, false⟩, ⟨8, true⟩], [⟨8, true⟩, ⟨7, true⟩, ⟨9, false⟩]] :
        List (List Delivery)),
      (Ledger.threefold.answers ds).store.position ⟨"t", 0⟩ = some 6 ∧
      (Ledger.threefold.answers ds).gate.window.free = 4 ∧
      (Ledger.threefold.answers ds).metrics =
        { Metrics.zero with submitted := 2, delivered := 2, undelivered := 1 } := by
  have perm : ([⟨7, true⟩, ⟨9, false⟩, ⟨8, true⟩] : List Delivery).Perm
      [⟨8, true⟩, ⟨7, true⟩, ⟨9, false⟩] := by decide
  obtain ⟨position, gate, metrics⟩ :=
    (results_in_any_order perm (by decide)).1 Ledger.threefold
  refine ⟨perm, by decide, ?_⟩
  simp only [List.forall_mem_cons, List.not_mem_nil, false_implies, implies_true, and_true]
  rw [← position, ← gate, ← metrics]
  exact ⟨by decide, by decide⟩

end Sluice
