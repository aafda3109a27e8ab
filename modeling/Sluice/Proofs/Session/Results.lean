import Sluice.Proofs.Queue
import Sluice.Proofs.Pending
import Sluice.Proofs.Session.Moves
/-!
# What becomes of the results of a session

Only the confirmer of a session reads results, one at a time. A result goes to the message that waits
under its number, or to none; `Session.fate` tells what is written down about it.

* `apply_same`, `apply_fate`: what applying a result changes.
* `reads_of_confirmer`: what a move of a confirmer reads.
* `left_of_confirmer`: with every move a confirmer comes nearer to its end, or reads a result.
* `scene_of_claim`: claims have nothing to do with it.
* `noted_of_move`: what a move writes down, and what the session waits for afterwards.
-/
namespace Sluice

/-- The result that a fate is about. -/
def Fate.result? : Fate → Option Delivery
  | .delivered _ _ id => some ⟨id, true⟩
  | .undelivered _ _ id => some ⟨id, false⟩
  | .unknown _ id x => some ⟨id, x⟩
  | _ => none

/-- What a session waits for after a fate was written down. -/
def Fate.await (p : Pending Message) : Fate → Pending Message
  | .submitted _ _ m id _ => (p.store id m).2
  | .delivered _ _ id => p.remove id
  | .undelivered _ _ id => p.remove id
  | _ => p

/-- The offsets that are stored after these fates were written down. -/
def OffsetStore.after (st : OffsetStore) (fs : List Fate) : OffsetStore :=
  (fs.filterMap Fate.marked).foldl (fun st m => (st.mark m.source m.offset).2) st

theorem OffsetStore.after_append (st : OffsetStore) (fs gs : List Fate) :
    st.after (fs ++ gs) = (st.after fs).after gs := by
  unfold after
  rw [List.filterMap_append, List.foldl_append]

namespace Session

/-- What becomes of a result in session `k`, which waits for these results. -/
def fate (k : Nat) (p : Pending Message) (d : Delivery) : Fate :=
  match p.get? d.id with
  | none => .unknown k d.id d.delivered
  | some m => if d.delivered then .delivered k m d.id else .undelivered k m d.id

/-- What becomes of results, one after another. -/
def fates (k : Nat) : Pending Message → List Delivery → List Fate
  | _, [] => []
  | p, d :: ds => fate k p d :: fates k (p.remove d.id) ds

/-- What a session waits for when these results have been applied. -/
def unanswered (p : Pending Message) (ds : List Delivery) : Pending Message :=
  ds.foldl (fun p d => p.remove d.id) p

/-- How far a confirmer is from its end while it reads no result. -/
def Confirmer.left : Confirmer → Nat
  | .asking => 4
  | .queued => 3
  | .reading => 2
  | .draining => 1
  | _ => 0

variable {r : Rules} {k i : Nat} {s s' : Session} {b b' : Books}

/-- Applying a result leaves all of a session but its window and its messages, and the sink. -/
theorem apply_same (k : Nat) (d : Delivery) (s : Session) (b : Books) :
    (s.apply k d b).1.stage = s.stage ∧ (s.apply k d b).1.cancelled = s.cancelled ∧
      (s.apply k d b).1.claims = s.claims ∧ (s.apply k d b).1.confirmer = s.confirmer ∧
      (s.apply k d b).2.1.metrics.swaps = b.metrics.swaps ∧
      (s.apply k d b).2.1.sink = b.sink := by
  rcases apply_cases k d s b with ⟨-, hs, hb⟩ | ⟨m, -, hs, hb⟩ <;> rw [hs, hb]
  · exact ⟨rfl, rfl, rfl, rfl, rfl, rfl⟩
  · refine ⟨rfl, rfl, rfl, rfl, ?_⟩
    unfold bookResult
    split <;> exact ⟨rfl, rfl⟩

/-- A result is written down, and nobody waits for it any more. -/
theorem apply_fate (k : Nat) (d : Delivery) (s : Session) (b : Books) :
    (s.apply k d b).2.1.history = b.history ++ [fate k s.pending d] ∧
      (s.apply k d b).1.pending = s.pending.remove d.id := by
  unfold fate
  rcases apply_cases k d s b with ⟨hg, hs, hb⟩ | ⟨m, hg, hs, hb⟩ <;> rw [hs, hb, hg]
  · exact ⟨rfl, (Pending.remove_of_get?_none hg).symm⟩
  · refine ⟨?_, rfl⟩
    unfold bookResult
    split <;> rfl

/-- A move of a confirmer reads the first result that waits and applies it, or reads none. It ends
only when no result can be read. -/
theorem reads_of_confirmer (hm : Move r k s b .confirmer s' b') :
    s.confirmer ≠ .absent ∧ s.confirmer ≠ .ended ∧ s'.confirmer ≠ .absent ∧
    ((b'.history = b.history ∧ b'.sink.deliveries = b.sink.deliveries ∧ s'.pending = s.pending ∧
        (s'.confirmer = .ended → s.confirmer = .draining ∧ b.sink.tryNext = none)) ∨
      ∃ d q, b.sink.deliveries.pop? = some (d, q) ∧ b'.sink.deliveries = q ∧
        b'.history = b.history ++ [fate k s.pending d] ∧ s'.pending = s.pending.remove d.id ∧
        s'.confirmer ≠ .ended) := by
  cases hm with
  | dismissed hc | tune hc | attend hc | forgo hc | receive hc | letGo hc =>
    exact ⟨by simp [hc], by simp [hc], nofun, .inl ⟨rfl, rfl, rfl, nofun⟩⟩
  | drained hc hd =>
    exact ⟨by simp [hc], by simp [hc], nofun, .inl ⟨rfl, rfl, rfl, fun _ => ⟨hc, hd⟩⟩⟩
  | @result d sink hc _ hd =>
    obtain ⟨q, hq, rfl⟩ := nextDelivery_same hd
    have hsame := apply_same k d { s with confirmer := .asking }
      (taken b { b.sink with deliveries := q })
    obtain ⟨hh, hp⟩ := apply_fate k d { s with confirmer := .asking }
      (taken b { b.sink with deliveries := q })
    obtain ⟨-, -, -, hco, -, hsink⟩ := hsame
    exact ⟨by simp [hc], by simp [hc], by simp [hco],
      .inr ⟨d, q, hq, by rw [hsink]; rfl, hh, hp, by simp [hco]⟩⟩
  | @leftover d sink hc hd =>
    obtain ⟨q, hq, rfl⟩ := nextDelivery_same (nextDelivery_of_tryNext hd)
    obtain ⟨hh, hp⟩ := apply_fate k d s { b with sink := { b.sink with deliveries := q } }
    obtain ⟨-, -, -, hco, -, hsink⟩ :=
      apply_same k d s { b with sink := { b.sink with deliveries := q } }
    exact ⟨by simp [hc], by simp [hc], by simp [hco, hc],
      .inr ⟨d, q, hq, by rw [hsink], hh, hp, by simp [hco, hc]⟩⟩

/-- A confirmer reads a result, or comes nearer to its end. -/
theorem left_of_confirmer (hm : Move r k s b .confirmer s' b') : s'.claims = s.claims ∧
      3 * b'.sink.deliveries.waiting.length + s'.confirmer.left <
        3 * b.sink.deliveries.waiting.length + s.confirmer.left := by
  cases hm with
  | dismissed hc | tune hc | attend hc | forgo hc | receive hc | letGo hc | drained hc =>
    exact ⟨rfl, by simp [hc, Confirmer.left, withStream]⟩
  | @result d sink hc _ hd =>
    obtain ⟨q, hq, rfl⟩ := nextDelivery_same hd
    obtain ⟨-, -, h3, h4, -, h6⟩ := apply_same k d { s with confirmer := .asking }
      (taken b { b.sink with deliveries := q })
    refine ⟨h3, ?_⟩
    rw [h4, h6, Queue.waiting_of_pop? hq, hc, List.length_cons]
    simp only [Confirmer.left, taken]
    omega
  | @leftover d sink hc hd =>
    obtain ⟨q, hq, rfl⟩ := nextDelivery_same (nextDelivery_of_tryNext hd)
    obtain ⟨-, -, h3, h4, -, h6⟩ := apply_same k d s
      { b with sink := { b.sink with deliveries := q } }
    refine ⟨h3, ?_⟩
    rw [h4, h6, Queue.waiting_of_pop? hq, List.length_cons]
    dsimp only
    omega

theorem submit_stream (sink : Sink) (records : List Record) :
    (sink.submit records).2.2.stream = sink.stream := by
  unfold Sink.submit
  split
  · rfl
  · dsimp only
    split <;> rfl

/-- No claim has anything to do with the stream of results. -/
theorem scene_of_claim (hm : Move r k s b (.claim i) s' b') :
    s'.stage = s.stage ∧ s'.confirmer = s.confirmer ∧ b'.sink.stream = b.sink.stream := by
  cases hm with
  | turnBack | enter | join | leave | take | stop | fail | oversize | unparsed =>
    exact ⟨rfl, rfl, rfl⟩
  | submit =>
    refine ⟨stage_hold .., ?_, submit_stream ..⟩
    unfold hold
    dsimp only
    split <;> rfl

/-! ## What is written down -/

/-- A step writes down this fate, if any, and reads the result that it is about. -/
structure Noted (f? : Option Fate) (s : Session) (b : Books) (s' : Session) (b' : Books) : Prop where
  history : b'.history = b.history ++ f?.toList
  pending : s'.pending = f?.elim s.pending (Fate.await s.pending)
  past : b'.sink.deliveries.past = b.sink.deliveries.past ++ (f?.bind Fate.result?).toList
  store : b'.store =
    (f?.bind Fate.marked).elim b.store fun m => (b.store.mark m.source m.offset).2
  items : b.sink.deliveries.items <+: b'.sink.deliveries.items
  nextId : b.sink.nextId ≤ b'.sink.nextId
  /-- A group gets a number that none has had. -/
  fresh : ∀ {j i m id records}, f? = some (.submitted j i m id records) →
    id = b.sink.nextId ∧ id < b'.sink.nextId

theorem result?_fate (k : Nat) (p : Pending Message) (d : Delivery) :
    (fate k p d).result? = some d := by
  obtain ⟨id, x⟩ := d
  unfold fate
  cases p.get? id <;> cases x <;> rfl

/-- A step that writes nothing down. -/
theorem noted_none (hh : b'.history = b.history) (hp : s'.pending = s.pending)
    (hd : b'.sink.deliveries.past = b.sink.deliveries.past) (hs : b'.store = b.store)
    (hi : b.sink.deliveries.items <+: b'.sink.deliveries.items)
    (hn : b'.sink.nextId = b.sink.nextId) : Noted none s b s' b' :=
  ⟨by simpa using hh, hp, by simpa using hd, hs, hi, Nat.le_of_eq hn.symm, nofun⟩

/-- A result is applied. -/
theorem noted_apply {t : Session} {c : Books} {d : Delivery} {q : Queue Delivery} (k : Nat)
    (hd : b.sink.deliveries.pop? = some (d, q)) (ht : t.pending = s.pending)
    (hh : c.history = b.history) (hs : c.store = b.store) (hq : c.sink.deliveries = q)
    (hn : c.sink.nextId = b.sink.nextId) :
    Noted (some (fate k s.pending d)) s b (t.apply k d c).1 (t.apply k d c).2.1 := by
  have hsink := (apply_same k d t c).2.2.2.2.2
  obtain ⟨ha, hp⟩ := apply_fate k d t c
  refine ⟨by rw [ha, ht, hh]; rfl, ?_, ?_, ?_, ?_, ?_, ?_⟩
  · rw [hp, ht]
    show _ = Fate.await s.pending (fate k s.pending d)
    unfold fate
    cases hg : s.pending.get? d.id with
    | none => exact Pending.remove_of_get?_none hg
    | some m => cases d.delivered <;> rfl
  · rw [hsink, hq, Queue.past_of_pop? hd, Option.bind_some, result?_fate]
    rfl
  · rcases apply_cases k d t c with ⟨hg, -, e⟩ | ⟨m, hg, -, e⟩ <;> rw [e] <;> rw [ht] at hg
    · simpa [fate, hg, Fate.marked, bookUnknown, Books.note, Books.count] using hs
    · unfold bookResult
      cases hx : d.delivered <;>
        simp [fate, hg, hx, Fate.marked, Books.note, Books.count, Books.mark, hs]
  · exact ⟨[], by rw [List.append_nil, hsink, hq, (Queue.items_of_pop? hd).1]⟩
  · exact Nat.le_of_eq (by rw [hsink, hn])
  · intro j i m id records he
    have hr := result?_fate k s.pending d
    rw [Option.some.inj he] at hr
    cases hr

/-- A move writes down one fate or none. Results are written down by the confirmer alone, and as what
waits for them decides. -/
theorem noted_of_move {t : Task} (hm : Move r k s b t s' b') : ∃ f?, Noted f? s b s' b' ∧
    ∀ f d, f? = some f → f.result? = some d → t = .confirmer ∧ f = fate k s.pending d := by
  cases hm with
  | turnBack | enter | join | leave | take | stop | fail | dismissed | tune | attend | forgo
  | receive | letGo | drained | close =>
    exact ⟨none, noted_none rfl rfl rfl rfl (List.prefix_refl _) rfl, fun _ _ h => by cases h⟩
  | @oversize i c m =>
    refine ⟨some (.oversize k i m), ?_, fun f d hf hd => by cases hf; cases hd⟩
    exact ⟨rfl, rfl, (List.append_nil _).symm, rfl, List.prefix_refl _, Nat.le_refl _, nofun⟩
  | @unparsed i c m =>
    refine ⟨some (.unparsed k i m), ?_, fun f d hf hd => by cases hf; cases hd⟩
    exact ⟨rfl, rfl, (List.append_nil _).symm, rfl, List.prefix_refl _, Nat.le_refl _, nofun⟩
  | @submit i c m q records =>
    refine ⟨some (.submitted k i m b.sink.nextId (r.tagged m records)), ?_,
      fun f d hf hd => by cases hf; cases hd⟩
    have hid := submit_nextId b.sink (r.tagged m records)
    refine ⟨rfl, pending_hold _ _ _, ?_, rfl, ?_, ?_, ?_⟩
    · show (b.sink.submit (r.tagged m records)).2.2.deliveries.past = _ ++ []
      rw [List.append_nil]
      rcases submit_deliveries b.sink (r.tagged m records) with hd | ⟨x, hd⟩ <;> rw [hd]
      exact Queue.past_push _ _
    · show _ <+: (b.sink.submit (r.tagged m records)).2.2.deliveries.items
      rcases submit_deliveries b.sink (r.tagged m records) with hd | ⟨x, hd⟩
      · exact ⟨[], by rw [hd, List.append_nil]⟩
      · rw [hd]
        exact List.prefix_append _ _
    · show _ ≤ (b.sink.submit (r.tagged m records)).2.2.nextId
      omega
    · intro j i' m' id rs he
      cases he
      exact ⟨rfl, by show _ < (b.sink.submit (r.tagged m records)).2.2.nextId; omega⟩
  | result _ _ hd =>
    obtain ⟨q, hq, rfl⟩ := nextDelivery_same hd
    refine ⟨_, noted_apply k hq rfl rfl rfl rfl rfl, fun f d' hf hd' => ?_⟩
    cases hf
    rw [result?_fate] at hd'
    cases hd'
    exact ⟨rfl, rfl⟩
  | leftover _ hd =>
    obtain ⟨q, hq, rfl⟩ := nextDelivery_same (nextDelivery_of_tryNext hd)
    refine ⟨_, noted_apply k hq rfl rfl rfl rfl rfl, fun f d' hf hd' => ?_⟩
    cases hf
    rw [result?_fate] at hd'
    cases hd'
    exact ⟨rfl, rfl⟩

end Session
end Sluice
