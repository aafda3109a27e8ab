import Sluice.Proofs.Relay.Courses
/-!
# Feeders copy their logs

A feeder begins where the position of its partition stands at that moment. From then on what has come
into the queue of its claim is what the log holds from there, as far as it has got: `Lane.Filled`.
Nothing is put there twice and nothing is left out, whatever is produced, read, committed or cancelled
meanwhile; and at rest it has got to the end of the log, or the queue is full.

* `Lane.Filled`: what has come into a queue.
* `Feeding.begins`, `Feeding.fills`, `Filled.onward`: what each step keeps.
* `Filled.whole`: what is so at rest.
* `Course.feeds`: what the feeder of a claim has done.
-/
namespace Sluice

namespace Lane
variable {log log' : List Message} {p : Partition} {s : Nat} {L M : Lane}

/-- A feeder that began at offset `s` of a log has put what the log holds from there into its queue,
and stands behind it. It ends only when nobody wants more. -/
structure Filled (log : List Message) (p : Partition) (s : Nat) (L : Lane) : Prop where
  source : L.source = p
  feeder : L.feeder.source = p
  begun : L.feeder.phase ≠ .fresh
  first : L.feeder.first = s
  next : L.feeder.next = s + L.queue.items.length
  items : L.queue.items <+: (log.drop s).map .message
  room : L.queue.backlog ≤ Relay.queueLimit
  stopped : L.feeder.phase = .ended → L.cancelled = true ∨ L.ended = true

/-- What the log holds behind the feeder's beginning, read by the feeder's next offset. -/
theorem Filled.next_item (h : L.Filled log p s) :
    ((log.drop s).map Item.message)[L.queue.items.length]? =
      log[L.feeder.next]?.map .message := by
  rw [List.getElem?_map, List.getElem?_drop, h.next]

/-- A log that grows keeps what has been copied. -/
theorem Filled.grow (h : L.Filled log p s) (hl : log <+: log') : L.Filled log' p s := by
  obtain ⟨rest, rfl⟩ := hl
  refine { h with items := h.items.trans ?_ }
  rw [List.drop_append, List.map_append]
  exact List.prefix_append _ _

/-- The queue is read, the claim ends, the session is told to end. -/
theorem Filled.onward (h : L.Filled log p s) (ho : L.Onward M) : M.Filled log p s where
  source := ho.source.trans h.source
  feeder := by rw [ho.feeder, h.feeder]
  begun := by rw [ho.feeder]; exact h.begun
  first := by rw [ho.feeder, h.first]
  next := by rw [ho.feeder, ho.items, h.next]
  items := by rw [ho.items]; exact h.items
  room := by
    have := h.room
    have := ho.taken
    unfold Queue.backlog at *
    rw [ho.items]
    omega
  stopped := by
    rw [ho.feeder]
    exact fun hp => (h.stopped hp).imp ho.cancelled ho.ended

/-- The feeder goes over to another phase. -/
theorem Filled.shift (h : L.Filled log p s) {q : Feeder.Phase} (hq : q ≠ .fresh)
    (ho : q = .ended → L.cancelled = true ∨ L.ended = true) : (L.shift q).Filled log p s :=
  ⟨h.source, h.feeder, hq, h.first, h.next, h.items, h.room, ho⟩

/-- At rest the whole log has been copied, or the queue is full. -/
theorem Filled.whole (h : L.Filled log p s) (hr : L.Rests log) (hx : L.cancelled = false)
    (he : L.ended = false) :
    L.queue.items = (log.drop s).map .message ∨ L.queue.backlog = Relay.queueLimit := by
  cases hr with
  | ended hp => rcases h.stopped hp with e | e <;> simp_all
  | parked _ _ hm =>
    refine .inl (h.items.eq_of_length_le ?_)
    have hn := h.next_item
    rw [hm, Option.map_none] at hn
    exact List.getElem?_eq_none_iff.mp hn
  | blocked _ _ _ _ hb => exact .inr (Nat.le_antisymm h.room hb)

end Lane

namespace Relay
variable {w v u x : Relay} {k i : Nat} {L M : Lane} {p : Partition} {s : Nat} {t : Task}
  {run : List Task}

/-! ## What a feeder does -/

/-- The feeder of a new lane begins, unless a failure was injected. -/
theorem Feeding.begins (hm : w.Feeding L M) (h : L.New) (hf : w.broker.faults.claim = 0) :
    M.Filled (w.broker.log L.source) L.source (startOffset w.books.store L.source) := by
  have hfresh := h.fresh
  cases hm with
  | fail e _ hn => omega
  | begin =>
    have hi := h.items
    have hs := h.source
    exact ⟨rfl, hs, nofun, by simp [Lane.turn, hs], by simp [Lane.turn, hi, hs],
      by simp [Lane.turn, hi], by simp [Lane.turn, Queue.backlog, hi], nofun⟩
  | stop hp | park hp | block hp | put hp => exact absurd hfresh hp

/-- A feeder that has begun goes on to copy its log. -/
theorem Feeding.fills (hm : w.Feeding L M) (h : L.Filled (w.broker.log p) p s) :
    M.Filled (w.broker.log p) p s := by
  cases hm with
  | fail _ hp | begin hp => exact absurd hp h.begun
  | stop _ hc => exact h.shift nofun fun _ => hc
  | park | block => exact h.shift nofun nofun
  | @put m hp hn hb =>
    rw [h.feeder] at hn
    have hi := h.next_item
    rw [hn, Option.map_some] at hi
    refine ⟨h.source, h.feeder, nofun, h.first, ?_, prefix_concat h.items hi, ?_, nofun⟩
    · have := h.next
      simp [Lane.push, Lane.turn, Queue.push]
      omega
    · have := L.queue.taken_le
      unfold Queue.backlog at hb
      simp [Lane.push, Lane.turn, Queue.push, Queue.backlog]
      omega

/-- A feeder that has begun goes on copying its log. -/
theorem Course.filled (h : w.Course v) (hw : w.flow.Sound) (hl : w.lane? k i = some L)
    (hf : L.Filled (w.broker.log p) p s) :
    ∃ M, v.lane? k i = some M ∧ M.Filled (v.broker.log p) p s := by
  refine h.holds (P := fun v => ∃ M, v.lane? k i = some M ∧ M.Filled (v.broker.log p) p s) hw
    ⟨L, hl, hf⟩ (fun {a b} ⟨M, hm, hf⟩ hg => ?_) (fun {a b j n g N} ih hn hs hN => ?_)
    fun ih => ih
  · obtain ⟨N, hn, ho, -⟩ := hg.old hm
    exact ⟨N, hn, (hf.onward ho).grow (hg.log p)⟩
  · obtain ⟨M, hm, hf⟩ := ih
    rw [hs.log]
    by_cases e : k = j ∧ i = n
    · obtain ⟨rfl, rfl⟩ := e
      cases Option.some.inj (hm.symm.trans hn)
      exact ⟨g N, by rw [hs.self, hn]; rfl, hN.fills hf⟩
    · exact ⟨M, (hs.others k i e).trans hm, hf⟩

/-! ## What the feeder of a claim has done -/

/-- What the feeder of lane `L` has done in a relay, if it began at offset `s` of partition `p`. -/
structure Feeds (u : Relay) (k i : Nat) (p : Partition) (s : Nat) (L : Lane) : Prop where
  lane : u.lane? k i = some L
  source : L.source = p
  first : L.feeder.first = s
  /-- What has come into the queue is what the log holds from offset `s` on, as far as it goes. -/
  items : L.queue.items <+: ((u.broker.log p).drop s).map .message
  /-- Its offsets are `s` and all that follow. -/
  offsets : ∀ (j : Nat) m, L.queue.items[j]? = some (.message m) → m.source = p ∧ m.offset = (s + j : Nat)
  room : L.queue.backlog ≤ queueLimit
  /-- At rest, while the claim still runs, the log has been copied or the queue is full. -/
  whole : u.Settled ∨ InTurn u ∧ u.line = [] → L.cancelled = false → L.ended = false →
    L.queue.items = ((u.broker.log p).drop s).map .message ∨ L.queue.backlog = queueLimit
  /-- If tasks run when they are woken, the feeder has been woken if it can move. -/
  woken : InTurn u → u.step (.feeder k i) ≠ none → .feeder k i ∈ u.line

theorem startOffset_eq (h : w.flow.Sound) (p : Partition) :
    (startOffset w.books.store p : Int) = (w.position p).getD 0 := by
  unfold startOffset position
  cases hp : w.books.store.position p with
  | none => rfl
  | some z =>
    obtain ⟨n, rfl, -⟩ := h.position hp
    rfl

theorem feeds_of_filled (hs : u.flow.Sound) (hl : u.lane? k i = some L)
    (h : L.Filled (u.broker.log p) p s) : Feeds u k i p s L where
  lane := hl
  source := h.source
  first := h.first
  items := h.items
  offsets := by
    intro j m hj
    have hm := getElem?_extends h.items hj
    rw [List.getElem?_map, List.getElem?_drop] at hm
    obtain ⟨m', hm, he⟩ := Option.map_eq_some_iff.mp hm
    cases he
    exact hs.numbered p _ m hm
  room := h.room
  whole := by
    intro hq hx he
    refine h.whole ?_ hx he
    have hrests : u.Rests L := by
      rcases hq with hq | ⟨ht, hq⟩
      · exact (stepFeeder_eq_none_iff hl).mp (hq (.feeder k i))
      · refine (ht.awake.2.feeder hl).resolve_right fun hm => ?_
        rw [hq] at hm
        cases hm
    unfold Rests at hrests
    rwa [h.feeder] at hrests
  woken := fun ht hm => ht.awake.2.woken hm

/-- **A feeder copies its log.** In every run, from the moment at which the feeder of a claim begins
without an injected failure: what has come into the queue of the claim is what the log of its
partition holds from the position on that was stored at that moment, with no gap and no repetition;
and no message is missed. -/
theorem Course.feeds (h0 : Fresh w) (h : w.Course v) (hl : v.lane? k i = some L)
    (hp : L.feeder.phase = .fresh) (hf : v.broker.faults.claim = 0)
    (hs : v.step (.feeder k i) = some x) (h' : x.Course u) :
    ∃ (s : Nat) (M : Lane), (s : Int) = (v.position L.source).getD 0 ∧
      Feeds u k i L.source s M := by
  have hv := h.sound (sound_of_fresh h0)
  have hx := sound_of_step hv hs
  obtain ⟨g, hg, hm⟩ := feeding_of_step hl hs
  have hfill := hm.begins (h.fresh h0 hl hp) hf
  rw [← hg.log] at hfill
  obtain ⟨M, hM, hfill⟩ := h'.filled hx (by rw [hg.self, hl]; rfl) hfill
  exact ⟨_, M, startOffset_eq hv _, feeds_of_filled (h'.sound hx) hM hfill⟩

/-- A message is skipped for its length, which moves the position of its partition to 1. Another one
comes, and a second session is about to read it. -/
def secondReader : List (Option Use) :=
  [some (.event (.createTopic "t" 1)), some (.event (.produce ⟨"t", 0⟩ [0, 0, 0, 0, 0])), some .join,
    some (.session plainSettings), some (.consume 0 0 ["t"] 1), none, none, none, none,
    some (.event (.produce ⟨"t", 0⟩ [123, 125])), some (.session plainSettings),
    some (.consume 0 1 ["t"] 2), none, none, none, none]

/-- The second session reads it, and one more message comes. -/
def thirdMessage : List (Option Use) :=
  [none, none, some (.event (.produce ⟨"t", 0⟩ [123, 125])), none, none, none, none]

/-- The feeder of the second session begins at position 1, and goes on when the third message wakes
it. -/
theorem Course.feeds_second : ∃ (v x u : Relay) (L M : Lane), Fresh empty ∧ Course empty v ∧
    v.lane? 1 0 = some L ∧ L.feeder.phase = .fresh ∧ v.broker.faults.claim = 0 ∧
    v.step (.feeder 1 0) = some x ∧ x.Course u ∧ v.position L.source = some 1 ∧
    Feeds u 1 0 L.source 1 M ∧ InTurn u ∧ u.line = [] ∧ M.cancelled = false ∧ M.ended = false ∧
    M.queue.items =
      [.message (.plain "t" 0 1 [123, 125]), .message (.plain "t" 0 2 [123, 125])] := by
  have hrun : ((empty.byHand secondReader).any fun w => w.next.any fun (t, v) =>
      (v.lane? 1 0).any fun L => (v.step t).any fun _ => (w.byHand thirdMessage).any fun u =>
      (u.lane? 1 0).any fun M =>
        decide (t = .feeder 1 0 ∧ L.feeder.phase = .fresh ∧ v.broker.faults.claim = 0 ∧
          v.position L.source = some 1 ∧ u.line = [] ∧ M.cancelled = false ∧ M.ended = false ∧
          M.queue.items = [.message (.plain "t" 0 1 [123, 125]),
            .message (.plain "t" 0 2 [123, 125])])) = true := by
    decide +kernel
  simp only [Option.any_eq_true, decide_eq_true_eq] at hrun
  obtain ⟨w, hw, ⟨t, v⟩, hn, L, hl, x, hs, u, hu, M, hM, rfl, hp, hf, hpos, hline, hc, he, hi⟩ := hrun
  have h0 : Fresh empty := .inl rfl
  have h : Course empty v := (Course.byHand hw).next _ hn
  have h' : x.Course u := course_of_turn hn hs hu
  obtain ⟨s, N, hs1, hN⟩ := Course.feeds h0 h hl hp hf hs h'
  cases Option.some.inj (hM.symm.trans hN.lane)
  obtain rfl : s = 1 := Int.ofNat.inj (by rw [hpos] at hs1; exact hs1)
  exact ⟨v, x, u, L, M, h0, h, hl, hp, hf, hs, h', hpos, hN,
    ((InTurn.start h0).byHand hw).byHand hu, hline, hc, he, hi⟩

end Relay
end Sluice
