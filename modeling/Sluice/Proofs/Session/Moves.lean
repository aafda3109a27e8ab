import Sluice.Proofs.Lists
import Sluice.Session.Run
/-!
# What a move of a session can do

`Session.step` tells the next move of a task. `Move` lists all moves there are, each with the
condition it is made under and what it leaves behind, and `move_of_step` says that there are no
others. Whatever a move keeps is shown by going through this list.

* `Move`: the moves of claims, of the confirmer and of whoever cleans up.
* `apply_cases`: what a result does to the session that it is applied in.
* `move_of_step`: every step is one of the moves.
-/
namespace Sluice.Session

/-- Claim `i` has read an item, which leaves `q` in its queue, and asks for the next slot. -/
def advance (s : Session) (i : Nat) (q : Queue Item) : Session :=
  s.modify i fun c => { c with queue := q, phase := .admitting }

/-- Claim `i` has read its last item, which leaves `q` in its queue. -/
def withdraw (s : Session) (i : Nat) (q : Queue Item) : Session :=
  s.modify i fun c => { c with queue := q }

/-- The session gives one slot back. -/
def yielded (s : Session) : Session := s.release.1

/-- Message `m` waits for the result of group `id`. A message that waited for it gives its slot
back. -/
def hold (s : Session) (id : Nat) (m : Message) : Session :=
  let t := { s with pending := (s.pending.store id m).2 }
  if (s.pending.get? id).isSome then t.yielded else t

/-- The books with a right to the stream of results that has changed. -/
def withStream (b : Books) (w : Window) : Books := { b with sink := { b.sink with stream := w } }

/-- What is written down about a message that is too long. -/
def bookOversize (r : Rules) (k i : Nat) (m : Message) (b : Books) : Books :=
  ((((b.count .received).mark m).count .oversize).note (.oversize k i m)).report
    (.tooLarge m.size r.maxLen)

/-- What is written down about a message without records. -/
def bookUnparsed (k i : Nat) (m : Message) (e : RelayError) (b : Books) : Books :=
  (((b.count .received).count .parseFailure).note (.unparsed k i m)).report e

/-- What is written down about a message whose records are submitted. -/
def bookSubmitted (k i : Nat) (m : Message) (records : List Record) (b : Books) : Books :=
  (({ b.count .received with sink := (b.sink.submit records).2.2 }).count .submitted).note
    (.submitted k i m b.sink.nextId records)

/-- What is written down about a result for a message. -/
def bookResult (k : Nat) (d : Delivery) (m : Message) (b : Books) : Books :=
  if d.delivered then ((b.count .delivered).mark m).note (.delivered k m d.id)
  else (b.count .undelivered).note (.undelivered k m d.id)

/-- What is written down about a result that no message waits for. -/
def bookUnknown (k : Nat) (d : Delivery) (b : Books) : Books :=
  (b.count .unknown).note (.unknown k d.id d.delivered)

/-- The books after the confirmer that has the stream has taken a result and passed the stream on. -/
def taken (b : Books) (sink : Sink) : Books :=
  { b with sink := { sink with stream := sink.stream.release.2 } }

/-- Claims are started one by one, each on a partition. -/
theorem starts_eq (ps : List Partition) (s : Session) :
    ps.foldl (fun s p => s.start p.topic p.index) s =
      { s with claims := s.claims ++ ps.map fun p => Claim.start p.topic p.index } := by
  induction ps generalizing s with
  | nil => simp
  | cons p ps ih =>
    rw [List.foldl_cons, ih]
    simp [start]

/-! ## What these leave as it is -/

/-- The queues of the claims. -/
def queues (s : Session) : List (Queue Item) := s.claims.map Claim.queue

theorem queues_modify (s : Session) (i : Nat) {f : Claim → Claim} {g : Queue Item → Queue Item}
    (h : ∀ c, (f c).queue = g c.queue) : (s.modify i f).queues = s.queues.modify i g :=
  map_modify s.claims i fun c _ => h c

@[simp] theorem queues_setPhase (s : Session) (i : Nat) (p : Claim.Phase) :
    (s.setPhase i p).queues = s.queues := by
  have h := queues_modify s i (f := fun c => { c with phase := p }) (g := id) fun _ => rfl
  rwa [List.modify_id] at h

@[simp] theorem queues_finish (s : Session) (i : Nat) (e : Option RelayError) :
    (s.finish i e).queues = s.queues := queues_setPhase s i _

@[simp] theorem queues_advance (s : Session) (i : Nat) (q : Queue Item) :
    (s.advance i q).queues = s.queues.modify i fun _ => q := queues_modify s i fun _ => rfl

@[simp] theorem queues_withdraw (s : Session) (i : Nat) (q : Queue Item) :
    (s.withdraw i q).queues = s.queues.modify i fun _ => q := queues_modify s i fun _ => rfl

@[simp] theorem queues_yielded (s : Session) : s.yielded.queues = s.queues := rfl

theorem hold_fields (s : Session) (id : Nat) (m : Message) :
    (s.hold id m).queues = s.queues ∧ (s.hold id m).pending = (s.pending.store id m).2 ∧
      (s.hold id m).stage = s.stage := by
  unfold hold
  dsimp only
  split <;> exact ⟨rfl, rfl, rfl⟩

@[simp] theorem queues_hold (s : Session) (id : Nat) (m : Message) :
    (s.hold id m).queues = s.queues := (hold_fields s id m).1

@[simp] theorem pending_hold (s : Session) (id : Nat) (m : Message) :
    (s.hold id m).pending = (s.pending.store id m).2 := (hold_fields s id m).2.1

@[simp] theorem stage_hold (s : Session) (id : Nat) (m : Message) :
    (s.hold id m).stage = s.stage := (hold_fields s id m).2.2

/-! ## What the sink does when a group comes and when a result is read -/

/-- A group gets the next number, and may get its result at once. -/
theorem submit_fields (sink : Sink) (records : List Record) :
    (sink.submit records).1 = sink.nextId ∧
      (sink.submit records).2.2.nextId = sink.nextId + 1 ∧
      (sink.submit records).2.2.errors = sink.errors ∧
      ((sink.submit records).2.2.deliveries = sink.deliveries ∨
        ∃ x, (sink.submit records).2.2.deliveries = sink.deliveries.push ⟨sink.nextId, x⟩) := by
  unfold Sink.submit
  split
  · exact ⟨rfl, rfl, rfl, .inr ⟨true, rfl⟩⟩
  · dsimp only
    split
    · exact ⟨rfl, rfl, rfl, .inl rfl⟩
    · exact ⟨rfl, rfl, rfl, .inr ⟨false, rfl⟩⟩

theorem submit_id (sink : Sink) (records : List Record) :
    (sink.submit records).1 = sink.nextId := (submit_fields sink records).1

theorem submit_nextId (sink : Sink) (records : List Record) :
    (sink.submit records).2.2.nextId = sink.nextId + 1 := (submit_fields sink records).2.1

theorem submit_errors (sink : Sink) (records : List Record) :
    (sink.submit records).2.2.errors = sink.errors := (submit_fields sink records).2.2.1

theorem submit_deliveries (sink : Sink) (records : List Record) :
    (sink.submit records).2.2.deliveries = sink.deliveries ∨
      ∃ x, (sink.submit records).2.2.deliveries = sink.deliveries.push ⟨sink.nextId, x⟩ :=
  (submit_fields sink records).2.2.2

/-- Reading a result changes nothing but the queue of results. -/
theorem nextDelivery_same {sink sink' : Sink} {d : Delivery}
    (h : sink.nextDelivery = some (d, sink')) :
    ∃ q, sink.deliveries.pop? = some (d, q) ∧ sink' = { sink with deliveries := q } := by
  obtain ⟨⟨d, q⟩, hq, he⟩ := Option.map_eq_some_iff.mp h
  cases he
  exact ⟨q, hq, rfl⟩

theorem nextDelivery_of_tryNext {sink sink' : Sink} {d : Delivery}
    (h : sink.tryNext = some (d, sink')) : sink.nextDelivery = some (d, sink') := by
  unfold Sink.tryNext at h
  split at h
  · cases h
  · exact h

/-! ## The moves -/

variable {r : Rules} {k i : Nat} {s s' : Session} {b b' : Books}

/-- The moves that the tasks of session `k` can make. -/
inductive Move (r : Rules) (k : Nat) (s : Session) (b : Books) : Task → Session → Books → Prop where
  /-- The session is over before the claim has asked for a slot. -/
  | turnBack {i c} : s.claims[i]? = some c → c.phase = .admitting → s.cancelled = true →
      Move r k s b (.claim i) (s.finish i none) b
  /-- The claim finds a free slot. -/
  | enter {i c w} : s.claims[i]? = some c → c.phase = .admitting → s.cancelled = false →
      s.window.acquire i = (true, w) →
      Move r k s b (.claim i) ({ s with window := w }.setPhase i .reading) b
  /-- The claim joins the line. -/
  | join {i c w} : s.claims[i]? = some c → c.phase = .admitting → s.cancelled = false →
      s.window.acquire i = (false, w) →
      Move r k s b (.claim i) ({ s with window := w }.setPhase i .queued) b
  /-- The session is over while the claim stands in line. -/
  | leave {i c} : s.claims[i]? = some c → c.phase = .queued → s.cancelled = true →
      Move r k s b (.claim i) ({ s with window := (s.window.leave i).2 }.finish i none) b
  /-- The claim takes the slot that it was granted. -/
  | take {i c w} : s.claims[i]? = some c → c.phase = .queued → s.cancelled = false →
      s.window.take i = some w →
      Move r k s b (.claim i) ({ s with window := w }.setPhase i .reading) b
  /-- The session is over, or no more items can come. -/
  | stop {i c} : s.claims[i]? = some c → c.phase = .reading →
      (s.cancelled = true ∨ s.cancelled = false ∧ c.queue.pop? = none ∧ c.isOpen = false) →
      Move r k s b (.claim i) (s.yielded.finish i none) b
  /-- The claim reads a failure of the broker. -/
  | fail {i c e q} : s.claims[i]? = some c → c.phase = .reading → s.cancelled = false →
      c.queue.pop? = some (.failure e, q) →
      Move r k s b (.claim i) ((s.withdraw i q).yielded.finish i (some e)) b
  /-- The claim reads a message that is too long. -/
  | oversize {i c m q} : s.claims[i]? = some c → c.phase = .reading → s.cancelled = false →
      c.queue.pop? = some (.message m, q) → r.tooLong m = true →
      Move r k s b (.claim i) (s.advance i q).yielded (bookOversize r k i m b)
  /-- The claim reads a message without records. -/
  | unparsed {i c m q e} : s.claims[i]? = some c → c.phase = .reading → s.cancelled = false →
      c.queue.pop? = some (.message m, q) → r.tooLong m = false → r.parse m.payload = .error e →
      Move r k s b (.claim i) (s.advance i q).yielded (bookUnparsed k i m e b)
  /-- The claim reads a message and submits its records. -/
  | submit {i c m q records} : s.claims[i]? = some c → c.phase = .reading → s.cancelled = false →
      c.queue.pop? = some (.message m, q) → r.tooLong m = false →
      r.parse m.payload = .ok records →
      Move r k s b (.claim i) ((s.advance i q).hold b.sink.nextId m)
        (bookSubmitted k i m (r.tagged m records) b)
  /-- The session is being cleaned up before the confirmer has asked for the stream. -/
  | dismissed : s.confirmer = .asking → s.stage ≠ .active →
      Move r k s b .confirmer { s with confirmer := .draining } b
  /-- The confirmer finds the stream free. -/
  | tune {w} : s.confirmer = .asking → s.stage = .active → b.sink.stream.acquire k = (true, w) →
      Move r k s b .confirmer { s with confirmer := .reading } (withStream b w)
  /-- The confirmer joins the line for the stream. -/
  | attend {w} : s.confirmer = .asking → s.stage = .active → b.sink.stream.acquire k = (false, w) →
      Move r k s b .confirmer { s with confirmer := .queued } (withStream b w)
  /-- The session is being cleaned up while the confirmer stands in line. -/
  | forgo : s.confirmer = .queued → s.stage ≠ .active →
      Move r k s b .confirmer { s with confirmer := .draining }
        (withStream b (b.sink.stream.leave k).2)
  /-- The confirmer takes the stream that it was granted. -/
  | receive {w} : s.confirmer = .queued → s.stage = .active → b.sink.stream.take k = some w →
      Move r k s b .confirmer { s with confirmer := .reading } (withStream b w)
  /-- The session is being cleaned up while the confirmer waits for a result. -/
  | letGo : s.confirmer = .reading → s.stage ≠ .active →
      Move r k s b .confirmer { s with confirmer := .draining }
        (withStream b b.sink.stream.release.2)
  /-- The confirmer applies the next result and lets the stream go. -/
  | result {d sink} : s.confirmer = .reading → s.stage = .active →
      b.sink.nextDelivery = some (d, sink) →
      Move r k s b .confirmer ({ s with confirmer := .asking }.apply k d (taken b sink)).1
        ({ s with confirmer := .asking }.apply k d (taken b sink)).2.1
  /-- The confirmer applies a result that was left when the session ended. -/
  | leftover {d sink} : s.confirmer = .draining → b.sink.tryNext = some (d, sink) →
      Move r k s b .confirmer (s.apply k d { b with sink := sink }).1
        (s.apply k d { b with sink := sink }).2.1
  /-- No result is left. -/
  | drained : s.confirmer = .draining → b.sink.tryNext = none →
      Move r k s b .confirmer { s with confirmer := .ended } b
  /-- The session is over. -/
  | close : s.stage = .draining → s.confirmer = .ended →
      Move r k s b .cleaner { s with stage := .closed } b

/-- A result is applied to the message that waits for it, or written down as unknown. -/
theorem apply_cases (k : Nat) (d : Delivery) (s : Session) (b : Books) :
    (s.pending.get? d.id = none ∧ (s.apply k d b).1 = s ∧
      (s.apply k d b).2.1 = bookUnknown k d b) ∨
    ∃ m, s.pending.get? d.id = some m ∧
      (s.apply k d b).1 = { s with pending := s.pending.remove d.id }.yielded ∧
      (s.apply k d b).2.1 = bookResult k d m b := by
  unfold apply
  cases h : s.pending.get? d.id with
  | none => exact .inl ⟨rfl, rfl, rfl⟩
  | some m => exact .inr ⟨m, rfl, rfl, rfl⟩

/-- What becomes of a message is one of three things. -/
theorem move_of_handle {c : Claim} {m : Message} {q : Queue Item} {woken : List Signal}
    (hc : s.claims[i]? = some c) (hp : c.phase = .reading) (hs : s.cancelled = false)
    (hq : c.queue.pop? = some (.message m, q))
    (h : (s.advance i q).handle r k i m b = (s', b', woken)) :
    Move r k s b (.claim i) s' b' := by
  unfold handle at h
  simp only at h
  split at h
  · next hl =>
    cases h
    exact .oversize hc hp hs hq hl
  · next hl =>
    simp only [Bool.not_eq_true] at hl
    split at h
    · next e he =>
      cases h
      exact .unparsed hc hp hs hq hl he
    · next records hr =>
      have hid := submit_id b.sink (r.tagged m records)
      have hm := Move.submit hc hp hs hq hl hr (k := k) (b := b)
      simp only [Books.count, Pending.store] at h
      rw [hid] at h
      simp only [Prod.mk.injEq] at h
      obtain ⟨rfl, rfl, -⟩ := h
      simp only [hold, bookSubmitted, Pending.store, Books.count] at hm ⊢
      cases hg : (s.advance i q).pending.get? b.sink.nextId with
      | none => simpa [hg] using hm
      | some old => simpa [hg, yielded] using hm

theorem move_of_stepClaim {signals : List Signal}
    (h : s.stepClaim r k i b = some (s', b', signals)) : Move r k s b (.claim i) s' b' := by
  unfold stepClaim at h
  cases hc : s.claims[i]? with
  | none => simp [hc] at h
  | some c =>
    simp only [hc] at h
    cases hp : c.phase with
    | admitting =>
      simp only [hp] at h
      split at h
      · next hs =>
        cases h
        exact .turnBack hc hp hs
      · next hs =>
        simp only [Bool.not_eq_true] at hs
        split at h
        · next w hw =>
          cases h
          exact .enter hc hp hs hw
        · next w hw =>
          cases h
          exact .join hc hp hs hw
    | queued =>
      simp only [hp] at h
      split at h
      · next hs =>
        cases h
        exact .leave hc hp hs
      · next hs =>
        simp only [Bool.not_eq_true] at hs
        obtain ⟨w, hw, he⟩ := Option.map_eq_some_iff.mp h
        cases he
        exact .take hc hp hs hw
    | reading =>
      simp only [hp] at h
      split at h
      · next hs =>
        cases h
        exact .stop hc hp (.inl hs)
      · next hs =>
        simp only [Bool.not_eq_true] at hs
        split at h
        · next m q hq =>
          cases h
          exact move_of_handle hc hp hs hq rfl
        · next e q hq =>
          cases h
          exact .fail hc hp hs hq
        · next hq =>
          split at h
          · cases h
          · next ho =>
            cases h
            exact .stop hc hp (.inr ⟨hs, hq, by simpa using ho⟩)
    | ended e => simp [hp] at h

theorem move_of_stepConfirmer {signals : List Signal}
    (h : s.stepConfirmer k b = some (s', b', signals)) : Move r k s b .confirmer s' b' := by
  unfold stepConfirmer at h
  cases hf : s.confirmer with
  | absent => simp [hf] at h
  | asking =>
    simp only [hf] at h
    split at h
    · next hs =>
      cases h
      exact .dismissed hf hs
    · next hs =>
      simp only [ne_eq, Decidable.not_not] at hs
      split at h
      · next w hw =>
        cases h
        exact .tune hf hs hw
      · next w hw =>
        cases h
        exact .attend hf hs hw
  | queued =>
    simp only [hf] at h
    split at h
    · next hs =>
      cases h
      exact .forgo hf hs
    · next hs =>
      simp only [ne_eq, Decidable.not_not] at hs
      obtain ⟨w, hw, he⟩ := Option.map_eq_some_iff.mp h
      cases he
      exact .receive hf hs hw
  | reading =>
    simp only [hf] at h
    split at h
    · next hs =>
      cases h
      exact .letGo hf hs
    · next hs =>
      simp only [ne_eq, Decidable.not_not] at hs
      split at h
      · cases h
      · next d sink hd =>
        cases h
        exact .result hf hs hd
  | draining =>
    simp only [hf] at h
    split at h
    · next hd =>
      cases h
      exact .drained hf hd
    · next d sink hd =>
      have he := Option.some.inj h
      have hs : s' = (s.apply k d { b with sink := sink }).1 := by rw [he]
      have hb : b' = (s.apply k d { b with sink := sink }).2.1 := by rw [he]
      rw [hs, hb]
      exact .leftover hf hd
  | ended => simp [hf] at h

/-- A step of a session is one of the moves. -/
theorem move_of_step {t : Task} {signals : List Signal}
    (h : s.step r k t b = some (s', b', signals)) : Move r k s b t s' b' := by
  cases t with
  | claim i => exact move_of_stepClaim h
  | confirmer => exact move_of_stepConfirmer h
  | cleaner =>
    obtain ⟨u, hu, he⟩ := Option.map_eq_some_iff.mp h
    cases he
    unfold close? at hu
    split at hu
    · next hs =>
      cases hu
      exact .close hs.1 hs.2
    · cases hu

end Sluice.Session
