import Sluice.Proofs.Broker
import Sluice.Proofs.Relay.Flow
import Sluice.Proofs.Relay.Moves
import Sluice.Proofs.Schedule
/-!
# Lanes

A feeder and the claim whose queue it fills are a lane of their session. `Relay.lane?` keeps of a
relay what decides whether a feeder can move: the feeder, what its claim has read and whether it has
ended, and whether the session has been told to end.

* `stepFeeder_eq_none_iff`: when a feeder has to wait.
* `Feeding`, `feeding_of_step`, `feeding_of_straggler`: what a feeder can do to its lane; it leaves all
  others as they are.
* `Calm`, `Shifts`: what leaves all lanes as they are, and what changes one of them.
-/
namespace Sluice

/-- A feeder and the claim whose queue it fills. -/
structure Lane where
  feeder : Feeder
  /-- The partition that the claim reads. -/
  source : Partition
  queue : Queue Item
  /-- Whether the claim has ended. -/
  ended : Bool
  /-- Whether the session has been told to end. -/
  cancelled : Bool
  deriving DecidableEq

/-- The lane of a feeder and a claim. -/
def Lane.of (f : Feeder) (c : Claim) (cancelled : Bool) : Lane :=
  ⟨f, c.source, c.queue, c.hasEnded, cancelled⟩

/-- Lane `i` of a session. -/
def Hosted.lane? (h : Hosted) (i : Nat) : Option Lane :=
  h.feeders[i]?.bind fun f => h.session.claims[i]?.map fun c => .of f c h.session.cancelled

/-- Lane `i` of session `k`. -/
def Relay.lane? (w : Relay) (k i : Nat) : Option Lane := w.sessions[k]?.bind fun h => h.lane? i

theorem Hosted.lane_eq_some_iff {h : Hosted} {i : Nat} {L : Lane} :
    h.lane? i = some L ↔ ∃ f c, h.feeders[i]? = some f ∧ h.session.claims[i]? = some c ∧
      Lane.of f c h.session.cancelled = L := by
  simp [lane?, Option.bind_eq_some_iff]

theorem Hosted.lane_of_get {h : Hosted} {i : Nat} {f : Feeder} {c : Claim}
    (hf : h.feeders[i]? = some f) (hc : h.session.claims[i]? = some c) :
    h.lane? i = some (.of f c h.session.cancelled) :=
  lane_eq_some_iff.mpr ⟨f, c, hf, hc, rfl⟩

namespace Lane

/-- The feeder of a lane changes. -/
def turn (L : Lane) (f : Feeder → Feeder) : Lane := { L with feeder := f L.feeder }

/-- The feeder of a lane goes over to another phase. -/
def shift (L : Lane) (p : Feeder.Phase) : Lane := L.turn fun f => { f with phase := p }

/-- An item comes into the queue of a lane. -/
def push (L : Lane) (x : Item) : Lane := { L with queue := L.queue.push x }

/-- The feeder has ended, or has to wait: for a message that its log does not have yet, or for room
in the queue. -/
inductive Rests (log : List Message) (L : Lane) : Prop where
  | ended : L.feeder.phase = .ended → Rests log L
  | parked : L.feeder.phase = .parked → L.cancelled = false → log[L.feeder.next]? = none → Rests log L
  | blocked {m : Message} : L.feeder.phase = .blocked → L.cancelled = false →
      log[L.feeder.next]? = some m → L.ended = false → Relay.queueLimit ≤ L.queue.backlog → Rests log L

end Lane

namespace Relay
variable {w v u : Relay} {k i j n : Nat} {h : Hosted} {L M : Lane}

/-- The feeder of a lane has ended or has to wait. -/
def Rests (w : Relay) (L : Lane) : Prop := L.Rests (w.broker.log L.feeder.source)

theorem lane_eq_some_iff :
    w.lane? k i = some L ↔ ∃ h, w.sessions[k]? = some h ∧ h.lane? i = some L := by
  simp [lane?, Option.bind_eq_some_iff]

theorem lane_of_session (hk : w.sessions[k]? = some h) : w.lane? k i = h.lane? i := by
  simp [lane?, hk]

/-! ## When a feeder has to wait -/

/-- A feeder without a lane cannot move. -/
theorem lane_of_stepFeeder (hs : w.stepFeeder k i = some v) : ∃ L, w.lane? k i = some L := by
  obtain ⟨h, f, c, hk, hf, hc, -⟩ := feederMove_of_step hs
  exact ⟨_, lane_eq_some_iff.mpr ⟨h, hk, Hosted.lane_of_get hf hc⟩⟩

/-- A feeder cannot move exactly if it has ended or has to wait. -/
theorem stepFeeder_eq_none_iff (hl : w.lane? k i = some L) :
    w.stepFeeder k i = none ↔ w.Rests L := by
  obtain ⟨h, hk, hi⟩ := lane_eq_some_iff.mp hl
  obtain ⟨f, c, hf, hc, rfl⟩ := Hosted.lane_eq_some_iff.mp hi
  unfold stepFeeder
  simp only [hk, hf, hc]
  constructor
  · intro hs
    split at hs
    · split at hs <;> cases hs
    · next hp => exact .ended hp
    · split at hs
      · cases hs
      · next hx =>
        simp only [Bool.not_eq_true] at hx
        split at hs
        · next hm =>
          split at hs
          · next hp => exact .parked hp hx hm
          · cases hs
        · next m hm =>
          split at hs
          · cases hs
          · next he =>
            split at hs
            · cases hs
            · next hb =>
              split at hs
              · next hp => exact .blocked hp hx hm ((Bool.not_eq_true _).mp he) (Nat.le_of_not_lt hb)
              · cases hs
  · intro hr
    cases hr with
    | ended hp => simp [show f.phase = .ended from hp]
    | parked hp hx hm =>
      simp [show f.phase = .parked from hp, show h.session.cancelled = false from hx,
        show (w.broker.log f.source)[f.next]? = none from hm]
    | blocked hp hx hm he hb =>
      simp [show f.phase = .blocked from hp, show h.session.cancelled = false from hx,
        show (w.broker.log f.source)[f.next]? = some _ from hm, show c.hasEnded = false from he,
        Nat.not_lt.mpr (show queueLimit ≤ c.queue.backlog from hb)]

/-! ## What leaves the lanes as they are -/

/-- All lanes and logs stay as they are, and whoever has been woken stays so. -/
structure Calm (w v : Relay) : Prop where
  lane : ∀ k i, v.lane? k i = w.lane? k i
  log : v.broker.log = w.broker.log
  line : ∀ t ∈ w.line, t ∈ v.line

theorem Calm.refl (w : Relay) : w.Calm w := ⟨fun _ _ => rfl, rfl, fun _ => id⟩

theorem Calm.trans (h : w.Calm v) (h' : v.Calm u) : w.Calm u :=
  ⟨fun k i => (h'.lane k i).trans (h.lane k i), h'.log.trans h.log,
    fun t ht => h'.line t (h.line t ht)⟩

/-- The sessions and the logs stay as they are, and whoever has been woken stays so. -/
theorem calm_of_sessions (hs : v.sessions = w.sessions) (hb : v.broker.log = w.broker.log)
    (hl : ∀ t ∈ w.line, t ∈ v.line) : w.Calm v :=
  ⟨fun k i => by unfold lane?; rw [hs], hb, hl⟩

theorem calm_broker (w : Relay) {b : Broker} (h : b.log = w.broker.log) :
    w.Calm { w with broker := b } := ⟨fun _ _ => rfl, h, fun _ => id⟩

theorem calm_wakeAll (w : Relay) (ts : List Task) : w.Calm (w.wakeAll ts) :=
  ⟨fun _ _ => rfl, rfl, fun _ ht => Schedule.mem_wakeAll_iff.mpr (.inr ht)⟩

theorem calm_wake (w : Relay) (t : Task) : w.Calm (w.wake t) :=
  ⟨fun _ _ => rfl, rfl, fun _ ht => Schedule.mem_wake_iff.mpr (.inr ht)⟩

theorem calm_wakeCall (w : Relay) (c : Nat) : w.Calm (w.wakeCall c) := by
  unfold wakeCall
  split <;> exact calm_wake w _

theorem calm_wakeHost (w : Relay) (k : Nat) : w.Calm (w.wakeHost k) := by
  unfold wakeHost
  split
  · exact .refl w
  · exact calm_wakeCall w _

theorem calm_wakeClaim (w : Relay) (k i : Nat) : w.Calm (w.wakeClaim k i) := by
  unfold wakeClaim
  split
  · exact calm_wake w _
  · exact .refl w

theorem calm_wakeFeeder (w : Relay) (k i : Nat) : w.Calm (w.wakeFeeder k i) := by
  unfold wakeFeeder
  split
  · exact calm_wake w _
  · exact .refl w

theorem calm_wakeReader (w : Relay) : w.Calm w.wakeReader := by
  unfold wakeReader
  split
  · exact .refl w
  · exact calm_wake w _

theorem calm_wakeCallers (w : Relay) : w.Calm w.wakeCallers := calm_wakeAll w _

theorem calm_wakeLeavingHost (w : Relay) (k : Nat) : w.Calm (w.wakeLeavingHost k) := by
  unfold wakeLeavingHost
  split
  · exact calm_wakeHost w k
  · exact .refl w

theorem lane_modifyHosted (w : Relay) (k : Nat) (f : Hosted → Hosted) (j n : Nat) :
    (w.modifyHosted k f).lane? j n =
      w.sessions[j]?.bind fun h => (if k = j then f h else h).lane? n := by
  unfold lane? modifyHosted
  rw [List.getElem?_modify]
  cases w.sessions[j]? <;> rfl

/-- A session changes in nothing that its lanes show. -/
theorem calm_modifyHosted (w : Relay) (k : Nat) {f : Hosted → Hosted}
    (h : ∀ x, w.sessions[k]? = some x → ∀ i, (f x).lane? i = x.lane? i) :
    w.Calm (w.modifyHosted k f) := by
  refine ⟨fun j n => ?_, rfl, fun _ => id⟩
  rw [lane_modifyHosted]
  unfold lane?
  cases hj : w.sessions[j]? with
  | none => rfl
  | some x =>
    simp only [Option.bind_some]
    split
    · next e => exact h x (e ▸ hj) n
    · rfl

/-! ## What changes one lane -/

/-- Lane `i` of session `k` changes, and no other. -/
structure Shifts (w : Relay) (k i : Nat) (g : Lane → Lane) (v : Relay) : Prop where
  self : v.lane? k i = (w.lane? k i).map g
  others : ∀ j n, ¬ (j = k ∧ n = i) → v.lane? j n = w.lane? j n
  log : v.broker.log = w.broker.log
  line : ∀ t ∈ w.line, t ∈ v.line

section Shifting
variable {f g : Lane → Lane}

theorem Calm.shifts (hc : w.Calm v) (h : v.Shifts k i g u) : w.Shifts k i g u :=
  ⟨by rw [h.self, hc.lane], fun j n hn => (h.others j n hn).trans (hc.lane j n), h.log.trans hc.log,
    fun t ht => h.line t (hc.line t ht)⟩

theorem Shifts.calm (h : w.Shifts k i g v) (hc : v.Calm u) : w.Shifts k i g u :=
  ⟨(hc.lane k i).trans h.self, fun j n hn => (hc.lane j n).trans (h.others j n hn),
    hc.log.trans h.log, fun t ht => hc.line t (h.line t ht)⟩

theorem Shifts.trans (h : w.Shifts k i f v) (h' : v.Shifts k i g u) :
    w.Shifts k i (fun L => g (f L)) u :=
  ⟨by rw [h'.self, h.self, Option.map_map]; rfl,
    fun j n hn => (h'.others j n hn).trans (h.others j n hn), h'.log.trans h.log,
    fun t ht => h'.line t (h.line t ht)⟩

end Shifting

/-- A change of one session that changes one of its lanes. -/
theorem shifts_modifyHosted (w : Relay) (k i : Nat) {f : Hosted → Hosted} {g : Lane → Lane}
    (hi : ∀ h, (f h).lane? i = (h.lane? i).map g) (hn : ∀ h n, n ≠ i → (f h).lane? n = h.lane? n) :
    w.Shifts k i g (w.modifyHosted k f) := by
  refine ⟨?_, fun j n hne => ?_, rfl, fun _ => id⟩
  · rw [lane_modifyHosted]
    unfold lane?
    cases w.sessions[k]? with
    | none => rfl
    | some h => simp [hi]
  · rw [lane_modifyHosted]
    unfold lane?
    cases w.sessions[j]? with
    | none => rfl
    | some h =>
      simp only [Option.bind_some]
      split
      · next e => exact hn h n fun e' => hne ⟨e.symm, e'⟩
      · rfl

theorem shifts_modifyFeeder (w : Relay) (k i : Nat) (f : Feeder → Feeder) :
    w.Shifts k i (fun L => L.turn f) (w.modifyFeeder k i f) := by
  refine shifts_modifyHosted w k i (fun h => ?_) fun h n hn => ?_
  · unfold Hosted.lane?
    simp only [List.getElem?_modify_eq]
    cases h.feeders[i]? with
    | none => rfl
    | some f => cases h.session.claims[i]? <;> rfl
  · unfold Hosted.lane?
    simp only [List.getElem?_modify_ne _ _ (Ne.symm hn)]

/-- A claim changes, and what its lane shows of it. -/
theorem shifts_modifyClaim (w : Relay) (k i : Nat) {f : Claim → Claim} {g : Lane → Lane}
    (hg : ∀ x c b, Lane.of x (f c) b = g (.of x c b)) :
    w.Shifts k i g (w.modifyClaim k i f) := by
  refine shifts_modifyHosted w k i (fun h => ?_) fun h n hn => ?_
  · unfold Hosted.lane? Session.modify
    simp only [List.getElem?_modify_eq]
    cases h.feeders[i]? with
    | none => rfl
    | some x =>
      cases h.session.claims[i]? with
      | none => rfl
      | some c => simp [hg]
  · unfold Hosted.lane? Session.modify
    simp only [List.getElem?_modify_ne _ _ (Ne.symm hn)]

theorem shifts_feed (w : Relay) (k i : Nat) (x : Item) :
    w.Shifts k i (fun L => L.push x) (w.feed k i x) :=
  (shifts_modifyClaim w k i (f := fun c => c.push x) fun _ _ _ => rfl).calm (calm_wakeClaim _ k i)

/-- That no more items come is nothing that a lane shows. -/
theorem calm_shut (w : Relay) (k i : Nat) :
    w.Calm (w.modifyClaim k i fun c => { c with isOpen := false }) := by
  have h := shifts_modifyClaim w k i (f := fun c => { c with isOpen := false }) (g := id)
    fun _ _ _ => rfl
  refine ⟨fun j n => ?_, h.log, h.line⟩
  by_cases e : j = k ∧ n = i
  · rw [e.1, e.2, h.self, Option.map_id]
    rfl
  · exact h.others j n e

theorem shifts_endFeeder (w : Relay) (k i : Nat) :
    w.Shifts k i (fun L => L.shift .ended) (w.endFeeder k i) := by
  have hc := (calm_shut (w.modifyFeeder k i fun f => { f with phase := .ended }) k i).trans
    ((calm_wakeClaim _ k i).trans (calm_wakeLeavingHost _ k))
  exact (shifts_modifyFeeder w k i _).calm hc

/-! ## What a feeder can do -/

/-- What the feeder of a lane can do to it. -/
inductive Feeding (w : Relay) (L : Lane) : Lane → Prop where
  /-- It begins with an injected failure, and ends. -/
  | fail (e : RelayError) : L.feeder.phase = .fresh → 0 < w.broker.faults.claim →
      Feeding w L ((L.push (.failure e)).shift .ended)
  /-- It begins at the stored position. -/
  | begin : L.feeder.phase = .fresh → w.broker.faults.claim = 0 →
      Feeding w L (L.turn fun f =>
        { f with
          first := startOffset w.books.store f.source
          next := startOffset w.books.store f.source
          phase := .feeding })
  /-- The session has been told to end, or nobody reads the queue any more. -/
  | stop : L.feeder.phase ≠ .fresh → L.cancelled = true ∨ L.ended = true →
      Feeding w L (L.shift .ended)
  /-- The log has nothing more. -/
  | park : L.feeder.phase ≠ .fresh → (w.broker.log L.feeder.source)[L.feeder.next]? = none →
      Feeding w L (L.shift .parked)
  /-- The queue is full. -/
  | block : L.feeder.phase ≠ .fresh → queueLimit ≤ L.queue.backlog → Feeding w L (L.shift .blocked)
  /-- It puts the next message into the queue. -/
  | put {m : Message} : L.feeder.phase ≠ .fresh →
      (w.broker.log L.feeder.source)[L.feeder.next]? = some m → L.queue.backlog < queueLimit →
      Feeding w L ((L.turn fun f => { f with next := f.next + 1, phase := .feeding }).push (.message m))

/-- A feeder that moves does one of these things to its lane, and nothing to any other. -/
theorem feeding_of_move {f : Feeder} {c : Claim} (hm : w.FeederMove k i h f c v) :
    ∃ g, w.Shifts k i g v ∧
      w.Feeding (.of f c h.session.cancelled) (g (.of f c h.session.cancelled)) := by
  have hb := calm_broker w (Broker.log_takeClaimFault w.broker)
  cases hm with
  | fail hp hn =>
    exact ⟨_, hb.shifts ((shifts_feed _ k i _).trans (shifts_endFeeder _ k i)),
      .fail _ hp (Broker.takeClaimFault_iff.mp hn)⟩
  | begin hp hn =>
    refine ⟨_, hb.shifts (shifts_modifyFeeder _ k i _), .begin hp (Nat.eq_zero_of_not_pos fun h => ?_)⟩
    rw [Broker.takeClaimFault_iff.mpr h] at hn
    cases hn
  | stop hp _ hx => exact ⟨_, shifts_endFeeder w k i, .stop hp (.inl hx)⟩
  | park hp _ _ hm => exact ⟨_, shifts_modifyFeeder w k i _, .park hp hm⟩
  | desert hp _ _ _ he => exact ⟨_, shifts_endFeeder w k i, .stop hp (.inr he)⟩
  | put hp _ hm _ hb =>
    exact ⟨_, (shifts_modifyFeeder w k i _).trans (shifts_feed _ k i _), .put hp hm hb⟩
  | block hp _ _ _ _ hb => exact ⟨_, shifts_modifyFeeder w k i _, .block hp hb⟩

theorem feeding_of_step (hl : w.lane? k i = some L) (hs : w.stepFeeder k i = some v) :
    ∃ g, w.Shifts k i g v ∧ w.Feeding L (g L) := by
  obtain ⟨h, f, c, hk, hf, hc, hm⟩ := feederMove_of_step hs
  rw [lane_of_session hk, Hosted.lane_of_get hf hc] at hl
  cases hl
  exact feeding_of_move hm

/-- A straggler goes on as its feeder, which has begun and does not have to wait. -/
theorem feeding_of_straggler (hs : w.stepStraggler k i = some v) :
    ∃ g L, w.lane? k i = some L ∧ L.feeder.phase ≠ .fresh ∧ ¬ w.Rests L ∧ w.Shifts k i g v ∧
      w.Feeding L (g L) := by
  obtain ⟨h, f, c, hk, hf, hc, hm, hp, hstep⟩ := feederMove_of_straggler hs
  have hl := lane_eq_some_iff.mpr ⟨h, hk, Hosted.lane_of_get hf hc⟩
  obtain ⟨g, hg, hfeed⟩ := feeding_of_move hm
  refine ⟨g, _, hl, hp, fun hr => ?_, hg, hfeed⟩
  rw [(stepFeeder_eq_none_iff hl).mpr hr] at hstep
  cases hstep

theorem Feeding.begun (hm : w.Feeding L M) : M.feeder.phase ≠ .fresh := by
  cases hm <;> exact nofun

end Relay
end Sluice
