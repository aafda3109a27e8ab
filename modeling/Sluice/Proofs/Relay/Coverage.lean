import Sluice.Proofs.OffsetStore
import Sluice.Proofs.Pending
import Sluice.Proofs.Queue
import Sluice.Proofs.Relay.Hosting
/-!
# What lies below a position has been read

A feeder begins where a position stands, and a claim reads what its feeder copies, in order. So
whatever lies below a position, below the beginning of a feeder, or below a message that a claim has
read, has been read by some claim of some session, and has been skipped or submitted. `Sound` says
so of the flow of a relay; every step of the flow keeps it, and so it holds of every relay.

* `Covered`: all messages below an offset have been handled.
* `sound_handling`, `sound_hosting`: every step keeps the flow sound.
-/
namespace Sluice

/-- The message that a claim read when this fate came about. -/
def Fate.read : Fate → Option Message
  | .oversize _ _ m => some m
  | .unparsed _ _ m => some m
  | .submitted _ _ m _ _ => some m
  | _ => none

/-- The message in an item. -/
def Item.message? : Item → Option Message
  | .message m => some m
  | .failure _ => none

/-- The messages that ever came into a queue. -/
def messages (q : Queue Item) : List Message := q.items.filterMap Item.message?

namespace Flow
variable {F G : Flow}

/-- A claim has read this message. -/
def Handled (F : Flow) (m : Message) : Prop := ∃ f ∈ F.history, f.read = some m

/-- All messages of a partition below an offset are there and have been handled. -/
def Covered (F : Flow) (p : Partition) (n : Nat) : Prop :=
  ∀ o < n, ∃ m, (F.log p)[o]? = some m ∧ F.Handled m

/-- A message is in its log, and it and all below it have been handled. -/
def Passed (F : Flow) (m : Message) : Prop :=
  ∃ o : Nat, (F.log m.source)[o]? = some m ∧ m.offset = o ∧ F.Covered m.source (o + 1)

/-- A claim of session `k` submitted the records of a message as this group. -/
def Submitted (F : Flow) (k : Nat) (m : Message) (id : Nat) : Prop :=
  ∃ i records, Fate.submitted k i m id records ∈ F.history

/-- What a feeder has put into a queue: the messages of its log from its beginning on, next to
failures of the broker. What lies below its beginning, and what has been taken, was handled. -/
structure Fed (F : Flow) (f : Feeder) (q : Queue Item) : Prop where
  fresh : f.phase = .fresh → messages q = []
  next : f.next = f.first + (messages q).length
  items : ∀ (j : Nat) m, (messages q)[j]? = some m → (F.log f.source)[f.first + j]? = some m
  first : F.Covered f.source f.first
  past : ∀ m, Item.message m ∈ q.past → F.Handled m

end Flow

/-- What holds of what session `k` keeps: its queues are fed, and the messages that wait for a result
are its own. -/
structure Load.Sound (F : Flow) (k : Nat) (l : Load) : Prop where
  unset : l.unset = true → l.queues = []
  fed : ∀ (i : Nat) q, l.queues[i]? = some q → ∃ f, l.feeders[i]? = some f ∧ F.Fed f q
  pending : ∀ e ∈ l.pending, F.Submitted k e.2 e.1

namespace Flow
variable {F G : Flow}

/-- What holds of a flow. That of the messages read the earlier ones have been read too is what carries
the rest: it makes positions, and with them the beginnings of feeders, stand on handled ground. -/
structure Sound (F : Flow) : Prop where
  numbered : ∀ p (o : Nat) m, (F.log p)[o]? = some m → m.source = p ∧ m.offset = o
  store : F.store = OffsetStore.ofMarks (F.history.filterMap Fate.marked)
  reads : ∀ f ∈ F.history, ∀ m, f.read = some m → F.Passed m
  loads : ∀ (k : Nat) l, F.loads[k]? = some l → l.Sound F k
  delivered : ∀ k m id, Fate.delivered k m id ∈ F.history →
    ⟨id, true⟩ ∈ F.deliveries.items ∧ F.Submitted k m id

/-- A flow in which nothing has happened is sound. -/
theorem sound_of_new (hl : F.log = fun _ => []) (hh : F.history = []) (hs : F.store = [])
    (hx : F.loads = []) : F.Sound :=
  ⟨fun p o m hm => by simp [hl] at hm, by rw [hs, hh]; rfl, fun f hm => by simp [hh] at hm,
    fun k l hm => by simp [hx] at hm, fun k m id hm => by simp [hh] at hm⟩

/-! ## Nothing is forgotten -/

/-- The flow has gone on: logs, history and results have only grown. -/
structure Grows (F G : Flow) : Prop where
  log : ∀ p (o : Nat) m, (F.log p)[o]? = some m → (G.log p)[o]? = some m
  history : ∀ f ∈ F.history, f ∈ G.history
  deliveries : ∀ d ∈ F.deliveries.items, d ∈ G.deliveries.items

theorem Grows.refl (F : Flow) : F.Grows F := ⟨fun _ _ _ h => h, fun _ h => h, fun _ h => h⟩

section Grown
variable (hg : F.Grows G)
include hg

theorem Grows.handled {m : Message} (h : F.Handled m) : G.Handled m := by
  obtain ⟨f, hf, hr⟩ := h
  exact ⟨f, hg.history f hf, hr⟩

theorem Grows.covered {p : Partition} {n : Nat} (h : F.Covered p n) : G.Covered p n := by
  intro o ho
  obtain ⟨m, hm, hd⟩ := h o ho
  exact ⟨m, hg.log p o m hm, hg.handled hd⟩

theorem Grows.passed {m : Message} (h : F.Passed m) : G.Passed m := by
  obtain ⟨o, hm, ho, hc⟩ := h
  exact ⟨o, hg.log _ o m hm, ho, hg.covered hc⟩

theorem Grows.submitted {k : Nat} {m : Message} {id : Nat} (h : F.Submitted k m id) :
    G.Submitted k m id := by
  obtain ⟨i, records, hs⟩ := h
  exact ⟨i, records, hg.history _ hs⟩

theorem Grows.fed {f : Feeder} {q : Queue Item} (h : F.Fed f q) : G.Fed f q :=
  ⟨h.fresh, h.next, fun j m hj => hg.log _ _ m (h.items j m hj), hg.covered h.first,
    fun m hm => hg.handled (h.past m hm)⟩

theorem Grows.load {k : Nat} {l : Load} (h : l.Sound F k) : l.Sound G k := by
  refine ⟨h.unset, fun i q hq => ?_, fun e he => ?_⟩
  · obtain ⟨f, hf, hd⟩ := h.fed i q hq
    exact ⟨f, hf, hg.fed hd⟩
  · exact hg.submitted (h.pending e he)

/-- Sessions are sound after one has changed, if that one is. -/
theorem Grows.loads (h : F.Sound) {k : Nat} {l : Load} {f : Load → Load}
    (hk : F.loads[k]? = some l) (hf : (f l).Sound G k) (j : Nat) (x : Load)
    (hx : (F.loads.modify k f)[j]? = some x) : x.Sound G j := by
  rcases modify_cases hx with hx | ⟨rfl, a, ha, rfl⟩
  · exact hg.load (h.loads j x hx)
  · cases Option.some.inj (hk.symm.trans ha)
    exact hf

end Grown

/-! ## Queues and their feeders -/

theorem messages_push_message (q : Queue Item) (m : Message) :
    messages (q.push (.message m)) = messages q ++ [m] := by
  simp [messages, Queue.push, Item.message?]

theorem messages_push_failure (q : Queue Item) (e : RelayError) :
    messages (q.push (.failure e)) = messages q := by
  simp [messages, Queue.push, Item.message?]

theorem messages_pop {q q' : Queue Item} {x : Item} (h : q.pop? = some (x, q')) :
    messages q' = messages q := by
  unfold messages
  rw [(Queue.items_of_pop? h).1]

/-- The messages in a queue from which one is taken: those before it have been taken. -/
theorem messages_split {q q' : Queue Item} {m : Message} (h : q.pop? = some (.message m, q')) :
    messages q =
      q.past.filterMap Item.message? ++ m :: q'.waiting.filterMap Item.message? := by
  unfold messages
  rw [← q.past_append_waiting, List.filterMap_append, Queue.waiting_of_pop? h]
  rfl

theorem mem_past_messages {q : Queue Item} {m : Message} :
    m ∈ q.past.filterMap Item.message? ↔ Item.message m ∈ q.past := by
  rw [List.mem_filterMap]
  refine ⟨fun ⟨x, hx, he⟩ => ?_, fun h => ⟨_, h, rfl⟩⟩
  cases x with
  | message m' =>
    cases he
    exact hx
  | failure e => cases he

/-- The message that a claim takes from its queue is in the log, and all below it have been
handled. -/
theorem Fed.through {f : Feeder} {q q' : Queue Item} {m : Message} (h : F.Fed f q)
    (hq : q.pop? = some (.message m, q')) :
    ∃ o, (F.log f.source)[o]? = some m ∧ F.Covered f.source o := by
  have hs := messages_split hq
  have hm : (messages q)[(q.past.filterMap Item.message?).length]? = some m := by
    rw [hs]
    simp
  refine ⟨_, h.items _ m hm, fun o ho => ?_⟩
  by_cases hf : o < f.first
  · exact h.first o hf
  · -- Below the message but not below the beginning: it was taken from this queue before.
    obtain ⟨j, rfl⟩ := Nat.exists_eq_add_of_le (Nat.le_of_not_lt hf)
    have hj : j < (q.past.filterMap Item.message?).length := by omega
    have hx : (messages q)[j]? = some (q.past.filterMap Item.message?)[j] := by
      rw [hs, List.getElem?_append_left hj, List.getElem?_eq_getElem hj]
    exact ⟨_, h.items j _ hx, h.past _ (mem_past_messages.mp (List.getElem_mem hj))⟩

/-- Taking an item keeps a queue fed, once the message in it has been handled. -/
theorem Fed.read {f : Feeder} {q q' : Queue Item} {x : Item} (h : F.Fed f q)
    (hq : q.pop? = some (x, q')) (hx : ∀ m, x = .message m → F.Handled m) : F.Fed f q' := by
  have hm := messages_pop hq
  refine ⟨fun hp => hm.trans (h.fresh hp), by rw [hm]; exact h.next, by rw [hm]; exact h.items,
    h.first, fun m hp => ?_⟩
  rcases (Queue.mem_past_of_pop? hq).mp hp with hp | hp
  · exact h.past m hp
  · exact hx m hp.symm

/-- One queue and its feeder change, and the others stay fed. -/
theorem fed_modify {k : Nat} {l : Load} (h : l.Sound F k) {i : Nat} {g : Queue Item → Queue Item}
    {t : Feeder → Feeder}
    (hi : ∀ q f, l.queues[i]? = some q → l.feeders[i]? = some f → F.Fed f q → F.Fed (t f) (g q))
    (j : Nat) (q : Queue Item) (hq : (l.queues.modify i g)[j]? = some q) :
    ∃ f, (l.feeders.modify i t)[j]? = some f ∧ F.Fed f q := by
  rw [List.getElem?_modify] at hq
  obtain ⟨q₀, hq₀, rfl⟩ := Option.map_eq_some_iff.mp hq
  obtain ⟨f, hf, hd⟩ := h.fed j q₀ hq₀
  refine ⟨if i = j then t f else f, by simp [List.getElem?_modify, hf], ?_⟩
  by_cases hj : i = j
  · subst hj
    rw [if_pos rfl, if_pos rfl]
    exact hi q₀ f hq₀ hf hd
  · rw [if_neg hj, if_neg hj]
    exact hd

/-! ## How the flow goes on -/

theorem Grows.note (hg : F.Grows G) (f : Fate) : F.Grows (G.note f) :=
  ⟨hg.log, fun x hx => List.mem_append_left _ (hg.history x hx), hg.deliveries⟩

theorem Grows.modify (hg : F.Grows G) (k : Nat) (f : Load → Load) : F.Grows (G.modify k f) :=
  ⟨hg.log, hg.history, hg.deliveries⟩

theorem grows_took {d : Delivery} {ds : Queue Delivery} (hd : F.deliveries.pop? = some (d, ds)) :
    F.Grows (F.took ds) :=
  ⟨fun _ _ _ h => h, fun _ h => h, fun x hx => by
    show x ∈ ds.items
    rwa [(Queue.items_of_pop? hd).1]⟩

theorem mem_items_push {q : Queue Delivery} {d x : Delivery} (h : d ∈ q.items) :
    d ∈ (q.push x).items := List.mem_append_left _ h

theorem grows_numbered {ds : Queue Delivery}
    (hd : ds = F.deliveries ∨ ∃ x, ds = F.deliveries.push ⟨F.nextId, x⟩) :
    F.Grows (F.numbered ds) := by
  refine ⟨fun _ _ _ h => h, fun _ h => h, fun d h => ?_⟩
  rcases hd with rfl | ⟨x, rfl⟩
  · exact h
  · exact mem_items_push h

theorem handled_note {f : Fate} {m : Message} (h : f.read = some m) : (F.note f).Handled m :=
  ⟨f, List.mem_append_right _ (List.mem_singleton_self f), h⟩

/-- A step that writes nothing down keeps a flow sound if it keeps its sessions so. -/
theorem sound_of_grows (h : F.Sound) (hg : F.Grows G) (hh : G.history = F.history)
    (hs : G.store = F.store) (hn : ∀ p (o : Nat) m, (G.log p)[o]? = some m → m.source = p ∧ m.offset = o)
    (hl : ∀ (k : Nat) l, G.loads[k]? = some l → l.Sound G k) : G.Sound := by
  refine ⟨hn, by rw [hs, hh]; exact h.store, fun f hf m hm => ?_, hl, fun k m id hd => ?_⟩
  · rw [hh] at hf
    exact hg.passed (h.reads f hf m hm)
  · rw [hh] at hd
    obtain ⟨hi, hx⟩ := h.delivered k m id hd
    exact ⟨hg.deliveries _ hi, hg.submitted hx⟩

/-- So does a step that writes a fate down, if the message that was read with it was passed. -/
theorem sound_of_note {f : Fate} (h : F.Sound) (hg : F.Grows G) (hh : G.history = F.history)
    (hs : G.store = F.store) (hl : G.log = F.log)
    (hm : ∀ m, f.read = some m → (G.note f).Passed m)
    (hd : ∀ k m id, f = .delivered k m id → ⟨id, true⟩ ∈ G.deliveries.items ∧ F.Submitted k m id)
    (hx : ∀ (k : Nat) l, G.loads[k]? = some l → l.Sound (G.note f) k) : (G.note f).Sound := by
  have hn := hg.note f
  refine ⟨fun p o m => by rw [note, hl]; exact h.numbered p o m, ?_, fun x hmem m hr => ?_, hx,
    fun k m id hmem => ?_⟩
  · show _ = OffsetStore.ofMarks ((G.history ++ [f]).filterMap Fate.marked)
    rw [List.filterMap_append, hh]
    cases hf : f.marked with
    | none => simp [note, hf, hs, h.store]
    | some m => simp [note, hf, hs, h.store, OffsetStore.ofMarks_append]
  · rcases List.mem_append.mp hmem with hmem | hmem
    · rw [hh] at hmem
      exact hn.passed (h.reads x hmem m hr)
    · rw [List.mem_singleton.mp hmem] at hr
      exact hm m hr
  · rcases List.mem_append.mp hmem with hmem | hmem
    · rw [hh] at hmem
      obtain ⟨hi, hs⟩ := h.delivered k m id hmem
      exact ⟨hn.deliveries _ hi, hn.submitted hs⟩
    · obtain ⟨hi, hs⟩ := hd k m id (List.mem_singleton.mp hmem).symm
      exact ⟨hi, hn.submitted hs⟩

/-- A message that was marked had been read. -/
theorem Sound.marks (h : F.Sound) {m : Message} (hm : m ∈ F.history.filterMap Fate.marked) :
    F.Passed m := by
  obtain ⟨f, hf, he⟩ := List.mem_filterMap.mp hm
  cases f with
  | oversize k i m' => exact h.reads _ hf m he
  | delivered k m' id =>
    cases he
    obtain ⟨-, i, records, hs⟩ := h.delivered k m id hf
    exact h.reads _ hs m rfl
  | _ => cases he

/-- Where a position stands, everything below has been handled. -/
theorem Sound.position (h : F.Sound) {p : Partition} {z : Int} (hp : F.store.position p = some z) :
    ∃ n : Nat, z = n ∧ F.Covered p n := by
  rw [h.store] at hp
  obtain ⟨⟨m, hm, rfl, rfl⟩, -⟩ := OffsetStore.position_eq_some_iff.mp hp
  obtain ⟨o, -, ho, hc⟩ := h.marks hm
  exact ⟨o + 1, by omega, hc⟩

theorem Sound.startOffset (h : F.Sound) (p : Partition) :
    F.Covered p (Relay.startOffset F.store p) := by
  unfold Relay.startOffset
  cases hp : F.store.position p with
  | none =>
    intro o ho
    simp at ho
  | some z =>
    obtain ⟨n, rfl, hc⟩ := h.position hp
    simpa using hc

/-! ## Handling keeps a flow sound -/

variable {l : Load} {k i : Nat} {q q' : Queue Item}

/-- A claim takes an item, and what was in it has been handled. -/
theorem load_read {x : Item} (h : l.Sound F k) (hi : l.queues[i]? = some q)
    (hq : q.pop? = some (x, q')) (hx : ∀ m, x = .message m → F.Handled m) :
    (l.read i q').Sound F k := by
  refine ⟨fun hu => by simp [Load.read, h.unset hu], fun j q hj => ?_, h.pending⟩
  have := fed_modify h (i := i) (g := fun _ => q') (t := id)
    (fun q₀ f hq₀ _ hd => by cases Option.some.inj (hi.symm.trans hq₀); exact hd.read hq hx) j q hj
  rwa [List.modify_id] at this

/-- The message that a claim takes has been passed, once it has been handled. -/
theorem passed_of_pop {m : Message} (h : F.Sound) (hg : F.Grows G) (hk : F.loads[k]? = some l)
    (hi : l.queues[i]? = some q) (hq : q.pop? = some (.message m, q')) (hm : G.Handled m) :
    G.Passed m := by
  obtain ⟨f, -, hd⟩ := (h.loads k l hk).fed i q hi
  obtain ⟨o, ho, hc⟩ := hd.through hq
  obtain ⟨hs, hn⟩ := h.numbered _ o m ho
  rw [← hs] at ho hc
  refine ⟨o, hg.log _ o m ho, hn, fun j hj => ?_⟩
  rcases Nat.lt_succ_iff_lt_or_eq.mp hj with hj | rfl
  · exact hg.covered hc j hj
  · exact ⟨m, hg.log _ _ m ho, hm⟩

/-- A claim reads a message, and its fate is written down. -/
theorem sound_read {m : Message} {f : Fate} (h : F.Sound) (hk : F.loads[k]? = some l)
    (hi : l.queues[i]? = some q) (hq : q.pop? = some (.message m, q')) (hf : f.read = some m) :
    ((F.modify k fun l => l.read i q').note f).Sound := by
  have hg := (Grows.refl F).modify k fun l => l.read i q'
  have hn := hg.note f
  refine sound_of_note h hg rfl rfl rfl (fun m' hm' => ?_) (fun _ _ _ hd => ?_)
    (hn.loads h hk (load_read (hn.load (h.loads k l hk)) hi hq fun m' hm' => ?_))
  · cases Option.some.inj (hf.symm.trans hm')
    exact passed_of_pop h hn hk hi hq (handled_note hf)
  · subst hd
    cases hf
  · cases hm'
    exact handled_note hf

/-- A confirmer takes the result for a message of its session, and its fate is written down. -/
theorem sound_settle {d : Delivery} {ds : Queue Delivery} {f : Fate} (h : F.Sound)
    (hk : F.loads[k]? = some l) (hd : F.deliveries.pop? = some (d, ds)) (hf : f.read = none)
    (hx : ∀ k' m id, f = .delivered k' m id →
      ⟨id, true⟩ ∈ F.deliveries.items ∧ F.Submitted k' m id) :
    (((F.took ds).modify k fun l => l.settle d.id).note f).Sound := by
  have hg := (grows_took hd).modify k fun l => l.settle d.id
  have hn := hg.note f
  have hl := hn.load (h.loads k l hk)
  refine sound_of_note h hg rfl rfl rfl (fun m hm => ?_) (fun k' m id he => ?_)
    (hn.loads h hk ⟨hl.unset, hl.fed, fun e he => hl.pending e (Pending.mem_of_mem_remove he)⟩)
  · rw [hf] at hm
    cases hm
  · obtain ⟨hi, hs⟩ := hx k' m id he
    exact ⟨hg.deliveries _ hi, hs⟩

theorem sound_handling {o : Option Fate} (h : F.Sound) (hs : F.Handling o G) : G.Sound := by
  cases hs with
  | nothing => exact h
  | @spoil k i l q e q' hk hi hq =>
    have hg := (Grows.refl F).modify k fun l => l.read i q'
    exact sound_of_grows h hg rfl rfl h.numbered
      (hg.loads h hk (load_read (hg.load (h.loads k l hk)) hi hq nofun))
  | oversize hk hi hq _ => exact sound_read h hk hi hq rfl
  | unparsed hk hi hq _ _ => exact sound_read h hk hi hq rfl
  | @submit k i l q m q' xs records ds hk hi hq _ _ hd =>
    have hg := (grows_numbered hd).modify k fun l => (l.read i q').await F.nextId m
    have hn := hg.note (.submitted k i m F.nextId records)
    have hl := hn.load (h.loads k l hk)
    have hr := load_read hl hi hq fun m' hm' => by
      cases hm'
      exact handled_note rfl
    refine sound_of_note h hg rfl rfl rfl (fun m' hm' => ?_) nofun
      (hn.loads h hk ⟨hr.unset, hr.fed, fun e he => ?_⟩)
    · cases hm'
      exact passed_of_pop h hn hk hi hq (handled_note rfl)
    · rcases Pending.mem_store he with he | rfl
      · exact hl.pending e he
      · exact ⟨i, records, List.mem_append_right _ (List.mem_singleton_self _)⟩
  | @unknown k l d ds hk hd _ =>
    have hg := grows_took hd
    have hn := hg.note (.unknown k d.id d.delivered)
    exact sound_of_note h hg rfl rfl rfl nofun nofun fun j l hl => hn.load (h.loads j l hl)
  | @delivered k l d ds m hk hd hm hx =>
    refine sound_settle h hk hd rfl fun k' m' id he => ?_
    cases he
    refine ⟨?_, (h.loads k l hk).pending _ (Pending.mem_of_get? hm)⟩
    rw [← hx]
    exact Queue.mem_items_of_pop? hd
  | undelivered hk hd _ _ => exact sound_settle h hk hd rfl nofun

/-! ## Hosting keeps a flow sound -/

/-- A queue and its feeder change so that the queue stays fed. -/
theorem load_change {g : Queue Item → Queue Item} {t : Feeder → Feeder} {f : Feeder}
    (h : l.Sound F k) (hf : l.feeders[i]? = some f) (ht : ∀ q, F.Fed f q → F.Fed (t f) (g q)) :
    Load.Sound F k { l with queues := l.queues.modify i g, feeders := l.feeders.modify i t } :=
  ⟨fun hu => by simp [h.unset hu],
    fed_modify h fun q f' _ hf' hd => by cases Option.some.inj (hf.symm.trans hf'); exact ht q hd,
    h.pending⟩

/-- A feeder changes so that its queue stays fed. -/
theorem load_turn {t : Feeder → Feeder} {f : Feeder} (h : l.Sound F k)
    (hf : l.feeders[i]? = some f) (ht : ∀ q, F.Fed f q → F.Fed (t f) q) :
    (l.turn i t).Sound F k := by
  have := load_change (g := id) h hf ht
  rwa [List.modify_id] at this

/-- A failure is none of the messages that a feeder puts into a queue. -/
theorem Fed.failure {f : Feeder} {q : Queue Item} (h : F.Fed f q) (e : RelayError) :
    F.Fed { f with phase := .ended } (q.push (.failure e)) := by
  have hm := messages_push_failure q e
  refine ⟨nofun, by rw [hm]; exact h.next, by rw [hm]; exact h.items, h.first,
    fun m hp => h.past m ?_⟩
  rwa [Queue.past_push] at hp

/-- A feeder puts the next message of its log into its queue. -/
theorem Fed.supply {f : Feeder} {q : Queue Item} {m : Message} (h : F.Fed f q)
    (hm : (F.log f.source)[f.next]? = some m) :
    F.Fed { f with next := f.next + 1, phase := .feeding } (q.push (.message m)) := by
  have he := messages_push_message q m
  have hn := h.next
  refine ⟨nofun, ?_, fun j m' hj => ?_, h.first, fun m' hp => h.past m' ?_⟩
  · rw [he, List.length_append]
    show f.next + 1 = f.first + ((messages q).length + 1)
    omega
  · rw [he, List.getElem?_append] at hj
    split at hj
    · exact h.items j m' hj
    · -- The new message is the last, and its place in the log is the feeder's next offset.
      next hlt =>
      have hz : j - (messages q).length = 0 := by
        by_contra hne
        rw [List.getElem?_eq_none (by simp; omega)] at hj
        cases hj
      rw [hz] at hj
      cases hj
      rw [show f.first + j = f.next by omega]
      exact hm
  · rwa [Queue.past_push] at hp

/-- A feeder that begins has put nothing into its queue. -/
theorem Fed.begin {f : Feeder} {q : Queue Item} (h : F.Fed f q) (hs : F.Sound)
    (hf : f.phase = .fresh) :
    F.Fed { f with
      first := Relay.startOffset F.store f.source
      next := Relay.startOffset F.store f.source
      phase := .feeding } q := by
  have hm := h.fresh hf
  exact ⟨nofun, by rw [hm]; rfl, fun j m hj => by simp [hm] at hj,
    hs.startOffset _, h.past⟩

theorem fed_fresh (F : Flow) (p : Partition) : F.Fed ⟨p, 0, 0, .fresh⟩ .empty :=
  ⟨fun _ => rfl, rfl, fun j m hj => by simp [messages, Queue.empty] at hj,
    fun o ho => absurd ho (Nat.not_lt_zero o), fun m hm => by simp [Queue.past, Queue.empty] at hm⟩

/-- A session that is set up has fed all its queues. -/
theorem load_assign (h : l.Sound F k) (hu : l.unset = true) (ps : List Partition) :
    (l.assign ps).Sound F k := by
  refine ⟨nofun, fun i q hq => ?_, h.pending⟩
  simp only [Load.assign, h.unset hu, List.nil_append, List.getElem?_map,
    Option.map_eq_some_iff] at hq ⊢
  obtain ⟨p, hp, rfl⟩ := hq
  exact ⟨_, ⟨p, hp, rfl⟩, fed_fresh F p⟩

/-- An old message keeps its place in a log. -/
theorem grows_append (F : Flow) (p : Partition) (m : Message) :
    F.Grows { F with log := Function.update F.log p (F.log p ++ [m]) } := by
  refine ⟨fun q o x hx => ?_, fun _ h => h, fun _ h => h⟩
  show (Function.update F.log p (F.log p ++ [m]) q)[o]? = some x
  rw [Function.update_apply]
  split
  · next hq =>
    subst hq
    obtain ⟨hl, -⟩ := List.getElem?_eq_some_iff.mp hx
    rw [List.getElem?_append_left hl]
    exact hx
  · exact hx

theorem sound_hosting (h : F.Sound) (hs : F.Hosting G) : G.Sound := by
  have hmod := fun k f => (Grows.refl F).modify k f
  have hold := fun {k : Nat} {l : Load} f (hk : F.loads[k]? = some l) =>
    (hmod k f).load (h.loads k l hk)
  cases hs with
  | nothing => exact h
  | enlist r hr =>
    refine sound_of_grows h ⟨fun _ _ _ h => h, fun _ h => h, fun _ h => h⟩ rfl rfl h.numbered
      fun j l hl => ?_
    rw [List.getElem?_append] at hl
    split at hl
    · have hg : F.Grows { F with loads := F.loads ++ [⟨r, true, [], [], []⟩] } :=
        ⟨fun _ _ _ h => h, fun _ h => h, fun _ h => h⟩
      exact hg.load (h.loads j l hl)
    · obtain ⟨-, rfl⟩ : j - F.loads.length = 0 ∧ _ = l := by
        simpa [List.getElem?_singleton] using hl
      exact ⟨fun _ => rfl, fun i q hq => by simp at hq, fun e he => by simp at he⟩
  | assign ps hk hu =>
    exact sound_of_grows h (hmod _ _) rfl rfl h.numbered
      ((hmod _ _).loads h hk (load_assign (hold _ hk) hu ps))
  | fail e hk hf hp =>
    exact sound_of_grows h (hmod _ _) rfl rfl h.numbered
      ((hmod _ _).loads h hk (load_change (hold _ hk) hf fun q hd => hd.failure e))
  | begin hk hf hp =>
    refine sound_of_grows h (hmod _ _) rfl rfl h.numbered
      ((hmod _ _).loads h hk ((hmod _ _).load ?_))
    exact load_turn (h.loads _ _ hk) hf fun q hd => hd.begin h hp
  | rest p hk hf hp hq =>
    exact sound_of_grows h (hmod _ _) rfl rfl h.numbered
      ((hmod _ _).loads h hk (load_turn (hold _ hk) hf fun q hd =>
        ⟨fun e => absurd e hq, hd.next, hd.items, hd.first, hd.past⟩))
  | supply hk hf hp hm =>
    exact sound_of_grows h (hmod _ _) rfl rfl h.numbered
      ((hmod _ _).loads h hk (load_change (hold _ hk) hf fun q hd => hd.supply hm))
  | append p payload =>
    have hg := grows_append F p (.plain p.topic p.index (F.log p).length payload)
    refine sound_of_grows h hg rfl rfl (fun q o m hm => ?_) fun j l hl => hg.load (h.loads j l hl)
    simp only [Function.update_apply] at hm
    split at hm
    · next hq =>
      subst hq
      rw [List.getElem?_append] at hm
      split at hm
      · exact h.numbered q o m hm
      · next hlt =>
        obtain ⟨hz, rfl⟩ : o - (F.log q).length = 0 ∧ _ = m := by
          simpa [List.getElem?_singleton] using hm
        exact ⟨rfl, by simp [Message.plain]; omega⟩
    · exact h.numbered q o m hm
  | confirm d =>
    have hg : F.Grows { F with deliveries := F.deliveries.push d } :=
      ⟨fun _ _ _ h => h, fun _ h => h, fun _ h => mem_items_push h⟩
    exact sound_of_grows h hg rfl rfl h.numbered fun j l hl => hg.load (h.loads j l hl)

end Flow
end Sluice
