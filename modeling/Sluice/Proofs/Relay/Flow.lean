import Mathlib.Logic.Function.Basic
import Sluice.Proofs.Session.Moves
import Sluice.Relay
/-!
# How messages flow through a relay

Of a relay, `Relay.flow` keeps what decides which messages are read and where positions stand: the
logs, the feeders and the queues they fill, the entries that wait for results, the results, the
history and the stored offsets. Groups, calls, the supervisor, slots, timers and the line of woken
tasks are left out.

`Handling` is what the tasks of a session can do to the flow, each with the fate that is written
down; `Hosting` is what everything else can do. Only the first writes to the history or moves a
position, so what is shown of stored offsets is shown by going through its seven cases.
-/
namespace Sluice

/-- What a session keeps of the flow. The feeders and the queues go together, one each. -/
structure Load where
  rules : Rules
  /-- Whether the session has yet to be set up. -/
  unset : Bool
  queues : List (Queue Item)
  pending : Pending Message
  feeders : List Feeder

/-- The flow of messages through a relay. -/
structure Flow where
  store : OffsetStore
  history : List Fate
  deliveries : Queue Delivery
  nextId : Nat
  log : Partition → List Message
  /-- How the supervisor wants messages handled, if there is one. -/
  ruled : Option Rules
  loads : List Load

/-- What a hosted session keeps of the flow. -/
def Hosted.load (h : Hosted) : Load :=
  ⟨h.rules, h.session.stage == .idle, h.session.queues, h.session.pending, h.feeders⟩

/-- The flow of messages through a relay. -/
def Relay.flow (w : Relay) : Flow :=
  ⟨w.books.store, w.books.history, w.books.sink.deliveries, w.books.sink.nextId, w.broker.log,
    w.supervisor.map fun s => s.settings.rules, w.sessions.map Hosted.load⟩

namespace Load

/-- Queue `i` is left as `q` by whoever took its head. -/
def read (l : Load) (i : Nat) (q : Queue Item) : Load :=
  { l with queues := l.queues.modify i fun _ => q }

/-- An item comes into queue `i`. -/
def push (l : Load) (i : Nat) (x : Item) : Load :=
  { l with queues := l.queues.modify i fun q => q.push x }

/-- Feeder `i` changes. -/
def turn (l : Load) (i : Nat) (f : Feeder → Feeder) : Load :=
  { l with feeders := l.feeders.modify i f }

/-- Message `m` waits for the result of group `id`. -/
def await (l : Load) (id : Nat) (m : Message) : Load :=
  { l with pending := (l.pending.store id m).2 }

/-- Nobody waits for the result of group `id` any more. -/
def settle (l : Load) (id : Nat) : Load := { l with pending := l.pending.remove id }

/-- The session is set up for these partitions. -/
def assign (l : Load) (ps : List Partition) : Load :=
  { l with
    unset := false
    queues := l.queues ++ ps.map fun _ => .empty
    feeders := ps.map fun p => ⟨p, 0, 0, .fresh⟩ }

end Load

namespace Flow

/-- Changes what session `k` keeps. -/
def modify (F : Flow) (k : Nat) (f : Load → Load) : Flow := { F with loads := F.loads.modify k f }

/-- Writes down a fate. The message that it marks as done moves the position of its partition. -/
def note (F : Flow) (f : Fate) : Flow :=
  { F with
    history := F.history ++ [f]
    store := match f.marked with
      | some m => (F.store.mark m.source m.offset).2
      | none => F.store }

/-- The results that are left. -/
def took (F : Flow) (ds : Queue Delivery) : Flow := { F with deliveries := ds }

/-- A group has been numbered; its result may have been queued at once. -/
def numbered (F : Flow) (ds : Queue Delivery) : Flow :=
  { F with deliveries := ds, nextId := F.nextId + 1 }

theorem modify_modify (F : Flow) (k : Nat) (f g : Load → Load) :
    (F.modify k f).modify k g = F.modify k fun l => g (f l) := by
  unfold modify
  simp only [List.modify_modify_eq]
  rfl

theorem modify_same (F : Flow) (k : Nat) : F.modify k (fun l => l) = F := by
  unfold modify
  rw [show (fun l : Load => l) = id from rfl, List.modify_id]

theorem modify_eq {F : Flow} {k : Nat} {l : Load} {f g : Load → Load}
    (hk : F.loads[k]? = some l) (h : f l = g l) : F.modify k f = F.modify k g := by
  unfold modify
  rw [modify_congr F.loads k (f := f) (g := g) fun a ha => by rw [hk] at ha; cases ha; exact h]

variable (F : Flow)

/-- What a task of a session can do, and the fate that it writes down. -/
inductive Handling : Option Fate → Flow → Prop where
  /-- It reads no item and no result. -/
  | nothing : Handling none F
  /-- A claim reads a failure of the broker. -/
  | spoil {k i l q e q'} : F.loads[k]? = some l → l.queues[i]? = some q →
      q.pop? = some (.failure e, q') → Handling none (F.modify k fun l => l.read i q')
  /-- A claim reads a message that is too long. -/
  | oversize {k i l q m q'} : F.loads[k]? = some l → l.queues[i]? = some q →
      q.pop? = some (.message m, q') → l.rules.tooLong m = true →
      Handling (some (.oversize k i m))
        ((F.modify k fun l => l.read i q').note (.oversize k i m))
  /-- A claim reads a message without records. -/
  | unparsed {k i l q m q' e} : F.loads[k]? = some l → l.queues[i]? = some q →
      q.pop? = some (.message m, q') → l.rules.tooLong m = false →
      l.rules.parse m.payload = .error e →
      Handling (some (.unparsed k i m))
        ((F.modify k fun l => l.read i q').note (.unparsed k i m))
  /-- A claim reads a message and submits its records. -/
  | submit {k i l q m q' xs records ds} : F.loads[k]? = some l → l.queues[i]? = some q →
      q.pop? = some (.message m, q') → l.rules.tooLong m = false →
      l.rules.parse m.payload = .ok xs →
      (ds = F.deliveries ∨ ∃ x, ds = F.deliveries.push ⟨F.nextId, x⟩) →
      Handling (some (.submitted k i m F.nextId records))
        (((F.numbered ds).modify k fun l => (l.read i q').await F.nextId m).note
          (.submitted k i m F.nextId records))
  /-- A confirmer takes a result that no message of its session waits for. -/
  | unknown {k l d ds} : F.loads[k]? = some l → F.deliveries.pop? = some (d, ds) →
      l.pending.get? d.id = none →
      Handling (some (.unknown k d.id d.delivered))
        ((F.took ds).note (.unknown k d.id d.delivered))
  /-- A confirmer takes the result that a message was delivered. -/
  | delivered {k l d ds m} : F.loads[k]? = some l → F.deliveries.pop? = some (d, ds) →
      l.pending.get? d.id = some m → d.delivered = true →
      Handling (some (.delivered k m d.id))
        (((F.took ds).modify k fun l => l.settle d.id).note (.delivered k m d.id))
  /-- A confirmer takes the result that a message was not delivered. -/
  | undelivered {k l d ds m} : F.loads[k]? = some l → F.deliveries.pop? = some (d, ds) →
      l.pending.get? d.id = some m → d.delivered = false →
      Handling (some (.undelivered k m d.id))
        (((F.took ds).modify k fun l => l.settle d.id).note (.undelivered k m d.id))

/-- What everything but the tasks of sessions can do. -/
inductive Hosting : Flow → Prop where
  | nothing : Hosting F
  /-- A session is added. A supervisor gives it its own rules. -/
  | enlist (r : Rules) : (F.ruled = none ∨ F.ruled = some r) →
      Hosting { F with loads := F.loads ++ [⟨r, true, [], [], []⟩] }
  /-- A session is set up for some partitions. -/
  | assign {k l} (ps : List Partition) : F.loads[k]? = some l → l.unset = true →
      Hosting (F.modify k fun l => l.assign ps)
  /-- A feeder cannot begin: a failure is all that comes into its queue. -/
  | fail {k i l f} (e : RelayError) : F.loads[k]? = some l → l.feeders[i]? = some f →
      f.phase = .fresh →
      Hosting (F.modify k fun l => (l.push i (.failure e)).turn i fun f => { f with phase := .ended })
  /-- A feeder begins at the stored position. -/
  | begin {k i l f} : F.loads[k]? = some l → l.feeders[i]? = some f → f.phase = .fresh →
      Hosting (F.modify k fun l => l.turn i fun f =>
        { f with
          first := Relay.startOffset F.store f.source
          next := Relay.startOffset F.store f.source
          phase := .feeding })
  /-- A feeder that has begun goes over to another phase. -/
  | rest {k i l f} (p : Feeder.Phase) : F.loads[k]? = some l → l.feeders[i]? = some f →
      f.phase ≠ .fresh → p ≠ .fresh →
      Hosting (F.modify k fun l => l.turn i fun f => { f with phase := p })
  /-- A feeder puts the next message of its log into its queue. -/
  | supply {k i l f m} : F.loads[k]? = some l → l.feeders[i]? = some f → f.phase ≠ .fresh →
      (F.log f.source)[f.next]? = some m →
      Hosting (F.modify k fun l => (l.push i (.message m)).turn i fun f =>
        { f with next := f.next + 1, phase := .feeding })
  /-- A message is appended to a log. -/
  | append (p : Partition) (payload : List UInt8) :
      Hosting { F with
        log := Function.update F.log p
          (F.log p ++ [.plain p.topic p.index (F.log p).length payload]) }
  /-- A result is queued. -/
  | confirm (d : Delivery) : Hosting { F with deliveries := F.deliveries.push d }

variable {F} {G : Flow}

/-- Hosting writes nothing down and moves no position. -/
theorem Hosting.same (h : F.Hosting G) : G.history = F.history ∧ G.store = F.store := by
  cases h <;> exact ⟨rfl, rfl⟩

/-- The supervisor's rules never change. -/
theorem Hosting.ruled (h : F.Hosting G) : G.ruled = F.ruled := by
  cases h <;> rfl

theorem Handling.ruled {o : Option Fate} (h : F.Handling o G) : G.ruled = F.ruled := by
  cases h <;> rfl

end Flow
end Sluice
