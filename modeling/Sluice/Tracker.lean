import Sluice.Gate
import Sluice.Message
import Sluice.Metrics
import Sluice.Pending
/-!
# Undelivered messages

A message that has been handed on waits under a tracking number for its delivery result. The entry
keeps the message's slot in use; taking the entry out is what gives the slot back. A delivered
message is marked on its session before its slot is free again.

`Ledger` is a window with a map of such entries, with callers that wait for slots and sessions that
note down their marks.
-/
namespace Sluice

/-- A message that waits for its result, and the session that will commit it (`TrackingEntry`). -/
structure Tracked where
  session : Nat
  message : Message
  deriving DecidableEq, Repr

/-- A mark on a session, with the number of slots that were free when it was made. -/
structure Mark where
  session : Nat
  message : Message
  free : Nat
  deriving DecidableEq, Repr

/-- A window, the entries that hold slots of it, and what came of them (`DeliveryTracker`). -/
structure Ledger where
  gate : Gate
  pending : Pending Tracked
  /-- All marks, first to last. -/
  marks : List Mark
  metrics : Metrics
  deriving DecidableEq, Repr

namespace Ledger

/-- A ledger over a fresh window. -/
def ofCapacity (n : Nat) : Ledger := ⟨Gate.ofCapacity n, [], [], .zero⟩

/-- Ends an entry: marks it, if it was delivered, and then gives its slot back (`complete`). -/
def complete (l : Ledger) (e : Tracked) (delivered : Bool) : Ledger :=
  let l := if delivered then
      { l with marks := l.marks ++ [⟨e.session, e.message, l.gate.window.free⟩] }
    else l
  { l with gate := l.gate.giveBack }

/-- Stores an entry that takes over the caller's slot (`register`). An entry that it displaces counts as
not delivered. -/
def register (l : Ledger) (slot id : Nat) (e : Tracked) : Ledger :=
  let (displaced, p) := l.pending.store id e
  let l := { l with gate := l.gate.handOver slot, pending := p }
  match displaced with
  | some old => l.complete old false
  | none => l

/-- Stores an entry for a group that has just been handed on (`track`). -/
def track (l : Ledger) (slot id : Nat) (e : Tracked) : Ledger :=
  let l := l.register slot id e
  { l with metrics := l.metrics.count .submitted }

/-- Applies a delivery result: whether there was an entry for it (`on_delivery_result`). -/
def result (l : Ledger) (id : Nat) (delivered : Bool) : Bool × Ledger :=
  match l.pending.get? id with
  | none => (false, { l with metrics := l.metrics.count .unknown })
  | some e =>
    let l := { l with
      pending := l.pending.remove id
      metrics := l.metrics.count (if delivered then .delivered else .undelivered) }
    (true, l.complete e delivered)

/-- Lets every woken caller run. -/
def settle (l : Ledger) : Ledger := { l with gate := l.gate.settle }

/-- What can be done to a ledger from outside. Only a slot that the caller has can be handed on. -/
inductive Event where
  | gate (e : Gate.Event)
  | register (slot id : Nat) (e : Tracked)
  | track (slot id : Nat) (e : Tracked)
  | result (id : Nat) (delivered : Bool)
  deriving DecidableEq, Repr

/-- One event. -/
def apply (l : Ledger) : Event → Ledger
  | .gate e => { l with gate := l.gate.apply e }
  | .register slot id e => if l.gate.has slot then l.register slot id e else l
  | .track slot id e => if l.gate.has slot then l.track slot id e else l
  | .result id delivered => (l.result id delivered).2

/-- The ledgers that a window of capacity `n` can come to, the callers moving in any order. -/
inductive Reachable (n : Nat) : Ledger → Prop where
  | start : Reachable n (ofCapacity n)
  | event {l : Ledger} (e : Event) : Reachable n l → Reachable n (l.apply e)
  | move {l : Ledger} {g : Gate} (i : Nat) :
      Reachable n l → l.gate.step i = some g → Reachable n { l with gate := g }

end Ledger
end Sluice
