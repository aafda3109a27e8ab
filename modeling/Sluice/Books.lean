import Sluice.Message
import Sluice.Metrics
import Sluice.Sink
/-!
# The books

What all sessions of a relay share: the sink they submit to, the counters, the stored offsets, and
the history of what became of every message. Offsets are stored by `Books.mark` alone.
-/
namespace Sluice

/-- What became of a message or of a result. Sessions and their claims are numbered. -/
inductive Fate where
  /-- A message over the length limit was skipped. -/
  | oversize (session claim : Nat) (message : Message)
  /-- A message without records was skipped. -/
  | unparsed (session claim : Nat) (message : Message)
  /-- The records of a message were submitted as a group. -/
  | submitted (session claim : Nat) (message : Message) (id : Nat) (records : List Record)
  /-- The group of a message was delivered. -/
  | delivered (session : Nat) (message : Message) (id : Nat)
  /-- The group of a message was not delivered. -/
  | undelivered (session : Nat) (message : Message) (id : Nat)
  /-- A result came for a group that no message of the session waits for. -/
  | unknown (session id : Nat) (delivered : Bool)

/-- The message that a fate marks as done: one that was delivered, or can never be. -/
def Fate.marked : Fate → Option Message
  | .oversize _ _ m => some m
  | .delivered _ m _ => some m
  | _ => none

/-- What the sessions of a relay share. -/
structure Books where
  sink : Sink
  metrics : Metrics
  /-- The stored offsets. -/
  store : OffsetStore
  /-- What became of messages, first to last. -/
  history : List Fate

namespace Books

/-- Books with nothing in them. -/
def empty : Books := ⟨.empty, .zero, [], []⟩

/-- Counts an event. -/
def count (b : Books) (e : Metrics.Event) : Books := { b with metrics := b.metrics.count e }

/-- Writes down what became of a message. -/
def note (b : Books) (f : Fate) : Books := { b with history := b.history ++ [f] }

/-- Stores the offset of a message that is done. -/
def mark (b : Books) (m : Message) : Books := { b with store := (b.store.mark m.source m.offset).2 }

/-- Shows an error to the operator. -/
def report (b : Books) (e : RelayError) : Books := { b with sink := b.sink.report e }

/-- The messages marked as done, first to last. -/
def marks (b : Books) : List Message := b.history.filterMap Fate.marked

end Books
end Sluice
