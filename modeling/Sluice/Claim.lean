import Sluice.Error
import Sluice.Message
import Sluice.Queue
/-!
# Claims

A claim reads one partition during one session, from a queue that the broker fills. A claim asks for
a slot before it reads an item, so a claim that waits for an item holds a slot all the while.
-/
namespace Sluice

/-- What a broker puts into the queue of a claim. -/
inductive Item where
  | message (m : Message)
  | failure (e : RelayError)
  deriving DecidableEq, Repr

namespace Claim

/-- What a claim does. -/
inductive Phase where
  /-- It is about to ask for a slot. -/
  | admitting
  /-- It stands in line for a slot. -/
  | queued
  /-- It has a slot and reads the next item, once there is one. -/
  | reading
  /-- It has ended, possibly with a failure. -/
  | ended (failure : Option RelayError)
  deriving DecidableEq, Repr

end Claim

/-- A claim on a partition (`Claim`, with the call of `consume_claim` that reads it). -/
structure Claim where
  topic : String
  partition : Int
  queue : Queue Item
  /-- Whether more items can come. -/
  isOpen : Bool
  phase : Claim.Phase
  deriving DecidableEq, Repr

namespace Claim

/-- A new claim. -/
def start (topic : String) (partition : Int) : Claim := ⟨topic, partition, .empty, true, .admitting⟩

/-- The partition it reads. -/
def source (c : Claim) : Partition := ⟨c.topic, c.partition⟩

/-- Puts an item into the queue. -/
def push (c : Claim) (i : Item) : Claim := { c with queue := c.queue.push i }

/-- Whether it has ended. -/
def hasEnded (c : Claim) : Bool := c.phase matches .ended _

/-- The failure it has ended with. -/
def failure? (c : Claim) : Option RelayError :=
  match c.phase with
  | .ended e => e
  | _ => none

/-- Whether items still go into the queue. -/
def accepts (c : Claim) : Bool := c.isOpen && !c.hasEnded

end Claim
end Sluice
