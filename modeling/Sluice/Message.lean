import Sluice.OffsetStore
/-!
# Messages

A message as a broker hands it out.
-/
namespace Sluice

/-- A message of a partition (`RawMessage`). -/
structure Message where
  topic : String
  partition : Int
  offset : Int
  key : Option (List UInt8)
  payload : List UInt8
  timestamp : Option Int
  deriving DecidableEq, Repr

namespace Message

/-- A message without key and timestamp. -/
def plain (topic : String) (partition offset : Int) (payload : List UInt8) : Message :=
  ⟨topic, partition, offset, none, payload, none⟩

/-- The length of the payload in bytes (`len`). -/
def size (m : Message) : Nat := m.payload.length

/-- Whether the payload is empty. -/
def isEmpty (m : Message) : Bool := m.payload.isEmpty

/-- The partition it belongs to. -/
def source (m : Message) : Partition := ⟨m.topic, m.partition⟩

end Message
end Sluice
