import Sluice.Sink
import Sluice.Text.Utf8
/-!
# The output

Groups of records written as lines of JSON to a device. A group counts as delivered when every one
of its lines was written and the device was flushed; whatever part of a group went out before a
failure stays in the output. After a failure the next group is tried; a device that crashes is lost,
and every later group is refused.

A device is any machine that answers writes and flushes, so that what holds of every device holds
however its calls fail and recover. It is offered all that is left of a line; one that gets its lines
in smaller pieces is a device that takes no more than the first piece of what it is offered. The
function that a definition models is named in brackets.
-/
namespace Sluice

/-- The answer to a write. One that was interrupted is made again, and has the answer that it gets in the
end. -/
inductive WriteReply where
  /-- So many of the bytes were taken. -/
  | taken (n : Nat)
  | failed
  /-- The device is gone. -/
  | crashed
  deriving DecidableEq, Repr

/-- The answer to a flush. -/
inductive FlushReply where
  | done
  | failed
  | crashed
  deriving DecidableEq, Repr

/-- What takes the bytes of the output: a writer with its `write` and its `flush`. -/
structure Device (σ : Type) where
  write : σ → List UInt8 → WriteReply × σ
  flush : σ → FlushReply × σ

/-- How writing a group went. -/
inductive Verdict where
  | written
  | failed
  | crashed
  deriving DecidableEq, Repr

/-- An output: the state of its device and what the device has taken. -/
structure Output (σ : Type) where
  state : σ
  bytes : List UInt8
  /-- Whether the device can be used. -/
  alive : Bool

namespace Output
variable {σ : Type}

/-- An output to which nothing has been written. -/
def fresh (state : σ) : Output σ := ⟨state, [], true⟩

/-- Writes bytes until all are taken (`write_all`). A device that takes nothing has failed. -/
def writeAll (d : Device σ) (o : Output σ) (bytes : List UInt8) : Verdict × Output σ :=
  match bytes with
  | [] => (.written, o)
  | b :: rest =>
    match d.write o.state (b :: rest) with
    | (.taken 0, s) => (.failed, { o with state := s })
    | (.taken (n + 1), s) =>
      writeAll d { o with state := s, bytes := o.bytes ++ b :: rest.take n } (rest.drop n)
    | (.failed, s) => (.failed, { o with state := s })
    | (.crashed, s) => (.crashed, { o with state := s })
termination_by bytes.length
decreasing_by simp only [List.length_drop, List.length_cons]; omega

/-- The bytes of the line of a record, without its end. -/
def lineBytes (r : Record) : List UInt8 := Text.Utf8.encode r.line

/-- The end of a line. -/
def newline : UInt8 := 10

/-- Flushes the device. -/
def flush (d : Device σ) (o : Output σ) : Verdict × Output σ :=
  match d.flush o.state with
  | (.done, s) => (.written, { o with state := s })
  | (.failed, s) => (.failed, { o with state := s })
  | (.crashed, s) => (.crashed, { o with state := s })

/-- Writes records as lines and flushes; the first failure ends it (`write_records`). -/
def writeRecords (d : Device σ) (o : Output σ) : List Record → Verdict × Output σ
  | [] => o.flush d
  | r :: rs =>
    match o.writeAll d (lineBytes r) with
    | (.written, o) =>
      match o.writeAll d [newline] with
      | (.written, o) => writeRecords d o rs
      | bad => bad
    | bad => bad

/-- Takes a group: whether it was delivered (`write_batches`, one batch). -/
def take (d : Device σ) (o : Output σ) (b : Batch) : Delivery × Output σ :=
  if !o.alive then (⟨b.id, false⟩, o)
  else
    match o.writeRecords d b.records with
    | (.written, o) => (⟨b.id, true⟩, o)
    | (.failed, o) => (⟨b.id, false⟩, o)
    | (.crashed, o) => (⟨b.id, false⟩, { o with alive := false })

/-- Takes groups one after the other (`write_batches`). -/
def takeAll (d : Device σ) (o : Output σ) : List Batch → List Delivery × Output σ
  | [] => ([], o)
  | b :: bs =>
    let (x, o) := o.take d b
    let (xs, o) := o.takeAll d bs
    (x :: xs, o)

/-- Takes all groups that a sink holds and tells it the results. -/
def serve (d : Device σ) (o : Output σ) (s : Sink) : Sink × Output σ :=
  let (batches, s) := s.receiveAll
  let (results, o) := o.takeAll d batches
  (results.foldl Sink.confirm s, o)

/-- What has been written, as text. -/
def text (o : Output σ) : String := Text.Utf8.decodeLossy o.bytes

end Output

namespace Device

/-- How a scripted device behaves. -/
inductive Mode where
  | good
  /-- Every write fails. -/
  | noWrite
  /-- Every flush fails. -/
  | noFlush
  /-- The device crashes when it is written to. -/
  | crash
  /-- So many bytes are taken, then writes fail. -/
  | limit (n : Nat)
  deriving DecidableEq, Repr

/-- A device that does as its mode says. -/
def scripted : Device Mode where
  write m bytes :=
    match m with
    | .good => (.taken bytes.length, m)
    | .noFlush => (.taken bytes.length, m)
    | .noWrite => (.failed, m)
    | .crash => (.crashed, m)
    | .limit n => if n = 0 then (.failed, m) else (.taken (min n bytes.length), .limit (n - bytes.length))
  flush m :=
    match m with
    | .noFlush => (.failed, m)
    | _ => (.done, m)

end Device
end Sluice
