import Sluice.Error
import Sluice.Queue
import Sluice.Record
import Sluice.Schedule
import Sluice.Window
/-!
# The sink

Where record groups go. A group is numbered as it is submitted and queued for the output; the
output answers with a delivery event for that number. An empty group is delivered at once; once the
output is closed every other group is undelivered at once. Delivery events form one stream, which
one reader at a time may read; readers that want it wait in line. The function that a definition
models is named in brackets.
-/
namespace Sluice

/-- A group of records on its way to the output (`TrackedBatch`). -/
structure Batch where
  id : Nat
  records : List Record

/-- The result for a group (`DeliveryEvent`). -/
structure Delivery where
  id : Nat
  delivered : Bool
  deriving DecidableEq, Repr

/-- An error shown to the operator (`ReportedError`). -/
structure Report where
  message : String
  severity : Severity
  deriving DecidableEq, Repr

/-- The queues of a sink (`ChannelSink` and its `SinkHandle`). -/
structure Sink where
  /-- The number that the next group gets. -/
  nextId : Nat
  /-- Groups for the output. -/
  batches : Queue Batch
  /-- Whether the output still takes groups. -/
  outputOpen : Bool
  /-- The results. -/
  deliveries : Queue Delivery
  /-- The errors. -/
  errors : Queue Report
  /-- The right to read the stream of results. -/
  stream : Window

namespace Sink

/-- A new sink (`ChannelSink.new`). Numbers start from one. -/
def empty : Sink := ⟨1, .empty, true, .empty, .empty, Window.ofCapacity 1⟩

/-- Queues a result (`SinkHandle.confirm`, `Acknowledger.confirm`). -/
def confirm (s : Sink) (d : Delivery) : Sink := { s with deliveries := s.deliveries.push d }

/-- Submits a group: its number, and whether a result was queued at once (`submit_tracked`). -/
def submit (s : Sink) (records : List Record) : Nat × Bool × Sink :=
  let id := s.nextId
  let s := { s with nextId := id + 1 }
  if records.isEmpty then (id, true, s.confirm ⟨id, true⟩)
  else if s.outputOpen then (id, false, { s with batches := s.batches.push ⟨id, records⟩ })
  else (id, true, s.confirm ⟨id, false⟩)

/-- Receives the next group (`recv` on the handle's batches). -/
def receive (s : Sink) : Option (Batch × Sink) :=
  s.batches.pop?.map fun (b, q) => (b, { s with batches := q })

/-- Receives all groups. -/
def receiveAll (s : Sink) : List Batch × Sink :=
  let (bs, q) := s.batches.drain
  (bs, { s with batches := q })

/-- Reads the next result (`next_delivery`, with the stream in hand). -/
def nextDelivery (s : Sink) : Option (Delivery × Sink) :=
  s.deliveries.pop?.map fun (d, q) => (d, { s with deliveries := q })

/-- Reads the next result without waiting, unless somebody else reads the stream
(`try_next_delivery`). -/
def tryNext (s : Sink) : Option (Delivery × Sink) :=
  if s.stream.free = 0 then none else s.nextDelivery

/-- Shows an error to the operator (`report_error`). -/
def report (s : Sink) (e : RelayError) : Sink :=
  { s with errors := s.errors.push ⟨e.message, e.severity⟩ }

/-- Fetches all errors (`drain_errors`). -/
def drainErrors (s : Sink) : List Report × Sink :=
  let (es, q) := s.errors.drain
  (es, { s with errors := q })

/-- Closes the output for further groups: the receiver of the handle's batches is gone. -/
def closeOutput (s : Sink) : Sink := { s with outputOpen := false }

end Sink

/-- How a reader of the stream of results stands: a call of `next_delivery`. -/
inductive Reader where
  /-- It has not run yet. -/
  | fresh
  /-- It stands in line for the stream. -/
  | queued
  /-- It has the stream and waits for a result. -/
  | reading
  /-- It has ended with a result. -/
  | got (d : Delivery)
  /-- It was dropped while it waited. -/
  | abandoned
  deriving DecidableEq, Repr

/-- A sink with readers of its stream. -/
structure Outlet where
  sink : Sink
  readers : List Reader
  /-- The readers that have been woken. -/
  line : List Nat

namespace Outlet

/-- A new sink without readers. -/
def empty : Outlet := ⟨.empty, [], []⟩

/-- Wakes a reader. -/
def wake (o : Outlet) (who : Option Nat) : Outlet :=
  match who with
  | none => o
  | some i => { o with line := Schedule.wake i o.line }

/-- Sets the state of a reader. -/
def setReader (o : Outlet) (i : Nat) (r : Reader) : Outlet := { o with readers := o.readers.set i r }

/-- Wakes the reader that has the stream. -/
def wakeHolder (o : Outlet) : Outlet := o.wake (o.readers.findIdx? (· == .reading))

/-- Goes on with the stream in hand: takes a result and passes the stream on, or waits. -/
def read (o : Outlet) (i : Nat) : Outlet :=
  match o.sink.nextDelivery with
  | none => o.setReader i .reading
  | some (d, s) =>
    let (who, w) := s.stream.release
    ({ o with sink := { s with stream := w } }.setReader i (.got d)).wake who

/-- The next move of a reader (`next_delivery`). -/
def step (i : Nat) (o : Outlet) : Option Outlet :=
  match o.readers[i]? with
  | some .fresh =>
    match o.sink.stream.acquire i with
    | (true, w) => some ({ o with sink := { o.sink with stream := w } }.read i)
    | (false, w) => some ({ o with sink := { o.sink with stream := w } }.setReader i .queued)
  | some .queued =>
    (o.sink.stream.take i).map fun w => { o with sink := { o.sink with stream := w } }.read i
  | some .reading => if o.sink.deliveries.backlog = 0 then none else some (o.read i)
  | _ => none

/-- The first of the woken readers. -/
def next (o : Outlet) : Option (Nat × Outlet) :=
  match o.line with
  | [] => none
  | i :: rest => some (i, { o with line := rest })

/-- Lets every woken reader run. -/
def settle (o : Outlet) : Outlet := Schedule.settle step next Schedule.fuel o

/-- Submits a group (`submit_tracked`). -/
def submit (o : Outlet) (records : List Record) : Nat × Outlet :=
  let (id, queued, s) := o.sink.submit records
  let o := { o with sink := s }
  (id, if queued then o.wakeHolder else o)

/-- Queues a result (`SinkHandle.confirm`). -/
def confirm (o : Outlet) (d : Delivery) : Outlet := { o with sink := o.sink.confirm d }.wakeHolder

/-- Starts a reader. -/
def start (o : Outlet) : Outlet :=
  { o with readers := o.readers ++ [.fresh], line := Schedule.wake o.readers.length o.line }

/-- Drops a reader that has not ended. No result is lost: a reader takes one only as it ends. -/
def abandon (o : Outlet) (i : Nat) : Outlet :=
  match o.readers[i]? with
  | some .fresh => o.setReader i .abandoned
  | some .queued =>
    let (who, w) := o.sink.stream.leave i
    ({ o with sink := { o.sink with stream := w } }.setReader i .abandoned).wake who
  | some .reading =>
    let (who, w) := o.sink.stream.release
    ({ o with sink := { o.sink with stream := w } }.setReader i .abandoned).wake who
  | _ => o

/-- What can be done to a sink from outside. -/
inductive Event where
  | submit (records : List Record)
  | receive
  | confirm (d : Delivery)
  | tryNext
  | start
  | abandon (reader : Nat)
  | closeOutput

/-- One event. -/
def apply (o : Outlet) : Event → Outlet
  | .submit rs => (o.submit rs).2
  | .receive => match o.sink.receive with | some (_, s) => { o with sink := s } | none => o
  | .confirm d => o.confirm d
  | .tryNext => match o.sink.tryNext with | some (_, s) => { o with sink := s } | none => o
  | .start => o.start
  | .abandon i => o.abandon i
  | .closeOutput => { o with sink := o.sink.closeOutput }

end Outlet
end Sluice
