import Sluice.Output
/-!
# Serving a sink

The task that takes the groups of a sink, writes them, and sends their results (`write_batches`). It
also hears the errors that are shown; of what waits on the two queues either may be taken first.
While a group is written the task takes nothing. When nobody holds the sink any longer, each queue
ends behind what still waits on it: after the last error the task hears no more, and after the last
group it ends.
-/
namespace Sluice

/-- A sink and the task that serves it. -/
structure Service (σ : Type) where
  sink : Sink
  /-- Whether somebody holds the sink. Once it was dropped nobody can hold it again. -/
  held : Bool
  output : Output σ
  /-- The group that is being written. -/
  current : Option Batch
  /-- Whether more errors may come. -/
  hearing : Bool
  ended : Bool

namespace Service
variable {σ : Type}

/-- A new sink, and its task before it has run. -/
def fresh (state : σ) : Service σ := ⟨.empty, true, .fresh state, none, true, false⟩

/-- What is done to a sink by those who hold it. -/
inductive Event where
  | submit (records : List Record)
  | report (e : RelayError)
  /-- The next result is read. -/
  | read
  /-- The last one who held the sink drops it. -/
  | drop

/-- One event. -/
def apply (x : Service σ) : Event → Service σ
  | .submit rs => { x with sink := (x.sink.submit rs).2.2 }
  | .report e => { x with sink := x.sink.report e }
  | .read => match x.sink.nextDelivery with | some (_, s) => { x with sink := s } | none => x
  | .drop => { x with held := false }

/-- What the task may turn to. -/
inductive Turn where
  /-- The group at hand. -/
  | write
  /-- The queue of groups. -/
  | groups
  /-- The queue of errors. -/
  | errors
  deriving DecidableEq, Repr

/-- Whether the task waits for what comes on its queues. -/
def idle (x : Service σ) : Bool := !x.ended && x.current.isNone

/-- A move of the task, if there is something to do for it (`write_batches`: one arm of its choice, or
the end of a write). -/
def step (d : Device σ) (x : Service σ) : Turn → Option (Service σ)
  | .write => x.current.map fun b =>
    let (result, o) := x.output.take d b
    { x with sink := x.sink.confirm result, output := o, current := none }
  | .groups =>
    if !x.idle then none
    else
      match x.sink.receive with
      | some (b, s) => some { x with sink := s, current := some b }
      | none => if x.held then none else some { x with ended := true }
  | .errors =>
    if !x.idle || !x.hearing then none
    else
      match x.sink.errors.pop? with
      | some (_, q) => some { x with sink := { x.sink with errors := q } }
      | none => if x.held then none else some { x with hearing := false }

end Service
end Sluice
