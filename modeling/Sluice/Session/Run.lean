import Sluice.Schedule
import Sluice.Session
/-!
# One session on its own

A session whose claims are fed from outside, with books that no other session writes in.
-/
namespace Sluice.Session

/-- A session, its books, and the tasks that have been woken. -/
structure Run where
  session : Session
  books : Books
  line : List Task

namespace Run

/-- A fresh session with a window of this capacity. -/
def ofCapacity (n : Nat) : Run := ⟨.ofCapacity n, .empty, []⟩

/-- Wakes a task. -/
def wake (r : Run) (t : Task) : Run := { r with line := Schedule.wake t r.line }

/-- Wakes the confirmer, if it waits for a result. -/
def wakeReader (r : Run) : Run :=
  if r.session.confirmer = .reading then r.wake .confirmer else r

/-- Passes a signal on. -/
def signal (r : Run) : Signal → Run
  | .claim i => r.wake (.claim i)
  | .stream _ => r.wake .confirmer
  | .delivery => r.wakeReader
  | .confirmed => r.wake .cleaner
  | .room _ | .ended _ => r

/-- The next move of a task. -/
def step (rules : Rules) (t : Task) (r : Run) : Option Run :=
  (r.session.step rules 0 t r.books).map fun (s, b, signals) =>
    signals.foldl signal { r with session := s, books := b }

/-- The first of the woken tasks. -/
def next (r : Run) : Option (Task × Run) :=
  match r.line with
  | [] => none
  | t :: rest => some (t, { r with line := rest })

/-- Lets every woken task run. -/
def settle (rules : Rules) (r : Run) : Run := Schedule.settle (step rules) next Schedule.fuel r

/-- Sets the session up (`setup`). -/
def setup (r : Run) : Option RelayError × Run :=
  match r.session.setup with
  | .ok s => (none, { r with session := s, books := r.books.count .session }.wake .confirmer)
  | .error e => (some e, r)

/-- Begins to clean the session up (`cleanup`). -/
def cleanup (r : Run) : Option RelayError × Run :=
  match r.session.drain with
  | .ok s => (none, { r with session := s }.wake .confirmer)
  | .error e => (some e, r)

/-- Tells the session to end. -/
def cancel (r : Run) : Run :=
  if r.session.cancelled then r
  else
    { r with
      session := { r.session with cancelled := true }
      line := Schedule.wakeAll ((List.range r.session.claims.length).map .claim) r.line }

/-- Starts a claim. -/
def start (r : Run) (topic : String) (partition : Int) : Run :=
  { r with session := r.session.start topic partition }.wake (.claim r.session.claims.length)

/-- Changes the queue of a claim that still takes items: whether it does, and the run. -/
def feed (r : Run) (i : Nat) (f : Claim → Claim) : Bool × Run :=
  match r.session.claims[i]? with
  | none => (false, r)
  | some c =>
    if c.accepts then
      let r := { r with session := r.session.modify i f }
      (true, if c.phase = .reading then r.wake (.claim i) else r)
    else (false, r)

/-- Puts an item into the queue of a claim. -/
def push (r : Run) (i : Nat) (item : Item) : Bool × Run := r.feed i fun c => c.push item

/-- Lets no more items into the queue of a claim. -/
def close (r : Run) (i : Nat) : Run := (r.feed i fun c => { c with isOpen := false }).2

/-- Queues a result. -/
def confirm (r : Run) (d : Delivery) : Run :=
  { r with books := { r.books with sink := r.books.sink.confirm d } }.wakeReader

/-- What can be done to a session from outside. -/
inductive Event where
  | setup
  | cleanup
  | cancel
  | start (topic : String) (partition : Int)
  | push (claim : Nat) (item : Item)
  | close (claim : Nat)
  | confirm (d : Delivery)
  | receive
  | closeOutput

/-- One event. -/
def event (r : Run) : Event → Run
  | .setup => r.setup.2
  | .cleanup => r.cleanup.2
  | .cancel => r.cancel
  | .start topic partition => r.start topic partition
  | .push i item => (r.push i item).2
  | .close i => r.close i
  | .confirm d => r.confirm d
  | .receive =>
    match r.books.sink.receive with
    | some (_, sink) => { r with books := { r.books with sink := sink } }
    | none => r
  | .closeOutput => { r with books := { r.books with sink := r.books.sink.closeOutput } }

/-- The runs that a session with a window of capacity `n` can come to, its tasks moving in any
order. -/
inductive Reachable (rules : Rules) (n : Nat) : Run → Prop where
  | start : Reachable rules n (ofCapacity n)
  | event {r : Run} (e : Event) : Reachable rules n r → Reachable rules n (r.event e)
  | move {r q : Run} (t : Task) : Reachable rules n r → r.step rules t = some q →
      Reachable rules n q

/-- Whether no task can move. -/
def Settled (rules : Rules) (r : Run) : Prop := ∀ t, r.step rules t = none

end Run
end Sluice.Session
