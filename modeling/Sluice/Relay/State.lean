import Sluice.Broker
import Sluice.Schedule
import Sluice.Session
/-!
# The state of a relay

Everything that runs against one broker: sessions with the feeders that fill their queues, the calls
that host them, and the supervisor with its three tasks. Times are milliseconds from the start, and
only `Relay.now` moves them.

What may go on is told by the state alone. The line of woken tasks is kept for the order of moves.
The function that a definition models is named in brackets.
-/
namespace Sluice

/-- What the feeder of a claim does (`feed_claim`). -/
inductive Feeder.Phase where
  /-- It has not looked up where to begin. -/
  | fresh
  | feeding
  /-- The queue is full. -/
  | blocked
  /-- The log has nothing more. -/
  | parked
  | ended
  deriving DecidableEq, Repr

/-- The broker's side of a claim: it copies the log of a partition into the claim's queue
(`feed_claim`). -/
structure Feeder where
  source : Partition
  /-- The offset it began with. -/
  first : Nat
  /-- The offset of the next message. -/
  next : Nat
  phase : Feeder.Phase
  deriving DecidableEq, Repr

/-- A session and what the broker does for it. The feeders go with the claims, one each. -/
structure Hosted where
  rules : Rules
  session : Session
  feeders : List Feeder
  /-- The claims that have ended and that the host has not looked at, in the order they ended. -/
  ended : List Nat
  /-- The token that ends the session from outside. -/
  token : Nat
  /-- The call that hosts the session. -/
  host : Option Nat

/-- How far a consume call has come (`consume`). -/
inductive ConsumeCall.Phase where
  | fresh
  /-- The session is served. -/
  | serving
  /-- The session has been told to end; its feeders and claims are waited for. -/
  | leaving (failure : Option RelayError)
  /-- The session is being cleaned up. -/
  | cleaning (failure : Option RelayError)
  | ended (failure : Option RelayError)
  deriving DecidableEq, Repr

/-- A call that serves one session of a group (`consume`). -/
structure ConsumeCall where
  group : Nat
  session : Nat
  topics : List String
  token : Nat
  phase : ConsumeCall.Phase
  deriving DecidableEq, Repr

namespace Supervisor

/-- What the consume loop does (`run_consume_loop`). -/
inductive Loop where
  /-- It looks at the membership. -/
  | top
  /-- It pauses until a moment. -/
  | pausing (moment : Nat)
  /-- It serves a session by a call, on the group of a generation. -/
  | serving (call generation : Nat)
  | ended
  /-- It could not make room for the messages of a session. -/
  | crashed
  deriving DecidableEq, Repr

/-- What the task that passes on group errors does (`run_error_forwarder`). -/
inductive Forwarder where
  /-- It has seen the membership of a generation, and reads the errors of a group. -/
  | watching (seen : Nat) (reading : Option Nat)
  | ended
  deriving DecidableEq, Repr

/-- What the task that refreshes topics does (`run_refresh_loop`). -/
inductive Refresher where
  /-- It waits for a moment, in nanoseconds. -/
  | waiting (due : Nat)
  | ended
  deriving DecidableEq, Repr

end Supervisor

/-- The supervisor of one relay (`Supervisor`, with its `Membership`). -/
structure Supervisor where
  settings : Settings
  /-- The topics of the present group. -/
  topics : List String
  group : Option Nat
  /-- How many groups have been installed. -/
  generation : Nat
  loop : Supervisor.Loop
  forwarder : Supervisor.Forwarder
  refresher : Supervisor.Refresher
  /-- Whether whoever started it still has it. -/
  held : Bool
  /-- Whether somebody has taken over to wait for the tasks. -/
  awaited : Bool

/-- What a caller of the supervisor waits for. -/
inductive Caller.Kind where
  /-- The first group (`wait_connected`). -/
  | connected
  /-- The end of all tasks (`wait`). -/
  | finished
  /-- The end of all tasks, which the caller brings about (`shutdown`). -/
  | shutdown
  deriving DecidableEq, Repr

/-- How a caller stands. -/
inductive Caller.Phase where
  | fresh
  | waiting
  | done (answer : Bool)
  /-- It was dropped before it had an answer. -/
  | abandoned
  deriving DecidableEq, Repr

/-- A caller of the supervisor. -/
structure Caller where
  kind : Caller.Kind
  phase : Caller.Phase
  deriving DecidableEq, Repr

/-- Whether a caller has its answer or was dropped. -/
def Caller.hasEnded (c : Caller) : Bool := c.phase matches .done _ | .abandoned

namespace Relay

/-- A task. Sessions, claims, calls and callers are numbered from nought. A feeder that has been told
to end may still move as a straggler. -/
inductive Task where
  | claim (session claim : Nat)
  | feeder (session claim : Nat)
  | straggler (session claim : Nat)
  | confirmer (session : Nat)
  | consume (call : Nat)
  | loop
  | forwarder
  | refresher
  | caller (i : Nat)
  deriving DecidableEq, Repr

end Relay

/-- A relay with its broker. -/
structure Relay where
  books : Books
  broker : Broker
  sessions : List Hosted
  calls : List ConsumeCall
  /-- The calls whose session tokens the broker keeps, in the order they set their sessions up. A
  rebalance cancels these tokens. -/
  listed : List Nat
  /-- The tokens that have been cancelled. -/
  cancelled : List Nat
  supervisor : Option Supervisor
  callers : List Caller
  /-- The time in milliseconds. -/
  now : Nat
  /-- The tasks that wait for a moment, in the order they began to wait. -/
  timers : List (Nat × Relay.Task)
  /-- The tasks that have been woken. -/
  line : List Relay.Task

namespace Relay

/-- A relay where nothing runs. -/
def empty : Relay := ⟨.empty, .empty, [], [], [], [], none, [], 0, [], []⟩

/-- The token of the supervisor. -/
def rootToken : Nat := 0

/-- Whether a token has been cancelled. -/
def isCancelled (w : Relay) (token : Nat) : Bool := w.cancelled.contains token

/-! ## Changing one part -/

/-- Changes a session. -/
def modifyHosted (w : Relay) (k : Nat) (f : Hosted → Hosted) : Relay :=
  { w with sessions := w.sessions.modify k f }

/-- Changes a feeder. -/
def modifyFeeder (w : Relay) (k i : Nat) (f : Feeder → Feeder) : Relay :=
  w.modifyHosted k fun h => { h with feeders := h.feeders.modify i f }

/-- Changes a claim. -/
def modifyClaim (w : Relay) (k i : Nat) (f : Claim → Claim) : Relay :=
  w.modifyHosted k fun h => { h with session := h.session.modify i f }

/-- Sets how far a call has come. -/
def setCall (w : Relay) (c : Nat) (p : ConsumeCall.Phase) : Relay :=
  { w with calls := w.calls.modify c fun x => { x with phase := p } }

/-- Changes the supervisor. -/
def modifySupervisor (w : Relay) (f : Supervisor → Supervisor) : Relay :=
  { w with supervisor := w.supervisor.map f }

/-- Sets what the consume loop does. -/
def setLoop (w : Relay) (p : Supervisor.Loop) : Relay :=
  w.modifySupervisor fun s => { s with loop := p }

/-- Sets how a caller stands. -/
def setCaller (w : Relay) (i : Nat) (p : Caller.Phase) : Relay :=
  { w with callers := w.callers.modify i fun c => { c with phase := p } }

/-- Shows an error to the operator (`report_error`). -/
def report (w : Relay) (e : RelayError) : Relay := { w with books := w.books.report e }

/-! ## Waking tasks -/

/-- Wakes a task. -/
def wake (w : Relay) (t : Task) : Relay := { w with line := Schedule.wake t w.line }

/-- Wakes tasks, in order. -/
def wakeAll (w : Relay) (ts : List Task) : Relay := { w with line := Schedule.wakeAll ts w.line }

/-- The call that the consume loop runs. -/
def loopCall (w : Relay) : Option Nat :=
  match w.supervisor.map Supervisor.loop with
  | some (.serving c _) => some c
  | _ => none

/-- Wakes whoever runs a call: the consume loop, or a task of its own. -/
def wakeCall (w : Relay) (c : Nat) : Relay :=
  if w.loopCall = some c then w.wake .loop else w.wake (.consume c)

/-- Wakes the host of a session. -/
def wakeHost (w : Relay) (k : Nat) : Relay :=
  match w.sessions[k]?.bind Hosted.host with
  | none => w
  | some c => w.wakeCall c

/-- Wakes a claim, if it waits for an item. -/
def wakeClaim (w : Relay) (k i : Nat) : Relay :=
  match w.sessions[k]?.bind fun h => h.session.claims[i]? with
  | some ⟨_, _, _, _, .reading⟩ => w.wake (.claim k i)
  | _ => w

/-- Wakes a feeder, if it waits for room in the queue. -/
def wakeFeeder (w : Relay) (k i : Nat) : Relay :=
  match w.sessions[k]?.bind fun h => h.feeders[i]? with
  | some ⟨_, _, _, .blocked⟩ => w.wake (.feeder k i)
  | _ => w

/-- Wakes the confirmer that waits for a result. -/
def wakeReader (w : Relay) : Relay :=
  match w.sessions.findIdx? fun h => h.session.confirmer == .reading with
  | none => w
  | some k => w.wake (.confirmer k)

/-- Wakes the feeders that wait for new messages. -/
def wakeParked (w : Relay) : Relay :=
  w.wakeAll (w.sessions.zipIdx.flatMap fun (h, k) =>
    (h.feeders.zipIdx.filter fun (f, _) => f.phase == .parked).map fun (_, i) => .feeder k i)

/-- Wakes the callers that wait for something. -/
def wakeCallers (w : Relay) : Relay :=
  w.wakeAll ((w.callers.zipIdx.filter fun (c, _) => c.phase == .waiting).map fun (_, i) => .caller i)

/-- Passes on a signal from session `k`. -/
def signal (k : Nat) (w : Relay) : Session.Signal → Relay
  | .claim i => w.wake (.claim k i)
  | .stream j => w.wake (.confirmer j)
  | .delivery => w.wakeReader
  | .room i => w.wakeFeeder k i
  | .ended i =>
    ((w.modifyHosted k fun h => { h with ended := h.ended ++ [i] }).wakeFeeder k i).wakeHost k
  | .confirmed => w.wakeHost k

/-! ## Time -/

/-- Lets a task wait for a moment. -/
def setTimer (w : Relay) (t : Task) (moment : Nat) : Relay :=
  { w with timers := w.timers ++ [(moment, t)] }

/-- Lets a task wait no longer. -/
def clearTimer (w : Relay) (t : Task) : Relay :=
  { w with timers := w.timers.filter fun e => e.2 ≠ t }

/-- Nanoseconds in a millisecond. -/
def tick : Nat := 1000000

/-- The first whole millisecond that is not before a moment in nanoseconds. -/
def tickOf (nanos : Nat) : Nat := (nanos + (tick - 1)) / tick

end Relay
end Sluice
