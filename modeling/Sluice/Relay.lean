import Sluice.Relay.Supervise
/-!
# The relay

The whole system as one machine. `Relay.step t w` is the next move of task `t`, or `none` when it
has to wait or has ended; `Relay.apply` is what happens from outside. `Relay.Reachable` closes a
start under both, with tasks that move in any order and time that goes on whenever it likes, so that
what holds of every reachable relay holds however its tasks are scheduled. `Relay.Punctual` is for
what takes time: there time stands still while a task can move. `Relay.ByHand` is a broker without a
supervisor.

`Relay.settle` and `Relay.advance` are the order that is observed: first woken, first run, and time
goes from one deadline to the next.
-/
namespace Sluice.Relay

/-- The next move of a task. -/
def step (t : Task) (w : Relay) : Option Relay :=
  match t, w.supervisor with
  | .claim k i, _ => w.stepSession k (.claim i)
  | .confirmer k, _ => w.stepSession k .confirmer
  | .feeder k i, _ => w.stepFeeder k i
  | .straggler k i, _ => w.stepStraggler k i
  | .consume c, _ => if w.loopCall = some c then none else w.stepConsume c
  | .loop, some s => w.stepLoop s
  | .forwarder, some s => w.stepForwarder s
  | .refresher, some s => w.stepRefresher s
  | .caller i, some s => w.stepCaller s i
  | _, none => none

/-- The first of the woken tasks. -/
def next (w : Relay) : Option (Task × Relay) :=
  match w.line with
  | [] => none
  | t :: rest => some (t, { w with line := rest })

/-- Lets every woken task run. -/
def settle (w : Relay) : Relay := Schedule.settle step next Schedule.fuel w

/-- Whether no task can move. -/
def Settled (w : Relay) : Prop := ∀ t, w.step t = none

/-! ## Time -/

/-- Moves the clock, and wakes the tasks whose moment has come. -/
def tickTo (w : Relay) (moment : Nat) : Relay :=
  let w := { w with now := max w.now moment }
  let due := w.timers.filter fun e => e.1 ≤ w.now
  { w with timers := w.timers.filter fun e => w.now < e.1 }.wakeAll (due.map Prod.snd)

/-- The first deadline that is not after a moment. -/
def deadline? (w : Relay) (moment : Nat) : Option Nat :=
  ((w.timers.map Prod.fst).filter (· ≤ moment)).min?

/-- Goes through all deadlines up to a moment, and lets every woken task run at each. -/
def passDeadlines (moment : Nat) : Nat → Relay → Relay
  | 0, w => w
  | fuel + 1, w =>
    match w.deadline? moment with
    | none => w
    | some m => passDeadlines moment fuel (w.tickTo m).settle

/-- Lets time go on to a moment. -/
def advanceTo (w : Relay) (moment : Nat) : Relay :=
  ((passDeadlines moment Schedule.fuel w).tickTo moment).settle

/-- Lets time go on by a number of milliseconds. -/
def advance (w : Relay) (ms : Nat) : Relay := w.settle.advanceTo (w.now + ms)

/-! ## Stored offsets -/

/-- The stored position of a partition (`committed`). -/
def position (w : Relay) (p : Partition) : Option Int := w.books.store.position p

/-- The stored positions of all partitions with a log, in order. -/
def positions (w : Relay) : List (Partition × Int) :=
  let all := w.broker.logs.filterMap fun e => (w.position e.1).map fun n => (e.1, n)
  all.mergeSort fun a b =>
    a.1.topic < b.1.topic || (a.1.topic == b.1.topic && a.1.index ≤ b.1.index)

/-- How often a wait for a position looks, in milliseconds. -/
def watchPeriod : Nat := 5

/-- Looks at a position now and every five milliseconds, until it has been reached or the time is
up. At its moments it looks before any other task runs. -/
def watch (p : Partition) (goal : Int) (limit : Nat) : Nat → Nat → Relay → Bool × Relay
  | 0, _, w => (false, w)
  | fuel + 1, look, w =>
    if goal ≤ (w.position p).getD 0 then (true, w.settle)
    else
      let look := look + watchPeriod
      if look ≤ limit then
        let w := passDeadlines (look - 1) Schedule.fuel w.settle
        watch p goal limit fuel look (w.tickTo look)
      else
        let w := passDeadlines (limit - 1) Schedule.fuel w.settle
        (false, (w.tickTo limit).settle)

/-- Waits until the position of a partition has reached a goal, for at most a number of
milliseconds (`wait_for_committed`). -/
def awaitPosition (w : Relay) (p : Partition) (goal : Int) (ms : Nat) : Bool × Relay :=
  let w := w.settle
  watch p goal (w.now + ms) (ms + 1) w.now w

/-! ## What happens from outside -/

/-- Starts a supervisor: it is held, and its tasks are about to run (`start_with_settings`). -/
def start (w : Relay) (settings : Settings) : Relay :=
  let due := w.now * tick + settings.refreshInterval.nanos
  let s : Supervisor := ⟨settings, [], none, 0, .top, .watching 0 none, .waiting due, true, false⟩
  ({ w with supervisor := some s }.setTimer .refresher (tickOf due)).wakeAll
    [.loop, .forwarder, .refresher]

/-- Adds a caller. -/
def call (w : Relay) (kind : Caller.Kind) : Relay :=
  let c : Caller := ⟨kind, .fresh⟩
  { w with callers := w.callers ++ [c] }.wake (.caller w.callers.length)

/-- Refreshes the topics at once (`refresh_now`). -/
def refreshNow (w : Relay) : Except RelayError Bool × Relay :=
  match w.supervisor with
  | none => (.ok false, w)
  | some s => w.refresh s

/-- Lets go of the supervisor (its `drop`, once no caller has it). -/
def drop (w : Relay) : Relay := (w.modifySupervisor fun s => { s with held := false }).reap

/-- Appends a message to a partition: its offset, and the relay (`produce`). -/
def produce (w : Relay) (p : Partition) (payload : List UInt8) : Nat × Relay :=
  let (n, broker) := w.broker.append p payload
  (n, { w with broker := broker }.wakeParked)

/-- Whether a supervisor was started that nobody has any more and whose tasks have ended. -/
def isGone (w : Relay) : Bool :=
  !w.isHeld && (w.supervisor.map Supervisor.hasEnded).getD false

/-- Tells the newest group of an error: whether it was taken, and the relay (`push_group_error`). The
groups of a supervisor that is gone take no errors. -/
def groupError (w : Relay) (text : String) : Bool × Relay :=
  if w.isGone then (false, w)
  else
    let (taken, broker) := w.broker.groupError text
    (taken, { w with broker := broker }.wake .forwarder)

/-- Queues a delivery result (`SinkHandle.confirm`). -/
def confirm (w : Relay) (d : Delivery) : Relay :=
  { w with books := { w.books with sink := w.books.sink.confirm d } }.wakeReader

/-- Closes the output of the sink. -/
def closeOutput (w : Relay) : Relay :=
  { w with books := { w.books with sink := w.books.sink.closeOutput } }

/-- Begins to serve a session of a group, outside of a supervisor (`consume`). -/
def consume (w : Relay) (group session : Nat) (topics : List String) (token : Nat) : Relay :=
  let (c, w) := w.addCall group session topics token
  w.wake (.consume c)

/-- Scripts failures of the broker (`fail_next_list_topics` and its like, `inject_claim_error`). -/
def script (w : Relay) (f : Faults → Faults) : Relay :=
  { w with broker := { w.broker with faults := f w.broker.faults } }

/-- What can happen to a supervised relay from outside. -/
inductive Event where
  | createTopic (name : String) (partitions : Nat)
  | deleteTopic (name : String)
  | produce (p : Partition) (payload : List UInt8)
  | script (faults : Faults)
  | rebalance
  | groupError (text : String)
  | confirm (d : Delivery)
  | receive
  | closeOutput
  | refresh
  | cancel
  | call (kind : Caller.Kind)
  | abandon (caller : Nat)
  | drop
  /-- Time goes on. -/
  | tick (moment : Nat)

/-- One event. -/
def apply (w : Relay) : Event → Relay
  | .createTopic name n => { w with broker := w.broker.createTopic name n }
  | .deleteTopic name => { w with broker := w.broker.deleteTopic name }
  | .produce p payload => (w.produce p payload).2
  | .script faults => w.script fun _ => faults
  | .rebalance => w.rebalance
  | .groupError text => (w.groupError text).2
  | .confirm d => w.confirm d
  | .receive =>
    match w.books.sink.receive with
    | some (_, sink) => { w with books := { w.books with sink := sink } }
    | none => w
  | .closeOutput => w.closeOutput
  | .refresh => w.refreshNow.2
  | .cancel => w.cancel rootToken
  | .call kind => w.call kind
  | .abandon i => w.abandon i
  | .drop => w.drop
  | .tick moment => w.tickTo moment

/-- The relays that a supervisor with these settings can come to on a broker without history, its
tasks moving in any order. -/
inductive Reachable (settings : Settings) : Relay → Prop where
  | start : Reachable settings (empty.start settings)
  | event {w : Relay} (e : Event) : Reachable settings w → Reachable settings (w.apply e)
  | move {w v : Relay} (t : Task) : Reachable settings w → w.step t = some v →
      Reachable settings v

/-- The relays that a relay comes to by itself when time goes on only while no task can move, and
never past a moment that a task waits for. -/
inductive Punctual (w : Relay) : Relay → Prop where
  | here : Punctual w w
  | move {v u : Relay} (t : Task) : Punctual w v → v.step t = some u → Punctual w u
  | tick {v : Relay} (moment : Nat) : Punctual w v → v.Settled →
      (∀ e ∈ v.timers, moment ≤ e.1) → Punctual w (v.tickTo moment)

/-! ## Without a supervisor -/

/-- What can be done to a broker whose groups, sessions and calls are made by hand. -/
inductive Use where
  | event (e : Event)
  | join
  | leave (group : Nat)
  | session (settings : Settings)
  | consume (group session : Nat) (topics : List String) (token : Nat)
  | cancel (token : Nat)

/-- One use. A session that room cannot be made for is not made. -/
def use (w : Relay) : Use → Relay
  | .event e => w.apply e
  | .join => { w with broker := w.broker.join.2 }
  | .leave group => w.leaveGroup group
  | .session settings =>
    if Pending.fits settings.maxUndelivered then (w.addSession settings).2 else w
  | .consume group session topics token => w.consume group session topics token
  | .cancel token => w.cancel token

/-- The relays that a broker without history can come to by hand, the tasks moving in any order. -/
inductive ByHand : Relay → Prop where
  | start : ByHand empty
  | use {w : Relay} (u : Use) : ByHand w → ByHand (w.use u)
  | move {w v : Relay} (t : Task) : ByHand w → w.step t = some v → ByHand v

end Sluice.Relay
