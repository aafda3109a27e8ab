import Sluice.Relay.Consume
/-!
# Supervision

The three tasks of a supervisor and its callers.

The consume loop joins the first group and then serves one session after another on the present
group, pausing after a failure. The refresher selects the topics again from time to time and
installs a new group when the list has changed. The forwarder shows the errors of the present group
to the operator. Topics, group and generation change together, in `Relay.install` alone.
-/
namespace Sluice

namespace Supervisor

/-- Whether the consume loop has ended. -/
def Loop.hasEnded : Loop → Bool
  | .ended => true
  | .crashed => true
  | _ => false

/-- Whether all three tasks have ended. -/
def hasEnded (s : Supervisor) : Bool :=
  s.loop.hasEnded && s.forwarder == .ended && s.refresher == .ended

end Supervisor

namespace Relay

/-! ## Refreshing -/

/-- Whether the supervisor has been told to end. -/
def isStopped (w : Relay) : Bool := w.isCancelled rootToken

/-- Installs a group that was just joined for a list of topics; the group before it is left
(`refresh`, from `installed` on). -/
def install (w : Relay) (s : Supervisor) (topics : List String) (group : Nat) : Relay :=
  let w := w.modifySupervisor fun s =>
    { s with topics := topics, group := some group, generation := s.generation + 1 }
  let w := (w.wake .forwarder).wakeCallers
  match s.group with
  | none => w
  | some old => { w with books := w.books.count .swap }.leaveGroup old

/-- Selects topics, and joins a group for them if there is none yet or the list has changed: whether
a group was installed (`refresh`). After the end no group is installed. -/
def refresh (w : Relay) (s : Supervisor) : Except RelayError Bool × Relay :=
  let (selected, broker) := w.broker.select s.settings.pattern
  let w := { w with broker := broker }
  match selected with
  | .error e => (.error e, w)
  | .ok topics =>
    if s.group.isSome ∧ s.topics = topics then (.ok false, w)
    else
      let (joined, broker) := w.broker.join
      let w := { w with broker := broker }
      match joined with
      | .error e => (.error e, w)
      | .ok group =>
        if w.isStopped then
          let w := w.leaveGroup group
          (.ok false, { w with broker := w.broker.dropStream group })
        else (.ok true, w.install s topics group)

/-! ## The consume loop -/

/-- The moment at which a pause that begins now is over. -/
def pauseEnd (w : Relay) (length : Duration) : Nat := tickOf (w.now * tick + length.nanos)

/-- Pauses the consume loop (`sleep_or_cancelled`). -/
def pause (w : Relay) (s : Supervisor) : Relay :=
  let moment := w.pauseEnd s.settings.reconnectDelay
  (w.setLoop (.pausing moment)).setTimer .loop moment

/-- Reports a failure of the broker and pauses the consume loop (`report_and_wait`). -/
def retry (w : Relay) (s : Supervisor) (e : RelayError) : Relay :=
  { w with books := w.books.count .consumeError }.report e |>.pause s

/-- Ends the consume loop: the present group is left (`run_consume_loop`, after its loop). -/
def endLoop (w : Relay) (s : Supervisor) : Relay :=
  let w := match s.group with
    | none => w
    | some g => w.leaveGroup g
  ((w.clearTimer .loop).setLoop .ended).wakeCallers

/-- Begins to serve a session on the present group (`run_consume_loop`, from `SessionHandler.new`
to `consume`). -/
def serve (w : Relay) (s : Supervisor) (group : Nat) : Relay :=
  if !Pending.fits s.settings.maxUndelivered then (w.setLoop .crashed).wakeCallers
  else
    let (k, w) := w.addSession s.settings
    let (c, w) := w.addCall group k s.topics rootToken
    w.setLoop (.serving c s.generation)

/-- The next move of the consume loop (`run_consume_loop`). -/
def stepLoop (w : Relay) (s : Supervisor) : Option Relay :=
  match s.loop with
  | .top =>
    if w.isStopped then some (w.endLoop s)
    else
      match s.group with
      | none =>
        match w.refresh s with
        | (.ok _, w) => some w
        | (.error e, w) => some (w.retry s e)
      | some g => if s.topics.isEmpty then some (w.pause s) else some (w.serve s g)
  | .pausing moment =>
    if w.isStopped then some (w.endLoop s)
    else if moment ≤ w.now then some ((w.clearTimer .loop).setLoop .top)
    else none
  | .serving c generation =>
    match w.calls[c]?.map ConsumeCall.phase with
    | some (.ended none) => some (w.setLoop .top)
    | some (.ended (some e)) =>
      if s.generation ≠ generation then some (w.setLoop .top)
      else if w.isStopped then some (w.endLoop s)
      else some (w.retry s e)
    | _ => w.stepConsume c
  | .ended | .crashed => none

/-! ## The forwarder and the refresher -/

/-- Ends the forwarder (`run_error_forwarder` returns). -/
def endForwarder (w : Relay) (reading : Option Nat) : Relay :=
  let w := match reading with
    | none => w
    | some g => { w with broker := w.broker.dropStream g }
  (w.modifySupervisor fun s => { s with forwarder := .ended }).wakeCallers

/-- Turns the forwarder to the present group (`run_error_forwarder`, its outer loop). What the stream
before it still held is lost. -/
def follow (w : Relay) (s : Supervisor) (reading : Option Nat) : Relay :=
  let (there, broker) := match s.group with
    | none => (false, w.broker)
    | some g => w.broker.takeStream g
  let broker := match reading with
    | none => broker
    | some g => broker.dropStream g
  { w with broker := broker }.modifySupervisor fun s =>
    { s with forwarder := .watching s.generation (if there then s.group else none) }

/-- The next move of the forwarder (`run_error_forwarder`): a change of the membership comes before
errors. -/
def stepForwarder (w : Relay) (s : Supervisor) : Option Relay :=
  match s.forwarder with
  | .ended => none
  | .watching seen reading =>
    if w.isStopped then some (w.endForwarder reading)
    else if s.generation ≠ seen then some (w.follow s reading)
    else
      match reading with
      | none => none
      | some g =>
        match (w.broker.groups[g]?.map Group.errors).getD [] with
        | [] => none
        | e :: rest =>
          some ({ w with broker := w.broker.modifyGroup g fun x => { x with errors := rest } }.report
            e)

/-- The next move of the refresher (`run_refresh_loop`). A moment that was missed by more than five
milliseconds is not made up for. -/
def stepRefresher (w : Relay) (s : Supervisor) : Option Relay :=
  match s.refresher with
  | .ended => none
  | .waiting due =>
    if w.isStopped then
      some (((w.clearTimer .refresher).modifySupervisor fun s =>
        { s with refresher := .ended }).wakeCallers)
    else if tickOf due ≤ w.now then
      let period := s.settings.refreshInterval.nanos
      let late := due + 5 * tick < w.now * tick
      let due := if late then w.now * tick + period else due + period
      let w := w.clearTimer .refresher
      let w := match w.refresh s with
        | (.ok _, w) => w
        | (.error e, w) => w.report e
      some ((w.modifySupervisor fun s => { s with refresher := .waiting due }).setTimer .refresher
        (tickOf due))
    else none

/-! ## Callers -/

/-- Whether somebody still has the supervisor: whoever started it, or a caller that waits. -/
def isHeld (w : Relay) : Bool :=
  (w.supervisor.map Supervisor.held).getD false ||
    w.callers.any fun c => !c.hasEnded

/-- Cancels the supervisor's token once nobody has the supervisor any more (`Supervisor`'s `drop`). -/
def reap (w : Relay) : Relay :=
  if w.supervisor.isSome && !w.isHeld then w.cancel rootToken else w

/-- Answers a caller. -/
def answer (w : Relay) (i : Nat) (value : Bool) : Relay := (w.setCaller i (.done value)).reap

/-- Drops a caller that has no answer yet. What it has begun goes on without it. -/
def abandon (w : Relay) (i : Nat) : Relay :=
  match w.callers[i]? with
  | none => w
  | some c => if c.hasEnded then w else (w.setCaller i .abandoned).reap

/-- Takes over to wait for the tasks (`wait`). If somebody else has done so, there is nothing to wait
for. -/
def takeOver (w : Relay) (s : Supervisor) (i : Nat) : Relay :=
  if s.awaited then w.answer i true
  else (w.modifySupervisor fun s => { s with awaited := true }).setCaller i .waiting

/-- The next move of a caller (`wait_connected`, `wait`, `shutdown`). -/
def stepCaller (w : Relay) (s : Supervisor) (i : Nat) : Option Relay :=
  match w.callers[i]? with
  | none => none
  | some ⟨_, .done _⟩ => none
  | some ⟨_, .abandoned⟩ => none
  | some ⟨.connected, p⟩ =>
    if w.isStopped then some (w.answer i false)
    else if s.generation > 0 then some (w.answer i true)
    else if p = .waiting then none
    else some (w.setCaller i .waiting)
  | some ⟨.finished, .fresh⟩ => some (w.takeOver s i)
  | some ⟨.shutdown, .fresh⟩ => some ((w.cancel rootToken).takeOver s i)
  | some ⟨_, .waiting⟩ => if s.hasEnded then some (w.answer i true) else none

end Relay
end Sluice
